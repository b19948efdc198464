import Stencil.Proofs.CoupledExpr

/-! Coupled runs write the same text. -/
namespace Stencil.Render.Coupling

open Value (hereditary_clean)

variable {c : Coupling} {k k' : Calls} {t : Template}

lemma agree_printValue {v : Value} (hv : c.policy.Clean v) :
    c.Agree c.policy.Text (printValue v) (printValue v) := by
  refine Lockstep.bind Lockstep.get fun s s' h => ?_
  rw [← h.autoescape]
  exact Agree.pure (c.policy.text_printed h.mode hv)

lemma agree_evalPath (hk : c.Calling k k') (ht : t.Within c.policy.admits) {path : Expr}
    (hpath : c.policy.Covers path.parts) (pos : Position) :
    c.Agree (fun _ => True) (evalPath c.env k t path pos) (evalPath c.env' k' t path pos) := by
  unfold evalPath
  refine Agree.bind (agree_eval hk ht pos path hpath) fun v _ => ?_
  cases v.text? with
  | none => exact agree_fail trivial
  | some s => exact Agree.pure trivial

/-! ### Other templates -/

/-- Both engines find the same template, or fail alike. -/
lemma lockstep_fetch (path : String) :
    c.Lockstep
      (fun r r' => (∃ e, r = .error e ∧ r' = .error e) ∨
        ∃ l l', r = .ok l ∧ r' = .ok l' ∧ l.template = l'.template ∧
          l.template.Within c.policy.admits)
      (liftM (c.env.engine.fetch path)) (liftM (c.env'.engine.fetch path)) := by
  intro s s' σ σ' hs hσ
  have hfetch := c.fetch path hσ
  change c.Ends _ s (.ok ((c.env.engine.fetch path σ).1, s), (c.env.engine.fetch path σ).2)
    (.ok ((c.env'.engine.fetch path σ').1, s'), (c.env'.engine.fetch path σ').2)
  generalize c.env.engine.fetch path σ = r, c.env'.engine.fetch path σ' = r' at hfetch
  cases hfetch with
  | ok htemplate hwithin hτ =>
    exact .ok (.inr ⟨_, _, rfl, rfl, htemplate, hwithin⟩) hs (Nat.le_refl _) hτ
  | error hτ => exact .ok (.inl ⟨_, rfl, rfl⟩) hs (Nat.le_refl _) hτ

lemma agree_enter (path : String) (pos : Position) :
    c.Agree (Template.Within c.policy.admits) (enter c.env path pos) (enter c.env' path pos) := by
  unfold enter
  refine Lockstep.bind Lockstep.get fun s s' h => ?_
  rw [← h.active, ← c.maxDepth]
  refine Lockstep.guard trivial (Lockstep.guard trivial ?_)
  refine Lockstep.bind (lockstep_fetch path) fun r r' hr => ?_
  rcases hr with ⟨e, rfl, rfl⟩ | ⟨l, l', rfl, rfl, htemplate, hwithin⟩
  · cases e with
    | load e | source e => exact agree_fail trivial
  · refine Agree.bind (Lockstep.update ?_ fun _ => Nat.le_refl _) fun _ _ => ?_
    · intro u u' h
      exact { h with active := rfl }
    rw [← htemplate]
    exact Agree.pure hwithin

lemma agree_leave : c.Agree (fun _ => True) leave leave := by
  refine Lockstep.update ?_ fun _ => Nat.le_refl _
  intro s s' h
  exact { h with active := congrArg List.tail h.active }

lemma agree_includeTemplate (hk : c.Calling k k') (ht : t.Within c.policy.admits) {path : Expr}
    (hpath : c.policy.Covers path.parts) (pos : Position) :
    c.Agree c.policy.Text (includeTemplate c.env k t path pos)
      (includeTemplate c.env' k' t path pos) := by
  unfold includeTemplate
  refine Agree.bind (agree_evalPath hk ht hpath pos) fun path _ => ?_
  refine Agree.bind (agree_enter path pos) fun included hincluded => ?_
  refine Lockstep.bind Lockstep.get fun s s' h => ?_
  refine Agree.bind (Lockstep.update ?_ fun _ => Nat.le_refl _) fun _ _ => ?_
  · intro u u' hu
    exact { hu with overrides := rfl, owners := List.forall_mem_nil _ }
  refine Lockstep.bind lockstep_here fun l l' hl => ?_
  -- Whatever the included template imports or overrides is undone with what was saved.
  refine Agree.bind ((hk.render hincluded).inScope hl) fun output ho => ?_
  refine Agree.bind (Lockstep.update ?_ fun _ => Nat.le_refl _) fun _ _ => ?_
  · intro u u' hu
    exact { hu with
      imports := h.imports, modules := h.modules, overrides := h.overrides, owners := h.owners }
  exact Agree.bind agree_leave fun _ _ => Agree.pure ho

lemma agree_importTemplate (hk : c.Calling k k') (ht : t.Within c.policy.admits) {path : Expr}
    (hpath : c.policy.Covers path.parts) (asName : String) (pos : Position) :
    c.Agree (fun _ => True) (importTemplate k t path asName pos)
      (importTemplate k' t path asName pos) := by
  refine Agree.bind (hk.load pos ht hpath) fun m hm => ?_
  refine Lockstep.update ?_ fun _ => Nat.le_refl _
  intro s s' h
  exact { h with
    imports := congrArg (Dict.insert asName m) h.imports
    modules := Dict.forall_mem_insert hm h.modules }

lemma agree_placeBlock (hk : c.Calling k k') (ht : t.Within c.policy.admits) (name : String) :
    c.Agree (fun r => c.policy.Text r.2) (placeBlock k t name) (placeBlock k' t name) := by
  refine Lockstep.bind Lockstep.get fun s s' h => ?_
  rw [← h.overrides]
  have howner : ((Dict.get? s.overrides name).getD t).Within c.policy.admits := by
    cases ho : Dict.get? s.overrides name with
    | none => exact ht
    | some owner => exact h.owners _ (Dict.mem_of_get? ho)
  cases hb : Dict.get? ((Dict.get? s.overrides name).getD t).blocks name with
  | none =>
    simp only [hb]
    exact Agree.pure c.policy.text_empty
  | some body =>
    simp only [hb]
    exact hk.exec howner (howner.block hb)

/-! ### Instructions -/

lemma agree_evalBindings (hk : c.Calling k k') (ht : t.Within c.policy.admits) (pos : Position)
    {bindings : List (String × Expr)}
    (hb : c.policy.Covers (bindings.flatMap fun b => b.2.parts)) :
    c.Agree (fun vars => ∀ e ∈ vars, c.policy.Clean e.2) (evalBindings c.env k t pos bindings)
      (evalBindings c.env' k' t pos bindings) := by
  induction bindings with
  | nil => exact Agree.pure (List.forall_mem_nil _)
  | cons b more ih =>
    rw [List.flatMap_cons, Policy.covers_append] at hb
    refine Agree.bind (agree_eval hk ht pos b.2 hb.1) fun v hv => ?_
    refine Agree.bind (ih hb.2) fun vars hvars => ?_
    exact Agree.pure (List.forall_mem_cons.mpr ⟨hv, hvars⟩)

lemma agree_applyFilters (hk : c.Calling k k') (ht : t.Within c.policy.admits) (pos : Position)
    {filters : List FilterCall} (hf : c.policy.Covers (filters.flatMap FilterCall.parts))
    {v : Value} (hv : c.policy.Clean v) :
    c.Agree c.policy.Clean (applyFilters c.env k t pos filters v)
      (applyFilters c.env' k' t pos filters v) := by
  induction filters generalizing v with
  | nil => exact Agree.pure hv
  | cons f more ih =>
    rw [List.flatMap_cons, FilterCall.parts, List.cons_append, Policy.covers_cons,
      Policy.covers_append] at hf
    refine Agree.bind (agree_evalAll hk ht pos f.args hf.2.1) fun args hargs => ?_
    refine Agree.bind (agree_applyFilter pos hf.1 hv hargs) fun w hw => ?_
    exact ih hf.2.2 hw

lemma agree_callCallee (hk : c.Calling k k') (ht : t.Within c.policy.admits) {callee : Callee}
    (hcallee : c.policy.Covers callee.parts) {args : List Expr}
    (hargs : c.policy.Covers (Expr.partsAll args)) {caller caller' : Caller}
    (hcaller : c.Callers caller caller') (pos : Position) :
    c.Agree c.policy.Clean (callCallee c.env k t callee args caller pos)
      (callCallee c.env' k' t callee args caller' pos) := by
  cases callee with
  | name name =>
    refine Agree.bind (agree_evalAll hk ht pos args hargs) fun vs hvs => ?_
    exact agree_callName hk ht name hvs (.some hcaller) pos
  | member base member =>
    refine Agree.bind (agree_aliased base) fun module hmodule => ?_
    exact agree_callMember hk hmodule (agree_eval hk ht pos base hcallee) member
      (agree_evalAll hk ht pos args hargs) args.length (.some hcaller) pos

/-- Each round of a loop runs in a scope of its own. -/
lemma agree_loop {body body' : RenderM (Flow × String)}
    (hbody : c.Agree (fun r => c.policy.Text r.2) body body') (binding : Binding) (pos : Position)
    (length i : Nat) {output : String} (ho : c.policy.Text output) {items : List Value}
    (hitems : ∀ v ∈ items, c.policy.Clean v) :
    c.Agree c.policy.Text (loop binding pos body length i output items)
      (loop binding pos body' length i output items) := by
  induction items generalizing i output with
  | nil => exact Agree.pure ho
  | cons item more ih =>
    obtain ⟨hitem, hmore⟩ := List.forall_mem_cons.mp hitems
    unfold loop
    refine Lockstep.bind lockstep_here fun l l' hl => ?_
    refine Agree.bind (Q := fun r => c.policy.Text r.2) (Lockstep.inScope ?_ hl) fun r hr => ?_
    · refine Agree.bind (agree_typed pos fun _ => hereditary_clean.bindItem hitem)
        fun vars hvars => ?_
      refine Agree.bind (agree_setLocals hvars) fun _ _ => ?_
      exact Agree.bind (agree_setLocal (hereditary_clean.loopState i length)) fun _ _ => hbody
    · have hwritten := c.policy.text_append ho hr
      obtain ⟨flow, written⟩ := r
      cases flow with
      | exitLoop pos => exact Agree.pure hwritten
      | normal | nextItem pos => exact ih (i + 1) hwritten hmore

mutual

theorem agree_exec (hk : c.Calling k k') (ht : t.Within c.policy.admits) (i : Instr)
    (hi : c.policy.Covers i.parts) :
    c.Agree (fun r => c.policy.Text r.2) (exec c.env k t i) (exec c.env' k' t i) := by
  have hstart := c.policy.text_empty
  cases i with
  | text content =>
    rw [exec, exec]
    rw [Instr.parts, Policy.covers_cons] at hi
    exact Agree.pure hi.1
  | print e pos =>
    rw [exec, exec]
    rw [Instr.parts] at hi
    refine Agree.bind (agree_eval hk ht pos e hi) fun v hv => ?_
    exact Agree.bind (agree_printValue hv) fun _ ho => Agree.pure ho
  | branch condition body otherwise pos =>
    rw [exec, exec]
    rw [Instr.parts, Policy.covers_append, Policy.covers_append] at hi
    refine Agree.bind (agree_eval hk ht pos condition hi.1.1) fun v _ => ?_
    exact Lockstep.ite (fun _ => agree_execAll hk ht "" hstart body hi.1.2)
      fun _ => agree_execAll hk ht "" hstart otherwise hi.2
  | forEach binding iterable body otherwise pos =>
    rw [exec, exec]
    rw [Instr.parts, Policy.covers_append, Policy.covers_append] at hi
    refine Agree.bind (agree_eval hk ht pos iterable hi.1.1) fun v hv => ?_
    refine Agree.bind (agree_typed pos fun _ => hereditary_clean.loopItems hv)
      fun items hitems => ?_
    refine Lockstep.ite (fun _ => agree_execAll hk ht "" hstart otherwise hi.2) fun _ => ?_
    have hbody := agree_execAll hk ht "" hstart body hi.1.2
    exact Agree.bind (agree_loop hbody binding pos items.length 0 hstart hitems)
      fun _ ho => Agree.pure ho
  | callBlock callee args body pos =>
    rw [exec, exec]
    rw [Instr.parts, Policy.covers_append, Policy.covers_append] at hi
    refine Lockstep.bind Lockstep.get fun s s' h => ?_
    -- The two callers differ in the scope to which they come back.
    refine Agree.bind (agree_callCallee hk ht hi.1.1 hi.1.2 ?_ pos) fun v hv => ?_
    · exact {
        body := rfl, template := rfl, imports := h.imports, scope := h.here,
        covers := hi.2, within := ht, modules := h.modules }
    · exact Agree.bind (agree_printValue hv) fun _ ho => Agree.pure ho
  | assign name e pos =>
    rw [exec, exec]
    rw [Instr.parts] at hi
    refine Agree.bind (agree_eval hk ht pos e hi) fun v hv => ?_
    exact Agree.bind (agree_setLocal hv) fun _ _ => Agree.pure hstart
  | «scoped» bindings body pos =>
    rw [exec, exec]
    rw [Instr.parts, Policy.covers_append] at hi
    refine Agree.bind (agree_evalBindings hk ht pos hi.1) fun vars hvars => ?_
    refine Lockstep.bind lockstep_here fun l l' hl => Lockstep.inScope ?_ hl
    exact Agree.bind (agree_setLocals hvars) fun _ _ => agree_execAll hk ht "" hstart body hi.2
  | block name =>
    rw [exec, exec]
    exact agree_placeBlock hk ht name
  | including path pos =>
    rw [exec, exec]
    rw [Instr.parts] at hi
    exact Agree.bind (agree_includeTemplate hk ht hi pos) fun _ ho => Agree.pure ho
  | importing path asName pos =>
    rw [exec, exec]
    rw [Instr.parts] at hi
    exact Agree.bind (agree_importTemplate hk ht hi asName pos) fun _ _ => Agree.pure hstart
  | autoescape enabled body =>
    rw [exec, exec]
    rw [Instr.parts, Policy.covers_cons] at hi
    refine Lockstep.bind Lockstep.get fun s s' h => ?_
    refine Agree.bind (Lockstep.update ?_ fun _ => Nat.le_refl _) fun _ _ => ?_
    · intro u u' hu
      exact { hu with autoescape := rfl, mode := hi.1 }
    refine Agree.bind (agree_execAll hk ht "" hstart body hi.2) fun r hr => ?_
    refine Agree.bind (Lockstep.update ?_ fun _ => Nat.le_refl _) fun _ _ => Agree.pure hr
    intro u u' hu
    exact { hu with autoescape := h.autoescape, mode := h.mode }
  | filtered filters body pos =>
    rw [exec, exec]
    rw [Instr.parts, Policy.covers_append] at hi
    refine Agree.bind (agree_execAll hk ht "" hstart body hi.2) fun r hr => ?_
    refine Agree.bind (agree_applyFilters hk ht pos hi.1 (Value.clean_safe.mpr hr)) fun v hv => ?_
    exact Agree.bind (agree_printValue hv) fun _ ho => Agree.pure ho
  | exitLoop pos | nextItem pos =>
    rw [exec, exec]
    exact Agree.pure hstart

theorem agree_execAll (hk : c.Calling k k') (ht : t.Within c.policy.admits) (output : String)
    (ho : c.policy.Text output) (body : List Instr) (hb : c.policy.Covers (Instr.partsAll body)) :
    c.Agree (fun r => c.policy.Text r.2) (execAll c.env k t output body)
      (execAll c.env' k' t output body) := by
  cases body with
  | nil =>
    rw [execAll, execAll]
    exact Agree.pure ho
  | cons i more =>
    rw [execAll, execAll]
    rw [Instr.partsAll, Policy.covers_append] at hb
    refine Agree.bind (agree_exec hk ht i hb.1) fun r hr => ?_
    have hwritten := c.policy.text_append ho hr
    obtain ⟨flow, written⟩ := r
    cases flow with
    | normal => exact agree_execAll hk ht (output ++ written) hwritten more hb.2
    | exitLoop pos | nextItem pos => exact Agree.pure hwritten

end

/-! ### Whole templates -/

lemma within_addOverrides (ht : t.Within c.policy.admits) {overrides : Dict Template}
    (h : ∀ e ∈ overrides, e.2.Within c.policy.admits) :
    ∀ e ∈ addOverrides t overrides, e.2.Within c.policy.admits := by
  unfold addOverrides
  induction Dict.keys t.blocks generalizing overrides with
  | nil => exact h
  | cons name more ih =>
    rw [List.foldl_cons]
    refine ih ?_
    split
    · exact h
    · exact Dict.forall_mem_insert ht h

lemma agree_setUp (hk : c.Calling k k') (ht : t.Within c.policy.admits) {body : List Instr}
    (hb : c.policy.Covers (Instr.partsAll body)) :
    c.Agree (fun _ => True) (setUp c.env k t body) (setUp c.env' k' t body) := by
  induction body with
  | nil => exact Agree.pure trivial
  | cons i more ih =>
    rw [Instr.partsAll, Policy.covers_append] at hb
    unfold setUp
    refine Lockstep.ite (fun _ => ?_) fun _ => ih hb.2
    exact Agree.bind (agree_exec hk ht i hb.1) fun _ _ => ih hb.2

lemma agree_renderTemplate (hk : c.Calling k k') (ht : t.Within c.policy.admits) :
    c.Agree c.policy.Text (renderTemplate c.env k t) (renderTemplate c.env' k' t) := by
  unfold renderTemplate
  cases hparent : t.parent with
  | none =>
    refine Agree.bind (agree_execAll hk ht "" c.policy.text_empty t.body ht.body) fun r hr => ?_
    exact Agree.bind (agree_leftover r.1) fun _ _ => Agree.pure hr
  | some p =>
    refine Agree.bind (Lockstep.update ?_ fun _ => Nat.le_refl _) fun _ _ => ?_
    · intro s s' h
      exact { h with
        overrides := congrArg (addOverrides t) h.overrides
        owners := within_addOverrides ht h.owners }
    refine Agree.bind (agree_setUp hk ht ht.body) fun _ _ => ?_
    refine Agree.bind (agree_evalPath hk ht (ht.parent hparent) p.2) fun path _ => ?_
    refine Agree.bind (agree_enter path p.2) fun parent hwithin => ?_
    refine Agree.bind (hk.render hwithin) fun output ho => ?_
    exact Agree.bind agree_leave fun _ _ => Agree.pure ho

lemma agree_loadImports (hk : c.Calling k k') (ht : t.Within c.policy.admits)
    {imports : Dict Module} (hm : ∀ e ∈ imports, e.2.Within c.policy.admits) {body : List Instr}
    (hb : c.policy.Covers (Instr.partsAll body)) :
    c.Agree (fun imports => ∀ e ∈ imports, Module.Within c.policy.admits e.2)
      (loadImports k t imports body) (loadImports k' t imports body) := by
  induction body generalizing imports with
  | nil => exact Agree.pure hm
  | cons i more ih =>
    rw [Instr.partsAll, Policy.covers_append] at hb
    cases i with
    | importing path asName pos =>
      refine Agree.bind (hk.load pos ht hb.1) fun m hwithin => ?_
      exact ih (Dict.forall_mem_insert hwithin hm) hb.2
    | _ => exact ih hm hb.2

lemma agree_loadModule (hk : c.Calling k k') (ht : t.Within c.policy.admits) {path : Expr}
    (hpath : c.policy.Covers path.parts) (pos : Position) :
    c.Agree (Module.Within c.policy.admits) (loadModule c.env k t path pos)
      (loadModule c.env' k' t path pos) := by
  unfold loadModule
  refine Agree.bind (agree_evalPath hk ht hpath pos) fun path _ => ?_
  refine Agree.bind (agree_enter path pos) fun imported hwithin => ?_
  refine Agree.bind (agree_loadImports hk hwithin (List.forall_mem_nil _) hwithin.body)
    fun imports himports => ?_
  exact Agree.bind agree_leave fun _ _ => Agree.pure (Module.within_mk.mpr ⟨hwithin, himports⟩)

lemma lockstep_outOfFuel {α β : Type} {V : α → β → Prop} {y : RenderM β} (h : c.ahead) :
    c.Lockstep V outOfFuel y :=
  fun _ _ _ _ _ _ => .spent h

/-- Code is started alike with the same fuel, or with more fuel in the second run. -/
theorem calling_callsAt (c : Coupling) {n n' : Nat} (h : n = n' ∨ c.ahead ∧ n ≤ n') :
    c.Calling (callsAt c.env n) (callsAt c.env' n') := by
  -- Fuel falls only here, by one unit in both runs; all else is structural.
  induction n generalizing n' with
  | zero =>
    rcases h with rfl | ⟨hahead, -⟩
    · exact {
        eval := fun _ _ _ => agree_throw trivial
        exec := fun _ _ => agree_throw trivial
        render := fun _ => agree_throw trivial
        load := fun _ _ _ => agree_throw trivial }
    · exact {
        eval := fun _ _ _ => lockstep_outOfFuel hahead
        exec := fun _ _ => lockstep_outOfFuel hahead
        render := fun _ => lockstep_outOfFuel hahead
        load := fun _ _ _ => lockstep_outOfFuel hahead }
  | succ n ih =>
    obtain ⟨n', rfl⟩ : ∃ m, n' = m + 1 := ⟨n' - 1, by omega⟩
    have hn : n = n' ∨ c.ahead ∧ n ≤ n' :=
      h.imp Nat.succ.inj fun h => ⟨h.1, Nat.le_of_succ_le_succ h.2⟩
    have hk := ih hn
    exact {
      eval := fun pos ht he => agree_eval hk ht pos _ he
      exec := fun ht hb => agree_execAll hk ht "" c.policy.text_empty _ hb
      render := fun ht => agree_renderTemplate hk ht
      load := fun pos ht hpath => agree_loadModule hk ht hpath pos }

end Stencil.Render.Coupling
