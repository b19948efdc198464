import Stencil.Proofs.UpheldExpr

/-! Instructions and whole templates keep to a regime, whatever the fuel. Outside of loops code ends
normally, if controls have to stand in loops. -/
namespace Stencil.Render.Regime

open Instr (confinedAll)

variable {env : Env} {c : Regime env} {k : Calls} {t : Template}

/-! ### Other templates -/

/-- Only templates of the engine are entered. -/
lemma upholds_enter (path : String) (pos : Position) : c.Upholds c.Fits (enter env path pos) := by
  have hfetch : c.Upholds (fun r => ∀ l, r = .ok l → c.Fits l.template)
      (liftM (env.engine.fetch path) : RenderM (Except FetchError Loaded)) := by
    intro s σ hs
    obtain ⟨hloaded, hkept⟩ := Engine.all_fetch c.offers hs.session path
    exact .ok hloaded { hs with session := hkept }
  refine .get_bind fun s σ hs => .guard (.guard (.bind hfetch fun r hr => ?_))
  cases r with
  | error e =>
    cases e with
    | load e | source e => exact .fail
  | ok l => exact .modify_bind (fun s σ hs => { hs with }) (.pure (hr l rfl))

lemma upholds_leave : c.Upholds (fun _ => True) leave := .update fun _ _ hs => { hs with }

lemma upholds_includeTemplate (hk : c.Serves k) (ht : c.Fits t) (path : Expr) (pos : Position) :
    c.Upholds (fun _ => True) (includeTemplate env k t path pos) := by
  refine .bind (upholds_evalPath hk ht path pos) fun path _ => ?_
  refine .bind (upholds_enter path pos) fun included hincluded => ?_
  refine .get_bind fun saved _ hsaved => ?_
  refine .modify_bind (fun s σ hs => { hs with overrides := List.forall_mem_nil _ }) ?_
  refine .bind upholds_here fun l _ => .bind (.inScope (hk.render hincluded) l) fun output _ => ?_
  refine .modify_bind (fun s σ hs => ?_) (.bind upholds_leave fun _ _ => .pure trivial)
  exact { hs with imports := hsaved.imports, overrides := hsaved.overrides }

lemma upholds_importTemplate (hk : c.Serves k) (ht : c.Fits t) (path : Expr) (asName : String)
    (pos : Position) : c.Upholds (fun _ => True) (importTemplate k t path asName pos) := by
  refine .bind (hk.load ht path pos) fun module hmodule => .update fun s σ hs => ?_
  exact { hs with imports := Dict.forall_mem_insert hmodule hs.imports }

/-- Whoever owns a block, it ends normally. -/
lemma upholds_placeBlock (hk : c.Serves k) (ht : c.Fits t) (name : String) :
    c.Upholds (fun r => c.looped → r.1 = .normal) (placeBlock k t name) := by
  refine .get_bind fun s σ hs => ?_
  have howner := hs.owner ht name
  generalize (Dict.get? s.overrides name).getD t = owner at howner
  simp only
  cases hbody : Dict.get? owner.blocks name with
  | none => exact .pure fun _ => rfl
  | some body => exact hk.exec howner (howner.block hbody)

/-! ### Instructions -/

/-- The variables of a round are stored in a scope of their own. -/
lemma upholds_round {body : RenderM (Flow × String)} (hbody : c.Upholds (fun _ => True) body)
    (binding : Binding) (pos : Position) (length i : Nat) {item : Value} (hitem : c.value item)
    (l : Link) :
    c.Upholds (fun _ => True) (inScope l do
      setLocals (← typed pos (bindItem binding item))
      setLocal "loop" (loopState i length)
      body) := by
  refine .inScope ?_ l
  refine .bind (upholds_typed (fun _ => c.hereditary.bindItem hitem) pos) fun vars hvars => ?_
  refine .bind (upholds_setLocals hvars) fun _ _ => ?_
  exact .bind (upholds_setLocal "loop" (c.hereditary.loopState i length)) fun _ _ => hbody

/-- A loop takes the controls of its body. -/
lemma upholds_loop {body : RenderM (Flow × String)} (hbody : c.Upholds (fun _ => True) body)
    (binding : Binding) (pos : Position) (length i : Nat) (output : String) {items : List Value}
    (hitems : ∀ v ∈ items, c.value v) :
    c.Upholds (fun _ => True) (loop binding pos body length i output items) := by
  induction items generalizing i output with
  | nil => exact .pure trivial
  | cons item more ih =>
    obtain ⟨hitem, hmore⟩ := List.forall_mem_cons.mp hitems
    refine .bind upholds_here fun l _ => ?_
    refine .bind (upholds_round hbody binding pos length i hitem l) fun r _ => ?_
    obtain ⟨flow, written⟩ := r
    cases flow with
    | exitLoop pos => exact .pure trivial
    | normal | nextItem pos => exact ih (i + 1) (output ++ written) hmore

/-- The body of the call block waits in the scope in which it is written. -/
lemma upholds_callBlock (hk : c.Serves k) (ht : c.Fits t) (callee : Callee) (args : List Expr)
    {body : List Instr} (hbody : c.Allows (confinedAll false body)) (pos : Position) :
    c.Upholds (fun r => r.1 = .normal) (exec env k t (.callBlock callee args body pos)) := by
  rw [exec]
  refine .get_bind fun s σ hs => ?_
  have hcaller : c.Waits ⟨body, s.here, t, s.imports⟩ := ⟨hbody, ht, hs.imports⟩
  refine .bind (upholds_callCallee hk ht callee args hcaller pos) fun v _ => ?_
  exact .bind (upholds_printValue v) fun _ _ => .pure rfl

mutual

/-- Outside of loops code ends normally. -/
theorem upholds_exec (hk : c.Serves k) (ht : c.Fits t) {inLoop : Bool} (i : Instr)
    (hi : c.Allows (i.confined inLoop)) :
    c.Upholds (fun r => c.looped → inLoop = false → r.1 = .normal) (exec env k t i) := by
  cases i with
  | text content =>
    rw [exec]
    exact .pure fun _ _ => rfl
  | exitLoop pos | nextItem pos =>
    rw [exec]
    exact .pure fun hc hout => by cases hout.symm.trans (hi hc)
  | print e pos =>
    rw [exec]
    refine .bind (upholds_eval hk ht pos e) fun v _ => ?_
    exact .bind (upholds_printValue v) fun _ _ => .pure fun _ _ => rfl
  | branch condition body otherwise pos =>
    rw [Instr.confined, allows_and] at hi
    rw [exec]
    refine .bind (upholds_eval hk ht pos condition) fun v _ => ?_
    exact .ite (upholds_execAll hk ht "" body hi.1) (upholds_execAll hk ht "" otherwise hi.2)
  | forEach binding iterable body otherwise pos =>
    rw [Instr.confined, allows_and] at hi
    rw [exec]
    refine .bind (upholds_eval hk ht pos iterable) fun v hv => ?_
    refine .bind (upholds_typed (fun _ => c.hereditary.loopItems hv) pos) fun items hitems => ?_
    refine .ite (upholds_execAll hk ht "" otherwise hi.2) ?_
    have hbody := (upholds_execAll hk ht "" body hi.1).mono fun _ _ => trivial
    exact .bind (upholds_loop hbody binding pos _ 0 "" hitems) fun _ _ => .pure fun _ _ => rfl
  | callBlock callee args body pos =>
    exact (upholds_callBlock hk ht callee args hi pos).mono fun _ h _ _ => h
  | assign name e pos =>
    rw [exec]
    refine .bind (upholds_eval hk ht pos e) fun v hv => ?_
    exact .bind (upholds_setLocal name hv) fun _ _ => .pure fun _ _ => rfl
  | «scoped» bindings body pos =>
    rw [exec]
    refine .bind (upholds_evalBindings hk ht pos bindings) fun vars hvars => ?_
    refine .bind upholds_here fun l _ => .inScope ?_ l
    exact .bind (upholds_setLocals hvars) fun _ _ => upholds_execAll hk ht "" body hi
  | block name =>
    rw [exec]
    exact (upholds_placeBlock hk ht name).mono fun _ h hc _ => h hc
  | including path pos =>
    rw [exec]
    exact .bind (upholds_includeTemplate hk ht path pos) fun _ _ => .pure fun _ _ => rfl
  | importing path asName pos =>
    rw [exec]
    exact .bind (upholds_importTemplate hk ht path asName pos) fun _ _ => .pure fun _ _ => rfl
  | autoescape enabled body =>
    rw [exec]
    refine .get_bind fun saved _ _ => .modify_bind (fun s σ hs => { hs with }) ?_
    refine .bind (upholds_execAll hk ht "" body hi) fun r hr => ?_
    exact .modify_bind (fun s σ hs => { hs with }) (.pure hr)
  | filtered filters body pos =>
    rw [exec]
    refine .bind (upholds_execAll hk ht "" body hi) fun r hr => ?_
    refine .bind (upholds_applyFilters hk ht pos filters (c.safe _)) fun v _ => ?_
    exact .bind (upholds_printValue v) fun _ _ => .pure hr

theorem upholds_execAll (hk : c.Serves k) (ht : c.Fits t) {inLoop : Bool} (output : String)
    (body : List Instr) (hbody : c.Allows (confinedAll inLoop body)) :
    c.Upholds (fun r => c.looped → inLoop = false → r.1 = .normal)
      (execAll env k t output body) := by
  cases body with
  | nil =>
    rw [execAll]
    exact .pure fun _ _ => rfl
  | cons i more =>
    rw [confinedAll, allows_and] at hbody
    rw [execAll]
    refine .bind (upholds_exec hk ht i hbody.1) fun r hr => ?_
    obtain ⟨flow, written⟩ := r
    cases flow with
    | normal => exact upholds_execAll hk ht (output ++ written) more hbody.2
    | exitLoop pos | nextItem pos => exact .pure hr

end

/-- A round of a loop takes the controls of the body. -/
lemma upholds_playRound (hk : c.Serves k) (ht : c.Fits t) (binding : Binding) (pos : Position)
    {code : List Instr} (hcode : c.Allows (confinedAll true code)) (length i : Nat) {item : Value}
    (hitem : c.value item) :
    c.Upholds (fun _ => True) (playRound env k t binding pos code length i item) := by
  have hbody := (upholds_execAll hk ht "" code hcode).mono fun _ _ => trivial
  exact .bind upholds_here fun l _ => upholds_round hbody binding pos length i hitem l

/-! ### Whole templates -/

lemma upholds_setUp (hk : c.Serves k) (ht : c.Fits t) (body : List Instr)
    (hbody : c.Allows (confinedAll false body)) :
    c.Upholds (fun _ => True) (setUp env k t body) := by
  induction body with
  | nil => exact .pure trivial
  | cons i more ih =>
    rw [confinedAll, allows_and] at hbody
    unfold setUp
    exact .ite (.bind (upholds_exec hk ht i hbody.1) fun _ _ => ih hbody.2) (ih hbody.2)

lemma fits_addOverrides (ht : c.Fits t) {overrides : Dict Template}
    (ho : ∀ o ∈ overrides, c.Fits o.2) : ∀ o ∈ addOverrides t overrides, c.Fits o.2 := by
  unfold addOverrides
  induction Dict.keys t.blocks generalizing overrides with
  | nil => exact ho
  | cons name names ih =>
    rw [List.foldl_cons]
    refine ih ?_
    split
    · exact ho
    · exact Dict.forall_mem_insert ht ho

lemma upholds_renderTemplate (hk : c.Serves k) (ht : c.Fits t) :
    c.Upholds (fun _ => True) (renderTemplate env k t) := by
  unfold renderTemplate
  cases t.parent with
  | none =>
    refine .bind (upholds_execAll hk ht "" t.body ht.body) fun r hr => ?_
    exact .bind (upholds_leftover fun hc => hr hc rfl) fun _ _ => .pure trivial
  | some p =>
    refine .modify_bind (fun s σ hs => ?_) ?_
    · exact { hs with overrides := fits_addOverrides ht hs.overrides }
    refine .bind (upholds_setUp hk ht t.body ht.body) fun _ _ => ?_
    refine .bind (upholds_evalPath hk ht p.1 p.2) fun path _ => ?_
    refine .bind (upholds_enter path p.2) fun parent hparent => ?_
    refine .bind (hk.render hparent) fun output _ => ?_
    exact .bind upholds_leave fun _ _ => .pure trivial

lemma upholds_loadImports (hk : c.Serves k) (ht : c.Fits t) {imports : Dict Module}
    (himports : ∀ e ∈ imports, e.2.All c.Fits) (body : List Instr) :
    c.Upholds (fun imports => ∀ e ∈ imports, e.2.All c.Fits) (loadImports k t imports body) := by
  induction body generalizing imports with
  | nil => exact .pure himports
  | cons i more ih =>
    cases i with
    | importing path asName pos =>
      exact .bind (hk.load ht path pos) fun module hmodule =>
        ih (Dict.forall_mem_insert hmodule himports)
    | _ => exact ih himports

lemma upholds_loadModule (hk : c.Serves k) (ht : c.Fits t) (path : Expr) (pos : Position) :
    c.Upholds (fun m => m.All c.Fits) (loadModule env k t path pos) := by
  refine .bind (upholds_evalPath hk ht path pos) fun path _ => ?_
  refine .bind (upholds_enter path pos) fun imported himported => ?_
  refine .bind (upholds_loadImports hk himported (List.forall_mem_nil _) imported.body)
    fun imports himports => ?_
  exact .bind upholds_leave fun _ _ => .pure (Module.all_mk.mpr ⟨himported, himports⟩)

lemma upholds_outOfFuel {α : Type} {Q : α → Prop} : c.Upholds Q (outOfFuel : RenderM α) :=
  fun _ _ _ => .error fun _ => nofun

/-- All code keeps to the regime, whatever the fuel. -/
theorem serves_callsAt (c : Regime env) (n : Nat) : c.Serves (callsAt env n) := by
  induction n with
  | zero =>
    exact {
      eval := fun _ _ _ => upholds_outOfFuel
      exec := fun _ _ => upholds_outOfFuel
      render := fun _ => upholds_outOfFuel
      load := fun _ _ _ => upholds_outOfFuel }
  | succ n ih =>
    exact {
      eval := fun ht pos e => upholds_eval ih ht pos e
      exec := fun ht hbody => (upholds_execAll ih ht "" _ hbody).mono fun _ h hc => h hc rfl
      render := fun ht => upholds_renderTemplate ih ht
      load := fun ht path pos => upholds_loadModule ih ht path pos }

end Stencil.Render.Regime
