import Stencil.Proofs.Solo

/-! The code of a template that stands alone does not depend on the variable that it does not read,
and only a `break` that belongs to a loop ends the loop. -/
namespace Stencil.Render.Solo

variable {c : Solo} {k : Calls}

/-- What code ends with that ends no loop, unless one of its instructions exits it. -/
def Passes (c : Solo) (body : List Instr) (r : Flow × String) : Prop :=
  (∀ i ∈ body, ¬ i.Exits c.template) → ∀ pos, r.1 ≠ .exitLoop pos

/-- Code of the template that is started from running code does not depend on the variable. -/
structure Serves (c : Solo) (k : Calls) : Prop where
  eval : ∀ {e : Expr} (pos : Position), e.ignores c.hidden = true →
    c.Blind (fun _ => True) (k.eval c.template pos e)
  exec : ∀ {body : List Instr}, Instr.ignoresAll c.hidden body = true →
    c.Blind (c.Passes body) (k.exec c.template body)

/-! ### Macros and call blocks -/

lemma blind_bindParams (hk : c.Serves k) (pos : Position) {params : List Param}
    (hp : params.all (fun p => Expr.ignoresOption c.hidden p.default) = true)
    (args : List Value) :
    c.Blind (fun _ => True) (bindParams k c.template pos params args) := by
  induction params generalizing args with
  | nil => exact .pure trivial
  | cons p params ih =>
    rw [List.all_cons, Bool.and_eq_true] at hp
    cases args with
    | cons v args => exact .bind (agree_setLocal p.name fun _ => rfl) fun _ _ => ih hp.2 args
    | nil =>
      have hstore : ∀ v, c.Blind (fun _ => True)
          (setLocal p.name v >>= fun _ => bindParams k c.template pos params []) :=
        fun v => .bind (agree_setLocal p.name fun _ => rfl) fun _ _ => ih hp.2 []
      unfold bindParams
      cases hd : p.default with
      | none => exact .bind (Q := fun _ => True) (.pure trivial) fun v _ => hstore v
      | some e =>
        have he := hp.1
        rw [hd, Expr.ignoresOption] at he
        exact .bind (hk.eval pos he) fun v _ => hstore v

/-- The code of a macro or of a call block, whose output is its result. -/
lemma blind_output (hk : c.Serves k) {body : List Instr}
    (hbody : Instr.ignoresAll c.hidden body = true) :
    c.Blind (fun _ => True)
      (do
        let (flow, output) ← k.exec c.template body
        leftover flow
        return output) :=
  .bind (hk.exec hbody) fun r _ => .bind (blind_leftover r.1) fun _ _ => .pure trivial

lemma blind_runMacro (hk : c.Serves k) {m : MacroDef} (hm : m.ignores c.hidden = true)
    (args : List Value) (pos : Position) :
    c.Blind (fun _ => True) (runMacro k c.template m args pos) := by
  rw [MacroDef.ignores, Bool.and_eq_true] at hm
  refine .modify_bind (fun s hs => { hs with }) ?_
  apply Agree.bind (Q := fun _ => True)
  · apply Agree.inScope
    exact .bind (blind_bindParams hk pos hm.1 args) fun _ _ => blind_output hk hm.2
  · intro output _
    exact .modify_bind (fun s hs => { hs with }) (.pure trivial)

lemma owns_none : ∀ b ∈ (none : Option Caller), c.Owns b :=
  fun b hb => absurd hb (Option.not_mem_none b)

lemma blind_callMacro (hk : c.Serves k) {m : MacroDef} (hm : m.ignores c.hidden = true)
    (args : List Value) {caller : Option Caller} (hcaller : ∀ b ∈ caller, c.Owns b)
    (pos : Position) :
    c.Blind (fun _ => True) (callMacro c.env k c.template m args caller pos) := by
  unfold callMacro
  apply Agree.guard
  refine .get_bind fun s hs => ?_
  apply Agree.guard
  cases caller with
  | none => exact blind_runMacro hk hm args pos
  | some b =>
    refine .modify_bind (fun s hs => ?_) (.bind (blind_runMacro hk hm args pos) fun v _ => ?_)
    · exact { hs with callers := List.forall_mem_cons.mpr ⟨hcaller b rfl, hs.callers⟩ }
    · refine .modify_bind (fun s hs => ?_) (.pure trivial)
      exact { hs with callers := fun b hb => hs.callers b (List.mem_of_mem_tail hb) }

lemma blind_callCaller (hk : c.Serves k) (args : List Value) (pos : Position) :
    c.Blind (fun _ => True) (callCaller k args pos) := by
  unfold callCaller
  refine .get_bind fun s hs => ?_
  cases hcallers : s.callers with
  | nil => exact .fail
  | cons b callers =>
    have hwaiting := hs.callers
    rw [hcallers] at hwaiting
    obtain ⟨hb, hrest⟩ := List.forall_mem_cons.mp hwaiting
    refine .guard (.modify_bind (fun s hs => { hs with callers := hrest }) ?_)
    apply Agree.bind (Q := fun _ => True)
    · rw [hb.template, hb.imports]
      exact .inScope (.withImports (blind_output hk hb.body)) b.scope
    · intro output _
      exact .modify_bind (fun s hs => { hs with callers := hwaiting }) (.pure trivial)

lemma blind_callName (hk : c.Serves k) (name : String) (args : List Value)
    {caller : Option Caller} (hcaller : ∀ b ∈ caller, c.Owns b) (pos : Position) :
    c.Blind (fun _ => True) (callName c.env k c.template name args caller pos) := by
  unfold callName
  cases hm : Dict.get? c.template.macros name with
  | some m => exact blind_callMacro hk (c.ignores.macroDef hm) args hcaller pos
  | none =>
    simp only
    split
    · exact blind_callCaller hk args pos
    · exact blind_typed pos _
    · exact blind_typed pos _
    · exact .fail

/-- No name is an alias. -/
lemma blind_aliased {base : Expr} (hbase : base.ignores c.hidden = true) :
    c.Blind (· = none) (aliased c.env base) := by
  cases base with
  | var name =>
    simp only [Expr.ignores, bne_iff_ne] at hbase
    refine .bind (blind_lookup c.env.root hbase) fun v _ => .ite (.get_bind fun s hs => ?_) ?_
    · exact .pure (by simp [hs.imports])
    · exact .pure rfl
  | _ => exact .pure rfl

lemma blind_callMember {base : RenderM Value} (hbase : c.Blind (fun _ => True) base)
    (member : String) (args : RenderM (List Value)) (given : Nat) (caller : Option Caller)
    (pos : Position) :
    c.Blind (fun _ => True) (callMember c.env k none base member args given caller pos) :=
  .bind hbase fun v _ => .guard (blind_mapView v member pos)

/-! ### Expressions -/

mutual

theorem blind_eval (hk : c.Serves k) (pos : Position) (e : Expr)
    (he : e.ignores c.hidden = true) :
    c.Blind (fun _ => True) (eval c.env k c.template pos e) := by
  cases e with
  | lit value =>
    rw [eval]
    exact .pure trivial
  | var name =>
    rw [eval]
    simp only [Expr.ignores, bne_iff_ne] at he
    exact blind_lookup c.env.root he
  | list items =>
    rw [eval]
    exact .bind (blind_evalAll hk pos items he) fun _ _ => .pure trivial
  | dict entries =>
    rw [eval]
    exact .bind (blind_evalEntries hk pos [] entries he) fun _ _ => .pure trivial
  | item base key =>
    rw [eval]
    simp only [Expr.ignores, Bool.and_eq_true] at he
    apply Agree.bind (blind_eval hk pos base he.1)
    intro v _
    exact .bind (blind_eval hk pos key he.2) fun _ _ => .pure trivial
  | binary op left right =>
    simp only [Expr.ignores, Bool.and_eq_true] at he
    have hleft := blind_eval hk pos left he.1
    have hright := blind_eval hk pos right he.2
    by_cases hand : op = .and
    · subst hand
      rw [eval]
      exact .bind hleft fun _ _ => .ite hright (.pure trivial)
    by_cases hor : op = .or
    · subst hor
      rw [eval]
      exact .bind hleft fun _ _ => .ite (.pure trivial) hright
    rw [eval]
    · exact .bind hleft fun _ _ => .bind hright fun _ _ => blind_typed pos _
    all_goals assumption
  | unary op operand =>
    have hoperand := blind_eval hk pos operand he
    cases op with
    | not =>
      rw [eval]
      exact .bind hoperand fun _ _ => .pure trivial
    | neg =>
      rw [eval]
      exact .bind hoperand fun _ _ => blind_typed pos _
  | filter base name args =>
    rw [eval]
    simp only [Expr.ignores, Bool.and_eq_true] at he
    apply Agree.bind (blind_eval hk pos base he.1)
    intro v _
    exact .bind (blind_evalAll hk pos args he.2) fun vs _ => blind_applyFilter c.env name v vs pos
  | test base name args negated =>
    rw [eval]
    simp only [Expr.ignores, Bool.and_eq_true] at he
    apply Agree.bind (blind_eval hk pos base he.1)
    intro v _
    apply Agree.bind (blind_evalAll hk pos args he.2)
    intro vs _
    exact .bind (blind_applyTest c.env name v vs pos) fun _ _ => .pure trivial
  | call name args =>
    rw [eval]
    apply Agree.bind (blind_evalAll hk pos args he)
    intro vs _
    exact blind_callName hk name vs owns_none pos
  | callMember base member args =>
    rw [eval]
    simp only [Expr.ignores, Bool.and_eq_true] at he
    apply Agree.bind (blind_aliased he.1)
    rintro _ rfl
    exact blind_callMember (blind_eval hk pos base he.1) member _ args.length none pos
  | choice value condition otherwise =>
    rw [eval]
    simp only [Expr.ignores, Bool.and_eq_true] at he
    apply Agree.bind (blind_eval hk pos condition he.1.2)
    intro v _
    exact .ite (blind_eval hk pos value he.1.1) (blind_evalOption hk pos otherwise he.2)

theorem blind_evalAll (hk : c.Serves k) (pos : Position) (items : List Expr)
    (he : Expr.ignoresAll c.hidden items = true) :
    c.Blind (fun _ => True) (evalAll c.env k c.template pos items) := by
  cases items with
  | nil =>
    rw [evalAll]
    exact .pure trivial
  | cons e more =>
    rw [evalAll]
    simp only [Expr.ignoresAll, Bool.and_eq_true] at he
    apply Agree.bind (blind_eval hk pos e he.1)
    intro v _
    exact .bind (blind_evalAll hk pos more he.2) fun _ _ => .pure trivial

theorem blind_evalEntries (hk : c.Serves k) (pos : Position) (d : Dict Value)
    (entries : List (Expr × Expr)) (he : Expr.ignoresEntries c.hidden entries = true) :
    c.Blind (fun _ => True) (evalEntries c.env k c.template pos d entries) := by
  cases entries with
  | nil =>
    rw [evalEntries]
    exact .pure trivial
  | cons entry more =>
    obtain ⟨key, value⟩ := entry
    rw [evalEntries]
    simp only [Expr.ignoresEntries, Bool.and_eq_true] at he
    apply Agree.bind (blind_eval hk pos key he.1.1)
    intro k _
    apply Agree.bind (blind_eval hk pos value he.1.2)
    intro v _
    exact blind_evalEntries hk pos _ more he.2

theorem blind_evalOption (hk : c.Serves k) (pos : Position) (e : Option Expr)
    (he : Expr.ignoresOption c.hidden e = true) :
    c.Blind (fun _ => True) (evalOption c.env k c.template pos e) := by
  cases e with
  | none =>
    rw [evalOption]
    exact .pure trivial
  | some e =>
    rw [evalOption]
    exact blind_eval hk pos e he

end

/-! ### Instructions -/

/-- The template overrides no block. -/
lemma blind_placeBlock (hk : c.Serves k) (name : String) :
    c.Blind (c.Passes [.block name]) (placeBlock k c.template name) := by
  refine .get_bind fun s hs => ?_
  have howner : (Dict.get? s.overrides name).getD c.template = c.template := by
    simp [hs.overrides]
  simp only [howner]
  cases hb : Dict.get? c.template.blocks name with
  | none => exact .pure fun _ pos => nofun
  | some body =>
    apply Agree.mono (hk.exec (c.ignores.block hb))
    intro r hr hblock
    apply hr
    intro i hi hexits
    exact hblock _ List.mem_cons_self (.block hb hi hexits)

lemma blind_evalBindings (hk : c.Serves k) (pos : Position) {bindings : List (String × Expr)}
    (hb : bindings.all (fun b => b.2.ignores c.hidden) = true) :
    c.Blind (fun _ => True) (evalBindings c.env k c.template pos bindings) := by
  induction bindings with
  | nil => exact .pure trivial
  | cons b more ih =>
    rw [List.all_cons, Bool.and_eq_true] at hb
    apply Agree.bind (blind_eval hk pos b.2 hb.1)
    intro v _
    exact .bind (ih hb.2) fun _ _ => .pure trivial

lemma blind_applyFilters (hk : c.Serves k) (pos : Position) {filters : List FilterCall}
    (hf : filters.all (fun f => Expr.ignoresAll c.hidden f.args) = true) (v : Value) :
    c.Blind (fun _ => True) (applyFilters c.env k c.template pos filters v) := by
  induction filters generalizing v with
  | nil => exact .pure trivial
  | cons f more ih =>
    rw [List.all_cons, Bool.and_eq_true] at hf
    apply Agree.bind (blind_evalAll hk pos f.args hf.1)
    intro args _
    exact .bind (blind_applyFilter c.env f.name v args pos) fun w _ => ih hf.2 w

lemma blind_callCallee (hk : c.Serves k) (pos : Position) {callee : Callee} {args : List Expr}
    (hcallee : callee.ignores c.hidden = true) (hargs : Expr.ignoresAll c.hidden args = true)
    {caller : Caller} (hcaller : c.Owns caller) :
    c.Blind (fun _ => True) (callCallee c.env k c.template callee args caller pos) := by
  cases callee with
  | name name =>
    apply Agree.bind (blind_evalAll hk pos args hargs)
    intro vs _
    apply blind_callName hk name vs _ pos
    rintro _ ⟨⟩
    exact hcaller
  | member base member =>
    apply Agree.bind (blind_aliased hcallee)
    rintro _ rfl
    exact blind_callMember (blind_eval hk pos base hcallee) member _ args.length (some caller) pos

/-- A round runs in a scope of its own. What the loop tells about the round may differ if it is
hidden. -/
lemma agree_round {Q : Flow × String → Prop} {body : RenderM (Flow × String)}
    (hbody : c.Blind Q body) (binding : Binding) (pos : Position) (item : Value) {v w : Value}
    (hvalue : "loop" ≠ c.hidden → v = w) (l : Link) :
    c.Agree Q
      (inScope l do
        setLocals (← typed pos (bindItem binding item))
        setLocal "loop" v
        body)
      (inScope l do
        setLocals (← typed pos (bindItem binding item))
        setLocal "loop" w
        body) := by
  apply Agree.inScope
  apply Agree.bind (blind_typed pos _)
  intro vars _
  apply Agree.bind (blind_setLocals vars)
  intro _ _
  exact .bind (agree_setLocal "loop" hvalue) fun _ _ => hbody

lemma blind_loop {Q : Flow × String → Prop} {body : RenderM (Flow × String)}
    (hbody : c.Blind Q body) (binding : Binding) (pos : Position) (length i : Nat)
    (output : String) (items : List Value) :
    c.Blind (fun _ => True) (loop binding pos body length i output items) := by
  induction items generalizing i output with
  | nil => exact .pure trivial
  | cons item more ih =>
    unfold loop
    apply Agree.bind blind_here
    intro l _
    apply Agree.bind (agree_round hbody binding pos item (fun _ => rfl) l)
    rintro ⟨flow, written⟩ -
    cases flow with
    | exitLoop pos => exact .pure trivial
    | normal | nextItem pos => exact ih (i + 1) (output ++ written)

/-- What code of an instruction ends with, the instruction ends with. -/
lemma Passes.instr {body : List Instr} {i : Instr} {r : Flow × String} (h : c.Passes body r)
    (hexits : ∀ j ∈ body, j.Exits c.template → i.Exits c.template) : c.Passes [i] r := by
  intro hi
  apply h
  intro j hj hexit
  exact hi i List.mem_cons_self (hexits j hj hexit)

mutual

theorem blind_exec (hk : c.Serves k) (i : Instr) (hi : i.ignores c.hidden = true) :
    c.Blind (c.Passes [i]) (exec c.env k c.template i) := by
  have hnormal : ∀ output, c.Passes [i] (.normal, output) := fun output _ pos => nofun
  cases i with
  | text content =>
    rw [exec]
    exact .pure (hnormal content)
  | print e pos =>
    rw [exec]
    apply Agree.bind (blind_eval hk pos e hi)
    intro v _
    exact .bind (blind_printValue v) fun output _ => .pure (hnormal output)
  | branch condition body otherwise pos =>
    rw [exec]
    simp only [Instr.ignores, Bool.and_eq_true] at hi
    apply Agree.bind (blind_eval hk pos condition hi.1.1)
    intro v _
    apply Agree.ite
    · apply (blind_execAll hk "" body hi.1.2).mono
      exact fun r hr => hr.instr fun j hj => .branch hj
    · apply (blind_execAll hk "" otherwise hi.2).mono
      exact fun r hr => hr.instr fun j hj => .otherwise hj
  | forEach binding iterable body otherwise pos =>
    rw [exec]
    simp only [Instr.ignores, Bool.and_eq_true] at hi
    apply Agree.bind (blind_eval hk pos iterable hi.1.1)
    intro v _
    apply Agree.bind (blind_typed pos _)
    intro items _
    apply Agree.ite
    · apply (blind_execAll hk "" otherwise hi.2).mono
      exact fun r hr => hr.instr fun j hj => .afterLoop hj
    · have hbody := blind_execAll hk "" body hi.1.2
      apply Agree.bind (blind_loop hbody binding pos items.length 0 "" items)
      exact fun output _ => .pure (hnormal output)
  | callBlock callee args body pos =>
    rw [exec]
    simp only [Instr.ignores, Bool.and_eq_true] at hi
    refine .get_bind fun s hs => ?_
    apply Agree.bind (blind_callCallee hk pos hi.1.1 hi.1.2 ⟨hi.2, rfl, hs.imports⟩)
    intro v _
    exact .bind (blind_printValue v) fun output _ => .pure (hnormal output)
  | assign name e pos =>
    rw [exec]
    apply Agree.bind (blind_eval hk pos e hi)
    intro v _
    exact .bind (agree_setLocal name fun _ => rfl) fun _ _ => .pure (hnormal "")
  | «scoped» bindings body pos =>
    rw [exec]
    simp only [Instr.ignores, Bool.and_eq_true] at hi
    apply Agree.bind (blind_evalBindings hk pos hi.1)
    intro vars _
    apply Agree.bind blind_here
    intro l _
    apply Agree.inScope
    apply Agree.bind (blind_setLocals vars)
    intro _ _
    apply (blind_execAll hk "" body hi.2).mono
    exact fun r hr => hr.instr fun j hj => .scoped hj
  | block name =>
    rw [exec]
    exact blind_placeBlock hk name
  | including path pos | importing path asName pos => cases hi
  | autoescape enabled body =>
    rw [exec]
    simp only [Instr.ignores] at hi
    refine .get_bind fun s hs => .modify_bind (fun s hs => { hs with }) ?_
    apply Agree.bind (blind_execAll hk "" body hi)
    intro r hr
    refine .modify_bind (fun s hs => { hs with }) (.pure ?_)
    exact hr.instr fun j hj => .autoescape hj
  | filtered filters body pos =>
    rw [exec]
    simp only [Instr.ignores, Bool.and_eq_true] at hi
    apply Agree.bind (blind_execAll hk "" body hi.2)
    intro r hr
    apply Agree.bind (blind_applyFilters hk pos hi.1 _)
    intro v _
    apply Agree.bind (blind_printValue v)
    intro output _
    exact .pure fun hpasses => hr.instr (fun j hj => .filtered hj) hpasses
  | exitLoop pos =>
    rw [exec]
    refine .pure fun hpasses => ?_
    exact absurd (.here pos) (hpasses _ List.mem_cons_self)
  | nextItem pos =>
    rw [exec]
    exact .pure fun _ pos => nofun

theorem blind_execAll (hk : c.Serves k) (output : String) (body : List Instr)
    (hb : Instr.ignoresAll c.hidden body = true) :
    c.Blind (c.Passes body) (execAll c.env k c.template output body) := by
  cases body with
  | nil =>
    rw [execAll]
    exact .pure fun _ pos => nofun
  | cons i more =>
    rw [execAll]
    simp only [Instr.ignoresAll, Bool.and_eq_true] at hb
    apply Agree.bind (blind_exec hk i hb.1)
    rintro ⟨flow, written⟩ hr
    -- The first instruction that does not end normally decides how the code ends.
    have hfirst : ∀ out, c.Passes (i :: more) (flow, out) := by
      intro out hpasses
      apply hr
      intro j hj
      rw [List.mem_singleton.mp hj]
      exact hpasses i List.mem_cons_self
    cases flow with
    | normal =>
      apply (blind_execAll hk (output ++ written) more hb.2).mono
      intro r hmore hpasses
      exact hmore fun j hj => hpasses j (List.mem_cons_of_mem i hj)
    | exitLoop pos | nextItem pos => exact .pure (hfirst _)

end

/-- With any fuel code is started so. -/
theorem serves_callsAt (c : Solo) (n : Nat) : c.Serves (callsAt c.env n) := by
  -- Fuel falls only here; all else is structural.
  induction n with
  | zero => exact ⟨fun _ _ _ _ _ _ _ => .error, fun _ _ _ _ _ _ => .error⟩
  | succ n ih =>
    exact ⟨fun pos he => blind_eval ih pos _ he, fun hb => blind_execAll ih "" _ hb⟩

end Stencil.Render.Solo
