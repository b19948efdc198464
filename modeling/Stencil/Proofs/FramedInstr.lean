import Stencil.Proofs.FramedExpr

/-! What instructions and whole templates leave behind. An instruction may store variables in the
scope that it runs in; a template that is rendered in place may also change the overrides, which
the including code takes back. -/
namespace Stencil.Render

variable {quiet : Prop} {env : Env} {k : Calls} {t : Template} {s : State}

/-! ### Other templates -/

lemma restored_evalPath (hk : k.Tidy) (ht : Calm quiet t s.overrides) (path : Expr)
    (pos : Position) :
    Leads (Restored quiet s) (evalPath env k t path pos) (Restored quiet s) := by
  unfold evalPath
  refine Leads.bind (restored_eval hk ht pos path) fun v => ?_
  cases v.text? with
  | none => exact Leads.fail
  | some s => exact Leads.pure

/-- Whatever an included template does to the imports, the overrides and its scope is undone. -/
lemma restored_place (hk : k.Tidy) (path : String) (pos : Position) :
    Leads (Restored quiet s)
      (do
        let included ← enter env path pos
        let saved ← get
        modify fun s => { s with overrides := [] }
        let output ← inScope (← here) (k.render included)
        modify fun s => { s with imports := saved.imports, overrides := saved.overrides }
        leave
        return output)
      (Restored quiet s) := by
  refine Leads.bind (M := Restored quiet { s with active := path :: s.active })
    (leads_enter ?_) fun included => ?_
  · rintro _ ⟨imports, rfl, hi⟩
    exact ⟨imports, rfl, hi⟩
  refine Leads.get_bind_self ?_
  rintro _ ⟨imports, rfl, hi⟩
  refine Leads.modify_bind
    (Eq { s with active := path :: s.active, imports, overrides := [] }) ?_ ?_
  · rintro _ rfl
    rfl
  refine Leads.bind leads_here fun l => ?_
  refine Leads.bind (Leads.inScope_render (fun s => hk.render included) l) fun output => ?_
  refine Leads.modify_bind (Eq { s with active := path :: s.active, imports }) ?_ ?_
  · rintro _ ⟨_, _, rfl⟩
    rfl
  refine Leads.bind (leads_leave ?_) fun _ => Leads.pure
  rintro _ rfl
  exact ⟨imports, rfl, hi⟩

lemma restored_includeTemplate (hk : k.Tidy) (ht : Calm quiet t s.overrides) (path : Expr)
    (pos : Position) :
    Leads (Restored quiet s) (includeTemplate env k t path pos) (Restored quiet s) :=
  Leads.bind (restored_evalPath hk ht path pos) fun path => restored_place hk path pos

lemma written_importTemplate (hk : k.Tidy) (path : Expr) (asName : String) (pos : Position) :
    Leads (Written False s) (importTemplate k t path asName pos) (Written False s) := by
  unfold importTemplate
  refine Leads.bind (Leads.written fun s _ => hk.load t path pos) fun module => Leads.update ?_
  rintro _ ⟨⟨_, _, _, rfl, -⟩, hs⟩
  exact ⟨⟨_, _, _, rfl, False.elim⟩, hs⟩

/-- The owner of a block is the running template or one that the overrides name. -/
lemma Calm.owner {overrides : Dict Template} (ht : Calm quiet t overrides) (name : String) :
    Calm quiet ((Dict.get? overrides name).getD t) overrides := by
  intro hq
  obtain ⟨hquiet, howners⟩ := ht hq
  cases hget : Dict.get? overrides name with
  | none => exact ⟨hquiet, howners⟩
  | some o => exact ⟨howners _ (Dict.mem_of_get? hget), howners⟩

lemma written_placeBlock (hk : k.Tidy) (ht : Calm quiet t s.overrides) (name : String) :
    Leads (Written quiet s) (placeBlock k t name) (Written quiet s) := by
  unfold placeBlock
  refine Leads.get_bind fun u hu => ?_
  simp only [hu.overrides_eq]
  have howner := ht.owner name
  generalize (Dict.get? s.overrides name).getD t = owner at howner
  cases hbody : Dict.get? owner.blocks name with
  | none => exact Leads.pure
  | some body => exact hk.exec howner fun hq => (howner hq).1.2 _ (Dict.mem_of_get? hbody)

/-! ### Instructions -/

lemma restored_evalBindings (hk : k.Tidy) (ht : Calm quiet t s.overrides) (pos : Position)
    (bindings : List (String × Expr)) :
    Leads (Restored quiet s) (evalBindings env k t pos bindings) (Restored quiet s) := by
  induction bindings with
  | nil => exact Leads.pure
  | cons b more ih =>
    exact Leads.bind (restored_eval hk ht pos b.2) fun v => Leads.bind ih fun _ => Leads.pure

lemma restored_applyFilters (hk : k.Tidy) (ht : Calm quiet t s.overrides) (pos : Position)
    (filters : List FilterCall) (v : Value) :
    Leads (Restored quiet s) (applyFilters env k t pos filters v) (Restored quiet s) := by
  induction filters generalizing v with
  | nil => exact Leads.pure
  | cons f more ih =>
    refine Leads.bind (restored_evalAll hk ht pos f.args) fun args => ?_
    exact Leads.bind (leads_applyFilter env f.name v args pos) fun w => ih w

lemma restored_callCallee (hk : k.Tidy) (ht : Calm quiet t s.overrides) (callee : Callee)
    (args : List Expr) (caller : Caller) (pos : Position) :
    Leads (Restored quiet s) (callCallee env k t callee args caller pos) (Restored quiet s) := by
  cases callee with
  | name name =>
    refine Leads.bind (restored_evalAll hk ht pos args) fun vs => ?_
    exact restored_callName hk ht name vs (some caller) pos
  | member base member =>
    refine Leads.bind (leads_aliased env base) fun module => ?_
    exact restored_callMember hk module (restored_eval hk ht pos base) member
      (restored_evalAll hk ht pos args) args.length (some caller) pos

/-- Each round of a loop has a scope of its own. -/
lemma restored_loop {body : RenderM (Flow × String)}
    (hbody : ∀ s', s'.overrides = s.overrides →
      Leads (Written quiet s') body (Written quiet s'))
    (binding : Binding) (pos : Position) (length i : Nat) (output : String) (items : List Value) :
    Leads (Restored quiet s) (loop binding pos body length i output items)
      (Restored quiet s) := by
  induction items generalizing i output with
  | nil => exact Leads.pure
  | cons item more ih =>
    unfold loop
    refine Leads.bind leads_here fun l => ?_
    refine Leads.bind (Leads.inScope (fun s' hs' => ?_) l) fun r => ?_
    · refine Leads.bind (leads_typed pos _) fun vars => ?_
      refine Leads.bind (written_setLocals vars) fun _ => ?_
      exact Leads.bind (written_setLocal "loop" _) fun _ => hbody s' hs'
    obtain ⟨flow, written⟩ := r
    cases flow with
    | exitLoop pos => exact Leads.pure
    | normal | nextItem pos => exact ih (i + 1) (output ++ written)

lemma restored_print (hk : k.Tidy) (ht : Calm quiet t s.overrides) (e : Expr) (pos : Position) :
    Leads (Restored quiet s) (exec env k t (.print e pos)) (Restored quiet s) := by
  rw [exec]
  refine Leads.bind (restored_eval hk ht pos e) fun v => ?_
  exact Leads.bind (leads_printValue v) fun _ => Leads.pure

lemma restored_callBlock (hk : k.Tidy) (ht : Calm quiet t s.overrides) (callee : Callee)
    (args : List Expr) (body : List Instr) (pos : Position) :
    Leads (Restored quiet s) (exec env k t (.callBlock callee args body pos))
      (Restored quiet s) := by
  rw [exec]
  refine Leads.get_bind fun u _ => ?_
  refine Leads.bind (restored_callCallee hk ht callee args _ pos) fun v => ?_
  exact Leads.bind (leads_printValue v) fun _ => Leads.pure

lemma restored_including (hk : k.Tidy) (ht : Calm quiet t s.overrides) (path : Expr)
    (pos : Position) :
    Leads (Restored quiet s) (exec env k t (.including path pos)) (Restored quiet s) := by
  rw [exec]
  exact Leads.bind (restored_includeTemplate hk ht path pos) fun _ => Leads.pure

lemma restored_scoped (hk : k.Tidy) (ht : Calm quiet t s.overrides)
    (bindings : List (String × Expr)) {body : List Instr}
    (hbody : ∀ s', s'.overrides = s.overrides →
      Leads (Written quiet s') (execAll env k t "" body) (Written quiet s'))
    (pos : Position) :
    Leads (Restored quiet s) (exec env k t (.scoped bindings body pos)) (Restored quiet s) := by
  rw [exec]
  refine Leads.bind (restored_evalBindings hk ht pos bindings) fun vars => ?_
  refine Leads.bind leads_here fun l => Leads.inScope (fun s' hs' => ?_) l
  exact Leads.bind (written_setLocals vars) fun _ => hbody s' hs'

mutual

theorem written_exec (hk : k.Tidy) {s : State} (ht : Calm quiet t s.overrides) (i : Instr)
    (hi : quiet → i.aliases = []) :
    Leads (Written quiet s) (exec env k t i) (Written quiet s) := by
  have heval : ∀ pos e, Leads (Written quiet s) (eval env k t pos e) (Written quiet s) :=
    fun pos e => Leads.written fun s' hs' => restored_eval hk (hs' ▸ ht) pos e
  cases i with
  | text content =>
    rw [exec]
    exact Leads.pure
  | exitLoop pos | nextItem pos =>
    rw [exec]
    exact Leads.pure
  | print e pos => exact Leads.written fun s' hs' => restored_print hk (hs' ▸ ht) e pos
  | branch condition body otherwise pos =>
    rw [exec]
    simp only [Instr.aliases, List.append_eq_nil_iff] at hi
    refine Leads.bind (heval pos condition) fun v => ?_
    exact Leads.ite (written_execAll hk ht "" body fun hq => (hi hq).1)
      (written_execAll hk ht "" otherwise fun hq => (hi hq).2)
  | forEach binding iterable body otherwise pos =>
    rw [exec]
    simp only [Instr.aliases, List.append_eq_nil_iff] at hi
    refine Leads.bind (heval pos iterable) fun v => ?_
    refine Leads.bind (leads_typed pos _) fun items => ?_
    refine Leads.ite (written_execAll hk ht "" otherwise fun hq => (hi hq).2) ?_
    refine Leads.bind (Leads.written fun s' hs' => ?_) fun _ => Leads.pure
    refine restored_loop (fun s'' hs'' => ?_) binding pos items.length 0 "" items
    exact written_execAll hk ((hs''.trans hs') ▸ ht) "" body fun hq => (hi hq).1
  | callBlock callee args body pos =>
    exact Leads.written fun s' hs' => restored_callBlock hk (hs' ▸ ht) callee args body pos
  | assign name e pos =>
    rw [exec]
    refine Leads.bind (heval pos e) fun v => ?_
    exact Leads.bind (written_setLocal name v) fun _ => Leads.pure
  | «scoped» bindings body pos =>
    rw [Instr.aliases] at hi
    refine Leads.written fun s' hs' =>
      restored_scoped hk (hs' ▸ ht) bindings (fun s'' hs'' => ?_) pos
    exact written_execAll hk ((hs''.trans hs') ▸ ht) "" body hi
  | block name =>
    rw [exec]
    exact written_placeBlock hk ht name
  | including path pos =>
    exact Leads.written fun s' hs' => restored_including hk (hs' ▸ ht) path pos
  | importing path asName pos =>
    obtain rfl : quiet = False := eq_false fun hq => List.cons_ne_nil _ _ (hi hq)
    rw [exec]
    exact Leads.bind (written_importTemplate hk path asName pos) fun _ => Leads.pure
  | autoescape enabled body =>
    rw [exec]
    rw [Instr.aliases] at hi
    refine Leads.get_bind ?_
    rintro _ ⟨⟨_, _, _, rfl, -⟩, -⟩
    refine Leads.modify_bind (Written quiet { s with autoescape := enabled }) ?_ ?_
    · rintro _ ⟨⟨_, _, _, rfl, hi⟩, hs⟩
      exact ⟨⟨_, _, _, rfl, hi⟩, hs⟩
    refine Leads.bind (written_execAll hk (by exact ht) "" body hi) fun r => ?_
    refine Leads.modify_bind (Written quiet s) ?_ Leads.pure
    rintro _ ⟨⟨_, _, _, rfl, hi⟩, hs⟩
    exact ⟨⟨_, _, _, rfl, hi⟩, hs⟩
  | filtered filters body pos =>
    rw [exec]
    rw [Instr.aliases] at hi
    refine Leads.bind (written_execAll hk ht "" body hi) fun r => ?_
    refine Leads.bind (Leads.written fun s' hs' =>
      restored_applyFilters hk (hs' ▸ ht) pos filters _) fun v => ?_
    exact Leads.bind (leads_printValue v) fun _ => Leads.pure

theorem written_execAll (hk : k.Tidy) {s : State} (ht : Calm quiet t s.overrides)
    (output : String) (body : List Instr) (hb : quiet → Instr.aliasesAll body = []) :
    Leads (Written quiet s) (execAll env k t output body) (Written quiet s) := by
  cases body with
  | nil =>
    rw [execAll]
    exact Leads.pure
  | cons i more =>
    rw [execAll]
    simp only [Instr.aliasesAll, List.append_eq_nil_iff] at hb
    refine Leads.bind (written_exec hk ht i fun hq => (hb hq).1) fun r => ?_
    obtain ⟨flow, written⟩ := r
    cases flow with
    | normal => exact written_execAll hk ht (output ++ written) more fun hq => (hb hq).2
    | exitLoop pos | nextItem pos => exact Leads.pure

end

/-! ### Whole templates -/

lemma rendered_setUp (hk : k.Tidy) (t : Template) (body : List Instr) :
    Leads (Rendered s) (setUp env k t body) (Rendered s) := by
  induction body with
  | nil => exact Leads.pure
  | cons i more ih =>
    unfold setUp
    refine Leads.ite (Leads.bind (Leads.rendered fun _ => ?_) fun _ => ih) ih
    exact written_exec hk calm_false i False.elim

lemma rendered_renderTemplate (hk : k.Tidy) (t : Template) :
    Leads (Rendered s) (renderTemplate env k t) (Rendered s) := by
  unfold renderTemplate
  cases t.parent with
  | none =>
    refine Leads.bind (Leads.rendered fun _ => ?_) fun r => ?_
    · exact written_execAll hk calm_false "" t.body False.elim
    exact Leads.bind (leads_leftover r.1) fun _ => Leads.pure
  | some p =>
    refine Leads.modify_bind (Rendered s) ?_ ?_
    · rintro _ ⟨⟨_, _, _, _, rfl⟩, hs⟩
      exact ⟨⟨_, _, _, _, rfl⟩, hs⟩
    refine Leads.bind (rendered_setUp hk t t.body) fun _ => ?_
    refine Leads.bind (Leads.rendered fun _ => Leads.written fun _ _ =>
      restored_evalPath hk calm_false p.1 p.2) fun path => ?_
    refine Leads.bind (M := Rendered { s with active := path :: s.active }) (leads_enter ?_)
      fun parent => ?_
    · rintro _ ⟨⟨_, _, _, _, rfl⟩, hs⟩
      exact ⟨⟨_, _, _, _, rfl⟩, hs⟩
    refine Leads.bind (hk.render parent) fun output => ?_
    refine Leads.bind (leads_leave ?_) fun _ => Leads.pure
    rintro _ ⟨⟨_, _, _, _, rfl⟩, hs⟩
    exact ⟨⟨_, _, _, _, rfl⟩, hs⟩

lemma restored_loadImports (hk : k.Tidy) (t : Template) (imports : Dict Module)
    (body : List Instr) :
    Leads (Restored False s) (loadImports k t imports body) (Restored False s) := by
  induction body generalizing imports with
  | nil => exact Leads.pure
  | cons i more ih =>
    cases i with
    | importing path asName pos => exact Leads.bind (hk.load t path pos) fun module => ih _
    | _ => exact ih imports

lemma restored_loadModule (hk : k.Tidy) (t : Template) (path : Expr) (pos : Position) :
    Leads (Restored False s) (loadModule env k t path pos) (Restored False s) := by
  unfold loadModule
  refine Leads.bind (restored_evalPath hk calm_false path pos) fun path => ?_
  refine Leads.bind (M := Restored False { s with active := path :: s.active }) (leads_enter ?_)
    fun imported => ?_
  · rintro _ ⟨imports, rfl, hi⟩
    exact ⟨imports, rfl, hi⟩
  refine Leads.bind (restored_loadImports hk imported [] imported.body) fun imports => ?_
  refine Leads.bind (leads_leave ?_) fun _ => Leads.pure
  rintro _ ⟨imports, rfl, hi⟩
  exact ⟨imports, rfl, hi⟩

/-- Code minds the state of the code that starts it, whatever the fuel. -/
theorem tidy_callsAt (env : Env) (n : Nat) : (callsAt env n).Tidy := by
  induction n with
  | zero =>
    exact {
      eval := fun _ _ _ => Leads.stop
      exec := fun _ _ => Leads.stop
      render := fun _ => Leads.stop
      load := fun _ _ _ => Leads.stop }
  | succ n ih =>
    exact {
      eval := fun ht pos e => restored_eval ih ht pos e
      exec := fun ht hb => written_execAll ih ht "" _ hb
      render := fun t => rendered_renderTemplate ih t
      load := fun t path pos => restored_loadModule ih t path pos }

end Stencil.Render
