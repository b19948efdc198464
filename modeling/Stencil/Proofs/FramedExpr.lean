import Stencil.Proofs.Frame
import Stencil.Proofs.Mirror

/-! Expressions leave the state as they found it. Only the imports may differ: a macro of the
running template may import into them, unless no macro and no block imports anything. -/
namespace Stencil

/-- No macro and no block of the template imports anything into the imports that it runs with. -/
def Template.Quiet (t : Template) : Prop :=
  (∀ m ∈ t.macros, Instr.aliasesAll m.2.body = []) ∧ ∀ b ∈ t.blocks, Instr.aliasesAll b.2 = []

instance (t : Template) : Decidable t.Quiet := by unfold Template.Quiet; infer_instance

namespace Render

/-- If `quiet`, no code imports anything that the code of `t` can run in its own place. -/
def Calm (quiet : Prop) (t : Template) (overrides : Dict Template) : Prop :=
  quiet → t.Quiet ∧ ∀ o ∈ overrides, o.2.Quiet

/-- Code that is started from running code minds the state of that code. -/
structure Calls.Tidy (k : Calls) : Prop where
  eval : ∀ {quiet : Prop} {t : Template} {s : State}, Calm quiet t s.overrides → ∀ pos e,
    Leads (Restored quiet s) (k.eval t pos e) (Restored quiet s)
  exec : ∀ {quiet : Prop} {t : Template} {s : State} {body : List Instr},
    Calm quiet t s.overrides → (quiet → Instr.aliasesAll body = []) →
    Leads (Written quiet s) (k.exec t body) (Written quiet s)
  render : ∀ {s : State} (t : Template), Leads (Rendered s) (k.render t) (Rendered s)
  load : ∀ {s : State} (t : Template) (path : Expr) (pos : Position),
    Leads (Restored False s) (k.load t path pos) (Restored False s)

variable {quiet : Prop} {env : Env} {k : Calls} {t : Template} {s : State}

lemma calm_false {overrides : Dict Template} : Calm False t overrides := False.elim

/-! ### Macros -/

lemma written_bindParams (hk : k.Tidy) (ht : Calm quiet t s.overrides) (pos : Position)
    (params : List Param) (args : List Value) :
    Leads (Written quiet s) (bindParams k t pos params args) (Written quiet s) := by
  induction params generalizing args with
  | nil => exact Leads.pure
  | cons p params ih =>
    cases args with
    | cons v args => exact Leads.bind (written_setLocal p.name v) fun _ => ih args
    | nil =>
      have hstore : ∀ v, Leads (Written quiet s)
          (setLocal p.name v >>= fun _ => bindParams k t pos params []) (Written quiet s) :=
        fun v => Leads.bind (written_setLocal p.name v) fun _ => ih []
      unfold bindParams
      cases p.default with
      | none => exact Leads.bind Leads.pure hstore
      | some e =>
        exact Leads.bind (Leads.written fun s' hs' => hk.eval (hs' ▸ ht) pos e) hstore

/-- The code of a macro or of a call block, whose output is its result. -/
lemma written_output (hk : k.Tidy) (ht : Calm quiet t s.overrides) {body : List Instr}
    (hbody : quiet → Instr.aliasesAll body = []) :
    Leads (Written quiet s)
      (do
        let (flow, output) ← k.exec t body
        leftover flow
        return output)
      (Written quiet s) :=
  Leads.bind (hk.exec ht hbody) fun r => Leads.bind (leads_leftover r.1) fun _ => Leads.pure

lemma restored_runMacro (hk : k.Tidy) (ht : Calm quiet t s.overrides) {m : MacroDef}
    (hm : quiet → Instr.aliasesAll m.body = []) (args : List Value) (pos : Position) :
    Leads (Restored quiet s) (runMacro k t m args pos) (Restored quiet s) := by
  unfold runMacro
  refine Leads.modify_bind (Restored quiet { s with macroDepth := s.macroDepth + 1 }) ?_ ?_
  · rintro _ ⟨imports, rfl, hi⟩
    exact ⟨imports, rfl, hi⟩
  refine Leads.bind (Leads.inScope (fun s' hs' => ?_) .isolated) fun output => ?_
  · have ht' : Calm quiet t s'.overrides := hs' ▸ ht
    exact Leads.bind (written_bindParams hk ht' pos m.params args) fun _ =>
      written_output hk ht' hm
  refine Leads.modify_bind (Restored quiet s) ?_ Leads.pure
  rintro _ ⟨imports, rfl, hi⟩
  exact ⟨imports, rfl, hi⟩

lemma restored_callMacro (hk : k.Tidy) (ht : Calm quiet t s.overrides) {m : MacroDef}
    (hm : quiet → Instr.aliasesAll m.body = []) (args : List Value) (caller : Option Caller)
    (pos : Position) :
    Leads (Restored quiet s) (callMacro env k t m args caller pos) (Restored quiet s) := by
  unfold callMacro
  refine Leads.guard (Leads.get_bind fun _ _ => Leads.guard ?_)
  cases caller with
  | none => exact restored_runMacro hk ht hm args pos
  | some c =>
    refine Leads.modify_bind (Restored quiet { s with callers := c :: s.callers }) ?_ ?_
    · rintro _ ⟨imports, rfl, hi⟩
      exact ⟨imports, rfl, hi⟩
    refine Leads.bind (restored_runMacro hk (by exact ht) hm args pos) fun v => ?_
    refine Leads.modify_bind (Restored quiet s) ?_ Leads.pure
    rintro _ ⟨imports, rfl, hi⟩
    exact ⟨imports, rfl, hi⟩

/-- The body of a call block runs with the imports of its own template, which are taken away behind
it. -/
lemma restored_callCaller (hk : k.Tidy) (args : List Value) (pos : Position) :
    Leads (Restored quiet s) (callCaller k args pos) (Restored quiet s) := by
  unfold callCaller
  refine Leads.get_bind ?_
  rintro _ ⟨_, rfl, -⟩
  cases hcallers : s.callers with
  | nil => exact Leads.fail
  | cons c callers =>
    refine Leads.guard (Leads.modify_bind (Restored quiet { s with callers }) ?_ ?_)
    · rintro _ ⟨imports, rfl, hi⟩
      exact ⟨imports, rfl, hi⟩
    refine Leads.bind (Leads.inScope (fun s' _ => ?_) c.scope) fun output => ?_
    · exact Leads.withImports_written (fun _ _ => written_output hk calm_false False.elim) c.imports
    refine Leads.modify_bind (Restored quiet s) ?_ Leads.pure
    rintro _ ⟨imports, rfl, hi⟩
    exact ⟨imports, by rw [← hcallers], hi⟩

/-- A macro of the running template runs with the imports of the running code. -/
lemma restored_callName (hk : k.Tidy) (ht : Calm quiet t s.overrides) (name : String)
    (args : List Value) (caller : Option Caller) (pos : Position) :
    Leads (Restored quiet s) (callName env k t name args caller pos) (Restored quiet s) := by
  unfold callName
  cases hm : Dict.get? t.macros name with
  | some m =>
    have hquiet : quiet → Instr.aliasesAll m.body = [] := fun hq =>
      (ht hq).1.1 _ (Dict.mem_of_get? hm)
    exact restored_callMacro hk ht hquiet args caller pos
  | none =>
    simp only
    split
    · exact restored_callCaller hk args pos
    · exact leads_typed pos _
    · exact leads_typed pos _
    · exact Leads.fail

/-- A macro of an imported template runs with the imports of that template. -/
lemma restored_callMember (hk : k.Tidy) (module : Option (String × Module)) {base : RenderM Value}
    (hbase : Leads (Restored quiet s) base (Restored quiet s)) (member : String)
    {args : RenderM (List Value)} (hargs : Leads (Restored quiet s) args (Restored quiet s))
    (given : Nat) (caller : Option Caller) (pos : Position) :
    Leads (Restored quiet s) (callMember env k module base member args given caller pos)
      (Restored quiet s) := by
  unfold callMember
  cases module with
  | none => exact Leads.bind hbase fun v => Leads.guard (leads_mapView v member pos)
  | some named =>
    simp only
    cases hm : Dict.get? named.2.template.macros member with
    | none => exact Leads.fail
    | some m =>
      refine Leads.bind hargs fun vs => Leads.withImports (fun _ _ => ?_) _
      exact restored_callMacro hk calm_false False.elim vs caller pos

/-! ### Expressions -/

mutual

theorem restored_eval (hk : k.Tidy) (ht : Calm quiet t s.overrides) (pos : Position) (e : Expr) :
    Leads (Restored quiet s) (eval env k t pos e) (Restored quiet s) := by
  cases e with
  | lit value =>
    rw [eval]
    exact Leads.pure
  | var name =>
    rw [eval]
    exact leads_lookup env.root name
  | list items =>
    rw [eval]
    exact Leads.bind (restored_evalAll hk ht pos items) fun _ => Leads.pure
  | dict entries =>
    rw [eval]
    exact Leads.bind (restored_evalEntries hk ht pos [] entries) fun _ => Leads.pure
  | item base key =>
    rw [eval]
    refine Leads.bind (restored_eval hk ht pos base) fun _ => ?_
    exact Leads.bind (restored_eval hk ht pos key) fun _ => Leads.pure
  | binary op left right =>
    have hleft := restored_eval hk ht pos left
    have hright := restored_eval hk ht pos right
    by_cases hand : op = .and
    · subst hand
      rw [eval]
      exact Leads.bind hleft fun _ => Leads.ite hright Leads.pure
    by_cases hor : op = .or
    · subst hor
      rw [eval]
      exact Leads.bind hleft fun _ => Leads.ite Leads.pure hright
    rw [eval]
    · exact Leads.bind hleft fun _ => Leads.bind hright fun _ => leads_typed pos _
    all_goals assumption
  | unary op operand =>
    have hoperand := restored_eval hk ht pos operand
    cases op with
    | not =>
      rw [eval]
      exact Leads.bind hoperand fun _ => Leads.pure
    | neg =>
      rw [eval]
      exact Leads.bind hoperand fun _ => leads_typed pos _
  | filter base name args =>
    rw [eval]
    refine Leads.bind (restored_eval hk ht pos base) fun v => ?_
    exact Leads.bind (restored_evalAll hk ht pos args) fun vs => leads_applyFilter env name v vs pos
  | test base name args negated =>
    rw [eval]
    refine Leads.bind (restored_eval hk ht pos base) fun v => ?_
    refine Leads.bind (restored_evalAll hk ht pos args) fun vs => ?_
    exact Leads.bind (leads_applyTest env name v vs pos) fun _ => Leads.pure
  | call name args =>
    rw [eval]
    refine Leads.bind (restored_evalAll hk ht pos args) fun vs => ?_
    exact restored_callName hk ht name vs none pos
  | callMember base member args =>
    rw [eval]
    refine Leads.bind (leads_aliased env base) fun module => ?_
    exact restored_callMember hk module (restored_eval hk ht pos base) member
      (restored_evalAll hk ht pos args) args.length none pos
  | choice value condition otherwise =>
    rw [eval]
    refine Leads.bind (restored_eval hk ht pos condition) fun _ => ?_
    exact Leads.ite (restored_eval hk ht pos value) (restored_evalOption hk ht pos otherwise)

theorem restored_evalAll (hk : k.Tidy) (ht : Calm quiet t s.overrides) (pos : Position)
    (items : List Expr) :
    Leads (Restored quiet s) (evalAll env k t pos items) (Restored quiet s) := by
  cases items with
  | nil =>
    rw [evalAll]
    exact Leads.pure
  | cons e more =>
    rw [evalAll]
    refine Leads.bind (restored_eval hk ht pos e) fun _ => ?_
    exact Leads.bind (restored_evalAll hk ht pos more) fun _ => Leads.pure

theorem restored_evalEntries (hk : k.Tidy) (ht : Calm quiet t s.overrides) (pos : Position)
    (d : Dict Value) (entries : List (Expr × Expr)) :
    Leads (Restored quiet s) (evalEntries env k t pos d entries) (Restored quiet s) := by
  cases entries with
  | nil =>
    rw [evalEntries]
    exact Leads.pure
  | cons entry more =>
    obtain ⟨key, value⟩ := entry
    rw [evalEntries]
    refine Leads.bind (restored_eval hk ht pos key) fun _ => ?_
    refine Leads.bind (restored_eval hk ht pos value) fun _ => ?_
    exact restored_evalEntries hk ht pos _ more

theorem restored_evalOption (hk : k.Tidy) (ht : Calm quiet t s.overrides) (pos : Position)
    (e : Option Expr) : Leads (Restored quiet s) (evalOption env k t pos e) (Restored quiet s) := by
  cases e with
  | none =>
    rw [evalOption]
    exact Leads.pure
  | some e =>
    rw [evalOption]
    exact restored_eval hk ht pos e

end

end Render

end Stencil
