import Stencil.Proofs.Scene

/-! Expressions in mirrored runs end alike. -/
namespace Stencil.Render.World

variable {W : World} {c : Scene} {n : Nat} {k : Calls} {k' : List Template → Calls} {t : Template}

/-! ### Macros -/

lemma mirrors_bindParams (hk : W.Serves n k k') (hc : W.Valid c) (ht : W.admits t)
    (hn : W.effort c + 1 ≤ n) (pos : Position) (params : List Param) (args : List Value) :
    W.Mirrors c (fun _ => True) (bindParams k t pos params args)
      (bindParams (k' c.derived) t pos params args) := by
  induction params generalizing args with
  | nil => exact Steps.pure trivial
  | cons p params ih =>
    cases args with
    | cons v args => exact Steps.bind (mirrors_setLocal p.name v) fun _ _ => ih args
    | nil =>
      unfold bindParams
      cases p.default with
      | none =>
        exact Steps.bind (Q := fun _ => True) (Steps.pure trivial) fun v _ =>
          Steps.bind (mirrors_setLocal p.name v) fun _ _ => ih []
      | some e =>
        exact Steps.bind (hk.eval hc ht hn pos e) fun v _ =>
          Steps.bind (mirrors_setLocal p.name v) fun _ _ => ih []

/-- The code of a macro or of a call block, whose output is its result. -/
lemma mirrors_output {r : Nat} {body : List Instr} (hk : W.Serves n k k') (hc : W.Valid c)
    (ht : W.admits t) (hcode : Code c t r (Instr.placedAll body) (Instr.aliasesAll body))
    (hn : W.effort c + r + 2 ≤ n) :
    W.Mirrors c (fun _ => True)
      (do
        let (flow, output) ← k.exec t body
        leftover flow
        return output)
      (do
        let (flow, output) ← (k' c.derived).exec t body
        leftover flow
        return output) := by
  refine Steps.bind (hk.exec hc ht hcode hn) fun result _ => ?_
  exact Steps.bind (mirrors_leftover result.1) fun _ _ => Steps.pure trivial

lemma mirrors_runMacro (hk : W.Serves n k k') (hc : W.Valid c) (ht : W.admits t) {name : String}
    {m : MacroDef} (hm : Dict.get? t.macros name = some m)
    (hn : W.effort c.inMacro + W.width + 2 ≤ n) (args : List Value) (pos : Position) :
    W.Mirrors c (fun _ => True) (runMacro k t m args pos)
      (runMacro (k' c.derived) t m args pos) := by
  have hin := hc.inMacro
  unfold runMacro
  refine Steps.modify_bind (W.Holds c.inMacro) ?_ (fun _ o => ⟨o, rfl⟩) ?_
  · exact fun s hs => { hs with macroDepth := congrArg (· + 1) hs.macroDepth }
  refine Steps.bind (Q := fun _ => True) (Mirrors.inScope ?_ .isolated) fun output _ => ?_
  · refine Steps.bind (mirrors_bindParams hk hin ht (by omega) pos m.params args) fun _ _ => ?_
    exact mirrors_output hk hin ht (hin.code_macro ht hm) hn
  refine Steps.modify_bind (W.Holds c) ?_ (fun _ o => ⟨o, rfl⟩) (Steps.pure trivial)
  · exact fun s hs => { hs with macroDepth := congrArg (· - 1) hs.macroDepth }

lemma mirrors_callMacro (hk : W.Serves n k k') (hc : W.Valid c) (ht : W.admits t)
    (hn : W.effort c ≤ n) {name : String} {m : MacroDef} (hm : Dict.get? t.macros name = some m)
    (args : List Value) {caller : Option Caller} (hcaller : ∀ k ∈ caller, W.Places k)
    (pos : Position) :
    W.Mirrors c (fun _ => True) (callMacro W.env k t m args caller pos)
      (callMacro W.env (k' c.derived) t m args caller pos) := by
  unfold callMacro
  refine Steps.guard fun _ => Steps.get_bind ?_
  rintro s _ hs ⟨o, rfl⟩
  simp only [hs.macroDepth]
  refine Steps.guard fun hdepth => ?_
  have hdepth : c.macroDepth < W.maxDepth := Nat.lt_of_not_le hdepth
  cases caller with
  | none => exact mirrors_runMacro hk hc ht hm (Nat.le_trans (effort_inMacro hdepth) hn) args pos
  | some caller =>
    have hin : W.Valid (c.inCall caller) := hc.inCall (hcaller _ rfl)
    refine Steps.modify_bind (W.Holds (c.inCall caller)) ?_ (fun _ o => ⟨o, rfl⟩) ?_
    · exact fun s hs => { hs with callers := congrArg (caller :: ·) hs.callers }
    have hcost := Nat.le_trans (effort_inCall_inMacro caller hdepth) hn
    refine Steps.bind (mirrors_runMacro hk hin ht hm hcost args pos) fun v _ => ?_
    refine Steps.modify_bind (W.Holds c) ?_ (fun _ o => ⟨o, rfl⟩) (Steps.pure trivial)
    · exact fun s hs => { hs with callers := congrArg List.tail hs.callers }

/-- The body of a call block runs in the running chain, with the imports of its own template. -/
lemma mirrors_callCaller (hk : W.Serves n k k') (hc : W.Valid c) (hn : W.effort c ≤ n)
    (args : List Value) (pos : Position) :
    W.Mirrors c (fun _ => True) (callCaller k args pos)
      (callCaller (k' c.derived) args pos) := by
  unfold callCaller
  refine Steps.get_bind ?_
  rintro s _ hs ⟨o, rfl⟩
  simp only [hs.callers]
  cases hcallers : c.callers with
  | nil => exact Steps.fail
  | cons caller callers =>
    have hcaller : W.Places caller := hc.callers caller (hcallers ▸ List.mem_cons_self)
    have hin : W.Valid c.inCaller := hc.inCaller
    refine Steps.guard fun _ => ?_
    refine Steps.modify_bind (W.Holds c.inCaller) ?_ (fun _ o => ⟨o, rfl⟩) ?_
    · exact fun s hs => { hs with callers := (congrArg List.tail hcallers).symm }
    refine Steps.bind (Q := fun _ => True) (Mirrors.inScope ?_ caller.scope) fun output _ => ?_
    · have hcost : W.effort c.inCaller.unpinned + W.width + 2 ≤ n := by
        rw [effort_unpinned]
        exact Nat.le_trans (effort_inCaller hcallers) hn
      refine Mirrors.withImports ?_ hcaller.imports
      exact mirrors_output hk hin.unpinned hcaller.template (hin.code_caller hcaller) hcost
    refine Steps.modify_bind (W.Holds c) ?_ (fun _ o => ⟨o, rfl⟩) (Steps.pure trivial)
    · exact fun s hs => { hs with callers := hcallers.symm }

lemma mirrors_callName (hk : W.Serves n k k') (hc : W.Valid c) (ht : W.admits t)
    (hn : W.effort c ≤ n) (name : String) (args : List Value) {caller : Option Caller}
    (hcaller : ∀ k ∈ caller, W.Places k) (pos : Position) :
    W.Mirrors c (fun _ => True) (callName W.env k t name args caller pos)
      (callName W.env (k' c.derived) t name args caller pos) := by
  unfold callName
  cases hm : Dict.get? t.macros name with
  | some m => exact mirrors_callMacro hk hc ht hn hm args hcaller pos
  | none =>
    simp only
    split
    · exact mirrors_callCaller hk hc hn args pos
    · exact mirrors_typed pos _
    · exact mirrors_typed pos _
    · exact Steps.fail

lemma mirrors_aliased (base : Expr) :
    W.Mirrors c (fun r => ∀ m ∈ r, m.2.All W.admits) (aliased W.env base)
      (aliased W.env base) := by
  unfold aliased
  cases base with
  | var name =>
    refine Steps.bind (mirrors_lookup W.env.root name) fun v _ => Steps.ite ?_ ?_
    · refine Steps.get_bind ?_
      rintro s _ hs ⟨o, rfl⟩
      refine Steps.pure fun m hm => ?_
      obtain ⟨module, hmodule, rfl⟩ := Option.map_eq_some_iff.mp hm
      exact hs.imports _ (Dict.mem_of_get? hmodule)
    · exact Steps.pure fun _ hm => by cases hm
  | _ => exact Steps.pure fun _ hm => by cases hm

lemma mirrors_callMember (hk : W.Serves n k k') (hc : W.Valid c) (hn : W.effort c ≤ n)
    {module : Option (String × Module)} (hmodule : ∀ m ∈ module, m.2.All W.admits)
    {base base' : RenderM Value} (hbase : W.Mirrors c (fun _ => True) base base')
    (member : String) {args args' : RenderM (List Value)}
    (hargs : W.Mirrors c (fun _ => True) args args') (given : Nat) {caller : Option Caller}
    (hcaller : ∀ k ∈ caller, W.Places k) (pos : Position) :
    W.Mirrors c (fun _ => True) (callMember W.env k module base member args given caller pos)
      (callMember W.env (k' c.derived) module base' member args' given caller pos) := by
  unfold callMember
  cases module with
  | some aliased =>
    have hall := hmodule _ rfl
    simp only
    cases hm : Dict.get? aliased.2.template.macros member with
    | none => exact Steps.fail
    | some m =>
      refine Steps.bind hargs fun args _ => Mirrors.withImports ?_ hall.imports
      exact mirrors_callMacro hk hc.unpinned hall.template hn hm args hcaller pos
  | none =>
    refine Steps.bind hbase fun target _ => ?_
    exact Steps.guard fun _ => mirrors_mapView target member pos

/-! ### Expressions -/

mutual

theorem mirrors_eval (hk : W.Serves n k k') (hc : W.Valid c) (ht : W.admits t)
    (hn : W.effort c ≤ n) (pos : Position) (e : Expr) :
    W.Mirrors c (fun _ => True) (eval W.env k t pos e)
      (eval W.env (k' c.derived) t pos e) := by
  cases e with
  | lit value =>
    rw [eval, eval]
    exact Steps.pure trivial
  | var name =>
    rw [eval, eval]
    exact mirrors_lookup W.env.root name
  | list items =>
    rw [eval, eval]
    exact Steps.bind (mirrors_evalAll hk hc ht hn pos items) fun _ _ => Steps.pure trivial
  | dict entries =>
    rw [eval, eval]
    exact Steps.bind (mirrors_evalEntries hk hc ht hn pos [] entries) fun _ _ =>
      Steps.pure trivial
  | item base key =>
    rw [eval, eval]
    refine Steps.bind (mirrors_eval hk hc ht hn pos base) fun _ _ => ?_
    exact Steps.bind (mirrors_eval hk hc ht hn pos key) fun _ _ => Steps.pure trivial
  | binary op left right =>
    have hleft := mirrors_eval hk hc ht hn pos left
    have hright := mirrors_eval hk hc ht hn pos right
    by_cases hand : op = .and
    · subst hand
      rw [eval, eval]
      exact Steps.bind hleft fun _ _ => Steps.ite hright (Steps.pure trivial)
    by_cases hor : op = .or
    · subst hor
      rw [eval, eval]
      exact Steps.bind hleft fun _ _ => Steps.ite (Steps.pure trivial) hright
    rw [eval, eval]
    · exact Steps.bind hleft fun _ _ => Steps.bind hright fun _ _ => mirrors_typed pos _
    all_goals assumption
  | unary op operand =>
    have hoperand := mirrors_eval hk hc ht hn pos operand
    cases op with
    | not =>
      rw [eval, eval]
      exact Steps.bind hoperand fun _ _ => Steps.pure trivial
    | neg =>
      rw [eval, eval]
      exact Steps.bind hoperand fun _ _ => mirrors_typed pos _
  | filter base name args =>
    rw [eval, eval]
    refine Steps.bind (mirrors_eval hk hc ht hn pos base) fun v _ => ?_
    refine Steps.bind (mirrors_evalAll hk hc ht hn pos args) fun vs _ => ?_
    exact mirrors_applyFilter W.env name v vs pos
  | test base name args negated =>
    rw [eval, eval]
    refine Steps.bind (mirrors_eval hk hc ht hn pos base) fun v _ => ?_
    refine Steps.bind (mirrors_evalAll hk hc ht hn pos args) fun vs _ => ?_
    exact Steps.bind (mirrors_applyTest W.env name v vs pos) fun _ _ => Steps.pure trivial
  | call name args =>
    rw [eval, eval]
    refine Steps.bind (mirrors_evalAll hk hc ht hn pos args) fun vs _ => ?_
    exact mirrors_callName hk hc ht hn name vs (fun _ h => by cases h) pos
  | callMember base member args =>
    rw [eval, eval]
    refine Steps.bind (mirrors_aliased base) fun module hmodule => ?_
    exact mirrors_callMember hk hc hn hmodule (mirrors_eval hk hc ht hn pos base) member
      (mirrors_evalAll hk hc ht hn pos args) args.length (fun _ h => by cases h) pos
  | choice value condition otherwise =>
    rw [eval, eval]
    refine Steps.bind (mirrors_eval hk hc ht hn pos condition) fun _ _ => ?_
    exact Steps.ite (mirrors_eval hk hc ht hn pos value)
      (mirrors_evalOption hk hc ht hn pos otherwise)

theorem mirrors_evalAll (hk : W.Serves n k k') (hc : W.Valid c) (ht : W.admits t)
    (hn : W.effort c ≤ n) (pos : Position) (items : List Expr) :
    W.Mirrors c (fun _ => True) (evalAll W.env k t pos items)
      (evalAll W.env (k' c.derived) t pos items) := by
  cases items with
  | nil =>
    rw [evalAll, evalAll]
    exact Steps.pure trivial
  | cons e more =>
    rw [evalAll, evalAll]
    refine Steps.bind (mirrors_eval hk hc ht hn pos e) fun _ _ => ?_
    exact Steps.bind (mirrors_evalAll hk hc ht hn pos more) fun _ _ => Steps.pure trivial

theorem mirrors_evalEntries (hk : W.Serves n k k') (hc : W.Valid c) (ht : W.admits t)
    (hn : W.effort c ≤ n) (pos : Position) (d : Dict Value) (entries : List (Expr × Expr)) :
    W.Mirrors c (fun _ => True) (evalEntries W.env k t pos d entries)
      (evalEntries W.env (k' c.derived) t pos d entries) := by
  cases entries with
  | nil =>
    rw [evalEntries, evalEntries]
    exact Steps.pure trivial
  | cons entry more =>
    obtain ⟨key, value⟩ := entry
    rw [evalEntries, evalEntries]
    refine Steps.bind (mirrors_eval hk hc ht hn pos key) fun _ _ => ?_
    refine Steps.bind (mirrors_eval hk hc ht hn pos value) fun _ _ => ?_
    exact mirrors_evalEntries hk hc ht hn pos _ more

theorem mirrors_evalOption (hk : W.Serves n k k') (hc : W.Valid c) (ht : W.admits t)
    (hn : W.effort c ≤ n) (pos : Position) (e : Option Expr) :
    W.Mirrors c (fun _ => True) (evalOption W.env k t pos e)
      (evalOption W.env (k' c.derived) t pos e) := by
  cases e with
  | none =>
    rw [evalOption, evalOption]
    exact Steps.pure trivial
  | some e =>
    rw [evalOption, evalOption]
    exact mirrors_eval hk hc ht hn pos e

end

end Stencil.Render.World
