import Stencil.Proofs.ScopeArena

/-! Whose body `caller()` places. A macro that a call block invokes places the body of that call
block. A macro that is called in an expression has no body of its own to place; to it `caller()` is
what it is to the code that calls it. -/
namespace Stencil.Render

/-- Whether a macro is invoked. -/
def Job.invokes : Job → Bool
  | .invoking _ _ _ _ => true
  | _ => false

/-- Whether the body of a call block is placed. -/
def Job.places : Job → Bool
  | .placing _ => true
  | _ => false

/-- The call blocks that wait at a moment, innermost first: those whose macro runs, but for those
whose body is being placed. -/
inductive Waits (env : Env) : Moment → List Caller → Prop where
  | start {n t σ} : Waits env ⟨n, t, .template, State.initial env t, σ⟩ []
  | invoked {n t mac args caller pos s σ m' cs}
      (before : Waits env ⟨n, t, .invoking mac args caller pos, s, σ⟩ cs)
      (next : Meets env ⟨n, t, .invoking mac args caller pos, s, σ⟩ m') :
      Waits env m' (caller.toList ++ cs)
  | placed {m n t c s σ cs} (before : Waits env m (c :: cs))
      (next : Meets env m ⟨n, t, .placing c, s, σ⟩) : Waits env ⟨n, t, .placing c, s, σ⟩ cs
  | other {m m' cs} (before : Waits env m cs) (next : Meets env m m')
      (invokes : m.job.invokes = false) (places : m'.job.places = false) : Waits env m' cs

/-- The second moment is reached from the first one without the invocation of a macro, and not
through the body of a call block. -/
def Directly (env : Env) : Moment → Moment → Prop :=
  Relation.ReflTransGen fun m m' =>
    Meets env m m' ∧ m.job.invokes = false ∧ m'.job.places = false

/-- The second moment is one of the macro that is invoked at the first one, and not of another macro
or a call block. -/
def InMacro (env : Env) (m m' : Moment) : Prop :=
  m.job.invokes = true ∧ ∃ begins, Meets env m begins ∧ Directly env begins m'

/-- What some code comes to if it runs at a moment. -/
def Moment.outcome {α : Type} (m : Moment) (x : RenderM α) : Except Stop (α × State) × Session :=
  (x.run m.state).run m.session

/-- Places the body of a call block while the others wait. -/
def placeCaller (calls : Calls) (c : Caller) (others : List Caller) : RenderM Value := do
  modify fun s => { s with callers := others }
  let output ← inScope c.scope <| withImports c.imports do
    let (flow, output) ← calls.exec c.template c.body
    leftover flow
    return output
  modify fun s => { s with callers := c :: others }
  return .safe output

variable {env : Env} {m m' : Moment} {c : Caller} {cs : List Caller}

/-! ### The call blocks that wait -/

/-- Only the invocation of a macro and the body of a call block change which call blocks wait. -/
lemma Meets.callers_eq (h : Meets env m m') (hinvokes : m.job.invokes = false)
    (hplaces : m'.job.places = false) : m'.state.callers = m.state.callers := by
  cases h.shift with
  | stays _ callers | nests _ callers => exact callers
  | resumes c _ _ placing =>
    rw [placing] at hplaces
    cases hplaces
  | isolates _ callers =>
    cases h with
    | invoke => cases hinvokes
    | caller => cases hplaces
    | named _ run | member _ _ run => exact run.restored_evalAll.written.callers_eq
    | args | base | memberArgs => rfl
    | _ => exact callers

lemma Waits.callers_eq (h : Waits env m cs) : m.state.callers = cs := by
  induction h with
  | start => rfl
  | invoked before next ih =>
    cases next
    exact congrArg _ ih
  | placed before next ih =>
    cases next with
    | caller _ run innermost =>
      have hsame := run.restored_evalAll.written.callers_eq.trans ih
      exact (List.cons.inj (innermost.symm.trans hsame)).2
  | other before next invokes places ih => exact (next.callers_eq invokes places).trans ih

lemma Reached.waits (h : Reached env m) : Waits env m m.state.callers := by
  obtain ⟨n, t, σ, hwithin⟩ := h
  induction hwithin with
  | refl => exact .start
  | @tail m m' _ next ih =>
    cases hinvokes : m.job.invokes with
    | true =>
      obtain ⟨n, t, job, s, σ⟩ := m
      cases job <;> cases hinvokes
      have hnext := Waits.invoked ih next
      rwa [← hnext.callers_eq] at hnext
    | false =>
      cases hplaces : m'.job.places with
      | true =>
        obtain ⟨n, t, job, s, σ⟩ := m'
        cases job <;> cases hplaces
        cases hshift : next.shift with
        | stays _ _ placing | nests _ _ placing | isolates _ _ placing =>
          exact absurd rfl (placing _)
        | resumes c _ callers placing =>
          cases placing
          rw [callers] at ih
          exact .placed ih next
      | false => exact next.callers_eq hinvokes hplaces ▸ ih.other next hinvokes hplaces

/-- The evaluator keeps the call blocks that wait. -/
theorem waits_iff : Waits env m cs ↔ Reached env m ∧ m.state.callers = cs := by
  refine ⟨fun h => ⟨?_, h.callers_eq⟩, fun ⟨h, hcs⟩ => hcs ▸ h.waits⟩
  induction h with
  | start => exact ⟨_, _, _, .refl⟩
  | invoked _ next ih | placed _ next ih | other _ next _ _ ih => exact ih.within (.single next)

lemma Directly.callers_eq (h : Directly env m m') : m'.state.callers = m.state.callers := by
  induction h with
  | refl => rfl
  | tail _ next ih => exact (next.1.callers_eq next.2.1 next.2.2).trans ih

/-! ### What `caller()` is -/

section

variable {calls : Calls} {pos : Position}

lemma outcome_caller (hfree : Dict.get? m.template.macros "caller" = none) :
    m.outcome (eval env calls m.template pos (.call "caller" [])) =
      m.outcome (callCaller calls [] pos) := by
  rw [eval, evalAll, pure_bind, callName, hfree]

lemma outcome_callCaller_nil (hs : m.state.callers = []) :
    m.outcome (callCaller calls [] pos) =
      (.error (.error (.unknownMacro "caller" pos)), m.session) := by
  unfold callCaller Moment.outcome
  rw [run_bind_get, hs]
  rfl

lemma outcome_callCaller_cons (hs : m.state.callers = c :: cs) :
    m.outcome (callCaller calls [] pos) = m.outcome (placeCaller calls c cs) := by
  unfold callCaller Moment.outcome
  rw [run_bind_get, hs]
  rfl

end

/-- In the body of a macro that a call block invokes `caller()` places the body of that call block.
If the macro is called in an expression, there is no such call block, and the innermost one that
waits where the macro is called takes its place; only if none waits there is `caller()` an unknown
macro. -/
theorem caller_of_inMacro {mac : MacroDef} {args : List Value} {caller : Option Caller}
    {pos pos' : Position} (hjob : m.job = .invoking mac args caller pos) (hwaits : Waits env m cs)
    (h : InMacro env m m') (hfree : Dict.get? m'.template.macros "caller" = none) :
    (∀ c, caller = some c →
      m'.outcome (eval env (callsAt env m'.fuel) m'.template pos' (.call "caller" [])) =
        m'.outcome (placeCaller (callsAt env m'.fuel) c cs)) ∧
    (∀ c others, caller = none → cs = c :: others →
      m'.outcome (eval env (callsAt env m'.fuel) m'.template pos' (.call "caller" [])) =
        m'.outcome (placeCaller (callsAt env m'.fuel) c others)) ∧
    (caller = none → cs = [] →
      m'.outcome (eval env (callsAt env m'.fuel) m'.template pos' (.call "caller" [])) =
        (.error (.error (.unknownMacro "caller" pos')), m'.session)) := by
  have hcallers : m'.state.callers = caller.toList ++ cs := by
    obtain ⟨-, begins, next, hdirectly⟩ := h
    obtain ⟨n, t, job, s, σ⟩ := m
    cases hjob
    rw [hdirectly.callers_eq]
    exact (Waits.invoked hwaits next).callers_eq
  rw [outcome_caller hfree]
  refine ⟨?_, ?_, ?_⟩
  · rintro c rfl
    exact outcome_callCaller_cons hcallers
  · rintro c others rfl rfl
    exact outcome_callCaller_cons hcallers
  · rintro rfl rfl
    exact outcome_callCaller_nil hcallers

/-- A macro that places a body if `caller()` is known to it. -/
def placer : MacroDef := ⟨"place", [], [.print (.call "caller" []) .start]⟩

/-- A template whose macro `frame` is invoked by a call block with the given body. -/
def framedBy (frame body : List Instr) : Template where
  name := none
  dialect := .jinja
  body := [.callBlock (.name "frame") [] body .start]
  macros := [("frame", ⟨"frame", [], frame⟩), ("place", placer)]
  blocks := []
  parent := none

/-- The macro is called in the body of the call block, which the macro `frame` places, and
`caller()` is unknown to it. If `frame` itself calls it, it places the body of the call block. -/
theorem caller_of_inMacro_placer :
    (∃ m m' : Moment, m.job = .invoking placer [] none .start ∧ InMacro ⟨Engine.default, []⟩ m m' ∧
      m'.outcome (eval ⟨Engine.default, []⟩ (callsAt ⟨Engine.default, []⟩ m'.fuel) m'.template
          .start (.call "caller" [])) =
        (.error (.error (.unknownMacro "caller" .start)), m'.session)) ∧
    ∃ m m' : Moment, m.job = .invoking placer [] none .start ∧ InMacro ⟨Engine.default, []⟩ m m' ∧
      m'.outcome (eval ⟨Engine.default, []⟩ (callsAt ⟨Engine.default, []⟩ m'.fuel) m'.template
          .start (.call "caller" [])) = (.ok (.safe "x", m'.state), m'.session) := by
  let env : Env := ⟨Engine.default, []⟩
  let calls (name : String) : List Instr := [.print (.call name []) .start]
  have hcall : ∀ {n t name more s σ},
      Within env ⟨n, t, .code (.print (.call name []) .start :: more), s, σ⟩
        ⟨n, t, .calling (.name name) [] none .start, s, σ⟩ :=
    .tail (.tail (.single (.operands rfl)) .first) .call
  -- both runs begin with the call block, which invokes `frame`
  let entered (body : List Instr) (t : Template) : State :=
    { State.initial env t with
      callers := [⟨body, .root, t, []⟩]
      macroDepth := 1 }.opened .isolated
  have hframe : ∀ n frame body, Reached env
      ⟨n, framedBy frame body, .code frame, entered body (framedBy frame body), {}⟩ := by
    intro n frame body
    refine ⟨n + 1, framedBy frame body, {}, ?_⟩
    exact .tail (.tail (.tail (.tail (.single (.start rfl)) .callBlock) (.named rfl rfl))
      (.invoke (Nat.le_refl 0) (Nat.zero_lt_succ 63))) .body
  refine ⟨?_, ?_⟩
  · let t := framedBy (calls "caller") (calls "place")
    let s : State := { entered (calls "place") t with callers := [] }.opened .root
    let m : Moment := ⟨0, t, .invoking placer [] none .start, s, {}⟩
    have hargs : Yields (evalAll env (callsAt env 1) t .start []) (entered (calls "place") t) {} []
        (entered (calls "place") t) {} := rfl
    have hplaced : Within env ⟨1, t, .code (calls "caller"), entered (calls "place") t, {}⟩ m :=
      (hcall.tail (.caller rfl hargs rfl)).trans ((Relation.ReflTransGen.single .placed).trans
        (hcall.tail (.named rfl rfl)))
    have hwaits : Waits env m [] := waits_iff.mpr ⟨(hframe 1 _ _).within hplaced, rfl⟩
    have hmacro : InMacro env m _ := ⟨rfl, _, .invoke (Nat.le_refl 0) (by decide), .refl⟩
    exact ⟨m, _, rfl, hmacro, (caller_of_inMacro rfl hwaits hmacro rfl).2.2 rfl rfl⟩
  · let t := framedBy (calls "place") [.text "x"]
    let m : Moment := ⟨1, t, .invoking placer [] none .start, entered [.text "x"] t, {}⟩
    have hm : Reached env m := (hframe 1 _ _).within (hcall.tail (.named rfl rfl))
    have hwaits : Waits env m [⟨[.text "x"], .root, t, []⟩] := waits_iff.mpr ⟨hm, rfl⟩
    have hmacro : InMacro env m _ := ⟨rfl, _, .invoke (Nat.le_refl 0) (by decide), .refl⟩
    exact ⟨m, _, rfl, hmacro, (caller_of_inMacro rfl hwaits hmacro rfl).2.1 _ _ rfl rfl⟩

end Stencil.Render
