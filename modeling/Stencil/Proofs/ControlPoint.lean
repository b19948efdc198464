import Mathlib.Logic.Relation
import Stencil.Render.Template

/-! The points that the evaluator passes on its way up a chain of templates and through the bodies
of their blocks. -/
namespace Stencil.Render

/-- The action ends well. -/
def Yields {α : Type} (x : RenderM α) (s : State) (σ : Session) (a : α) (t : State) (τ : Session) :
    Prop :=
  (x.run s).run σ = (.ok (a, t), τ)

/-- What is left to be done of the code that runs. -/
inductive Task where
  /-- The top level of a template that extends another one. -/
  | setUp (code : List Instr)
  | body (code : List Instr)
  /-- The rounds of a loop, the next of which has the number `i`. -/
  | rounds (binding : Binding) (pos : Position) (code : List Instr) (length i : Nat)
      (items : List Value)

/-- A point of a run. -/
structure Point where
  fuel : Nat
  template : Template
  task : Task
  state : State
  session : Session

/-- The point at which a template starts. -/
def Point.start (n : Nat) (t : Template) (s : State) (σ : Session) : Point :=
  match t.parent with
  | none => ⟨n, t, .body t.body, s, σ⟩
  | some _ => ⟨n, t, .setUp t.body, { s with overrides := addOverrides t s.overrides }, σ⟩

/-- Opens the scope of a round. -/
def openRound (binding : Binding) (pos : Position) (length i : Nat) (item : Value) :
    RenderM Unit := do
  let _ ← pushScope (← here)
  setLocals (← typed pos (bindItem binding item))
  setLocal "loop" (loopState i length)

/-- A whole round. -/
def playRound (env : Env) (calls : Calls) (t : Template) (binding : Binding) (pos : Position)
    (code : List Instr) (length i : Nat) (item : Value) : RenderM (Flow × String) := do
  inScope (← here) do
    setLocals (← typed pos (bindItem binding item))
    setLocal "loop" (loopState i length)
    execAll env calls t "" code

/-- From one point to the next: behind an instruction, into its body, into the body of the block
that it places, or from a template to the one that it extends. -/
inductive Next (env : Env) : Point → Point → Prop where
  | settle {n t i more s σ r s' σ'} (h : isSetup i = true)
      (run : Yields (exec env (callsAt env n) t i) s σ r s' σ') :
      Next env ⟨n, t, .setUp (i :: more), s, σ⟩ ⟨n, t, .setUp more, s', σ'⟩
  | skip {n t i more s σ} (h : isSetup i = false) :
      Next env ⟨n, t, .setUp (i :: more), s, σ⟩ ⟨n, t, .setUp more, s, σ⟩
  | ascend {n t path pos s σ name s₁ σ₁ parent s' σ'} (h : t.parent = some (path, pos))
      (eval : Yields (evalPath env (callsAt env (n + 1)) t path pos) s σ name s₁ σ₁)
      (entered : Yields (enter env name pos) s₁ σ₁ parent s' σ') :
      Next env ⟨n + 1, t, .setUp [], s, σ⟩ (.start n parent s' σ')
  | pass {n t i more s σ output s' σ'}
      (run : Yields (exec env (callsAt env n) t i) s σ (.normal, output) s' σ') :
      Next env ⟨n, t, .body (i :: more), s, σ⟩ ⟨n, t, .body more, s', σ'⟩
  | branch {n t condition body otherwise pos more s σ v s' σ'}
      (run : Yields (eval env (callsAt env n) t pos condition) s σ v s' σ') :
      Next env ⟨n, t, .body (.branch condition body otherwise pos :: more), s, σ⟩
        ⟨n, t, .body (if v.isTruthy then body else otherwise), s', σ'⟩
  | otherwise {n t binding iterable body otherwise pos more s σ v s' σ'}
      (run : Yields (eval env (callsAt env n) t pos iterable) s σ v s' σ')
      (empty : loopItems binding v = .ok []) :
      Next env ⟨n, t, .body (.forEach binding iterable body otherwise pos :: more), s, σ⟩
        ⟨n, t, .body otherwise, s', σ'⟩
  | rounds {n t binding iterable body otherwise pos more s σ v item items s' σ'}
      (run : Yields (eval env (callsAt env n) t pos iterable) s σ v s' σ')
      (filled : loopItems binding v = .ok (item :: items)) :
      Next env ⟨n, t, .body (.forEach binding iterable body otherwise pos :: more), s, σ⟩
        ⟨n, t, .rounds binding pos body (item :: items).length 0 (item :: items), s', σ'⟩
  | round {n t binding pos code length i item items s σ s' σ'}
      (run : Yields (openRound binding pos length i item) s σ () s' σ') :
      Next env ⟨n, t, .rounds binding pos code length i (item :: items), s, σ⟩
        ⟨n, t, .body code, s', σ'⟩
  | nextRound {n t binding pos code length i item items s σ flow output s' σ'}
      (run : Yields (playRound env (callsAt env n) t binding pos code length i item) s σ
        (flow, output) s' σ')
      (stays : ∀ pos, flow ≠ .exitLoop pos) :
      Next env ⟨n, t, .rounds binding pos code length i (item :: items), s, σ⟩
        ⟨n, t, .rounds binding pos code length (i + 1) items, s', σ'⟩
  | scoped {n t bindings body pos more s σ vars s₁ σ₁ s' σ'}
      (run : Yields (evalBindings env (callsAt env n) t pos bindings) s σ vars s₁ σ₁)
      (opened : Yields (do let _ ← pushScope (← here); setLocals vars) s₁ σ₁ () s' σ') :
      Next env ⟨n, t, .body (.scoped bindings body pos :: more), s, σ⟩
        ⟨n, t, .body body, s', σ'⟩
  | autoescape {n t enabled body more s σ} :
      Next env ⟨n, t, .body (.autoescape enabled body :: more), s, σ⟩
        ⟨n, t, .body body, { s with autoescape := enabled }, σ⟩
  | filtered {n t filters body pos more s σ} :
      Next env ⟨n, t, .body (.filtered filters body pos :: more), s, σ⟩ ⟨n, t, .body body, s, σ⟩
  | block {n t name more s σ body}
      (placed : Dict.get? ((Dict.get? s.overrides name).getD t).blocks name = some body) :
      Next env ⟨n + 1, t, .body (.block name :: more), s, σ⟩
        ⟨n, (Dict.get? s.overrides name).getD t, .body body, s, σ⟩

end Stencil.Render
