import Mathlib.Logic.Relation
import Stencil.Proofs.FramedInstr

/-! The moments of a run: whatever the evaluator begins to do, with the state in which it begins.
Each moment follows from one in which what it is part of has begun, so that a moment is reached
from another one only while the work of the other goes on. -/
namespace Stencil

/-- What is evaluated of an expression, from left to right, before its value is decided. -/
def Expr.operands : Expr → List Expr
  | .lit _ | .var _ | .call _ _ | .callMember _ _ _ => []
  | .list items => items
  | .dict entries => entries.flatMap fun entry => [entry.1, entry.2]
  | .item base key => [base, key]
  | .binary .and left _ | .binary .or left _ => [left]
  | .binary _ left right => [left, right]
  | .unary _ operand => [operand]
  | .filter base _ args | .test base _ args _ => base :: args
  | .choice _ condition _ => [condition]

/-- What an instruction evaluates before it does anything else, with the position for errors. -/
def Instr.operands : Instr → Option (Position × List Expr)
  | .print e pos | .branch e _ _ pos | .forEach _ e _ _ pos | .assign _ e pos
  | .including e pos => some (pos, [e])
  | .scoped bindings _ pos => some (pos, bindings.map Prod.snd)
  | _ => none

namespace Render

/-- What begins at a moment. -/
inductive Job where
  | template
  /-- The rest of the top level of a template that extends another one. -/
  | setUp (code : List Instr)
  | code (code : List Instr)
  /-- The rounds of a loop, the next of which has the number `i`. -/
  | rounds (binding : Binding) (pos : Position) (code : List Instr) (length i : Nat)
      (items : List Value)
  /-- Stores variables in the scope that has been opened for the code. -/
  | entering (vars : List (String × Value)) (code : List Instr)
  | expr (pos : Position) (e : Expr)
  | exprs (pos : Position) (es : List Expr)
  | calling (callee : Callee) (args : List Expr) (caller : Option Caller) (pos : Position)
  | invoking (m : MacroDef) (args : List Value) (caller : Option Caller) (pos : Position)
  /-- Binds the rest of the parameters in the scope that has been opened for the body. -/
  | params (params : List Param) (args : List Value) (body : List Instr) (pos : Position)
  /-- Places the body of a call block in the scope that has been opened for it. -/
  | placing (caller : Caller)
  | load (path : Expr) (pos : Position)
  /-- Loads what the rest of the top level of an imported template imports. -/
  | imports (code : List Instr)

/-- The call block that a call hands over to the macro. -/
def Job.caller? : Job → Option Caller
  | .calling _ _ caller _ | .invoking _ _ caller _ => caller
  | _ => none

/-- A moment of a run. -/
structure Moment where
  fuel : Nat
  template : Template
  job : Job
  state : State
  session : Session

/-- The state with a new scope, which runs. -/
def State.opened (s : State) (parent : Link) : State :=
  { s with scopes := s.scopes.push ⟨[], parent⟩, current := some s.scopes.size }

/-- What begins next, or as a part of what begins now. -/
inductive Meets (env : Env) : Moment → Moment → Prop where
  -- templates
  | start {n t s σ} (base : t.parent = none) :
      Meets env ⟨n, t, .template, s, σ⟩ ⟨n, t, .code t.body, s, σ⟩
  | extend {n t s σ p} (above : t.parent = some p) :
      Meets env ⟨n, t, .template, s, σ⟩
        ⟨n, t, .setUp t.body, { s with overrides := addOverrides t s.overrides }, σ⟩
  | settle {n t i more s σ} (setup : isSetup i = true) :
      Meets env ⟨n, t, .setUp (i :: more), s, σ⟩ ⟨n, t, .code [i], s, σ⟩
  | settled {n t i more s σ r s' σ'} (setup : isSetup i = true)
      (run : Yields (exec env (callsAt env n) t i) s σ r s' σ') :
      Meets env ⟨n, t, .setUp (i :: more), s, σ⟩ ⟨n, t, .setUp more, s', σ'⟩
  | skip {n t i more s σ} (setup : isSetup i = false) :
      Meets env ⟨n, t, .setUp (i :: more), s, σ⟩ ⟨n, t, .setUp more, s, σ⟩
  | parentPath {n t path pos s σ} (above : t.parent = some (path, pos)) :
      Meets env ⟨n, t, .setUp [], s, σ⟩ ⟨n, t, .expr pos path, s, σ⟩
  | ascend {n t path pos s σ name s₁ σ₁ parent s' σ'} (above : t.parent = some (path, pos))
      (eval : Yields (evalPath env (callsAt env (n + 1)) t path pos) s σ name s₁ σ₁)
      (entered : Yields (enter env name pos) s₁ σ₁ parent s' σ') :
      Meets env ⟨n + 1, t, .setUp [], s, σ⟩ ⟨n, parent, .template, s', σ'⟩
  -- instructions
  | pass {n t i more s σ output s' σ'}
      (run : Yields (exec env (callsAt env n) t i) s σ (.normal, output) s' σ') :
      Meets env ⟨n, t, .code (i :: more), s, σ⟩ ⟨n, t, .code more, s', σ'⟩
  | operands {n t i more s σ pos es} (operands : i.operands = some (pos, es)) :
      Meets env ⟨n, t, .code (i :: more), s, σ⟩ ⟨n, t, .exprs pos es, s, σ⟩
  | branch {n t condition body otherwise pos more s σ v s' σ'}
      (run : Yields (eval env (callsAt env n) t pos condition) s σ v s' σ') :
      Meets env ⟨n, t, .code (.branch condition body otherwise pos :: more), s, σ⟩
        ⟨n, t, .code (if v.isTruthy then body else otherwise), s', σ'⟩
  | otherwise {n t binding iterable body otherwise pos more s σ v s' σ'}
      (run : Yields (eval env (callsAt env n) t pos iterable) s σ v s' σ')
      (empty : loopItems binding v = .ok []) :
      Meets env ⟨n, t, .code (.forEach binding iterable body otherwise pos :: more), s, σ⟩
        ⟨n, t, .code otherwise, s', σ'⟩
  | rounds {n t binding iterable body otherwise pos more s σ v item items s' σ'}
      (run : Yields (eval env (callsAt env n) t pos iterable) s σ v s' σ')
      (filled : loopItems binding v = .ok (item :: items)) :
      Meets env ⟨n, t, .code (.forEach binding iterable body otherwise pos :: more), s, σ⟩
        ⟨n, t, .rounds binding pos body (item :: items).length 0 (item :: items), s', σ'⟩
  | round {n t binding pos code length i item items s σ vars}
      (bound : bindItem binding item = .ok vars) :
      Meets env ⟨n, t, .rounds binding pos code length i (item :: items), s, σ⟩
        ⟨n, t, .entering (vars ++ [("loop", loopState i length)]) code, s.opened s.here, σ⟩
  | nextRound {n t binding pos code length i item items s σ flow output s' σ'}
      (run : Yields (playRound env (callsAt env n) t binding pos code length i item) s σ
        (flow, output) s' σ')
      (stays : ∀ pos, flow ≠ .exitLoop pos) :
      Meets env ⟨n, t, .rounds binding pos code length i (item :: items), s, σ⟩
        ⟨n, t, .rounds binding pos code length (i + 1) items, s', σ'⟩
  | callBlock {n t callee args body pos more s σ} :
      Meets env ⟨n, t, .code (.callBlock callee args body pos :: more), s, σ⟩
        ⟨n, t, .calling callee args (some ⟨body, s.here, t, s.imports⟩) pos, s, σ⟩
  | scoped {n t bindings body pos more s σ vars s' σ'}
      (run : Yields (evalBindings env (callsAt env n) t pos bindings) s σ vars s' σ') :
      Meets env ⟨n, t, .code (.scoped bindings body pos :: more), s, σ⟩
        ⟨n, t, .entering vars body, s'.opened s'.here, σ'⟩
  | block {n t name more s σ body}
      (placed : Dict.get? ((Dict.get? s.overrides name).getD t).blocks name = some body) :
      Meets env ⟨n + 1, t, .code (.block name :: more), s, σ⟩
        ⟨n, (Dict.get? s.overrides name).getD t, .code body, s, σ⟩
  | including {n t path pos more s σ name s₁ σ₁ included s' σ'}
      (eval : Yields (evalPath env (callsAt env (n + 1)) t path pos) s σ name s₁ σ₁)
      (entered : Yields (enter env name pos) s₁ σ₁ included s' σ') :
      Meets env ⟨n + 1, t, .code (.including path pos :: more), s, σ⟩
        ⟨n, included, .template, { s' with overrides := [] }.opened s'.here, σ'⟩
  | importing {n t path asName pos more s σ} :
      Meets env ⟨n + 1, t, .code (.importing path asName pos :: more), s, σ⟩
        ⟨n, t, .load path pos, s, σ⟩
  | autoescape {n t enabled body more s σ} :
      Meets env ⟨n, t, .code (.autoescape enabled body :: more), s, σ⟩
        ⟨n, t, .code body, { s with autoescape := enabled }, σ⟩
  | filtered {n t filters body pos more s σ} :
      Meets env ⟨n, t, .code (.filtered filters body pos :: more), s, σ⟩ ⟨n, t, .code body, s, σ⟩
  | filterArgs {n t before f after body pos more s σ flow output s₁ σ₁ v s' σ'}
      (run : Yields (execAll env (callsAt env n) t "" body) s σ (flow, output) s₁ σ₁)
      (filters : Yields (applyFilters env (callsAt env n) t pos before (.safe output)) s₁ σ₁ v
        s' σ') :
      Meets env ⟨n, t, .code (.filtered (before ++ f :: after) body pos :: more), s, σ⟩
        ⟨n, t, .exprs pos f.args, s', σ'⟩
  | entering {n t name v vars code s σ s' σ'} (run : Yields (setLocal name v) s σ () s' σ') :
      Meets env ⟨n, t, .entering ((name, v) :: vars) code, s, σ⟩
        ⟨n, t, .entering vars code, s', σ'⟩
  | entered {n t code s σ} :
      Meets env ⟨n, t, .entering [] code, s, σ⟩ ⟨n, t, .code code, s, σ⟩
  -- expressions
  | parts {n t pos e s σ} :
      Meets env ⟨n, t, .expr pos e, s, σ⟩ ⟨n, t, .exprs pos e.operands, s, σ⟩
  | first {n t pos e es s σ} :
      Meets env ⟨n, t, .exprs pos (e :: es), s, σ⟩ ⟨n, t, .expr pos e, s, σ⟩
  | next {n t pos e es s σ v s' σ'} (run : Yields (eval env (callsAt env n) t pos e) s σ v s' σ') :
      Meets env ⟨n, t, .exprs pos (e :: es), s, σ⟩ ⟨n, t, .exprs pos es, s', σ'⟩
  | both {n t pos left right s σ v s' σ'}
      (run : Yields (eval env (callsAt env n) t pos left) s σ v s' σ')
      (truthy : v.isTruthy = true) :
      Meets env ⟨n, t, .expr pos (.binary .and left right), s, σ⟩ ⟨n, t, .expr pos right, s', σ'⟩
  | either {n t pos left right s σ v s' σ'}
      (run : Yields (eval env (callsAt env n) t pos left) s σ v s' σ')
      (falsy : v.isTruthy = false) :
      Meets env ⟨n, t, .expr pos (.binary .or left right), s, σ⟩ ⟨n, t, .expr pos right, s', σ'⟩
  | chosen {n t pos value condition otherwise s σ v s' σ'}
      (run : Yields (eval env (callsAt env n) t pos condition) s σ v s' σ')
      (truthy : v.isTruthy = true) :
      Meets env ⟨n, t, .expr pos (.choice value condition otherwise), s, σ⟩
        ⟨n, t, .expr pos value, s', σ'⟩
  | unchosen {n t pos value condition otherwise s σ v s' σ'}
      (run : Yields (eval env (callsAt env n) t pos condition) s σ v s' σ')
      (falsy : v.isTruthy = false) :
      Meets env ⟨n, t, .expr pos (.choice value condition (some otherwise)), s, σ⟩
        ⟨n, t, .expr pos otherwise, s', σ'⟩
  | call {n t pos name args s σ} :
      Meets env ⟨n, t, .expr pos (.call name args), s, σ⟩
        ⟨n, t, .calling (.name name) args none pos, s, σ⟩
  | callMember {n t pos base member args s σ} :
      Meets env ⟨n, t, .expr pos (.callMember base member args), s, σ⟩
        ⟨n, t, .calling (.member base member) args none pos, s, σ⟩
  -- calls
  | args {n t name args caller pos s σ} :
      Meets env ⟨n, t, .calling (.name name) args caller pos, s, σ⟩ ⟨n, t, .exprs pos args, s, σ⟩
  | named {n t name args caller pos s σ m vs s' σ'} (found : Dict.get? t.macros name = some m)
      (run : Yields (evalAll env (callsAt env n) t pos args) s σ vs s' σ') :
      Meets env ⟨n, t, .calling (.name name) args caller pos, s, σ⟩
        ⟨n, t, .invoking m vs caller pos, s', σ'⟩
  | caller {n t args caller pos s σ s' σ' c callers} (free : Dict.get? t.macros "caller" = none)
      (run : Yields (evalAll env (callsAt env (n + 1)) t pos args) s σ [] s' σ')
      (innermost : s'.callers = c :: callers) :
      Meets env ⟨n + 1, t, .calling (.name "caller") args caller pos, s, σ⟩
        ⟨n, c.template, .placing c,
          { s' with callers := callers, imports := c.imports }.opened c.scope, σ'⟩
  | base {n t base member args caller pos s σ}
      (unknown : Yields (aliased env base) s σ none s σ) :
      Meets env ⟨n, t, .calling (.member base member) args caller pos, s, σ⟩
        ⟨n, t, .expr pos base, s, σ⟩
  | memberArgs {n t base member args caller pos s σ named m}
      (known : Yields (aliased env base) s σ (some named) s σ)
      (found : Dict.get? named.2.template.macros member = some m) :
      Meets env ⟨n, t, .calling (.member base member) args caller pos, s, σ⟩
        ⟨n, t, .exprs pos args, s, σ⟩
  | member {n t base member args caller pos s σ named m vs s' σ'}
      (known : Yields (aliased env base) s σ (some named) s σ)
      (found : Dict.get? named.2.template.macros member = some m)
      (run : Yields (evalAll env (callsAt env n) t pos args) s σ vs s' σ') :
      Meets env ⟨n, t, .calling (.member base member) args caller pos, s, σ⟩
        ⟨n, named.2.template, .invoking m vs caller pos, { s' with imports := named.2.imports }, σ'⟩
  | invoke {n t m args caller pos s σ} (arity : args.length ≤ m.params.length)
      (depth : s.macroDepth < env.engine.config.maxDepth) :
      Meets env ⟨n, t, .invoking m args caller pos, s, σ⟩
        ⟨n, t, .params m.params args m.body pos,
          { s with
            callers := caller.toList ++ s.callers
            macroDepth := s.macroDepth + 1 }.opened .isolated, σ⟩
  | default {n t p params body pos e s σ} (default : p.default = some e) :
      Meets env ⟨n + 1, t, .params (p :: params) [] body pos, s, σ⟩ ⟨n, t, .expr pos e, s, σ⟩
  | bound {n t p params args body pos s σ s' σ'}
      (run : Yields (bindParams (callsAt env n) t pos [p] (args.take 1)) s σ () s' σ') :
      Meets env ⟨n, t, .params (p :: params) args body pos, s, σ⟩
        ⟨n, t, .params params args.tail body pos, s', σ'⟩
  | body {n t args body pos s σ} :
      Meets env ⟨n + 1, t, .params [] args body pos, s, σ⟩ ⟨n, t, .code body, s, σ⟩
  | placed {n t c s σ} : Meets env ⟨n, t, .placing c, s, σ⟩ ⟨n, t, .code c.body, s, σ⟩
  -- imports
  | path {n t path pos s σ} : Meets env ⟨n, t, .load path pos, s, σ⟩ ⟨n, t, .expr pos path, s, σ⟩
  | loaded {n t path pos s σ name s₁ σ₁ imported s' σ'}
      (eval : Yields (evalPath env (callsAt env n) t path pos) s σ name s₁ σ₁)
      (entered : Yields (enter env name pos) s₁ σ₁ imported s' σ') :
      Meets env ⟨n, t, .load path pos, s, σ⟩ ⟨n, imported, .imports imported.body, s', σ'⟩
  | inner {n t path asName pos more s σ} :
      Meets env ⟨n + 1, t, .imports (.importing path asName pos :: more), s, σ⟩
        ⟨n, t, .load path pos, s, σ⟩
  | nextInner {n t path asName pos more s σ module s' σ'}
      (run : Yields ((callsAt env n).load t path pos) s σ module s' σ') :
      Meets env ⟨n, t, .imports (.importing path asName pos :: more), s, σ⟩
        ⟨n, t, .imports more, s', σ'⟩
  | skipInner {n t i more s σ} (other : ∀ path asName pos, i ≠ .importing path asName pos) :
      Meets env ⟨n, t, .imports (i :: more), s, σ⟩ ⟨n, t, .imports more, s, σ⟩

/-- The second moment is reached while what begins at the first one goes on. -/
def Within (env : Env) : Moment → Moment → Prop := Relation.ReflTransGen (Meets env)

/-- A moment of the rendering of a template with the variables of `env`. -/
def Reached (env : Env) (m : Moment) : Prop :=
  ∃ n t σ, Within env ⟨n, t, .template, State.initial env t, σ⟩ m

end Render

end Stencil
