import Stencil.Render.Function

/-! Evaluating expressions. Code units other than the running one are reached through `Calls`. -/
namespace Stencil

/-- A literal as a value. -/
def Literal.toValue : Literal → Value
  | .null => .null
  | .bool b => .bool b
  | .int i => .int i
  | .float x => .float x
  | .str s => .str s

/-- Applies an operator to two values. The logical operators decide without the second one. -/
def BinaryOp.apply (op : BinaryOp) (a b : Value) : Except Fault Value :=
  match op with
  | .add => a.add b
  | .sub => a.sub b
  | .mul => a.mul b
  | .div => a.div b
  | .floorDiv => a.floorDiv b
  | .rem => a.rem b
  | .concat => .ok (a.concat b)
  | .equal => .ok (.bool (a.looseEq b))
  | .notEqual => .ok (.bool !(a.looseEq b))
  | .less => (a.order b).map fun o => .bool o.isLT
  | .greater => (a.order b).map fun o => .bool o.isGT
  | .lessEqual => (a.order b).map fun o => .bool o.isLE
  | .greaterEqual => (a.order b).map fun o => .bool o.isGE
  | .isIn => (b.contains a).map .bool
  | .notIn => (b.contains a).map fun r => .bool !r
  | .and => .ok (if a.isTruthy then b else a)
  | .or => .ok (if a.isTruthy then a else b)

namespace Render

/-- What stays the same while a template runs. -/
structure Env where
  engine : Engine
  /-- The variables given by the caller of the engine. -/
  root : Dict Value

/-- How running code starts other code: the default of a parameter, the body of a macro, a call
block or a block, another template, and the import of a template. -/
structure Calls where
  eval : Template → Position → Expr → RenderM Value
  exec : Template → List Instr → RenderM (Flow × String)
  render : Template → RenderM String
  load : Template → Expr → Position → RenderM Module

/-- Applies a filter by name. -/
def applyFilter (env : Env) (name : String) (v : Value) (args : List Value) (pos : Position) :
    RenderM Value :=
  match env.engine.registry.filter? name with
  | none => fail (.unknownFilter name pos)
  | some f =>
    match f.apply v args with
    | .ok w => pure w
    | .error fault => fail (.filter name fault pos)

/-- Applies a test by name. -/
def applyTest (env : Env) (name : String) (v : Value) (args : List Value) (pos : Position) :
    RenderM Bool :=
  match env.engine.registry.test? name with
  | none => fail (.unknownTest name pos)
  | some test =>
    match test v args with
    | .ok passed => pure passed
    | .error fault => fail (.filter name fault pos)

/-- Binds the parameters of a macro in the running scope. A default sees the parameters before
it. -/
def bindParams (calls : Calls) (t : Template) (pos : Position) :
    List Param → List Value → RenderM Unit
  | [], _ => pure ()
  | p :: params, v :: args => do
    setLocal p.name v
    bindParams calls t pos params args
  | p :: params, [] => do
    let v ← match p.default with
      | some e => calls.eval t pos e
      | none => pure .undefined
    setLocal p.name v
    bindParams calls t pos params []

/-- Runs the body of a macro in a scope of its own. Its output is safe. -/
def runMacro (calls : Calls) (t : Template) (m : MacroDef) (args : List Value) (pos : Position) :
    RenderM Value := do
  modify fun s => { s with macroDepth := s.macroDepth + 1 }
  let output ← inScope .isolated do
    bindParams calls t pos m.params args
    let (flow, output) ← calls.exec t m.body
    leftover flow
    return output
  modify fun s => { s with macroDepth := s.macroDepth - 1 }
  return .safe output

/-- Calls a macro of the template `t`, from a call block if there is a caller. -/
def callMacro (env : Env) (calls : Calls) (t : Template) (m : MacroDef) (args : List Value)
    (caller : Option Caller) (pos : Position) : RenderM Value := do
  if m.params.length < args.length then
    fail (.arity m.name m.params.length args.length pos)
  let limit := env.engine.config.maxDepth
  if limit ≤ (← get).macroDepth then fail (.recursionLimit limit pos)
  match caller with
  | none => runMacro calls t m args pos
  | some c => do
    modify fun s => { s with callers := c :: s.callers }
    let v ← runMacro calls t m args pos
    modify fun s => { s with callers := s.callers.tail }
    return v

/-- Places the body of the innermost call block. While it runs, `caller()` is the next one. -/
def callCaller (calls : Calls) (args : List Value) (pos : Position) : RenderM Value := do
  match (← get).callers with
  | [] => fail (.unknownMacro "caller" pos)
  | c :: callers => do
    if !args.isEmpty then fail (.arity "caller" 0 args.length pos)
    modify fun s => { s with callers }
    let output ← inScope c.scope <| withImports c.imports do
      let (flow, output) ← calls.exec c.template c.body
      leftover flow
      return output
    modify fun s => { s with callers := c :: callers }
    return .safe output

/-- Calls a macro of the running template or a built-in function. -/
def callName (env : Env) (calls : Calls) (t : Template) (name : String) (args : List Value)
    (caller : Option Caller) (pos : Position) : RenderM Value :=
  match Dict.get? t.macros name with
  | some m => callMacro env calls t m args caller pos
  | none =>
    match name with
    | "caller" => callCaller calls args pos
    | "range" => typed pos (range args)
    | "pairs" => typed pos (pairs args)
    | _ => fail (.unknownMacro name pos)

/-- The imported template that an expression names: an alias that is not a variable. -/
def aliased (env : Env) (base : Expr) : RenderM (Option (String × Module)) := do
  match base with
  | .var name =>
    if (← lookup env.root name).isUndefined then
      return (Dict.get? (← get).imports name).map (name, ·)
    else return none
  | _ => return none

/-- Calls a macro of an imported template, or a method of a value. `base` and `args` evaluate
their parts; methods have no arguments, which are not looked at. -/
def callMember (env : Env) (calls : Calls) (module : Option (String × Module))
    (base : RenderM Value) (member : String) (args : RenderM (List Value)) (given : Nat)
    (caller : Option Caller) (pos : Position) : RenderM Value := do
  match module with
  | some (asName, module) =>
    match Dict.get? module.template.macros member with
    | none => fail (.unknownMacro s!"{asName}.{member}" pos)
    | some m => do
      let args ← args
      withImports module.imports (callMacro env calls module.template m args caller pos)
  | none => do
    let target ← base
    if given ≠ 0 then fail (.arity member 0 given pos)
    mapView target member pos

mutual

/-- Evaluates an expression of the template `t`. -/
def eval (env : Env) (calls : Calls) (t : Template) (pos : Position) : Expr → RenderM Value
  | .lit value => pure value.toValue
  | .list items => return .list (← evalAll env calls t pos items)
  | .dict entries => return .map (← evalEntries env calls t pos [] entries)
  | .var name => lookup env.root name
  | .item base key => do
    let base ← eval env calls t pos base
    let key ← eval env calls t pos key
    return base.item key
  | .binary .and left right => do
    let a ← eval env calls t pos left
    if a.isTruthy then eval env calls t pos right else return a
  | .binary .or left right => do
    let a ← eval env calls t pos left
    if a.isTruthy then return a else eval env calls t pos right
  | .binary op left right => do
    let a ← eval env calls t pos left
    let b ← eval env calls t pos right
    typed pos (op.apply a b)
  | .unary .not operand => return .bool !(← eval env calls t pos operand).isTruthy
  | .unary .neg operand => do typed pos (← eval env calls t pos operand).neg
  | .filter base name args => do
    let v ← eval env calls t pos base
    let args ← evalAll env calls t pos args
    applyFilter env name v args pos
  | .test base name args negated => do
    let v ← eval env calls t pos base
    let args ← evalAll env calls t pos args
    return .bool ((← applyTest env name v args pos) != negated)
  | .call name args => do
    let args ← evalAll env calls t pos args
    callName env calls t name args none pos
  | .callMember base member args => do
    callMember env calls (← aliased env base) (eval env calls t pos base) member
      (evalAll env calls t pos args) args.length none pos
  | .choice value condition otherwise => do
    if (← eval env calls t pos condition).isTruthy then eval env calls t pos value
    else evalOption env calls t pos otherwise

/-- Evaluates expressions from left to right. -/
def evalAll (env : Env) (calls : Calls) (t : Template) (pos : Position) :
    List Expr → RenderM (List Value)
  | [] => pure []
  | e :: more => do
    let v ← eval env calls t pos e
    return v :: (← evalAll env calls t pos more)

/-- Evaluates keys and values in turn and stores them in `entries`. -/
def evalEntries (env : Env) (calls : Calls) (t : Template) (pos : Position)
    (entries : Dict Value) : List (Expr × Expr) → RenderM (Dict Value)
  | [] => pure entries
  | (k, v) :: more => do
    let key ← eval env calls t pos k
    let value ← eval env calls t pos v
    evalEntries env calls t pos (Dict.insert key.display value entries) more

/-- Evaluates an expression that may be missing. -/
def evalOption (env : Env) (calls : Calls) (t : Template) (pos : Position) :
    Option Expr → RenderM Value
  | none => pure .undefined
  | some e => eval env calls t pos e

end

end Render

end Stencil
