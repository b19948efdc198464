import Stencil.Render.Expr
import Stencil.Text.Html

/-! Running instructions. What an instruction writes is its result, beside what is to be done
next. -/
namespace Stencil.Render

/-- The text that a value is printed as: escaped if that is asked for, unless it is safe. -/
def printed (autoescape : Bool) (v : Value) : String :=
  match v with
  | .safe s => s
  | v => if autoescape then Text.escapeHtml v.display else v.display

/-- Prints a value. -/
def printValue (v : Value) : RenderM String := return printed (← get).autoescape v

/-- Evaluates the path of a template. -/
def evalPath (env : Env) (calls : Calls) (t : Template) (path : Expr) (pos : Position) :
    RenderM String := do
  let v ← eval env calls t pos path
  match v.text? with
  | some s => return s
  | none => fail (.type (.pathKind v.kind) pos)

/-- Fetches a template that the running one waits for. No template may wait for itself, and not
too many may wait. -/
def enter (env : Env) (path : String) (pos : Position) : RenderM Template := do
  let active := (← get).active
  if active.contains path then fail (.cycle path pos)
  let limit := env.engine.config.maxDepth
  if limit ≤ active.length then fail (.recursionLimit limit pos)
  match ← (env.engine.fetch path : StateM Session _) with
  | .error (.load e) => fail (.loader path e pos)
  | .error (.source e) => fail (.invalidTemplate path e pos)
  | .ok loaded => do
    modify fun s => { s with active := path :: active }
    return loaded.template

/-- Ends the wait for the last template entered. -/
def leave : RenderM Unit := modify fun s => { s with active := s.active.tail }

/-- Puts another template in place. It sees the variables and imports of the running one, but its
own stay with it, and its blocks are not overridden from outside. -/
def includeTemplate (env : Env) (calls : Calls) (t : Template) (path : Expr) (pos : Position) :
    RenderM String := do
  let path ← evalPath env calls t path pos
  let included ← enter env path pos
  let saved ← get
  modify fun s => { s with overrides := [] }
  let output ← inScope (← here) (calls.render included)
  modify fun s => { s with imports := saved.imports, overrides := saved.overrides }
  leave
  return output

/-- Makes another template's macros known under an alias. -/
def importTemplate (calls : Calls) (t : Template) (path : Expr) (asName : String)
    (pos : Position) : RenderM Unit := do
  let module ← calls.load t path pos
  modify fun s => { s with imports := Dict.insert asName module s.imports }

/-- Places a block: the body that its most derived owner gives it. -/
def placeBlock (calls : Calls) (t : Template) (name : String) : RenderM (Flow × String) := do
  let owner := (Dict.get? (← get).overrides name).getD t
  match Dict.get? owner.blocks name with
  | none => return (.normal, "")
  | some body => calls.exec owner body

/-- Evaluates the values of bindings, all in the running scope. -/
def evalBindings (env : Env) (calls : Calls) (t : Template) (pos : Position) :
    List (String × Expr) → RenderM (List (String × Value))
  | [] => return []
  | (name, e) :: more => do
    let v ← eval env calls t pos e
    return (name, v) :: (← evalBindings env calls t pos more)

/-- Filters the output of a filter block. -/
def applyFilters (env : Env) (calls : Calls) (t : Template) (pos : Position) :
    List FilterCall → Value → RenderM Value
  | [], v => return v
  | f :: more, v => do
    let args ← evalAll env calls t pos f.args
    applyFilters env calls t pos more (← applyFilter env f.name v args pos)

/-- Calls what a call block calls. -/
def callCallee (env : Env) (calls : Calls) (t : Template) (callee : Callee) (args : List Expr)
    (caller : Caller) (pos : Position) : RenderM Value := do
  match callee with
  | .name name => do
    let args ← evalAll env calls t pos args
    callName env calls t name args (some caller) pos
  | .member base member => do
    callMember env calls (← aliased env base) (eval env calls t pos base) member
      (evalAll env calls t pos args) args.length (some caller) pos

/-- Runs the body of a loop for each item, the first of which has the number `i`. What is written
goes behind `output`. -/
def loop (binding : Binding) (pos : Position) (body : RenderM (Flow × String)) (length : Nat) :
    (i : Nat) → (output : String) → List Value → RenderM String
  | _, output, [] => return output
  | i, output, item :: more => do
    let (flow, written) ← inScope (← here) do
      setLocals (← typed pos (bindItem binding item))
      setLocal "loop" (loopState i length)
      body
    match flow with
    | .exitLoop _ => return output ++ written
    | _ => loop binding pos body length (i + 1) (output ++ written) more

mutual

/-- Runs an instruction of the template `t`. -/
def exec (env : Env) (calls : Calls) (t : Template) : Instr → RenderM (Flow × String)
  | .text content => return (.normal, content)
  | .print e pos => do
    let v ← eval env calls t pos e
    return (.normal, ← printValue v)
  | .branch condition body otherwise pos => do
    if (← eval env calls t pos condition).isTruthy then execAll env calls t "" body
    else execAll env calls t "" otherwise
  | .forEach binding iterable body otherwise pos => do
    let v ← eval env calls t pos iterable
    let items ← typed pos (loopItems binding v)
    if items.isEmpty then execAll env calls t "" otherwise
    else
      let output ← loop binding pos (execAll env calls t "" body) items.length 0 "" items
      return (.normal, output)
  | .callBlock callee args body pos => do
    let s ← get
    let caller : Caller := { body, scope := s.here, template := t, imports := s.imports }
    let v ← callCallee env calls t callee args caller pos
    return (.normal, ← printValue v)
  | .assign name e pos => do
    let v ← eval env calls t pos e
    setLocal name v
    return (.normal, "")
  | .scoped bindings body pos => do
    let vars ← evalBindings env calls t pos bindings
    inScope (← here) do
      setLocals vars
      execAll env calls t "" body
  | .block name => placeBlock calls t name
  | .including path pos => return (.normal, ← includeTemplate env calls t path pos)
  | .importing path asName pos => do
    importTemplate calls t path asName pos
    return (.normal, "")
  | .autoescape enabled body => do
    let saved := (← get).autoescape
    modify fun s => { s with autoescape := enabled }
    let r ← execAll env calls t "" body
    modify fun s => { s with autoescape := saved }
    return r
  | .filtered filters body pos => do
    let (flow, output) ← execAll env calls t "" body
    let v ← applyFilters env calls t pos filters (.safe output)
    return (flow, ← printValue v)
  | .exitLoop pos => return (.exitLoop pos, "")
  | .nextItem pos => return (.nextItem pos, "")

/-- Runs instructions until one does not go on normally. What is written goes behind `output`. -/
def execAll (env : Env) (calls : Calls) (t : Template) (output : String) :
    List Instr → RenderM (Flow × String)
  | [] => return (.normal, output)
  | i :: more => do
    let (flow, written) ← exec env calls t i
    match flow with
    | .normal => execAll env calls t (output ++ written) more
    | flow => return (flow, output ++ written)

end

end Stencil.Render
