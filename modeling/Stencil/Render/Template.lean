import Stencil.Render.Instr

/-! Rendering templates that extend and load each other. -/
namespace Stencil.Render

/-- Whether an instruction at the top level of a template that extends another one is run. -/
def isSetup : Instr → Bool
  | .assign _ _ _ | .importing _ _ _ => true
  | _ => false

/-- Adds the blocks of a template to the overrides. More derived owners stay. -/
def addOverrides (t : Template) (overrides : Dict Template) : Dict Template :=
  (Dict.keys t.blocks).foldl
    (fun o name => if Dict.contains o name then o else Dict.insert name t o) overrides

/-- Runs the assignments and imports among instructions. -/
def setUp (env : Env) (calls : Calls) (t : Template) : List Instr → RenderM Unit
  | [] => return
  | i :: more => do
    if isSetup i then
      let _ ← exec env calls t i
    setUp env calls t more

/-- Renders a template. One that extends another gives it its blocks, its assignments and its
imports, and the other is rendered in its place. -/
def renderTemplate (env : Env) (calls : Calls) (t : Template) : RenderM String := do
  match t.parent with
  | none => do
    let (flow, output) ← execAll env calls t "" t.body
    leftover flow
    return output
  | some (path, pos) => do
    modify fun s => { s with overrides := addOverrides t s.overrides }
    setUp env calls t t.body
    let path ← evalPath env calls t path pos
    let parent ← enter env path pos
    let output ← calls.render parent
    leave
    return output

/-- The imports among instructions, by alias. -/
def loadImports (calls : Calls) (t : Template) (imports : Dict Module) :
    List Instr → RenderM (Dict Module)
  | [] => return imports
  | .importing path asName pos :: more => do
    let module ← calls.load t path pos
    loadImports calls t (Dict.insert asName module imports) more
  | _ :: more => loadImports calls t imports more

/-- Loads a template for its macros, with the templates that it imports itself. -/
def loadModule (env : Env) (calls : Calls) (t : Template) (path : Expr) (pos : Position) :
    RenderM Module := do
  let path ← evalPath env calls t path pos
  let imported ← enter env path pos
  let imports ← loadImports calls imported [] imported.body
  leave
  return .mk imported imports

/-- Ends a run whose fuel is spent. -/
def outOfFuel {α : Type} : RenderM α := throw .outOfFuel

/-- How code starts other code when `fuel` bounds the number of code units inside each other. -/
def callsAt (env : Env) : (fuel : Nat) → Calls
  | 0 =>
    { eval := fun _ _ _ => outOfFuel
      exec := fun _ _ => outOfFuel
      render := fun _ => outOfFuel
      load := fun _ _ _ => outOfFuel }
  | n + 1 =>
    { eval := fun t pos e => Render.eval env (callsAt env n) t pos e
      exec := fun t body => execAll env (callsAt env n) t "" body
      render := fun t => renderTemplate env (callsAt env n) t
      load := fun t path pos => loadModule env (callsAt env n) t path pos }

/-- The state in which a template starts. -/
def State.initial (env : Env) (t : Template) : State :=
  { autoescape := env.engine.config.autoescape, active := t.name.toList }

/-- Renders a template from the initial state. -/
def run (env : Env) (fuel : Nat) (t : Template) (session : Session) :
    Except Stop String × Session :=
  let (r, session) := (((callsAt env fuel).render t).run (State.initial env t)).run session
  (r.map (·.1), session)

/-- Fuel for every run: at most four units for each level of macros and of templates have to wait
for each other, and between two of them at most one block for each nesting level of each template
of a chain. -/
def fuelFor (maxDepth : Nat) : Nat :=
  (4 * maxDepth + 8) * ((Parser.maxNesting + 1) * (maxDepth + 2))

end Stencil.Render
