import Stencil.Proofs.Lineage
import Stencil.Render.Template

/-! A second evaluator, as a reference. It walks up a chain of templates first, and then runs the
body of the last one, in which each block gets the body that the chain defines for it. It keeps no
table of overrides. -/
namespace Stencil.Render

mutual

/-- Runs an instruction of the template `t`, whose blocks `place` puts in place. -/
def execBy (env : Env) (calls : Calls) (place : String → RenderM (Flow × String)) (t : Template) :
    Instr → RenderM (Flow × String)
  | .branch condition body otherwise pos => do
    if (← eval env calls t pos condition).isTruthy then execAllBy env calls place t "" body
    else execAllBy env calls place t "" otherwise
  | .forEach binding iterable body otherwise pos => do
    let v ← eval env calls t pos iterable
    let items ← typed pos (loopItems binding v)
    if items.isEmpty then execAllBy env calls place t "" otherwise
    else
      let output ←
        loop binding pos (execAllBy env calls place t "" body) items.length 0 "" items
      return (.normal, output)
  | .scoped bindings body pos => do
    let vars ← evalBindings env calls t pos bindings
    inScope (← here) do
      setLocals vars
      execAllBy env calls place t "" body
  | .block name => place name
  | .autoescape enabled body => do
    let saved := (← get).autoescape
    modify fun s => { s with autoescape := enabled }
    let r ← execAllBy env calls place t "" body
    modify fun s => { s with autoescape := saved }
    return r
  | .filtered filters body pos => do
    let (flow, output) ← execAllBy env calls place t "" body
    let v ← applyFilters env calls t pos filters (.safe output)
    return (flow, ← printValue v)
  | i => exec env calls t i

/-- Runs instructions until one does not go on normally. What is written goes behind `output`. -/
def execAllBy (env : Env) (calls : Calls) (place : String → RenderM (Flow × String))
    (t : Template) (output : String) : List Instr → RenderM (Flow × String)
  | [] => return (.normal, output)
  | i :: more => do
    let (flow, written) ← execBy env calls place t i
    match flow with
    | .normal => execAllBy env calls place t (output ++ written) more
    | flow => return (flow, output ++ written)

end

variable {env : Env} {calls : Calls} {t : Template}

mutual

/-- Instructions differ from those of the evaluator only where they place blocks. -/
theorem execBy_placeBlock (i : Instr) :
    execBy env calls (placeBlock calls t) t i = exec env calls t i := by
  cases i with
  | branch condition body otherwise pos =>
    rw [execBy, exec, execAllBy_placeBlock "" body, execAllBy_placeBlock "" otherwise]
  | forEach binding iterable body otherwise pos =>
    rw [execBy, exec, execAllBy_placeBlock "" body, execAllBy_placeBlock "" otherwise]
  | «scoped» bindings body pos | autoescape enabled body | filtered filters body pos =>
    rw [execBy, exec, execAllBy_placeBlock "" body]
  | block name => rw [execBy, exec]
  | _ => rw [execBy] <;> nofun

theorem execAllBy_placeBlock (output : String) (body : List Instr) :
    execAllBy env calls (placeBlock calls t) t output body = execAll env calls t output body := by
  cases body with
  | nil => rw [execAllBy, execAll]
  | cons i more =>
    rw [execAllBy, execAll, execBy_placeBlock i]
    refine congrArg _ (funext fun r => ?_)
    obtain ⟨flow, written⟩ := r
    cases flow with
    | normal => exact execAllBy_placeBlock (output ++ written) more
    | exitLoop pos | nextItem pos => rfl

end

/-- Places a block with the body that the first of the templates gives it, and with the macros of
that template. -/
def placeFirst (derived : List Template) (calls : Calls) (t : Template) (name : String) :
    RenderM (Flow × String) :=
  match Dict.get? (definer derived t name).blocks name with
  | none => return (.normal, "")
  | some body => calls.exec (definer derived t name) body

/-- Walks up the chain from the template `t`, with `derived` before it: runs the assignments and
imports of each template that extends another, and enters the other. Gives the templates that were
left behind, most derived first, and the one that extends none. -/
def follow (env : Env) (calls : List Template → Calls) :
    (bound : Nat) → (derived : List Template) → (t : Template) → RenderM (List Template × Template)
  | bound, derived, t =>
    match t.parent with
    | none => return (derived, t)
    | some (path, pos) =>
      match bound with
      | 0 => outOfFuel
      | bound + 1 => do
        let derived := derived ++ [t]
        setUp env (calls derived) t t.body
        let path ← evalPath env (calls derived) t path pos
        let parent ← enter env path pos
        follow env calls bound derived parent

/-- Runs the body of the last template of a chain. Behind it `active` are the templates that
wait. -/
def renderBase (env : Env) (calls : List Template → Calls) (active : List String)
    (derived : List Template) (base : Template) : RenderM String := do
  let place := placeFirst derived (calls derived) base
  let (flow, output) ← execAllBy env (calls derived) place base "" base.body
  leftover flow
  modify fun s => { s with active }
  return output

/-- Renders a chain of templates: first up the chain, then the body at its end. -/
def renderChain (env : Env) (calls : List Template → Calls) (t : Template) : RenderM String := do
  let active := (← get).active
  let (derived, base) ← follow env calls (env.engine.config.maxDepth + 1) [] t
  renderBase env calls active derived base

/-- How code starts other code in a chain whose templates `derived` come before the running
one. -/
def referenceAt (env : Env) : (fuel : Nat) → (derived : List Template) → Calls
  | 0, _ =>
    { eval := fun _ _ _ => outOfFuel
      exec := fun _ _ => outOfFuel
      render := fun _ => outOfFuel
      load := fun _ _ _ => outOfFuel }
  | n + 1, derived =>
    let calls := referenceAt env n derived
    { eval := fun t pos e => Render.eval env calls t pos e
      exec := fun t body => execAllBy env calls (placeFirst derived calls t) t "" body
      render := fun t => renderChain env (referenceAt env n) t
      load := fun t path pos => loadModule env calls t path pos }

/-- Renders a template from the initial state by the reference. -/
def runReference (env : Env) (fuel : Nat) (t : Template) (session : Session) :
    Except Stop String × Session :=
  let (r, session) :=
    (((referenceAt env fuel []).render t).run (State.initial env t)).run session
  (r.map (·.1), session)

end Stencil.Render
