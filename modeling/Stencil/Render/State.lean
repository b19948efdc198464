import Stencil.Render.Error

/-! What a running template keeps: its variables in an arena of scopes, and the code that waits for
the running code. -/
namespace Stencil.Render

/-- Where a scope looks for the variables that it does not hold. -/
inductive Link where
  | scope (id : Nat)
  /-- The variables of the caller of the engine. -/
  | root
  /-- Nowhere: the body of a macro sees its parameters only. -/
  | isolated
deriving DecidableEq

/-- The number of scopes that suffice to follow a link. -/
def Link.height : Link → Nat
  | .scope id => id + 1
  | .root | .isolated => 0

/-- Variables, and where to look for others. -/
structure Scope where
  vars : Dict Value
  parent : Link

/-- An imported template with the templates that it imports itself, by their aliases. -/
inductive Module where
  | mk (template : Template) (imports : List (String × Module))

def Module.template : Module → Template
  | .mk t _ => t

def Module.imports : Module → Dict Module
  | .mk _ imports => imports

/-- The body of a call block, with the template, the scope and the imports of the call. -/
structure Caller where
  body : List Instr
  scope : Link
  template : Template
  imports : Dict Module

/-- The state of a running template. -/
structure State where
  /-- All scopes; the last one is the innermost. -/
  scopes : Array Scope := #[]
  /-- The running scope, if there is one. -/
  current : Option Nat := none
  autoescape : Bool
  /-- The most derived owners of blocks. -/
  overrides : Dict Template := []
  /-- The imports that the running code sees. -/
  imports : Dict Module := []
  /-- The paths of the templates that wait for each other, latest first. -/
  active : List String := []
  /-- The call blocks whose macros run, innermost first. -/
  callers : List Caller := []
  macroDepth : Nat := 0

/-- Why a run ends early. -/
inductive Stop where
  | error (e : RenderError)
  /-- The fuel of the evaluator is spent. -/
  | outOfFuel

/-- A run changes the state, may stop early, and uses the session of the engine. -/
abbrev RenderM := StateT State (ExceptT Stop (StateM Session))

/-- Stops with an error. -/
def fail {α : Type} (e : RenderError) : RenderM α := throw (.error e)

/-- What an operation on values gives; its fault is a type error. -/
def typed {α : Type} (pos : Position) (r : Except Fault α) : RenderM α :=
  match r with
  | .ok a => pure a
  | .error fault => fail (.type fault pos)

/-- The link for a scope inside the running one. -/
def State.here (s : State) : Link :=
  match s.current with
  | some id => .scope id
  | none => .root

def here : RenderM Link := return (← get).here

/-- Opens a scope and gives back the one that ran before. -/
def pushScope (parent : Link) : RenderM (Option Nat) := modifyGet fun s =>
  (s.current,
    { s with scopes := s.scopes.push ⟨[], parent⟩, current := some s.scopes.size })

/-- Closes the last scope and goes back to an earlier one. -/
def popScope (previous : Option Nat) : RenderM Unit := modify fun s =>
  { s with scopes := s.scopes.pop, current := previous }

/-- Stores a variable in the running scope. At the top level the first one opens a scope. -/
def setLocal (name : String) (value : Value) : RenderM Unit := modify fun s =>
  match s.current with
  | some id =>
    { s with
      scopes := s.scopes.modify id fun c => { c with vars := Dict.insert name value c.vars } }
  | none =>
    { s with scopes := s.scopes.push ⟨[(name, value)], .root⟩, current := some s.scopes.size }

/-- Stores variables one after the other. -/
def setLocals (vars : List (String × Value)) : RenderM Unit :=
  vars.forM fun v => setLocal v.1 v.2

/-- Looks for a variable along the links. Links go to scopes below. -/
def lookupFrom (scopes : Array Scope) (root : Dict Value) (name : String) (link : Link) : Value :=
  match link with
  | .root => (Dict.get? root name).getD .undefined
  | .isolated => .undefined
  | .scope id =>
    match scopes[id]? with
    | none => .undefined
    | some scope =>
      match Dict.get? scope.vars name with
      | some value => value
      | none =>
        if scope.parent.height ≤ id then lookupFrom scopes root name scope.parent else .undefined
termination_by link.height
decreasing_by simp only [Link.height] at *; omega

/-- The value of a variable; there is always one, which may be undefined. -/
def lookup (root : Dict Value) (name : String) : RenderM Value := do
  let s ← get
  return lookupFrom s.scopes root name s.here

/-- Runs `act` in a new scope. -/
def inScope {α : Type} (parent : Link) (act : RenderM α) : RenderM α := do
  let previous ← pushScope parent
  let a ← act
  popScope previous
  return a

/-- Runs `act` with other imports. -/
def withImports {α : Type} (imports : Dict Module) (act : RenderM α) : RenderM α := do
  let saved := (← get).imports
  modify fun s => { s with imports }
  let a ← act
  modify fun s => { s with imports := saved }
  return a

/-- What the running code does next. -/
inductive Flow where
  | normal
  | exitLoop (pos : Position)
  | nextItem (pos : Position)
deriving DecidableEq

/-- At the end of templates and macros no loop may be left to control. -/
def leftover : Flow → RenderM Unit
  | .normal => pure ()
  | .exitLoop pos => fail (.loopControl "break" pos)
  | .nextItem pos => fail (.loopControl "continue" pos)

end Stencil.Render
