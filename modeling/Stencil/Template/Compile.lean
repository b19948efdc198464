import Stencil.Filter.Basic
import Stencil.Node.Parser
import Stencil.Template.Basic
import Stencil.Template.Error

/-! Compiling syntax trees: macros and blocks move into tables, texts are joined, comments vanish,
and the names of filters and tests, the parameters of macros and the place of `extends` are
checked. -/
namespace Stencil

namespace Expr

def checkFilter (r : Registry) (pos : Position) (name : String) : Except CompileError Unit :=
  if r.hasFilter name then .ok () else .error (.unknownFilter name pos)

def checkTest (r : Registry) (pos : Position) (name : String) : Except CompileError Unit :=
  if r.hasTest name then .ok () else .error (.unknownTest name pos)

mutual

/-- Checks that every filter and test of an expression is known. -/
def check (r : Registry) (pos : Position) : Expr → Except CompileError Unit
  | .lit _ | .var _ => .ok ()
  | .list items => checkAll r pos items
  | .dict entries => checkEntries r pos entries
  | .item base key => do
    check r pos base
    check r pos key
  | .binary _ left right => do
    check r pos left
    check r pos right
  | .unary _ operand => check r pos operand
  | .filter base name args => do
    checkFilter r pos name
    check r pos base
    checkAll r pos args
  | .test base name args _ => do
    checkTest r pos name
    check r pos base
    checkAll r pos args
  | .call _ args => checkAll r pos args
  | .callMember base _ args => do
    check r pos base
    checkAll r pos args
  | .choice value condition otherwise => do
    check r pos value
    check r pos condition
    checkOption r pos otherwise

def checkAll (r : Registry) (pos : Position) : List Expr → Except CompileError Unit
  | [] => .ok ()
  | e :: more => do
    check r pos e
    checkAll r pos more

def checkEntries (r : Registry) (pos : Position) : List (Expr × Expr) → Except CompileError Unit
  | [] => .ok ()
  | (k, v) :: more => do
    check r pos k
    check r pos v
    checkEntries r pos more

def checkOption (r : Registry) (pos : Position) : Option Expr → Except CompileError Unit
  | none => .ok ()
  | some e => check r pos e

end

end Expr

/-- What a call block calls is checked like an expression. -/
def Callee.check (r : Registry) (pos : Position) : Callee → Except CompileError Unit
  | .name _ => .ok ()
  | .member base _ => base.check r pos

namespace Template

/-- What has been found outside the instructions so far. -/
structure Tables where
  macros : Dict MacroDef := []
  blocks : Dict (List Instr) := []
  parent : Option (Expr × Position) := none

/-- Compilation adds to the tables and may find a fault. -/
abbrev CompileM := StateT Tables (Except CompileError)

/-- An instruction in front of others. Texts that meet are joined, and empty ones vanish. -/
def prepend : Option Instr → List Instr → List Instr
  | none, rest => rest
  | some (.text s), rest =>
    if s.isEmpty then rest
    else match rest with
      | .text t :: rest => .text (s ++ t) :: rest
      | rest => .text s :: rest
  | some i, rest => i :: rest

/-- Checks the parameters of a macro: each name once, and none without a default behind one that
has one. -/
def checkParams (r : Registry) (pos : Position) (macroName : String) (seen : List String)
    (defaulted : Bool) : List Param → Except CompileError Unit
  | [] => .ok ()
  | p :: more => do
    if seen.contains p.name then throw (.duplicateParameter macroName p.name pos)
    match p.default with
    | some e => do
      e.check r pos
      checkParams r pos macroName (p.name :: seen) true more
    | none => do
      if defaulted then throw (.requiredAfterDefault macroName p.name pos)
      checkParams r pos macroName (p.name :: seen) defaulted more

/-- Adds a macro to the tables. -/
def addMacro (m : MacroDef) (pos : Position) : CompileM Unit := do
  let t ← get
  if Dict.contains t.macros m.name then throw (.duplicateMacro m.name pos)
  set { t with macros := Dict.insert m.name m t.macros }

/-- Adds a block to the tables. -/
def addBlock (name : String) (body : List Instr) (pos : Position) : CompileM Unit := do
  let t ← get
  if Dict.contains t.blocks name then throw (.duplicateBlock name pos)
  set { t with blocks := Dict.insert name body t.blocks }

/-- Makes the template extend another one, which is allowed once and at its top level. -/
def setParent (r : Registry) (topLevel : Bool) (path : Expr) (pos : Position) : CompileM Unit := do
  if !topLevel || (← get).parent.isSome then throw (.misplacedExtends pos)
  path.check r pos
  modify fun t => { t with parent := some (path, pos) }

/-- Checks the filters of a filter block. -/
def checkFilters (r : Registry) (pos : Position) (filters : List FilterCall) :
    Except CompileError Unit :=
  filters.forM fun f => do
    Expr.checkFilter r pos f.name
    Expr.checkAll r pos f.args

mutual

/-- Compiles nodes one after the other. -/
def compileNodes (r : Registry) (topLevel : Bool) : List Node → CompileM (List Instr)
  | [] => pure []
  | node :: more => do
    let i ← compileNode r topLevel node
    return prepend i (← compileNodes r topLevel more)

/-- The instruction for a node, unless it only adds to the tables or does nothing. -/
def compileNode (r : Registry) (topLevel : Bool) : Node → CompileM (Option Instr)
  | .text s | .raw s => pure (some (.text s))
  | .comment => pure none
  | .print e pos => do
    e.check r pos
    return some (.print e pos)
  | .branch condition body more otherwise pos => do
    condition.check r pos
    let body ← compileNodes r false body
    return some (.branch condition body
      (← compileBranches r pos (compileOption r otherwise) more) pos)
  | .forEach binding iterable body otherwise pos => do
    iterable.check r pos
    let body ← compileNodes r false body
    return some (.forEach binding iterable body (← compileOption r otherwise) pos)
  | .macroDef name params body pos => do
    checkParams r pos name [] false params
    let body ← compileNodes r false body
    addMacro ⟨name, params, body⟩ pos
    return none
  | .callBlock callee args body pos => do
    callee.check r pos
    Expr.checkAll r pos args
    return some (.callBlock callee args (← compileNodes r false body) pos)
  | .assign name value pos => do
    value.check r pos
    return some (.assign name value pos)
  | .scoped bindings body pos => do
    bindings.forM fun b => (b.2.check r pos : CompileM Unit)
    return some (.scoped bindings (← compileNodes r false body) pos)
  | .block name body pos => do
    addBlock name (← compileNodes r false body) pos
    return some (.block name)
  | .extending path pos => do
    setParent r topLevel path pos
    return none
  | .including path pos => do
    path.check r pos
    return some (.including path pos)
  | .importing path asName pos => do
    path.check r pos
    return some (.importing path asName pos)
  | .autoescape enabled body _ => do
    return some (.autoescape enabled (← compileNodes r false body))
  | .filterBlock filters body pos => do
    checkFilters r pos filters
    return some (.filtered filters (← compileNodes r false body) pos)
  | .exitLoop pos => pure (some (.exitLoop pos))
  | .nextItem pos => pure (some (.nextItem pos))

/-- The further branches of a conditional, each in the alternative of the one before it. -/
def compileBranches (r : Registry) (pos : Position) (otherwise : CompileM (List Instr)) :
    List (Expr × List Node) → CompileM (List Instr)
  | [] => otherwise
  | (condition, body) :: more => do
    condition.check r pos
    let body ← compileNodes r false body
    return [.branch condition body (← compileBranches r pos otherwise more) pos]

/-- Nodes that may be missing. -/
def compileOption (r : Registry) : Option (List Node) → CompileM (List Instr)
  | none => pure []
  | some nodes => compileNodes r false nodes

end

/-- Compiles a syntax tree. -/
def ofNodes (r : Registry) (name : Option String) (dialect : Dialect) (nodes : List Node) :
    Except CompileError Template := do
  let (body, t) ← (compileNodes r true nodes).run {}
  return ⟨name, dialect, body, t.macros, t.blocks, t.parent⟩

/-- Compiles a text in the chosen dialect, or in the one it is written in. -/
def ofSource (r : Registry) (choice : Option Dialect) (name : Option String) (source : String) :
    Except SourceError Template :=
  match Node.ofSource choice source with
  | .error e => .error (.ofSyntax e)
  | .ok (nodes, dialect) =>
    match ofNodes r name dialect nodes with
    | .error e => .error (.compile e)
    | .ok t => .ok t

end Template

end Stencil
