import Stencil.Dialect
import Stencil.Dict
import Stencil.Node.Basic

/-! Compiled templates. -/
namespace Stencil

/-- An instruction of a template. -/
inductive Instr where
  | text (content : String)
  | print (expr : Expr) (pos : Position)
  | branch (condition : Expr) (body otherwise : List Instr) (pos : Position)
  | forEach (binding : Binding) (iterable : Expr) (body otherwise : List Instr) (pos : Position)
  /-- Calls a macro, which places the body with `caller()`. -/
  | callBlock (callee : Callee) (args : List Expr) (body : List Instr) (pos : Position)
  | assign (name : String) (value : Expr) (pos : Position)
  | scoped (bindings : List (String × Expr)) (body : List Instr) (pos : Position)
  /-- The place of a block; its body is looked up, so that templates can override it. -/
  | block (name : String)
  | including (path : Expr) (pos : Position)
  | importing (path : Expr) (asName : String) (pos : Position)
  | autoescape (enabled : Bool) (body : List Instr)
  | filtered (filters : List FilterCall) (body : List Instr) (pos : Position)
  | exitLoop (pos : Position)
  | nextItem (pos : Position)

/-- A macro of a template. -/
structure MacroDef where
  name : String
  params : List Param
  body : List Instr

/-- A compiled template. -/
structure Template where
  /-- The name it was loaded or compiled under. -/
  name : Option String
  dialect : Dialect
  body : List Instr
  macros : Dict MacroDef
  blocks : Dict (List Instr)
  /-- The path of the template that this one extends. -/
  parent : Option (Expr × Position)

namespace Template

/-- The names of the macros, in ascending order. -/
def macroNames (t : Template) : List String := Dict.keys t.macros

/-- The names of the blocks, in ascending order. -/
def blockNames (t : Template) : List String := Dict.keys t.blocks

end Template

end Stencil
