import Stencil.Expr.Basic
import Stencil.Position

/-! The syntax trees of templates. -/
namespace Stencil

/-- The names that a loop binds: one for each item, or two for the parts of a pair. -/
inductive Binding where
  | single (name : String)
  | pair (first second : String)
deriving DecidableEq

/-- A parameter of a macro. -/
structure Param where
  name : String
  default : Option Expr

/-- A filter of a filter block. -/
structure FilterCall where
  name : String
  args : List Expr

/-- A part of a template. Places are those of the opening markers. -/
inductive Node where
  | text (content : String)
  | raw (content : String)
  | comment
  | print (expr : Expr) (pos : Position)
  | branch (condition : Expr) (body : List Node) (more : List (Expr × List Node))
      (otherwise : Option (List Node)) (pos : Position)
  | forEach (binding : Binding) (iterable : Expr) (body : List Node)
      (otherwise : Option (List Node)) (pos : Position)
  | macroDef (name : String) (params : List Param) (body : List Node) (pos : Position)
  | callBlock (callee : Callee) (args : List Expr) (body : List Node) (pos : Position)
  | assign (name : String) (value : Expr) (pos : Position)
  | block (name : String) (body : List Node) (pos : Position)
  | extending (path : Expr) (pos : Position)
  | importing (path : Expr) (asName : String) (pos : Position)
  | including (path : Expr) (pos : Position)
  | autoescape (enabled : Bool) (body : List Node) (pos : Position)
  | filterBlock (filters : List FilterCall) (body : List Node) (pos : Position)
  | scoped (bindings : List (String × Expr)) (body : List Node) (pos : Position)
  | exitLoop (pos : Position)
  | nextItem (pos : Position)

end Stencil
