/-! The expressions of templates. -/
namespace Stencil

/-- A value written out in a template. -/
inductive Literal where
  | null
  | bool (value : Bool)
  | int (value : Int64)
  | float (value : Float)
  | str (content : String)

/-- Operators between two operands. -/
inductive BinaryOp where
  | add
  | sub
  | mul
  | div
  | floorDiv
  | rem
  | concat
  | equal
  | notEqual
  | less
  | greater
  | lessEqual
  | greaterEqual
  | isIn
  | notIn
  | and
  | or
deriving DecidableEq

/-- Operators before one operand. -/
inductive UnaryOp where
  | not
  | neg
deriving DecidableEq

/-- An expression. Only names and members of values can be called. -/
inductive Expr where
  | lit (value : Literal)
  | list (items : List Expr)
  | dict (entries : List (Expr × Expr))
  | var (name : String)
  | item (base key : Expr)
  | binary (op : BinaryOp) (left right : Expr)
  | unary (op : UnaryOp) (operand : Expr)
  | filter (base : Expr) (name : String) (args : List Expr)
  | test (base : Expr) (name : String) (args : List Expr) (negated : Bool)
  | call (name : String) (args : List Expr)
  | callMember (base : Expr) (member : String) (args : List Expr)
  | choice (value condition : Expr) (otherwise : Option Expr)

/-- What a call block calls. -/
inductive Callee where
  | name (name : String)
  | member (base : Expr) (member : String)

/-- The text `s` as an expression. -/
def Expr.str (s : String) : Expr := .lit (.str s)

/-- The integer `i` as an expression. -/
def Expr.int (i : Int64) : Expr := .lit (.int i)

end Stencil
