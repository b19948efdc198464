import Stencil.Proofs.Document

/-! Expressions as tokens, with parentheses only where the operators ask for them. -/
namespace Stencil

/-! ### Shapes -/

namespace Token

/-- The token is of this shape. A shape that names no spelling leaves it open. -/
def Fits (t : Token) (x : Shape) : Prop := t.kind = x.kind ∧ ∀ s ∈ x.spelling, t.lexeme = s

namespace Shape

def sign (s : Symbol) : Shape := ⟨.symbol s, none⟩

def word (k : Keyword) : Shape := ⟨.keyword k, none⟩

def name (s : String) : Shape := ⟨.ident s, none⟩

end Shape

/-- Some items with commas between them. -/
def commas : List (List Shape) → List Shape
  | [] => []
  | [X] => X
  | X :: Y :: more => X ++ .sign .comma :: commas (Y :: more)

/-- Whether a text is an identifier to the scanner, and no keyword. -/
def isName (s : String) : Bool :=
  match s.toList with
  | [] => false
  | c :: rest =>
    isIdentStart c && rest.all isIdentChar &&
      match ofWord (c :: rest) with
      | .ident _ => true
      | _ => false

end Token

/-! ### Operators -/

open Token Shape

/-- How tightly an operator binds: 1 is the conditional, 9 what no operator takes apart. -/
def BinaryOp.level : BinaryOp → Nat
  | .or => 2
  | .and => 3
  | .equal | .notEqual | .less | .greater | .lessEqual | .greaterEqual | .isIn | .notIn => 4
  | .concat => 5
  | .add | .sub => 6
  | .mul | .div | .floorDiv | .rem => 7

def BinaryOp.printed : BinaryOp → List Shape
  | .or => [word .or]
  | .and => [word .and]
  | .equal => [sign .equal]
  | .notEqual => [sign .notEqual]
  | .less => [sign .less]
  | .greater => [sign .greater]
  | .lessEqual => [sign .lessEqual]
  | .greaterEqual => [sign .greaterEqual]
  | .isIn => [word .isIn]
  | .notIn => [word .not, word .isIn]
  | .concat => [sign .tilde]
  | .add => [sign .plus]
  | .sub => [sign .minus]
  | .mul => [sign .star]
  | .div => [sign .slash]
  | .floorDiv => [sign .slashSlash]
  | .rem => [sign .percent]

def UnaryOp.printed : UnaryOp → Shape
  | .not => word .not
  | .neg => sign .minus

def Literal.printed : Literal → Shape
  | .null => word .none
  | .bool true => word .true
  | .bool false => word .false
  | .int i => ⟨.int i, none⟩
  | .float x => ⟨.float x, none⟩
  | .str s => ⟨.str s, none⟩

namespace Expr

def level : Expr → Nat
  | .choice _ _ _ => 1
  | .binary op _ _ => op.level
  | .test _ _ _ _ => 4
  | .unary _ _ => 8
  | .lit _ | .list _ | .dict _ | .var _ | .item _ _ | .filter _ _ _ | .call _ _
  | .callMember _ _ _ => 9

/-! ### Expressions -/

/-- An operand in parentheses, unless it binds at least as tightly as it has to. -/
def enclosed (required : Nat) (e : Expr) (X : List Shape) : List Shape :=
  if e.level < required then sign .openParen :: (X ++ [sign .closeParen]) else X

/-- The name of a test. Four of them are keywords elsewhere. -/
def testShape (name : String) : Shape :=
  match name with
  | "none" | "null" => ⟨.keyword .none, some name⟩
  | "true" => ⟨.keyword .true, some name⟩
  | "false" => ⟨.keyword .false, some name⟩
  | name => Shape.name name

/-- What stands behind a base: a point and a name where the key is one, else the key in brackets. -/
def keyShapes (key : Expr) (X : List Shape) : List Shape :=
  match key with
  | .lit (.str s) =>
    if isName s then [sign .dot, name s] else sign .openBracket :: (X ++ [sign .closeBracket])
  | _ => sign .openBracket :: (X ++ [sign .closeBracket])

/-- Arguments in parentheses. -/
def argShapes (items : List (List Shape)) : List Shape :=
  sign .openParen :: (commas items ++ [sign .closeParen])

/-- Arguments in parentheses, if there are any. -/
def argShapes? (items : List (List Shape)) : List Shape :=
  if items.isEmpty then [] else argShapes items

mutual

/-- The tokens of an expression. -/
@[simp] def printed : Expr → List Shape
  | .lit value => [value.printed]
  | .list items => sign .openBracket :: (commas (printedAll items) ++ [sign .closeBracket])
  | .dict entries => sign .openBrace :: (commas (printedEntries entries) ++ [sign .closeBrace])
  | .var v => [name v]
  | .item base key => enclosed 9 base (printed base) ++ keyShapes key (printed key)
  | .binary op left right =>
    enclosed op.level left (printed left) ++
      (op.printed ++ enclosed (op.level + 1) right (printed right))
  | .unary op operand => op.printed :: enclosed 8 operand (printed operand)
  | .filter base f args =>
    enclosed 9 base (printed base) ++ (sign .pipe :: name f :: argShapes? (printedAll args))
  | .test base t args negated =>
    enclosed 4 base (printed base) ++ (word .is :: ((if negated then [word .not] else []) ++
      (testShape t :: argShapes? (printedAll args))))
  | .call f args => name f :: argShapes (printedAll args)
  | .callMember base member args =>
    enclosed 9 base (printed base) ++
      (keyShapes (.str member) [(Literal.str member).printed] ++ argShapes (printedAll args))
  | .choice value condition otherwise =>
    enclosed 2 value (printed value) ++
      (name "if" :: (enclosed 2 condition (printed condition) ++ printedElse otherwise))

@[simp] def printedAll : List Expr → List (List Shape)
  | [] => []
  | e :: more => printed e :: printedAll more

@[simp] def printedEntries : List (Expr × Expr) → List (List Shape)
  | [] => []
  | (key, value) :: more => (printed key ++ sign .colon :: printed value) :: printedEntries more

@[simp] def printedElse : Option Expr → List Shape
  | none => []
  | some e => name "else" :: printed e

end

/-- An expression where one that binds at least this tightly has to stand. -/
def printedAt (required : Nat) (e : Expr) : List Shape := enclosed required e e.printed

mutual

/-- The number of nodes of an expression. What is called is an expression of its own: a name, or a
member behind its key. -/
@[simp] def size : Expr → Nat
  | .lit _ | .var _ => 1
  | .list items => sizeAll items + 1
  | .dict entries => sizeEntries entries + 1
  | .item base key => size base + size key + 1
  | .binary _ left right => size left + size right + 1
  | .unary _ operand => size operand + 1
  | .filter base _ args => size base + sizeAll args + 1
  | .test base _ args _ => size base + sizeAll args + 1
  | .call _ args => sizeAll args + 2
  | .callMember base _ args => size base + sizeAll args + 3
  | .choice value condition otherwise => size value + size condition + sizeOption otherwise + 1

@[simp] def sizeAll : List Expr → Nat
  | [] => 0
  | e :: more => size e + sizeAll more

@[simp] def sizeEntries : List (Expr × Expr) → Nat
  | [] => 0
  | (key, value) :: more => size key + size value + sizeEntries more

@[simp] def sizeOption : Option Expr → Nat
  | none => 0
  | some e => size e

end

end Expr

end Stencil
