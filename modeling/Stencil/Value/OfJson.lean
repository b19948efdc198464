import Stencil.Decimal.Read
import Stencil.Json.Reader
import Stencil.Value.Display

/-! Values and variables from JSON documents. -/
namespace Stencil

namespace Value

/-- Whether a number is written as an integer. Negative zero is a float. -/
def isIntegerLiteral (literal : String) : Bool :=
  literal != "-0" && literal.toList.all fun c => c.isDigit || c == '-'

/-- A number as an integer if it is written as one and fits into 64 bits, and else as a float. -/
def ofNumber (literal : String) : Value :=
  let float := Value.float ((Decimal.readFloat? literal.toList).getD (0.0 / 0.0))
  if isIntegerLiteral literal then
    match Decimal.readInt? literal.toList with
    | some i => .int i
    | none => float
  else float

mutual

/-- The value that a JSON document stands for. Of repeated members the last one counts. -/
def ofJson : Json → Value
  | .null => .null
  | .bool b => .bool b
  | .number literal => ofNumber literal
  | .str s => .str s
  | .arr items => .list (ofJsonAll items)
  | .obj members => .map (ofJsonMembers [] members)

def ofJsonAll : List Json → List Value
  | [] => []
  | j :: more => ofJson j :: ofJsonAll more

def ofJsonMembers (entries : Dict Value) : List (String × Json) → Dict Value
  | [] => entries
  | (name, j) :: more => ofJsonMembers (Dict.insert name (ofJson j) entries) more

end

end Value

namespace Json

/-- The text of a number in its usual form: integers of 64 bits, signed or not, as they are and
other numbers as floats. -/
def normalNumber (literal : String) : String :=
  let digits := literal.toList
  if Value.isIntegerLiteral literal &&
      ((Decimal.readInt? digits).isSome ||
        (digits.all Char.isDigit && Decimal.natOfDigits digits < UInt64.size)) then literal
  else Decimal.Style.json.write ((Decimal.readFloat? digits).getD 0.0)

mutual

/-- A document with sorted members, each name once, and numbers in their usual form. -/
def normal : Json → Json
  | .number literal => .number (normalNumber literal)
  | .arr items => .arr (normalAll items)
  | .obj members => .obj (normalMembers [] members)
  | j => j

def normalAll : List Json → List Json
  | [] => []
  | j :: more => normal j :: normalAll more

def normalMembers (done : Dict Json) : List (String × Json) → Dict Json
  | [] => done
  | (name, j) :: more => normalMembers (Dict.insert name (normal j) done) more

end

/-- The variables that a JSON object gives to a template. -/
def toVariables (j : Json) : Except String (Dict Value) :=
  match Value.ofJson j with
  | .map entries => .ok entries
  | _ => .error ("context must be a map, got " ++ j.normal.compact)

end Json

end Stencil
