import Stencil.Decimal.Style
import Stencil.Dict
import Stencil.Value.Fault

/-! The values that templates compute with. -/
namespace Stencil

/-- A value of a template. -/
inductive Value where
  /-- What a look-up gives that finds nothing. -/
  | undefined
  | null
  | bool (value : Bool)
  | int (value : Int64)
  | float (value : Float)
  | str (text : String)
  /-- Text that is not to be escaped any more. -/
  | safe (text : String)
  | list (items : List Value)
  | map (entries : List (String × Value))
deriving Inhabited

namespace Value

/-- The kind of a value. -/
def kind : Value → Kind
  | .undefined => .undefined
  | .null => .null
  | .bool _ => .boolean
  | .int _ => .integer
  | .float _ => .float
  | .str _ | .safe _ => .string
  | .list _ => .list
  | .map _ => .map

/-- Conditions hold of all values but nothing, false, zeros and what is empty. -/
def isTruthy : Value → Bool
  | .undefined | .null => false
  | .bool b => b
  | .int i => i != 0
  | .float x => x != 0.0
  | .str s | .safe s => !s.isEmpty
  | .list items => !items.isEmpty
  | .map entries => !entries.isEmpty

def isUndefined : Value → Bool
  | .undefined => true
  | _ => false

/-- Whether a value is null or undefined. -/
def isNothing : Value → Bool
  | .undefined | .null => true
  | _ => false

def isNumber : Value → Bool
  | .int _ | .float _ => true
  | _ => false

def isSafe : Value → Bool
  | .safe _ => true
  | _ => false

/-- The text of a string, safe or not. -/
def text? : Value → Option String
  | .str s | .safe s => some s
  | _ => none

/-- The float nearest to an integer. -/
def nearest (i : Int64) : Float := Float.ofInt i.toInt

/-- A number as a float. -/
def float? : Value → Option Float
  | .int i => some (nearest i)
  | .float x => some x
  | _ => none

/-- A number without a fraction as an integer. A float beyond the range becomes its end. -/
def int? : Value → Option Int64
  | .int i => some i
  | .float x => if Decimal.isWhole x then some x.toInt64 else none
  | _ => none

/-- A count as an integer, or as the largest integer. -/
def ofNat (n : Nat) : Value :=
  .int (if n ≤ 9223372036854775807 then Int64.ofNat n else 9223372036854775807)

/-- A single character as a string. -/
def ofChar (c : Char) : Value := .str (String.singleton c)

/-- The characters of a text, each as a string. -/
def ofChars (s : String) : List Value := s.toList.map ofChar

/-- A key and a value as a list of two. -/
def pair (entry : String × Value) : Value := .list [.str entry.1, entry.2]

end Value

end Stencil
