import Stencil.Json.Printer
import Stencil.Value.Basic

/-! Values as JSON and as text. -/
namespace Stencil.Value

mutual

/-- A value as a JSON document: nothing becomes null, safe text a plain string, and a float that
is not finite null. -/
def toJson : Value → Json
  | .undefined | .null => .null
  | .bool b => .bool b
  | .int i => .ofInt i.toInt
  | .float x => if x.isFinite then .number (Decimal.Style.json.write x) else .null
  | .str s | .safe s => .str s
  | .list items => .arr (toJsonAll items)
  | .map entries => .obj (toJsonEntries entries)

def toJsonAll : List Value → List Json
  | [] => []
  | v :: more => toJson v :: toJsonAll more

def toJsonEntries : List (String × Value) → List (String × Json)
  | [] => []
  | (k, v) :: more => (k, toJson v) :: toJsonEntries more

end

/-- The text of a value: nothing has none, a string is its text, lists and maps are JSON. -/
def display : Value → String
  | .undefined | .null => ""
  | .bool b => if b then "true" else "false"
  | .int i => toString i.toInt
  | .float x => Decimal.display x
  | .str s | .safe s => s
  | .list items => (toJson (.list items)).compact
  | .map entries => (toJson (.map entries)).compact

end Stencil.Value
