import Stencil.Dialect
import Stencil.Json.Reader

/-! The settings of an engine. -/
namespace Stencil

/-- The settings of an engine. -/
structure Config where
  /-- The dialect of templates for which none is chosen; `none` is to look at each text. -/
  dialect : Option Dialect := none
  /-- Whether values are escaped for HTML where they are printed. -/
  autoescape : Bool := false
  /-- The longest chain of macro calls, and of templates that load each other. -/
  maxDepth : Nat := 64
  /-- The number of compiled templates that are kept. -/
  cacheSize : Nat := 400

namespace Config

/-- A choice of dialect: its name, or an object whose only member is that name with null. -/
def choiceOfJson? : Json → Option (Option Dialect)
  | .str name => Dialect.choiceOfName? name
  | .obj [(name, .null)] => Dialect.choiceOfName? name
  | _ => none

def boolOfJson? : Json → Option Bool
  | .bool b => some b
  | _ => none

/-- A natural number of 64 bits, written without sign, point or exponent. -/
def sizeOfJson? : Json → Option Nat
  | .number literal =>
    let digits := literal.toList
    if digits.all Char.isDigit then
      let n := Decimal.natOfDigits digits
      if n < UInt64.size then some n else none
    else none
  | _ => none

/-- The names of the settings, in the order in which a list gives them. -/
def fieldNames : List String := ["syntax", "autoescape", "max_depth", "cache_size"]

/-- Changes the named setting. -/
def set? (c : Config) (name : String) (value : Json) : Option Config :=
  match name with
  | "syntax" => (choiceOfJson? value).map ({ c with dialect := · })
  | "autoescape" => (boolOfJson? value).map ({ c with autoescape := · })
  | "max_depth" => (sizeOfJson? value).map ({ c with maxDepth := · })
  | "cache_size" => (sizeOfJson? value).map ({ c with cacheSize := · })
  | _ => none

/-- Settings from an object with some of them, none twice, or from a list of the first few. All
others have their defaults. -/
def ofJson? : Json → Option Config
  | .obj members =>
    if (members.map (·.1)).Nodup then members.foldlM (fun c m => c.set? m.1 m.2) {} else none
  | .arr items =>
    if items.length ≤ fieldNames.length then
      (fieldNames.zip items).foldlM (fun c m => c.set? m.1 m.2) {}
    else none
  | _ => none

/-- Settings from the text of a JSON document. -/
def read? (text : String) : Option Config := (Json.read? text).bind ofJson?

end Config

end Stencil
