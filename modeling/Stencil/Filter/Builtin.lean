import Stencil.Filter.Collection
import Stencil.Filter.Number
import Stencil.Filter.Test
import Stencil.Filter.Text

/-! The registry that every engine starts with. -/
namespace Stencil

/-- A filter without arguments that cannot fail. -/
def Filter.plain (f : Value → Value) : Value → List Value → Except Fault Value :=
  fun v _ => .ok (f v)

/-- The built-in filters by name, apart from those that supply a default. -/
def Filter.builtin : List (String × (Value → List Value → Except Fault Value)) :=
  [("upper", plain (mapText Text.upper)),
   ("lower", plain (mapText Text.lower)),
   ("capitalize", plain (mapText Text.capitalize)),
   ("title", plain (mapText Text.title)),
   ("trim", plain (mapText Text.trim)),
   ("length", fun v _ => length v),
   ("count", fun v _ => length v),
   ("join", join),
   ("sort", sort),
   ("reverse", fun v _ => reverse v),
   ("first", fun v _ => first v),
   ("last", fun v _ => last v),
   ("sum", sum),
   ("safe", plain safe),
   ("escape", plain escape),
   ("e", plain escape),
   ("abs", fun v _ => abs v),
   ("round", round),
   ("int", fun v args => .ok (toInteger v args)),
   ("float", fun v args => .ok (toFloat v args)),
   ("list", fun v _ => toList v),
   ("dict", fun v _ => toMap v),
   ("string", plain string),
   ("replace", replace),
   ("truncate", fun v args => .ok (truncate v args)),
   ("indent", indent),
   ("wordcount", plain wordCount),
   ("unique", fun v _ => unique v),
   ("min", fun v _ => extreme .lt v),
   ("max", fun v _ => extreme .gt v),
   ("items", fun v _ => items v),
   ("tojson", fun v args => .ok (toJsonText v args))]

/-- The built-in filters that run on undefined values. -/
def Filter.rescuing : List (String × (Value → List Value → Except Fault Value)) :=
  [("default", fun v args => .ok (fallback v args)),
   ("d", fun v args => .ok (fallback v args))]

/-- All built-in filters and tests. -/
def Registry.builtin : Registry where
  filters := Dict.ofList
    (Filter.builtin.map (fun p => (p.1, ⟨p.2, false⟩)) ++
      Filter.rescuing.map (fun p => (p.1, ⟨p.2, true⟩)))
  tests := Dict.ofList Test.builtin

end Stencil
