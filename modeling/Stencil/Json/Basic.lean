/-! JSON documents. -/
namespace Stencil

/-- A JSON document. A number keeps the text it is written with, and an object its members in
written order, repeated names included. -/
inductive Json where
  | null
  | bool (value : Bool)
  | number (literal : String)
  | str (value : String)
  | arr (items : List Json)
  | obj (members : List (String × Json))
deriving Inhabited

namespace Json

/-- An integer as a number. -/
def ofInt (n : Int) : Json := .number (toString n)

/-- A natural number as a number. -/
def ofNat (n : Nat) : Json := .number (toString n)

/-- The last member called `name`. -/
def member? : Json → (name : String) → Option Json
  | .obj members, name => members.reverse.lookup name
  | _, _ => none

end Json

end Stencil
