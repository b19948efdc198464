import Stencil.Text.Basic
import Stencil.Value.Display

/-! Equality, order, membership and look-up of values. -/
namespace Stencil.Value

mutual

/-- Equality as templates see it: null equals undefined, numbers compare by value, and safe text
equals plain text. -/
def looseEq : Value → Value → Bool
  | .undefined, .undefined | .undefined, .null | .null, .undefined | .null, .null => true
  | .bool a, .bool b => a == b
  | .int a, .int b => a == b
  | .int a, .float y => nearest a == y
  | .float x, .int b => x == nearest b
  | .float x, .float y => x == y
  | .str a, .str b | .str a, .safe b | .safe a, .str b | .safe a, .safe b => a == b
  | .list a, .list b => looseEqAll a b
  | .map a, .map b => looseEqEntries a b
  | _, _ => false

def looseEqAll : List Value → List Value → Bool
  | [], [] => true
  | v :: vs, w :: ws => looseEq v w && looseEqAll vs ws
  | _, _ => false

def looseEqEntries : List (String × Value) → List (String × Value) → Bool
  | [], [] => true
  | (k, v) :: vs, (l, w) :: ws => k == l && looseEq v w && looseEqEntries vs ws
  | _, _ => false

end

/-- The order of two floats, of which neither may be no number. -/
def compareFloats (x y : Float) : Except Fault Ordering :=
  if x < y then .ok .lt
  else if x == y then .ok .eq
  else if y < x then .ok .gt
  else .error .unorderedNaN

/-- The order of two values: numbers by size, strings by code points, and nothing else. -/
def order (a b : Value) : Except Fault Ordering :=
  match a, b with
  | .int m, .int n => .ok (compare m.toInt n.toInt)
  | a, b =>
    match a.float?, b.float?, a.text?, b.text? with
    | some x, some y, _, _ => compareFloats x y
    | _, _, some s, some t => .ok (compare s t)
    | _, _, _, _ => .error (.operands "order" a.kind b.kind)

/-- Whether `needle` is in a container: a part of a text, an item of a list or a key of a map. -/
def contains (container needle : Value) : Except Fault Bool :=
  match container with
  | .undefined | .null => .ok false
  | .str s | .safe s => .ok (Text.occursIn needle.display.toList s.toList)
  | .list items => .ok (items.any (·.looseEq needle))
  | .map entries =>
    match needle with
    | .str k | .safe k => .ok (Dict.contains entries k)
    | .int i => .ok (Dict.contains entries (toString i.toInt))
    | _ => .ok false
  | other => .error (.needs "in" "a string, list or map" other.kind)

/-- The place of index `i` among `length` items; negative indices count from the end. -/
def position? (length : Nat) (i : Int) : Option Nat :=
  if 0 ≤ i then some i.toNat
  else if 0 ≤ length + i then some (length + i).toNat
  else none

/-- The entry of a map or the item of a list or text under a key; misses are undefined. -/
def item (base key : Value) : Value :=
  match base, key with
  | .map entries, .str k | .map entries, .safe k => (Dict.get? entries k).getD .undefined
  | .map entries, .int i => (Dict.get? entries (toString i.toInt)).getD .undefined
  | .list items, .int i =>
    ((position? items.length i.toInt).bind (items[·]?)).getD .undefined
  | .str s, .int i | .safe s, .int i =>
    match (position? s.length i.toInt).bind (s.toList[·]?) with
    | some c => ofChar c
    | none => .undefined
  | _, _ => .undefined

end Stencil.Value
