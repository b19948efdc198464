import Stencil.Filter.Basic
import Stencil.Value.Compare

/-! Filters on lists, maps and the characters of texts. -/
namespace Stencil.Filter

/-- The number of characters, items or entries. -/
def length : Value → Except Fault Value
  | .str s | .safe s => .ok (.ofNat s.length)
  | .list items => .ok (.ofNat items.length)
  | .map entries => .ok (.ofNat entries.length)
  | .null => .ok (.int 0)
  | v => .error (.lacks v.kind "length")

/-- The value itself, or the first argument in place of nothing; if the second argument is truthy,
also in place of whatever is falsy. -/
def fallback (v : Value) (args : List Value) : Value :=
  let falsyToo := (args[1]?.map Value.isTruthy).getD false
  if v.isNothing || (falsyToo && !v.isTruthy) then args[0]?.getD (.str "") else v

/-- The texts of the items with a separator between them. The result is safe if there are items
and all of them are; the characters of a text can be joined too. -/
def join (v : Value) (args : List Value) : Except Fault Value :=
  let separator := ((argument? args 0).map Value.display).getD ""
  match v with
  | .list items =>
    let joined := separator.intercalate (items.map Value.display)
    .ok (if !items.isEmpty && items.all Value.isSafe then .safe joined else .str joined)
  | .str s | .safe s => .ok (.str (separator.intercalate (s.toList.map String.singleton)))
  | v => .error (.operand "join" v.kind)

/-- Puts `v` into a descending list, behind the items that are greater. -/
def insertSorted (v : Value) : List Value → Except Fault (List Value)
  | [] => .ok [v]
  | w :: rest =>
    match v.order w with
    | .error e => .error e
    | .ok .lt => (insertSorted v rest).map (w :: ·)
    | .ok _ => .ok (v :: w :: rest)

/-- Sorts by inserting one item after the other; equal items keep their order. Each item is
compared with its neighbours on the left, nearest first, up to one that is not greater. -/
def insertionSort (items : List Value) : Except Fault (List Value) :=
  (items.foldlM (fun sorted v => insertSorted v sorted) []).map List.reverse

/-- Whether each item can be compared with the next. -/
def comparable : List Value → Bool
  | [] => true
  | [_] => true
  | v :: w :: rest => (v.order w).isOk && comparable (w :: rest)

/-- Whether `v` may stand before `w`. -/
def inOrder (v w : Value) : Bool :=
  match w.order v with
  | .ok .lt => false
  | _ => true

/-- Sorts by size, equal items in their given order. Only short lists and lists that cannot be
sorted are sorted by insertion. Where some of more than twenty items cannot be compared, all that
can be relied on is that sorting does not succeed: a faster sort may meet another pair first, or
stop without an answer. -/
def sortItems (items : List Value) : Except Fault (List Value) :=
  if items.length ≤ 20 || !comparable items then insertionSort items
  else .ok (items.mergeSort inOrder)

/-- The items in ascending order, or descending if the argument is truthy; of a map, its keys. -/
def sort (v : Value) (args : List Value) : Except Fault Value :=
  let descending := ((argument? args 0).map Value.isTruthy).getD false
  let sorted (items : List Value) : Except Fault Value :=
    (sortItems items).map fun s => .list (if descending then s.reverse else s)
  match v with
  | .list items => sorted items
  | .map entries => sorted ((Dict.keys entries).map .str)
  | v => .error (.operand "sort" v.kind)

/-- The items or characters from last to first. -/
def reverse : Value → Except Fault Value
  | .list items => .ok (.list items.reverse)
  | .str s => .ok (.str (String.ofList s.toList.reverse))
  | .safe s => .ok (.safe (String.ofList s.toList.reverse))
  | v => .error (.operand "reverse" v.kind)

/-- The first item or character. -/
def first : Value → Except Fault Value
  | .list items => .ok (items.head?.getD .undefined)
  | .str s | .safe s => .ok ((s.toList.head?.map Value.ofChar).getD .undefined)
  | v => .error (.lacks v.kind "items")

/-- The last item or character. -/
def last : Value → Except Fault Value
  | .list items => .ok (items.getLast?.getD .undefined)
  | .str s | .safe s => .ok ((s.toList.getLast?.map Value.ofChar).getD .undefined)
  | v => .error (.lacks v.kind "items")

/-- The items of a list, the keys of a map or the characters of a text as a list. -/
def toList : Value → Except Fault Value
  | .list items => .ok (.list items)
  | .map entries => .ok (.list ((Dict.keys entries).map .str))
  | .str s | .safe s => .ok (.list (Value.ofChars s))
  | .null => .ok (.list [])
  | v => .error (.conversion v.kind "a list")

/-- Stores a pair of a key and a value; the key is taken by its text. -/
def storePair (entries : Dict Value) : Value → Except Fault (Dict Value)
  | .list [key, value] => .ok (Dict.insert key.display value entries)
  | v => .error (.expected "[key, value] pairs" v.kind)

/-- A list of pairs as a map. -/
def toMap : Value → Except Fault Value
  | .map entries => .ok (.map entries)
  | .null => .ok (.map [])
  | .list items => (items.foldlM storePair []).map .map
  | v => .error (.conversion v.kind "a map")

/-- The items that equal none before them; `seen` holds those already taken, last one first. -/
def distinctFrom (seen : List Value) : List Value → List Value
  | [] => []
  | v :: rest =>
    if seen.any (·.looseEq v) then distinctFrom seen rest else v :: distinctFrom (v :: seen) rest

/-- A list without the items that equal an earlier one. -/
def unique : Value → Except Fault Value
  | .list items => .ok (.list (distinctFrom [] items))
  | v => .error (.operand "deduplicate" v.kind)

/-- The first of the items that no later one beats; `wanted` is how a better one compares. -/
def extremeFrom (wanted : Ordering) (best : Value) : List Value → Except Fault Value
  | [] => .ok best
  | v :: rest =>
    match v.order best with
    | .error e => .error e
    | .ok o => extremeFrom wanted (if o = wanted then v else best) rest

/-- The least or the greatest item. -/
def extreme (wanted : Ordering) : Value → Except Fault Value
  | .list [] => .ok .undefined
  | .list (v :: rest) => extremeFrom wanted v rest
  | v => .error (.expected "a list" v.kind)

/-- The entries of a map as pairs. -/
def items : Value → Except Fault Value
  | .map entries => .ok (.list (entries.map Value.pair))
  | .null => .ok (.list [])
  | v => .error (.lacks v.kind "items")

end Stencil.Filter
