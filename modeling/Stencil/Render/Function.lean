import Stencil.Render.State
import Stencil.Value.Arithmetic
import Stencil.Value.Compare

/-! The functions that expressions can call without a macro, and the variable of loops. -/
namespace Stencil.Render

/-- The longest list that `range` builds. -/
def rangeLimit : Nat := 100000

/-- An argument of `range`. -/
def rangeArgument (v : Value) : Except Fault Int :=
  match v.int? with
  | some i => .ok i.toInt
  | none => .error (.expects "range" "integers" v.kind)

/-- How many numbers lie from `start` on before `stop`. -/
def rangeCount (start stop step : Int) : Nat :=
  let span := if 0 < step then stop - start else start - stop
  if span ≤ 0 then 0 else ((span + step.natAbs - 1) / step.natAbs).toNat

/-- The numbers from `start` on before `stop`, in steps. -/
def rangeItems (start stop step : Int) : Except Fault Value :=
  if step = 0 then .error .rangeStep
  else
    let count := rangeCount start stop step
    if rangeLimit < count then .error (.rangeSize count rangeLimit)
    else .ok (.list ((List.range count).map fun k : Nat => .int (Int64.ofInt (start + k * step))))

/-- `range(stop)`, `range(start, stop)` and `range(start, stop, step)`. -/
def range (args : List Value) : Except Fault Value := do
  match ← args.mapM rangeArgument with
  | [stop] => rangeItems 0 stop 1
  | [start, stop] => rangeItems start stop 1
  | [start, stop, step] => rangeItems start stop step
  | _ => .error (.argumentCount "range" "1 to 3 arguments" args.length)

/-- Items with their indices in front. -/
def indexed (i : Nat) : List Value → List Value
  | [] => []
  | v :: more => .list [.ofNat i, v] :: indexed (i + 1) more

/-- `pairs(map)` and `pairs(list)`: keys or indices with what is stored there. -/
def pairs (args : List Value) : Except Fault Value :=
  match args with
  | [.map entries] => .ok (.list (entries.map Value.pair))
  | [.list items] => .ok (.list (indexed 0 items))
  | [.undefined] | [.null] => .ok (.list [])
  | [v] => .error (.expects "pairs" "a map or list" v.kind)
  | args => .error (.argumentCount "pairs" "1 argument" args.length)

/-- The methods of maps. Nothing is like the empty map. -/
def mapView (target : Value) (method : String) (pos : Position) : RenderM Value :=
  let view (entries : Dict Value) : RenderM Value :=
    match method with
    | "items" => pure (.list (entries.map Value.pair))
    | "keys" => pure (.list ((Dict.keys entries).map .str))
    | "values" => pure (.list (Dict.values entries))
    | _ => fail (.unknownMacro method pos)
  match target with
  | .map entries => view entries
  | .undefined | .null => view []
  | v => fail (.type (.lacks v.kind s!"method `{method}`") pos)

/-- What a loop tells about the item at `i` of `length`. -/
def loopState (i length : Nat) : Value :=
  .map (Dict.ofList
    [("index", .ofNat (i + 1)),
     ("index0", .ofNat i),
     ("first", .bool (i = 0)),
     ("last", .bool (i + 1 = length)),
     ("length", .ofNat length),
     ("revindex", .ofNat (length - i)),
     ("revindex0", .ofNat (length - i - 1))])

/-- The items that a loop goes through. -/
def loopItems (binding : Binding) (v : Value) : Except Fault (List Value) :=
  match v, binding with
  | .list items, _ => .ok items
  | .map entries, .single _ => .ok ((Dict.keys entries).map .str)
  | .map entries, .pair _ _ => .ok (entries.map Value.pair)
  | .str s, _ | .safe s, _ => .ok (Value.ofChars s)
  | .undefined, _ | .null, _ => .ok []
  | v, _ => .error (.operand "iterate over" v.kind)

/-- The variables that an item gives to the names of a loop. -/
def bindItem (binding : Binding) (v : Value) : Except Fault (List (String × Value)) :=
  match binding, v with
  | .single name, v => .ok [(name, v)]
  | .pair first second, .list [a, b] => .ok [(first, a), (second, b)]
  | .pair _ _, .list items => .error (.unpackCount items.length)
  | .pair _ _, v => .error (.unpackKind v.kind)

end Stencil.Render
