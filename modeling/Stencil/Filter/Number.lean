import Stencil.Decimal.Read
import Stencil.Filter.Basic
import Stencil.Text.Basic
import Stencil.Value.Arithmetic

/-! Filters that compute with numbers. -/
namespace Stencil.Filter

/-- The size of a number without its sign. -/
def abs : Value → Except Fault Value
  | .int i => .ok (Value.exactOr (i.toInt.natAbs : Int) (Value.nearest i).abs)
  | .float x => .ok (.float x.abs)
  | v => .error (.expected "a number" v.kind)

/-- Rounds to a number of places, at most fifteen: to the nearest with halves away from zero, or
down or up. -/
def round (v : Value) (args : List Value) : Except Fault Value :=
  match v.float? with
  | none => .error (.operand "round" v.kind)
  | some x =>
    let precision := match (argument? args 0).bind Value.int? with
      | some n => min n.toInt.toNat 15
      | none => 0
    let method := ((argument? args 1).bind Value.text?).getD "common"
    let scale := Float.ofNat (Nat.pow 10 precision)
    let scaled := x * scale
    match method with
    | "common" => .ok (.float (scaled.round / scale))
    | "floor" => .ok (.float (scaled.floor / scale))
    | "ceil" => .ok (.float (scaled.ceil / scale))
    | other => .error (.roundingMethod other)

/-- The integer that a text between blanks stands for; a float loses its fraction. -/
def readInteger? (s : String) : Option Int64 :=
  let text := Text.trim s.toList
  match Decimal.readInt? text with
  | some i => some i
  | none => (Decimal.readFloat? text).bind fun x => if x.isFinite then some x.toInt64 else none

/-- A value as an integer, or the first argument where there is none. -/
def toInteger (v : Value) (args : List Value) : Value :=
  let fallback := (argument? args 0).getD (.int 0)
  match v with
  | .int i => .int i
  | .float x => if x.isFinite then .int x.toInt64 else fallback
  | .bool b => .int (if b then 1 else 0)
  | .str s | .safe s =>
    match readInteger? s with
    | some i => .int i
    | none => fallback
  | _ => fallback

/-- A value as a float, or the first argument where there is none. -/
def toFloat (v : Value) (args : List Value) : Value :=
  let fallback := (argument? args 0).getD (.float 0.0)
  match v with
  | .int i => .float (Value.nearest i)
  | .float x => .float x
  | .bool b => .float (if b then 1.0 else 0.0)
  | .str s | .safe s =>
    match Decimal.readFloat? (Text.trim s.toList) with
    | some x => .float x
    | none => fallback
  | _ => fallback

/-- Adds the numbers of a list to the first argument, or to zero. -/
def sum (v : Value) (args : List Value) : Except Fault Value :=
  match v with
  | .list items =>
    items.foldlM (fun total item =>
      if item.isNumber then total.add item else .error (.operand "sum" item.kind))
      ((argument? args 0).getD (.int 0))
  | v => .error (.operand "sum" v.kind)

end Stencil.Filter
