import Stencil.Decimal.Read
import Stencil.Value.Display

/-! The arithmetic operators. Integers that leave 64 bits become floats. -/
namespace Stencil.Value

open Decimal (toInt64?)

/-- An exact result if it fits into 64 bits, and else its float counterpart. -/
def exactOr (n : Int) (x : Float) : Value :=
  match toInt64? n with
  | some i => .int i
  | none => .float x

/-- Two numbers as floats, or the complaint that `verb` is not defined on these kinds. -/
def floats (verb : String) (a b : Value) : Except Fault (Float × Float) :=
  match a.float?, b.float? with
  | some x, some y => .ok (x, y)
  | _, _ => .error (.operands verb a.kind b.kind)

/-- What `+` may join to text: strings, numbers and nothing. -/
def joinsText : Value → Bool
  | .str _ | .safe _ | .int _ | .float _ | .undefined | .null => true
  | _ => false

/-- Adds numbers, appends lists, and joins texts as soon as one side is a string. -/
def add (a b : Value) : Except Fault Value :=
  match a, b with
  | .int m, .int n => .ok (exactOr (m.toInt + n.toInt) (nearest m + nearest n))
  | .list xs, .list ys => .ok (.list (xs ++ ys))
  | a, b =>
    match a.float?, b.float? with
    | some x, some y => .ok (.float (x + y))
    | _, _ =>
      if a.joinsText && b.joinsText && (a.text?.isSome || b.text?.isSome) then
        .ok (.str (a.display ++ b.display))
      else .error (.operands "add" a.kind b.kind)

/-- Subtracts numbers. -/
def sub (a b : Value) : Except Fault Value :=
  match a, b with
  | .int m, .int n => .ok (exactOr (m.toInt - n.toInt) (nearest m - nearest n))
  | a, b => do
    let (x, y) ← floats "subtract" a b
    return .float (x - y)

/-- Multiplies numbers. -/
def mul (a b : Value) : Except Fault Value :=
  match a, b with
  | .int m, .int n => .ok (exactOr (m.toInt * n.toInt) (nearest m * nearest n))
  | a, b => do
    let (x, y) ← floats "multiply" a b
    return .float (x * y)

/-- Divides numbers. The quotient is always a float. -/
def div (a b : Value) : Except Fault Value := do
  let (x, y) ← floats "divide" a b
  if y == 0.0 then throw .divisionByZero
  return .float (x / y)

/-- The quotient of two floats, rounded down. -/
def floatFloorDiv (a b : Value) : Except Fault Value := do
  let (x, y) ← floats "divide" a b
  if y == 0.0 then throw .divisionByZero
  return .float (x / y).floor

/-- The quotient of two integers and what it leaves, which is never negative, if the quotient fits
into 64 bits. -/
def euclidean? (m n : Int64) : Option (Int64 × Int64) :=
  (toInt64? (m.toInt / n.toInt)).map fun q => (q, Int64.ofInt (m.toInt % n.toInt))

/-- The quotient rounded down, an integer for integers unless it leaves 64 bits. -/
def floorDiv (a b : Value) : Except Fault Value :=
  match a, b with
  | .int m, .int n =>
    if n = 0 then .error .divisionByZero
    else match euclidean? m n with
      -- Behind a negative divisor the quotient that leaves something was rounded up.
      | some (q, r) => .ok (.int (if n < 0 && r != 0 then q - 1 else q))
      | none => floatFloorDiv a b
  | _, _ => floatFloorDiv a b

/-- What the quotient of two floats, rounded down, leaves. -/
def floatRem (a b : Value) : Except Fault Value := do
  let (x, y) ← floats "take the remainder of" a b
  if y == 0.0 then throw .moduloByZero
  return .float (x - y * (x / y).floor)

/-- What the quotient of two integers, rounded towards zero, leaves, if the quotient fits into 64
bits. It has the sign of the dividend. -/
def truncating? (m n : Int64) : Option Int64 :=
  (toInt64? (m.toInt.tdiv n.toInt)).map fun _ => m % n

/-- What the quotient rounded down leaves; it has the sign of the divisor. -/
def rem (a b : Value) : Except Fault Value :=
  match a, b with
  | .int m, .int n =>
    if n = 0 then .error .moduloByZero
    else match truncating? m n with
      | some r => .ok (.int (if r != 0 && decide (r < 0) != decide (n < 0) then r + n else r))
      | none => floatRem a b
  | _, _ => floatRem a b

/-- The negative of a number. -/
def neg : Value → Except Fault Value
  | .int m => .ok (exactOr (-m.toInt) (-nearest m))
  | .float x => .ok (.float (-x))
  | a => .error (.operand "negate" a.kind)

/-- The joined texts of two values, safe if both are. -/
def concat (a b : Value) : Value :=
  let joined := a.display ++ b.display
  if a.isSafe && b.isSafe then .safe joined else .str joined

end Stencil.Value
