import Stencil.Decimal.Shortest

/-! Two ways to write floating-point numbers: as text for readers, and as JSON. -/
namespace Stencil.Decimal

/-- The choices in which ways of writing a finite float differ. -/
structure Style where
  /-- Which of two equally near shortest decimals is written. -/
  tie : Tie
  /-- Whether the exponent of the leading digit is small enough to write all places out. -/
  positional : Int → Bool
  /-- What ends a number without a fraction. -/
  wholeEnd : String

/-- Text for readers: all places are written out, whole numbers without a point. -/
def Style.plain : Style where
  tie := .up
  positional := fun _ => true
  wholeEnd := ""

/-- JSON: a float keeps its point, and very small and very large ones have an exponent. -/
def Style.json : Style where
  tie := .toEven
  positional := fun e => -5 ≤ e && e ≤ 15
  wholeEnd := ".0"

/-- `n` zeros. -/
def zeros (n : Nat) : String := String.ofList (List.replicate n '0')

/-- All places written out. -/
def positional (d : Decimal) (wholeEnd : String) : String :=
  let digits := Nat.toDigits 10 d.coefficient
  if 0 ≤ d.exponent then String.ofList digits ++ zeros d.exponent.toNat ++ wholeEnd
  else
    let places := (-d.exponent).toNat
    if places < digits.length then
      String.ofList (digits.take (digits.length - places)) ++ "." ++
        String.ofList (digits.drop (digits.length - places))
    else "0." ++ zeros (places - digits.length) ++ String.ofList digits

/-- One digit before the point and a signed exponent. -/
def scientific (d : Decimal) : String :=
  let digits := Nat.toDigits 10 d.coefficient
  let e := d.exponent + (digits.length - 1 : Nat)
  let fraction := digits.drop 1
  String.ofList (digits.take 1) ++
    (if fraction.isEmpty then "" else "." ++ String.ofList fraction) ++
    (if 0 ≤ e then s!"e+{e}" else s!"e{e}")

/-- Writes a finite float in the given style. -/
def Style.write (style : Style) (x : Float) : String :=
  let d := (Binary.ofBits x.toBits).shortest style.tie
  let leading := d.exponent + (digitCount d.coefficient - 1 : Nat)
  (if x.toBits ≥ 0x8000000000000000 then "-" else "") ++
    if style.positional leading then d.positional style.wholeEnd else d.scientific

/-- Whether a float is finite and has no fraction. -/
def isWhole (x : Float) : Bool := x.isFinite && x.floor == x

/-- Text for readers: whole numbers below ten to the sixteenth read as integers, so that negative
zero has no sign. -/
def display (x : Float) : String :=
  if x.isNaN then "NaN"
  else if x.isInf then (if x < 0 then "-inf" else "inf")
  else if isWhole x && x.abs < 1e16 then toString x.toInt64.toInt
  else Style.plain.write x

end Stencil.Decimal
