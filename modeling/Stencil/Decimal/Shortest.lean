/-! The fewest decimal digits that read back as a given binary number. -/
namespace Stencil

/-- The number `coefficient * 10 ^ exponent`. -/
structure Decimal where
  coefficient : Nat
  exponent : Int
deriving DecidableEq

namespace Decimal

/-- A positive binary number `mantissa * 2 ^ exponent`. It is `narrow` if its neighbour below lies
half as far away as the one above. -/
structure Binary where
  mantissa : Nat
  exponent : Int
  narrow : Bool

/-- The power `2 ^ e`, or one if `e` is negative. -/
def pow2 (e : Int) : Nat := Nat.pow 2 e.toNat

/-- The power `10 ^ e`, or one if `e` is negative. -/
def pow10 (e : Int) : Nat := Nat.pow 10 e.toNat

/-- The parts of a finite double of 64 bits, without its sign. -/
def Binary.ofBits (bits : UInt64) : Binary :=
  let fraction : Nat := bits.toNat % pow2 52
  let field : Nat := bits.toNat / pow2 52 % pow2 11
  if field = 0 then ⟨fraction, -1074, false⟩
  else ⟨pow2 52 + fraction, (field : Int) - 1075, fraction = 0 && field > 1⟩

/-- Which of two equally near candidates is taken. -/
inductive Tie where
  | up
  | toEven

/-- The number of decimal digits of `n`. -/
def digitCount (n : Nat) : Nat := (Nat.toDigits 10 n).length

/-- The decimal exponent of the leading digit of `num / den`. -/
def leadingExponent (num den : Nat) : Int :=
  if den ≤ num then digitCount (num / den) - 1
  else
    let t : Int := digitCount (den / num)
    if den = num * pow10 (t - 1) then 1 - t else -t

/-- The multiple of `10 ^ k` nearest to the number that reads back as it, if there is one. All
sizes are counted in quarters of the number's last binary place. -/
def Binary.nearestOnGrid? (b : Binary) (tie : Tie) (k : Int) : Option Decimal :=
  let unit := b.exponent - 2
  let scale := pow2 unit * pow10 (-k)
  let step := pow2 (-unit) * pow10 k
  let value := 4 * b.mantissa * scale
  let lowest := (4 * b.mantissa - if b.narrow then 1 else 2) * scale
  let highest := (4 * b.mantissa + 2) * scale
  let closed := b.mantissa % 2 = 0
  let readsBack (d : Nat) : Bool :=
    if closed then lowest ≤ d * step && d * step ≤ highest
    else lowest < d * step && d * step < highest
  let below := value / step
  let nearer :=
    match compare (2 * value) ((2 * below + 1) * step), tie with
    | .lt, _ => below
    | .gt, _ => below + 1
    | .eq, .up => below + 1
    | .eq, .toEven => if below % 2 = 0 then below else below + 1
  if readsBack below && readsBack (below + 1) then some ⟨nearer, k⟩
  else if readsBack below then some ⟨below, k⟩
  else if readsBack (below + 1) then some ⟨below + 1, k⟩
  else none

/-- Moves trailing zeros of the coefficient into the exponent; `fuel` bounds their number. -/
def stripped : (fuel : Nat) → Decimal → Decimal
  | 0, d => d
  | fuel + 1, d =>
    if d.coefficient ≠ 0 ∧ d.coefficient % 10 = 0 then
      stripped fuel ⟨d.coefficient / 10, d.exponent + 1⟩
    else d

/-- The nearest decimal among the shortest that read back; seventeen digits always suffice. -/
def Binary.shortest (b : Binary) (tie : Tie) : Decimal :=
  if b.mantissa = 0 then ⟨0, 0⟩
  else
    let top := leadingExponent (b.mantissa * pow2 b.exponent) (pow2 (-b.exponent))
    let found := (List.range 17).findSome? fun n : Nat => b.nearestOnGrid? tie (top - n)
    (found.getD ⟨0, 0⟩).stripped 17

end Decimal

end Stencil
