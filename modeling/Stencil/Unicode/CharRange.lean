/-! Sets of code points as lists of ranges. All tables over them are those of Unicode 17.0. -/
namespace Stencil.Unicode

/-- Every `step`-th code point from `first` to `last`. -/
structure CharRange where
  first : Nat
  last : Nat
  step : Nat

/-- Whether the code point `n` is one of the range. -/
def CharRange.contains (r : CharRange) (n : Nat) : Bool :=
  r.first ≤ n && n ≤ r.last && (n - r.first) % r.step == 0

end Stencil.Unicode
