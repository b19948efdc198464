import Stencil.Proofs.EmbeddedJson
import Stencil.Value.Compare

/-! Loose equality has its exceptions: of what is no number, nothing is equal to itself. -/
namespace Stencil.Value

/-- A value that is not the float that is no number. -/
def NotNaN (v : Value) : Prop := ∀ x, v = .float x → x.isNaN = false

/-- A number equals itself. -/
lemma float_beq_self {x : Float} (h : x.isNaN = false) : (x == x) = true := by
  change x.toModel.unpack.isNaN = false at h
  change (x.toModel.unpack.compare x.toModel.unpack == some .eq) = true
  generalize x.toModel.unpack = m at h ⊢
  cases m with
  | notANumber => cases h
  | infinity sign => cases sign <;> rfl
  | zero sign => rfl
  | finite sign mantissa exponent =>
    have hself : (compare exponent exponent).then (compare mantissa mantissa) = .eq := by
      rw [Std.compare_self, Std.compare_self]
      rfl
    cases sign with
    | positive => exact congrArg (some · == some .eq) hself
    | negative => exact congrArg (some ·.swap == some .eq) hself

mutual

/-- A value is loosely equal to itself if all floats in it are numbers. -/
lemma looseEq_self : ∀ v : Value, v.Everywhere NotNaN → v.looseEq v = true
  | .undefined, _ => rfl
  | .null, _ => rfl
  | .bool _, _ => beq_self_eq_true _
  | .int _, _ => beq_self_eq_true _
  | .float _, h => float_beq_self (h _ rfl)
  | .str _, _ => beq_self_eq_true _
  | .safe _, _ => beq_self_eq_true _
  | .list items, h => looseEqAll_self items h.2
  | .map entries, h => looseEqEntries_self entries h.2

lemma looseEqAll_self : ∀ items : List Value, EverywhereAll NotNaN items →
    looseEqAll items items = true
  | [], _ => rfl
  | v :: more, h => by rw [looseEqAll, looseEq_self v h.1, looseEqAll_self more h.2, Bool.and_self]

lemma looseEqEntries_self : ∀ entries : List (String × Value), EverywhereEntries NotNaN entries →
    looseEqEntries entries entries = true
  | [], _ => rfl
  | (_, v) :: more, h => by
    rw [looseEqEntries, looseEq_self v h.1, looseEqEntries_self more h.2, beq_self_eq_true,
      Bool.and_self, Bool.and_self]

end

end Stencil.Value
