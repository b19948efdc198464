import Mathlib.Data.Rat.Floor
import Stencil.Filter.Builtin
import Stencil.Proofs.NumberText

/-! Integer arithmetic is exact. A result that 64 bits can hold is the true one, and any other is
a float, never an integer that has wrapped around. Division rounds down for all signs: two ways of
dividing, each with a correction of its own, come to the same quotient. -/
namespace Stencil

/-- The integers that 64 bits can hold. -/
def IsWord (n : ℤ) : Prop := Int64.minValue.toInt ≤ n ∧ n ≤ Int64.maxValue.toInt

namespace IsWord

lemma iff_bounds {n : ℤ} :
    IsWord n ↔ -9223372036854775808 ≤ n ∧ n ≤ 9223372036854775807 := by
  rw [IsWord, show Int64.minValue.toInt = -9223372036854775808 from rfl,
    show Int64.maxValue.toInt = 9223372036854775807 from rfl]

lemma of_toInt (i : Int64) : IsWord i.toInt := ⟨i.minValue_le_toInt, i.toInt_le⟩

variable {n : ℤ} {a b : Int64}

/-- A word made from an integer that fits is that integer. -/
lemma toInt_ofInt (h : IsWord n) : (Int64.ofInt n).toInt = n := by
  obtain ⟨hlow, hhigh⟩ := iff_bounds.mp h
  exact Int64.toInt_ofInt_of_le (by omega) (by omega)

lemma toInt_add (h : IsWord (a.toInt + b.toInt)) : (a + b).toInt = a.toInt + b.toInt := by
  have hsum : Int64.ofInt (a.toInt + b.toInt) = a + b := by
    rw [Int64.ofInt_add, Int64.ofInt_toInt, Int64.ofInt_toInt]
  rw [← hsum]
  exact h.toInt_ofInt

lemma toInt_sub_one (h : IsWord (a.toInt - 1)) : (a - 1).toInt = a.toInt - 1 := by
  have hdifference : Int64.ofInt (a.toInt - 1) = a - 1 := by
    rw [Int64.ofInt_sub, Int64.ofInt_toInt]
    rfl
  rw [← hdifference]
  exact h.toInt_ofInt

end IsWord

namespace Decimal

variable {n : ℤ}

lemma toInt64_eq_some_iff {i : Int64} : toInt64? n = some i ↔ i.toInt = n := by
  constructor
  · intro h
    unfold toInt64? at h
    split at h
    · rename_i hn
      cases h
      exact (IsWord.iff_bounds.mpr hn).toInt_ofInt
    · cases h
  · rintro rfl
    exact toInt64_toInt i

lemma toInt64_of_isWord (h : IsWord n) : toInt64? n = some (Int64.ofInt n) :=
  toInt64_eq_some_iff.mpr h.toInt_ofInt

lemma not_isWord_of_toInt64 (h : toInt64? n = none) : ¬ IsWord n := by
  intro hn
  rw [toInt64_of_isWord hn] at h
  cases h

end Decimal

/-- A quotient that is rounded down, and what it leaves: less than the divisor in size, and zero
or of the divisor's sign. -/
structure RoundedDown (m n q r : ℤ) : Prop where
  total : m = n * q + r
  small : r.natAbs < n.natAbs
  sign : r = 0 ∨ (r < 0 ↔ n < 0)

namespace RoundedDown

variable {m n q r : ℤ}

/-- What is left, divided by the divisor, is a proper fraction. -/
lemma floor_rest (h : RoundedDown m n q r) : ⌊(r : ℚ) / n⌋ = 0 := by
  have hsmall := h.small
  rw [Int.floor_eq_zero_iff, Set.mem_Ico]
  rcases lt_or_gt_of_ne (show n ≠ 0 by omega) with hn | hn
  · have hr : n < r ∧ r ≤ 0 := by
      rcases h.sign with hzero | hsign
      · omega
      · have hneg := hsign.mpr hn
        omega
    have hn' : (n : ℚ) < 0 := by exact_mod_cast hn
    constructor
    · exact div_nonneg_of_nonpos (by exact_mod_cast hr.2) hn'.le
    · rw [div_lt_one_of_neg hn']
      exact_mod_cast hr.1
  · have hr : 0 ≤ r ∧ r < n := by
      rcases h.sign with hzero | hsign
      · omega
      · have hneg : ¬ r < 0 := fun hr => absurd (hsign.mp hr) (by omega)
        omega
    have hn' : (0 : ℚ) < n := by exact_mod_cast hn
    constructor
    · exact div_nonneg (by exact_mod_cast hr.1) hn'.le
    · rw [div_lt_one hn']
      exact_mod_cast hr.2

/-- The quotient is the true one, rounded down. -/
lemma quotient_eq (h : RoundedDown m n q r) : q = ⌊(m : ℚ) / n⌋ := by
  have hsmall := h.small
  have hn : (n : ℚ) ≠ 0 := by
    have hn : n ≠ 0 := by omega
    exact_mod_cast hn
  have hsum : (m : ℚ) / n = q + (r : ℚ) / n := by
    rw [h.total]
    push_cast
    field_simp
  rw [hsum, Int.floor_intCast_add, h.floor_rest, add_zero]

lemma rest_eq (h : RoundedDown m n q r) : r = m - n * ⌊(m : ℚ) / n⌋ := by
  have htotal := h.total
  rw [← h.quotient_eq]
  omega

/-- A rest of the sign of the divisor needs no correction. -/
lemma of_sign (total : m = n * q + r) (small : r.natAbs < n.natAbs)
    (sign : r ≠ 0 → (r < 0 ↔ n < 0)) : RoundedDown m n q r :=
  ⟨total, small, or_iff_not_imp_left.mpr sign⟩

/-- Of a rest of the other sign, the quotient is one too large. -/
lemma of_other_sign (total : m = n * q + r) (small : r.natAbs < n.natAbs) (hr : r ≠ 0)
    (sign : ¬ (r < 0 ↔ n < 0)) : RoundedDown m n (q - 1) (r + n) where
  total := by rw [total, mul_sub]; omega
  small := by omega
  sign := by omega

end RoundedDown

/-- Dividing leaves the words only for the least word and the divisor minus one, and a quotient that
is corrected does so neither. -/
lemma IsWord.quotient {m n : Int64} (hlimit : ¬ (m = Int64.minValue ∧ n = -1)) {q r : ℤ}
    (total : m.toInt = n.toInt * q + r) (small : r.natAbs < n.toInt.natAbs)
    (hsize : q.natAbs ≤ m.toInt.natAbs) : IsWord q ∧ (r ≠ 0 → IsWord (q - 1)) := by
  have hm := IsWord.iff_bounds.mp (.of_toInt m)
  have hn := IsWord.iff_bounds.mp (.of_toInt n)
  have hwords : ¬ (m.toInt = -9223372036854775808 ∧ n.toInt = -1) := by
    rintro ⟨hmin, hone⟩
    exact hlimit ⟨Int64.toInt_inj.mp hmin, Int64.toInt_inj.mp hone⟩
  have hhigh : q ≠ 9223372036854775808 := by
    rintro rfl
    omega
  have hlow : r ≠ 0 → q ≠ -9223372036854775808 := by
    rintro hr rfl
    omega
  simp only [IsWord.iff_bounds]
  omega

namespace Value

/-- The answer of exact arithmetic: the true integer if it is a word, and else a float. -/
inductive Exact (n : ℤ) : Except Fault Value → Prop where
  | word {i : Int64} (h : i.toInt = n) : Exact n (.ok (.int i))
  | beyond {x : Float} (h : ¬ IsWord n) : Exact n (.ok (.float x))

lemma exact_exactOr (n : ℤ) (x : Float) : Exact n (.ok (exactOr n x)) := by
  unfold exactOr
  split
  · rename_i i h
    exact .word (Decimal.toInt64_eq_some_iff.mp h)
  · rename_i h
    exact .beyond (Decimal.not_isWord_of_toInt64 h)

variable {m n : Int64}

lemma toInt_ne_zero (hn : n ≠ 0) : n.toInt ≠ 0 := fun h => hn (Int64.toInt_inj.mp h)

/-- The quotient of words that leaves nothing negative, unless it is out of reach. -/
lemma exists_euclidean (hn : n ≠ 0) (hlimit : ¬ (m = Int64.minValue ∧ n = -1)) :
    ∃ q r : Int64, euclidean? m n = some (q, r) ∧ m.toInt = n.toInt * q.toInt + r.toInt ∧
      0 ≤ r.toInt ∧ r.toInt.natAbs < n.toInt.natAbs ∧ (r ≠ 0 → IsWord (q.toInt - 1)) := by
  have total := (Int.mul_ediv_add_emod m.toInt n.toInt).symm
  have hnonneg := Int.emod_nonneg m.toInt (toInt_ne_zero hn)
  have small : (m.toInt % n.toInt).natAbs < n.toInt.natAbs := by
    have hlt := Int.emod_lt m.toInt (toInt_ne_zero hn)
    omega
  obtain ⟨hq, hq'⟩ := IsWord.quotient hlimit total small (Int.natAbs_ediv_le_natAbs _ _)
  have hr : IsWord (m.toInt % n.toInt) := by
    have hword := IsWord.iff_bounds.mp (.of_toInt n)
    rw [IsWord.iff_bounds]
    omega
  refine ⟨.ofInt (m.toInt / n.toInt), .ofInt (m.toInt % n.toInt), ?_, ?_⟩
  · rw [euclidean?, Decimal.toInt64_of_isWord hq]
    rfl
  · rw [hq.toInt_ofInt, hr.toInt_ofInt]
    refine ⟨total, hnonneg, small, fun hne => hq' fun hzero => hne ?_⟩
    rw [hzero]
    rfl

/-- What the quotient of words that is rounded towards zero leaves, unless it is out of reach. -/
lemma exists_truncating (hn : n ≠ 0) (hlimit : ¬ (m = Int64.minValue ∧ n = -1)) :
    ∃ r : Int64, truncating? m n = some r ∧ r.toInt.natAbs < n.toInt.natAbs ∧
      ∃ q : ℤ, m.toInt = n.toInt * q + r.toInt := by
  have total := (Int.mul_tdiv_add_tmod m.toInt n.toInt).symm
  have hne := toInt_ne_zero hn
  have small : (m.toInt.tmod n.toInt).natAbs < n.toInt.natAbs := by
    rw [Int.natAbs_tmod]
    exact Nat.mod_lt _ (by omega)
  have hsize : (m.toInt.tdiv n.toInt).natAbs ≤ m.toInt.natAbs := by
    rw [Int.natAbs_tdiv]
    exact Nat.div_le_self _ _
  obtain ⟨hq, -⟩ := IsWord.quotient hlimit total small hsize
  refine ⟨m % n, ?_, ?_⟩
  · rw [truncating?, Decimal.toInt64_of_isWord hq]
    rfl
  · rw [Int64.toInt_mod]
    exact ⟨small, _, total⟩

lemma lt_zero_iff (i : Int64) : i < 0 ↔ i.toInt < 0 := Int64.lt_iff_toInt_lt

/-- Behind a negative divisor a quotient that leaves something is corrected. -/
lemma floorDiv_int (hn : n ≠ 0) (hlimit : ¬ (m = Int64.minValue ∧ n = -1)) :
    ∃ (q : Int64) (r : ℤ), floorDiv (.int m) (.int n) = .ok (.int q) ∧
      RoundedDown m.toInt n.toInt q.toInt r := by
  obtain ⟨q, r, hrun, total, hnonneg, small, hword⟩ := exists_euclidean hn hlimit
  simp only [floorDiv, if_neg hn, hrun, Bool.and_eq_true, decide_eq_true_eq, bne_iff_ne,
    lt_zero_iff]
  by_cases hcorrected : n.toInt < 0 ∧ r ≠ 0
  · obtain ⟨hneg, hr⟩ := hcorrected
    refine ⟨q - 1, r.toInt + n.toInt, by rw [if_pos ⟨hneg, hr⟩], ?_⟩
    rw [(hword hr).toInt_sub_one]
    exact .of_other_sign total small (toInt_ne_zero hr) (by omega)
  · refine ⟨q, r.toInt, by rw [if_neg hcorrected], .of_sign total small fun hr => ?_⟩
    have hr' : r ≠ 0 := fun hzero => hr (by rw [hzero]; rfl)
    have hpos : ¬ n.toInt < 0 := fun hneg => hcorrected ⟨hneg, hr'⟩
    omega

/-- A rest that has not the sign of the divisor is corrected. -/
lemma rem_int (hn : n ≠ 0) (hlimit : ¬ (m = Int64.minValue ∧ n = -1)) :
    ∃ (q : ℤ) (r : Int64), rem (.int m) (.int n) = .ok (.int r) ∧
      RoundedDown m.toInt n.toInt q r.toInt := by
  obtain ⟨r, hrun, small, q, total⟩ := exists_truncating hn hlimit
  simp only [rem, if_neg hn, hrun, Bool.and_eq_true, bne_iff_ne, ne_eq, decide_eq_decide,
    lt_zero_iff]
  by_cases hcorrected : r ≠ 0 ∧ ¬ (r.toInt < 0 ↔ n.toInt < 0)
  · obtain ⟨hr, hsign⟩ := hcorrected
    refine ⟨q - 1, r + n, by rw [if_pos ⟨hr, hsign⟩], ?_⟩
    have hsum : IsWord (r.toInt + n.toInt) := by
      have hr := IsWord.iff_bounds.mp (.of_toInt r)
      have hn := IsWord.iff_bounds.mp (.of_toInt n)
      rw [IsWord.iff_bounds]
      omega
    rw [hsum.toInt_add]
    exact .of_other_sign total small (toInt_ne_zero hr) hsign
  · refine ⟨q, r, by rw [if_neg hcorrected], .of_sign total small fun hr => ?_⟩
    have hr' : r ≠ 0 := fun hzero => hr (by rw [hzero]; rfl)
    exact not_not.mp fun hsign => hcorrected ⟨hr', hsign⟩

/-- Out of reach of the words, the floats divide: minus one is not the float zero. -/
lemma nearest_neg_one : (nearest (-1) == 0.0) = false := by decide

lemma floorDiv_limit : ∃ x, floorDiv (.int Int64.minValue) (.int (-1)) = .ok (.float x) := by
  have hrun : euclidean? Int64.minValue (-1) = none := by decide
  refine ⟨(nearest Int64.minValue / nearest (-1)).floor, ?_⟩
  simp only [floorDiv, if_neg (show (-1 : Int64) ≠ 0 by decide), hrun]
  simp [floatFloorDiv, floats, float?, nearest_neg_one, pure, Except.pure, bind, Except.bind]

lemma rem_limit : ∃ x, rem (.int Int64.minValue) (.int (-1)) = .ok (.float x) := by
  have hrun : truncating? Int64.minValue (-1) = none := by decide
  refine ⟨nearest Int64.minValue -
    nearest (-1) * (nearest Int64.minValue / nearest (-1)).floor, ?_⟩
  simp only [rem, if_neg (show (-1 : Int64) ≠ 0 by decide), hrun]
  simp [floatRem, floats, float?, nearest_neg_one, pure, Except.pure, bind, Except.bind]

/-- Sums, differences, products, negatives and sizes of integers are exact. Division by zero fails;
else the quotient is the true one rounded down, and the remainder is what it leaves, but for the
least integer and the divisor minus one, where both are floats. -/
theorem arithmetic_exact (a b : Int64) (args : List Value) :
    (Exact (a.toInt + b.toInt) (add (.int a) (.int b)) ∧
      Exact (a.toInt - b.toInt) (sub (.int a) (.int b)) ∧
      Exact (a.toInt * b.toInt) (mul (.int a) (.int b)) ∧
      Exact (-a.toInt) (neg (.int a)) ∧
      ∃ r, Registry.builtin.run? "abs" (.int a) args = some r ∧ Exact |a.toInt| r) ∧
    (b = 0 → floorDiv (.int a) (.int b) = .error .divisionByZero ∧
      rem (.int a) (.int b) = .error .moduloByZero) ∧
    (a = Int64.minValue ∧ b = -1 → (∃ x, floorDiv (.int a) (.int b) = .ok (.float x)) ∧
      ∃ x, rem (.int a) (.int b) = .ok (.float x)) ∧
    (b ≠ 0 → ¬ (a = Int64.minValue ∧ b = -1) → ∃ q r : Int64,
      floorDiv (.int a) (.int b) = .ok (.int q) ∧ rem (.int a) (.int b) = .ok (.int r) ∧
      q.toInt = ⌊(a.toInt : ℚ) / b.toInt⌋ ∧
      r.toInt = a.toInt - b.toInt * ⌊(a.toInt : ℚ) / b.toInt⌋ ∧
      RoundedDown a.toInt b.toInt q.toInt r.toInt) := by
  refine ⟨⟨exact_exactOr _ _, exact_exactOr _ _, exact_exactOr _ _, exact_exactOr _ _, ?_⟩,
    ?_, ?_, ?_⟩
  · refine ⟨.ok (exactOr a.toInt.natAbs (nearest a).abs), rfl, ?_⟩
    rw [Int.abs_eq_natAbs]
    exact exact_exactOr _ _
  · rintro rfl
    exact ⟨rfl, rfl⟩
  · rintro ⟨rfl, rfl⟩
    exact ⟨floorDiv_limit, rem_limit⟩
  · intro hb hlimit
    obtain ⟨q, r', hq, hdown⟩ := floorDiv_int hb hlimit
    obtain ⟨q', r, hr, hdown'⟩ := rem_int hb hlimit
    -- Both quotients are the true one, and so both rests are what it leaves.
    have hquotient : q.toInt = q' := hdown.quotient_eq.trans hdown'.quotient_eq.symm
    rw [← hquotient] at hdown'
    exact ⟨q, r, hq, hr, hdown'.quotient_eq, hdown'.rest_eq, hdown'⟩

example : floorDiv (.int 7) (.int (-2)) = .ok (.int (-4)) ∧
    rem (.int 7) (.int (-2)) = .ok (.int (-1)) := ⟨rfl, rfl⟩

end Value

end Stencil
