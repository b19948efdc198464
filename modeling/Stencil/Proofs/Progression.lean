import Stencil.Proofs.IntegerArithmetic
import Stencil.Render.Function

/-! The function `range` lists the progression from its first number on, in steps, up to the last
number before its end. Each number is the true one, however far apart the bounds are, and a
progression that is too long is refused. -/
namespace Stencil.Render

/-- `x` lies strictly before `stop` in the direction of `step`. -/
def Before (step stop x : ℤ) : Prop := if 0 < step then x < stop else stop < x

/-- A quotient that is rounded up counts the multiples of the divisor below the dividend. -/
lemma lt_count_iff {span size : ℤ} (hsize : 0 < size) (k : ℕ) :
    (k < if span ≤ 0 then 0 else ((span + size - 1) / size).toNat) ↔ k * size < span := by
  split
  · rename_i hspan
    have hmultiple : 0 ≤ k * size := mul_nonneg k.cast_nonneg hsize.le
    omega
  · rw [Int.lt_toNat, Int.lt_iff_add_one_le, Int.le_ediv_iff_mul_le hsize, add_mul]
    omega

variable {start stop step : ℤ}

/-- The numbers before the end are the first ones, as many as are counted. -/
lemma before_iff (hstep : step ≠ 0) (k : ℕ) :
    Before step stop (start + k * step) ↔ k < rangeCount start stop step := by
  have hsize : 0 < (step.natAbs : ℤ) := by omega
  simp only [rangeCount, lt_count_iff hsize, Before]
  split
  · rename_i hpos
    rw [Int.natAbs_of_nonneg hpos.le]
    omega
  · rename_i hpos
    rw [Int.ofNat_natAbs_of_nonpos (by omega), mul_neg]
    omega

variable {first last stride : Int64}

/-- The numbers before the end lie between the bounds, so that words hold them. -/
lemma isWord_of_before {k : ℕ}
    (h : Before stride.toInt last.toInt (first.toInt + k * stride.toInt)) :
    IsWord (first.toInt + k * stride.toInt) := by
  have hfirst := IsWord.iff_bounds.mp (.of_toInt first)
  have hlast := IsWord.iff_bounds.mp (.of_toInt last)
  rw [IsWord.iff_bounds]
  unfold Before at h
  split at h
  · rename_i hpos
    have hfar : 0 ≤ k * stride.toInt := mul_nonneg k.cast_nonneg hpos.le
    omega
  · rename_i hpos
    have hfar : k * stride.toInt ≤ 0 := mul_nonpos_of_nonneg_of_nonpos k.cast_nonneg (by omega)
    omega

/-- The items are the words of the true numbers. -/
lemma toInt_items (hstride : stride ≠ 0) :
    ((List.range (rangeCount first.toInt last.toInt stride.toInt)).map fun k : ℕ =>
      Int64.ofInt (first.toInt + k * stride.toInt)).map Int64.toInt =
    (List.range (rangeCount first.toInt last.toInt stride.toInt)).map fun k : ℕ =>
      first.toInt + k * stride.toInt := by
  rw [List.map_map]
  refine List.map_congr_left fun k hk => ?_
  have hbefore := (before_iff (Value.toInt_ne_zero hstride) k).mpr (List.mem_range.mp hk)
  exact (isWord_of_before hbefore).toInt_ofInt

/-- The list of `range` holds exactly the numbers of the progression before its end, in their
order, if there are at most a hundred thousand of them, and else there is no list. The bounds and
the step may be any integers of 64 bits, but a step of zero fails. -/
theorem range_exact (start stop step : Int64) :
    range [.int stop] = range [.int 0, .int stop, .int 1] ∧
    range [.int start, .int stop] = range [.int start, .int stop, .int 1] ∧
    range [.int start, .int stop, .int 0] = .error .rangeStep ∧
    (step ≠ 0 → ∃ n : ℕ,
      (∀ k : ℕ, Before step.toInt stop.toInt (start.toInt + k * step.toInt) ↔ k < n) ∧
      (n ≤ 100000 → ∃ items : List Int64,
        range [.int start, .int stop, .int step] = .ok (.list (items.map .int)) ∧
        items.map Int64.toInt = (List.range n).map fun k : ℕ => start.toInt + k * step.toInt) ∧
      (100000 < n →
        range [.int start, .int stop, .int step] = .error (.rangeSize n 100000))) := by
  refine ⟨rfl, rfl, rfl, fun hstep => ?_⟩
  have hne := Value.toInt_ne_zero hstep
  refine ⟨_, before_iff hne, fun hn => ⟨_, ?_, toInt_items hstep⟩, fun hn => ?_⟩
  · change rangeItems start.toInt stop.toInt step.toInt = _
    rw [rangeItems, if_neg hne, if_neg (show ¬ rangeLimit < _ from not_lt.mpr hn), List.map_map]
    rfl
  · change rangeItems start.toInt stop.toInt step.toInt = _
    rw [rangeItems, if_neg hne, if_pos (show rangeLimit < _ from hn)]
    rfl

example : range [.int Int64.maxValue, .int Int64.minValue, .int Int64.minValue] =
    .ok (.list [.int Int64.maxValue, .int (-1)]) := rfl

end Stencil.Render
