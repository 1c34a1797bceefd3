import Mathlib.Algebra.BigOperators.Ring.List
import Mathlib.Algebra.Order.BigOperators.Group.List
import Mathlib.Algebra.Order.Field.Basic

set_option relaxedAutoImplicit false
set_option autoImplicit false

/-!
# Weighted means

The mean of values with weights that are not negative and not all zero. Items without weight do not
count: the mean lies between two values that have one.

## Main definitions

* `Average.weighted` — the weighted mean over a list.

## Main results

* `Average.exists_le_weighted`, `Average.exists_weighted_le` — the mean lies between the values.
-/

namespace Average

variable {ι K : Type*} [Field K]

/-- The mean of the values `v` with the weights `w`. -/
def weighted (w v : ι → K) (l : List ι) : K := (l.map fun i => w i * v i).sum / (l.map w).sum

variable {w v : ι → K} {l : List ι}

lemma weighted_neg : weighted w (fun i => - v i) l = - weighted w v l := by
  have hneg : ∀ i, w i * - v i = w i * v i * -1 := fun i => by rw [mul_neg_one, mul_neg]
  simp only [weighted, hneg, List.sum_map_mul_right]
  rw [mul_neg_one, neg_div]

variable [LinearOrder K] [IsStrictOrderedRing K]

/-- Some value with a weight is at most the mean.

**Proof sketch.** Otherwise the weighted sum would exceed the mean times the sum of the weights. -/
lemma exists_le_weighted (hw : ∀ i ∈ l, 0 ≤ w i) (hpos : 0 < (l.map w).sum) :
    ∃ i ∈ l, 0 < w i ∧ v i ≤ weighted w v l := by
  by_contra hnone
  push Not at hnone
  have hle : ∀ i ∈ l, w i * weighted w v l ≤ w i * v i := by
    intro i hi
    rcases (hw i hi).eq_or_lt with hzero | hlt
    · rw [← hzero, zero_mul, zero_mul]
    · exact mul_le_mul_of_nonneg_left (hnone i hi hlt).le hlt.le
  have hlt : ∃ i ∈ l, w i * weighted w v l < w i * v i := by
    obtain ⟨i, hi, hwi⟩ : ∃ i ∈ l, (0 : K) < w i :=
      List.exists_lt_of_sum_lt (fun _ => (0 : K)) w (by simpa using hpos)
    exact ⟨i, hi, mul_lt_mul_of_pos_left (hnone i hi hwi) hwi⟩
  have hsum := List.sum_lt_sum _ _ hle hlt
  rw [List.sum_map_mul_right, weighted, mul_div_cancel₀ _ hpos.ne'] at hsum
  exact lt_irrefl _ hsum

/-- Some value with a weight is at least the mean. -/
lemma exists_weighted_le (hw : ∀ i ∈ l, 0 ≤ w i) (hpos : 0 < (l.map w).sum) :
    ∃ i ∈ l, 0 < w i ∧ weighted w v l ≤ v i := by
  obtain ⟨i, hi, hwi, hle⟩ := exists_le_weighted (v := fun i => - v i) hw hpos
  rw [weighted_neg] at hle
  exact ⟨i, hi, hwi, neg_le_neg_iff.mp hle⟩

end Average
