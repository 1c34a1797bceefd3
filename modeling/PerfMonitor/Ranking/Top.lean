import Mathlib.Algebra.BigOperators.Ring.List
import Mathlib.Algebra.Order.BigOperators.Group.List
import Mathlib.Algebra.Order.Field.Basic
import Mathlib.Data.List.Sort
import Mathlib.Tactic.Positivity

set_option relaxedAutoImplicit false
set_option autoImplicit false

/-!
# The top of a ranking

Items are ranked by a value and the first `k` are kept. Each of them has its share of the total over
all items, also of those that are not kept.

## Main definitions

* `Ranking.share` — the share of a value in a total, in percent.

## Main results

* `Ranking.le_of_mem_drop` — what is not kept ranks no higher than what is.
* `Ranking.sum_share_take_le`, `Ranking.sum_share` — the shares of the kept items add up to at most
  `100`, and those of all items to exactly `100`.
-/

namespace Ranking

variable {α K : Type*}

/-- What is not kept ranks no higher than what is. -/
lemma le_of_mem_drop [LE K] {f : α → K} {l : List α} (hl : l.Pairwise fun a b => f a ≥ f b)
    {k : ℕ} {a b : α}
    (ha : a ∈ l.drop k) (hb : b ∈ l.take k) : f a ≤ f b := by
  rw [← List.take_append_drop k l, List.pairwise_append] at hl
  exact hl.2.2 b hb a ha

variable [Field K] {f : α → K} {l : List α}

/-- The share of a value in a total, in percent. -/
def share (total value : K) : K := value / total * 100

lemma sum_share (total : K) (l : List α) :
    (l.map fun a => share total (f a)).sum = share total (l.map f).sum := by
  unfold share
  simp only [div_eq_mul_inv, mul_assoc, List.sum_map_mul_right]

variable [LinearOrder K] [IsStrictOrderedRing K]

/-- The kept items have at most the whole total. -/
lemma sum_take_le (hf : ∀ a ∈ l, 0 ≤ f a) (k : ℕ) : ((l.take k).map f).sum ≤ (l.map f).sum := by
  have hdrop : 0 ≤ ((l.drop k).map f).sum := by
    apply List.sum_nonneg
    intro x hx
    obtain ⟨a, ha, rfl⟩ := List.mem_map.mp hx
    exact hf a (List.mem_of_mem_drop ha)
  calc ((l.take k).map f).sum
      ≤ ((l.take k).map f).sum + ((l.drop k).map f).sum := le_add_of_nonneg_right hdrop
    _ = (l.map f).sum := by
        rw [← List.sum_append, ← List.map_append, List.take_append_drop]

/-- The whole total has a share of `100`, unless it is zero. -/
lemma share_self_le (total : K) : share total total ≤ 100 := by
  unfold share
  rcases eq_or_ne total 0 with rfl | h
  · rw [div_zero, zero_mul]
    norm_num
  · rw [div_self h, one_mul]

/-- The shares of the kept items add up to at most `100`. -/
lemma sum_share_take_le (hf : ∀ a ∈ l, 0 ≤ f a) (k : ℕ) :
    ((l.take k).map fun a => share (l.map f).sum (f a)).sum ≤ 100 := by
  have htotal : 0 ≤ (l.map f).sum := by
    apply List.sum_nonneg
    intro x hx
    obtain ⟨a, ha, rfl⟩ := List.mem_map.mp hx
    exact hf a ha
  calc ((l.take k).map fun a => share (l.map f).sum (f a)).sum
      = share (l.map f).sum ((l.take k).map f).sum := sum_share _ _
    _ ≤ share (l.map f).sum (l.map f).sum := by
        unfold share
        have hle := sum_take_le hf k
        gcongr
    _ ≤ 100 := share_self_le _

omit [IsStrictOrderedRing K] in
/-- The shares of all items add up to `100`. -/
lemma sum_share_eq (h : 0 < (l.map f).sum) :
    (l.map fun a => share (l.map f).sum (f a)).sum = 100 := by
  rw [sum_share, share, div_self h.ne', one_mul]

end Ranking
