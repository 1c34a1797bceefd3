import Mathlib.Algebra.BigOperators.Group.List.Basic
import Mathlib.Algebra.Order.Field.Basic
import Mathlib.Data.Nat.Cast.Order.Field
import Mathlib.Tactic.FieldSimp
import Mathlib.Tactic.Linarith
import Mathlib.Tactic.Ring

set_option relaxedAutoImplicit false
set_option autoImplicit false

/-!
# Counters kept in a coarser unit

Counters that are read in whole multiples of a unit, rounded down. What several of them have grown
by is known up to a unit for each, and so is the share that some of them have in the growth of all.

## Main results

* `Counter.abs_growth_div_le` — the growth of one rounded counter.
* `Counter.abs_growth_sum_div_le` — the growth of a sum of rounded counters.
* `Counter.abs_share_sub_le` — the share of a part of which the part and the rest are known up to
  an error.
-/

namespace Counter

variable {K : Type*} [Field K] [LinearOrder K] [IsStrictOrderedRing K] {u : ℕ}

/-- A rounded counter grows by its true growth, up to one unit. -/
lemma abs_growth_div_le (hu : 0 < u) (a b : ℕ) :
    |(u : K) * ((b / u : ℕ) - (a / u : ℕ)) - (b - a)| ≤ u := by
  have ha : (u : K) * (a / u : ℕ) + (a % u : ℕ) = a := by
    exact_mod_cast Nat.div_add_mod a u
  have hb : (u : K) * (b / u : ℕ) + (b % u : ℕ) = b := by
    exact_mod_cast Nat.div_add_mod b u
  have ha' : ((a % u : ℕ) : K) ≤ u := by exact_mod_cast (Nat.mod_lt a hu).le
  have hb' : ((b % u : ℕ) : K) ≤ u := by exact_mod_cast (Nat.mod_lt b hu).le
  have ha₀ : (0 : K) ≤ (a % u : ℕ) := Nat.cast_nonneg _
  have hb₀ : (0 : K) ≤ (b % u : ℕ) := Nat.cast_nonneg _
  rw [abs_le]
  constructor <;> linarith

/-- A sum of rounded counters grows by its true growth, up to one unit for each counter. -/
lemma abs_growth_sum_div_le {ι : Type*} (hu : 0 < u) (a b : ι → ℕ) (l : List ι) :
    |(u : K) * (((l.map fun i => b i / u).sum : ℕ) - ((l.map fun i => a i / u).sum : ℕ)) -
      (((l.map b).sum : ℕ) - ((l.map a).sum : ℕ))| ≤ l.length * u := by
  induction l with
  | nil => simp
  | cons i l ih =>
    have hi := abs_growth_div_le (K := K) hu (a i) (b i)
    simp only [List.map_cons, List.sum_cons, List.length_cons, Nat.cast_add, Nat.cast_one]
    refine le_of_eq_of_le (congrArg abs ?_)
      (((abs_add_le _ _).trans (add_le_add hi ih)).trans_eq ?_)
    · ring
    · ring

/-- A part `x` and the rest `y`, of which `X` and `Y` units are measured with an error of at most
`m` units each: the measured share is off by at most `m` units of the measured whole.

**Proof sketch.** `X * (x + y) - x * (X + Y) = X * y - x * Y`, and the errors of `X` and `Y` enter
it with the factors `y` and `x`. -/
lemma abs_share_sub_le {U x y X Y m : K} (hU : 0 < U) (hx : 0 ≤ x) (hy : 0 ≤ y) (hXY : 0 ≤ X + Y)
    (hX : |U * X - x| ≤ m * U) (hY : |U * Y - y| ≤ m * U) :
    |X / (X + Y) - x / (x + y)| * (X + Y) ≤ m := by
  have hm : 0 ≤ m := nonneg_of_mul_nonneg_left ((abs_nonneg _).trans hX) hU
  rcases hXY.eq_or_lt with hzero | hpos
  · rw [← hzero, mul_zero]
    exact hm
  rw [← abs_of_pos hpos, ← abs_mul, abs_of_pos hpos, sub_mul, div_mul_cancel₀ _ hpos.ne']
  rw [abs_le] at hX hY
  rcases (add_nonneg hx hy).eq_or_lt with hnone | hsome
  · -- nothing has grown
    obtain rfl : x = 0 := by linarith
    rw [zero_div, zero_mul, sub_zero, abs_le]
    constructor <;> nlinarith
  · have hsplit : X - x / (x + y) * (X + Y) =
        ((U * X - x) * y - (U * Y - y) * x) / (U * (x + y)) := by
      field_simp
      ring
    rw [hsplit, abs_div, abs_of_pos (mul_pos hU hsome), div_le_iff₀ (mul_pos hU hsome), abs_le]
    constructor <;> nlinarith

end Counter
