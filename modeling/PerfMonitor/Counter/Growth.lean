import Mathlib.Algebra.Field.Defs
import Mathlib.Algebra.Group.Nat.Defs
import Mathlib.Algebra.Order.Monoid.Defs
import Mathlib.Data.Nat.Cast.Order.Basic
import Mathlib.Data.List.Chain
import Mathlib.Tactic.Abel
import Mathlib.Tactic.Common

set_option relaxedAutoImplicit false
set_option autoImplicit false

/-!
# The growth of a counter

A counter is read now and then. Between two readings it grows by their difference; one that has
fallen was restarted in between and counts from zero. What is added up over the consecutive
readings of a run telescopes as long as the counter never falls.

## Main definitions

* `Counter.growth` — the growth between two readings.
* `Counter.sumSteps` — the sum of a quantity over the consecutive pairs of a list.
* `Counter.Recorded` — readings each of which was taken against a baseline that the reading before
  has left.

## Main results

* `Counter.sumSteps_congr` — quantities that agree on consecutive pairs have the same sum.
* `Counter.sumSteps_eq_iff_of_le` — a quantity below another one has the same sum only if it is
  equal on all consecutive pairs.
* `Counter.sumSteps_sub` — a sum of differences is the last value minus the first.
* `Counter.sumSteps_growth_of_le` — the growths of a counter that never falls telescope.
* `Counter.Recorded.isChain` — what holds of a reading and its baseline holds of all consecutive
  readings.
-/

namespace Counter

/-- The growth of a counter between two readings; one that has fallen counts from zero. -/
def growth (last now : ℕ) : ℕ := if last ≤ now then now - last else now

lemma growth_of_le {last now : ℕ} (h : last ≤ now) : growth last now = now - last := if_pos h

lemma growth_of_lt {last now : ℕ} (h : now < last) : growth last now = now :=
  if_neg (Nat.not_le.mpr h)

/-- A counter does not grow exactly when it stays, or falls to zero. -/
lemma growth_eq_zero_iff {last now : ℕ} : growth last now = 0 ↔ now = last ∨ now = 0 := by
  unfold growth
  split_ifs <;> omega

/-! ## Sums over consecutive readings -/

section SumSteps

variable {α M : Type*} [AddCommGroup M]

/-- The sum of `f` over the consecutive pairs of a list. -/
def sumSteps (f : α → α → M) : List α → M
  | [] => 0
  | [_] => 0
  | a :: b :: l => f a b + sumSteps f (b :: l)

variable {f g : α → α → M} {l : List α} {a b : α}

@[simp] lemma sumSteps_nil : sumSteps f [] = 0 := rfl

@[simp] lemma sumSteps_singleton : sumSteps f [a] = 0 := rfl

@[simp] lemma sumSteps_cons_cons : sumSteps f (a :: b :: l) = f a b + sumSteps f (b :: l) := rfl

/-- Quantities that agree on all consecutive pairs have the same sum. -/
lemma sumSteps_congr (h : l.IsChain fun a b => f a b = g a b) : sumSteps f l = sumSteps g l := by
  induction l using List.twoStepInduction with
  | nil => rfl
  | singleton c => rfl
  | cons_cons c d l _ ih =>
    obtain ⟨hcd, hrest⟩ := List.isChain_cons_cons.mp h
    rw [sumSteps_cons_cons, sumSteps_cons_cons, hcd, ih d hrest]

/-- Two conditions on all consecutive pairs are one. -/
lemma isChain_and {R S : α → α → Prop} (hR : l.IsChain R) (hS : l.IsChain S) :
    l.IsChain fun a b => R a b ∧ S a b := by
  rw [List.isChain_iff_forall_rel_of_append_cons_cons] at hR hS ⊢
  exact fun a b l₁ l₂ h => ⟨hR h, hS h⟩

/-- A sum of differences is the last value minus the first. -/
lemma sumSteps_sub (φ : α → M) (hfirst : l.head? = some a) (hlast : l.getLast? = some b) :
    sumSteps (fun x y => φ y - φ x) l = φ b - φ a := by
  induction l using List.twoStepInduction generalizing a with
  | nil => simp at hfirst
  | singleton c =>
    obtain rfl : c = a := by simpa using hfirst
    obtain rfl : c = b := by simpa using hlast
    rw [sumSteps_singleton, sub_self]
  | cons_cons c d l _ ih =>
    obtain rfl : c = a := by simpa using hfirst
    rw [sumSteps_cons_cons, ih d rfl (by rwa [List.getLast?_cons_cons] at hlast)]
    abel

end SumSteps

section Order

variable {α M : Type*} [AddCommGroup M] [LinearOrder M] [IsOrderedAddMonoid M] {f g : α → α → M}
  {l : List α}

lemma sumSteps_le (h : l.IsChain fun a b => f a b ≤ g a b) : sumSteps f l ≤ sumSteps g l := by
  induction l using List.twoStepInduction with
  | nil => exact le_rfl
  | singleton c => exact le_rfl
  | cons_cons c d l _ ih =>
    obtain ⟨hcd, hrest⟩ := List.isChain_cons_cons.mp h
    rw [sumSteps_cons_cons, sumSteps_cons_cons]
    exact add_le_add hcd (ih d hrest)

/-- Of two quantities of which one never exceeds the other, the sums agree only if the quantities
agree on all consecutive pairs. -/
lemma sumSteps_eq_iff_of_le (h : l.IsChain fun a b => f a b ≤ g a b) :
    sumSteps f l = sumSteps g l ↔ l.IsChain fun a b => f a b = g a b := by
  refine ⟨fun heq => ?_, sumSteps_congr⟩
  induction l using List.twoStepInduction with
  | nil => exact List.isChain_nil
  | singleton c => exact List.isChain_singleton c
  | cons_cons c d l _ ih =>
    obtain ⟨hcd, hrest⟩ := List.isChain_cons_cons.mp h
    rw [sumSteps_cons_cons, sumSteps_cons_cons] at heq
    obtain ⟨hfirst, hsums⟩ := (add_eq_add_iff_eq_and_eq hcd (sumSteps_le hrest)).mp heq
    exact List.isChain_cons_cons.mpr ⟨hfirst, ih d hrest hsums⟩

end Order

/-- The growths of a counter that never falls add up to its last reading minus its first. -/
lemma sumSteps_growth_of_le {α K : Type*} [Ring K] {c : α → ℕ} {l : List α} {first last : α}
    (hle : l.IsChain fun a b => c a ≤ c b) (hfirst : l.head? = some first)
    (hlast : l.getLast? = some last) :
    sumSteps (fun a b => (growth (c a) (c b) : K)) l = (c last : K) - c first := by
  rw [← sumSteps_sub (fun x => (c x : K)) hfirst hlast]
  apply sumSteps_congr
  refine hle.imp fun a b hab => ?_
  rw [growth_of_le hab, Nat.cast_sub hab]

/-- A quantity that is the growth of a counter between any two consecutive readings adds up to the
last reading minus the first, if the counter never falls. -/
lemma sumSteps_of_growth {α K : Type*} [Ring K] {c : α → ℕ} {f : α → α → K} {l : List α}
    {first last : α} (hf : l.IsChain fun a b => f a b = growth (c a) (c b))
    (hle : l.IsChain fun a b => c a ≤ c b) (hfirst : l.head? = some first)
    (hlast : l.getLast? = some last) : sumSteps f l = (c last : K) - c first := by
  rw [sumSteps_congr hf]
  exact sumSteps_growth_of_le hle hfirst hlast

/-! ## Readings against a baseline -/

section Recorded

variable {σ γ : Type*}

/-- Readings were taken one after the other: each stands in the relation `R` to the baseline it was
taken against and leaves the baseline `entry` for the next one; the first has found none. -/
inductive Recorded (R : Option γ → σ → Prop) (entry : σ → γ) : List σ → Option γ → Prop
  | nil : Recorded R entry [] none
  | concat {l : List σ} {c : Option γ} {s : σ} (h : Recorded R entry l c) (hs : R c s) :
      Recorded R entry (l ++ [s]) (some (entry s))

variable {R : Option γ → σ → Prop} {entry : σ → γ} {l : List σ} {c : Option γ}

/-- The baseline is the one that the last reading has left. -/
lemma Recorded.baseline_eq (h : Recorded R entry l c) : c = l.getLast?.map entry := by
  cases h with
  | nil => rfl
  | concat h hs => rw [List.getLast?_concat, Option.map_some]

/-- Every reading was taken against some baseline. -/
lemma Recorded.exists_of_mem (h : Recorded R entry l c) {s : σ} (hs : s ∈ l) : ∃ c, R c s := by
  induction h with
  | nil => cases hs
  | concat h hR ih =>
    rcases List.mem_append.mp hs with hs | hs
    · exact ih hs
    · rw [List.mem_singleton.mp hs]
      exact ⟨_, hR⟩

/-- Consecutive readings stand in the relation that a reading has to its baseline. -/
lemma Recorded.isChain (h : Recorded R entry l c) :
    l.IsChain fun a b => R (some (entry a)) b := by
  induction h with
  | nil => exact List.isChain_nil
  | @concat l c s h hs ih =>
    refine List.isChain_append.mpr ⟨ih, List.isChain_singleton s, ?_⟩
    intro a ha b hb
    obtain rfl : s = b := by simpa using hb
    rw [h.baseline_eq, Option.mem_def.mp ha, Option.map_some] at hs
    exact hs

end Recorded

end Counter
