import Mathlib.Algebra.BigOperators.Field
import Mathlib.Algebra.Order.BigOperators.Group.Finset
import Mathlib.Algebra.Order.Field.Basic
import Mathlib.Data.List.Count
import Mathlib.Tactic.FieldSimp
import Mathlib.Tactic.Linarith
import Mathlib.Tactic.Positivity
import Mathlib.Tactic.Ring

set_option relaxedAutoImplicit false
set_option autoImplicit false
set_option linter.unusedSectionVars false

/-!
# Smooth weighted round-robin

Every candidate `i` of a finite set `A` has a weight `w i > 0` and a running credit `c i`. In
one round every credit is raised by the candidate's weight, a candidate whose raised credit is
greatest is chosen, and the chosen one pays the total weight back. Which of several greatest
candidates is chosen is left open, so every statement here holds for arbitrary tie-breaking.

## Main definitions

* `SmoothRoundRobin.IsChoice` — a candidate that a round may choose.
* `SmoothRoundRobin.settle` — the credits after the round.
* `SmoothRoundRobin.Balanced` — the invariant: credits sum to zero and none is `-L` or less.
* `SmoothRoundRobin.Accounts` — the credits expressed by the number of rounds and of choices.
* `SmoothRoundRobin.Rounds` — a sequence of rounds.

## Main results

* `SmoothRoundRobin.Balanced.settle` — a round keeps the invariant when `L` is at least the
  total weight.
* `SmoothRoundRobin.Balanced.le` — the invariant bounds every credit above by `(n - 1) L`.
* `SmoothRoundRobin.Accounts.le_count`, `SmoothRoundRobin.Accounts.count_lt` — the share of a
  candidate in a sequence of rounds with constant weights, from zero credits.
* `SmoothRoundRobin.Accounts.abs_count_sub_lt` — the same from any balanced start.
* `SmoothRoundRobin.Rounds.length_mul_le` — from any credits, balanced or not, a candidate waits
  for its turn a bounded number of rounds.
-/

namespace SmoothRoundRobin

variable {ι K : Type*} [DecidableEq ι] [Field K] [LinearOrder K] [IsStrictOrderedRing K]

/-- The total weight of the candidates. -/
def totalWeight (A : Finset ι) (w : ι → K) : K := ∑ i ∈ A, w i

/-- Candidate `b` may be chosen: its raised credit is greatest. -/
structure IsChoice (A : Finset ι) (w c : ι → K) (b : ι) : Prop where
  mem : b ∈ A
  le : ∀ i ∈ A, c i + w i ≤ c b + w b

/-- The credits after a round that chose `b`; credits outside `A` stay. -/
def settle (A : Finset ι) (w c : ι → K) (b i : ι) : K :=
  if i ∈ A then c i + w i - (if i = b then totalWeight A w else 0) else c i

/-- Credits sum to zero and each is greater than `-L`. -/
structure Balanced (A : Finset ι) (L : K) (c : ι → K) : Prop where
  sum_eq : ∑ i ∈ A, c i = 0
  lower : ∀ i ∈ A, -L < c i

variable {A : Finset ι} {w c c' : ι → K} {b i : ι} {L L' : K}

lemma totalWeight_pos (hw : ∀ i ∈ A, 0 < w i) (hi : i ∈ A) : 0 < totalWeight A w :=
  Finset.sum_pos hw ⟨i, hi⟩

/-- The chosen candidate pays back exactly what the round handed out. -/
lemma sum_settle (hb : b ∈ A) : ∑ i ∈ A, settle A w c b i = ∑ i ∈ A, c i := by
  have h : ∀ i ∈ A, settle A w c b i = c i + w i - (if i = b then totalWeight A w else 0) :=
    fun i hi => if_pos hi
  rw [Finset.sum_congr rfl h, Finset.sum_sub_distrib, Finset.sum_add_distrib,
    Finset.sum_ite_eq', if_pos hb, totalWeight]
  ring

/-- A newcomer that no candidate beats may be chosen. -/
lemma isChoice_insert_self (h : ∀ j ∈ A, c j + w j ≤ c i + w i) : IsChoice (insert i A) w c i := by
  refine ⟨Finset.mem_insert_self i A, fun j hj => ?_⟩
  rcases Finset.mem_insert.mp hj with rfl | hj
  · exact le_rfl
  · exact h j hj

/-- A choice stays one beside a newcomer that does not beat it. -/
lemma IsChoice.insert (h : IsChoice A w c b) (hi : c i + w i ≤ c b + w b) :
    IsChoice (insert i A) w c b := by
  refine ⟨Finset.mem_insert_of_mem h.mem, fun j hj => ?_⟩
  rcases Finset.mem_insert.mp hj with rfl | hj
  · exact hi
  · exact h.le j hj

/-- A chosen candidate has positive raised credit: otherwise the raised credits, whose sum is
the total weight, would all be nonpositive. -/
lemma IsChoice.raised_pos (hb : IsChoice A w c b) (hw : ∀ i ∈ A, 0 < w i)
    (hsum : ∑ i ∈ A, c i = 0) : 0 < c b + w b := by
  by_contra hneg
  have hle : ∑ i ∈ A, (c i + w i) ≤ 0 :=
    Finset.sum_nonpos fun i hi => (hb.le i hi).trans (not_lt.mp hneg)
  rw [Finset.sum_add_distrib, hsum, zero_add] at hle
  exact absurd (totalWeight_pos hw hb.mem) (not_lt.mpr hle)

/-- **A round keeps the invariant**, whichever greatest candidate it chooses.

**Proof sketch.** The sum is `sum_settle`. A candidate that is not chosen only gains. The chosen
one had positive raised credit (`IsChoice.raised_pos`), so after paying the total weight it
is above `-totalWeight A w`, hence above `-L`. -/
theorem Balanced.settle (h : Balanced A L c) (hw : ∀ i ∈ A, 0 < w i) (hb : IsChoice A w c b)
    (hL : totalWeight A w ≤ L) : Balanced A L (settle A w c b) := by
  refine ⟨(sum_settle hb.mem).trans h.sum_eq, fun i hi => ?_⟩
  have hlow := h.lower i hi
  have hwi := hw i hi
  unfold SmoothRoundRobin.settle
  rw [if_pos hi]
  split_ifs with hib
  · have hpos := hb.raised_pos hw h.sum_eq
    subst hib
    linarith
  · linarith

/-- The invariant bounds credits from above: a credit is the negated sum of the others. -/
theorem Balanced.le (h : Balanced A L c) (hi : i ∈ A) : c i ≤ (A.card - 1 : K) * L := by
  have hsum : c i + ∑ j ∈ A.erase i, c j = 0 := by rw [Finset.add_sum_erase A c hi, h.sum_eq]
  have hge : ∑ _j ∈ A.erase i, -L ≤ ∑ j ∈ A.erase i, c j :=
    Finset.sum_le_sum fun j hj => (h.lower j (Finset.mem_of_mem_erase hj)).le
  have hcard : ((A.erase i).card : K) = A.card - 1 := by
    rw [Finset.card_erase_of_mem hi, Nat.cast_sub (Finset.card_pos.mpr ⟨i, hi⟩), Nat.cast_one]
  rw [Finset.sum_const, nsmul_eq_mul, hcard] at hge
  linarith

lemma Balanced.mono (h : Balanced A L c) (hL : L ≤ L') : Balanced A L' c :=
  ⟨h.sum_eq, fun i hi => (neg_le_neg hL).trans_lt (h.lower i hi)⟩

lemma Balanced.congr (h : Balanced A L c) (hc : ∀ i ∈ A, c' i = c i) : Balanced A L c' :=
  ⟨(Finset.sum_congr rfl hc).trans h.sum_eq, fun i hi => (hc i hi).symm ▸ h.lower i hi⟩

/-- A newcomer joins with zero credit. -/
lemma Balanced.insert (h : Balanced A L c) (hi : i ∉ A) (hc : c i = 0) (hL : 0 < L) :
    Balanced (insert i A) L c := by
  refine ⟨by rw [Finset.sum_insert hi, hc, h.sum_eq, zero_add], fun j hj => ?_⟩
  rcases Finset.mem_insert.mp hj with rfl | hj
  · rw [hc]; exact neg_lt_zero.mpr hL
  · exact h.lower j hj

lemma balanced_empty (L : K) (c : ι → K) : Balanced ∅ L c := ⟨by simp, by simp⟩

/-! ## Shares of a sequence of rounds -/

/-- The credits `c`, reached from `c₀` by rounds of constant weights that chose `bs`. -/
def Accounts (A : Finset ι) (w c₀ : ι → K) (bs : List ι) (c : ι → K) : Prop :=
  ∀ i ∈ A, c i = c₀ i + bs.length * w i - bs.count i * totalWeight A w

variable {c₀ : ι → K} {bs : List ι}

lemma Accounts.refl (A : Finset ι) (w c : ι → K) : Accounts A w c [] c := fun i _ => by simp

/-- One more round is one more entry of the account. -/
lemma Accounts.settle (h : Accounts A w c₀ bs c) :
    Accounts A w c₀ (bs ++ [b]) (settle A w c b) := by
  intro i hi
  unfold SmoothRoundRobin.settle
  rw [if_pos hi, h i hi, List.count_append, List.length_append, List.count_singleton]
  by_cases hib : i = b
  · subst hib
    simp only [List.length_singleton, beq_self_eq_true, ↓reduceIte]
    push_cast
    ring
  · have hbi : (b == i) = false := by simpa using Ne.symm hib
    simp only [List.length_singleton, hbi, Bool.false_eq_true, ↓reduceIte, hib]
    push_cast
    ring

lemma Accounts.congr (h : Accounts A w c₀ bs c) (hc : ∀ i ∈ A, c' i = c i) :
    Accounts A w c₀ bs c' :=
  fun i hi => (hc i hi).trans (h i hi)

/-- How far a candidate's count is from its share is what its credit moved, in units of the
total weight. -/
lemma Accounts.count_eq (h : Accounts A w c₀ bs c) (hw : ∀ i ∈ A, 0 < w i) (hi : i ∈ A) :
    (bs.count i : K) =
      bs.length * w i / totalWeight A w + (c₀ i - c i) / totalWeight A w := by
  have hW := (totalWeight_pos hw hi).ne'
  rw [h i hi]
  field_simp
  ring

/-- From zero credits, a candidate is chosen fewer than one time more than its share. -/
theorem Accounts.count_lt (h : Accounts A w (fun _ => 0) bs c) (hw : ∀ i ∈ A, 0 < w i)
    (hc : Balanced A (totalWeight A w) c) (hi : i ∈ A) :
    (bs.count i : K) < bs.length * w i / totalWeight A w + 1 := by
  have hW := totalWeight_pos hw hi
  have hlt : (0 - c i) / totalWeight A w < 1 := by
    rw [div_lt_one hW]
    linarith [hc.lower i hi]
  rw [h.count_eq hw hi]
  linarith

/-- From zero credits, a candidate is chosen at most `n - 1` times fewer than its share. -/
theorem Accounts.le_count (h : Accounts A w (fun _ => 0) bs c) (hw : ∀ i ∈ A, 0 < w i)
    (hc : Balanced A (totalWeight A w) c) (hi : i ∈ A) :
    bs.length * w i / totalWeight A w - (A.card - 1) ≤ (bs.count i : K) := by
  have hW := totalWeight_pos hw hi
  have hle : -(A.card - 1 : K) ≤ (0 - c i) / totalWeight A w := by
    rw [le_div_iff₀ hW]
    linarith [hc.le hi]
  rw [h.count_eq hw hi]
  linarith

/-- **Fairness from any balanced start.** Over rounds with constant weights the number of
choices of each of the `n` candidates is within `n` of its share.

**Proof sketch.** By `Accounts.count_eq` the difference is `(c₀ i - c i) / W`, and both credits
lie above `-W` and at most at `(n - 1) W`. -/
theorem Accounts.abs_count_sub_lt (h : Accounts A w c₀ bs c) (hw : ∀ i ∈ A, 0 < w i)
    (hc₀ : Balanced A (totalWeight A w) c₀) (hc : Balanced A (totalWeight A w) c) (hi : i ∈ A) :
    |(bs.count i : K) - bs.length * w i / totalWeight A w| < A.card := by
  have hW := totalWeight_pos hw hi
  have hdiff : (bs.count i : K) - bs.length * w i / totalWeight A w =
      (c₀ i - c i) / totalWeight A w := by
    rw [h.count_eq hw hi]; ring
  rw [hdiff, abs_lt, lt_div_iff₀ hW, div_lt_iff₀ hW]
  constructor
  · linarith [hc₀.lower i hi, hc.le hi]
  · linarith [hc.lower i hi, hc₀.le hi]

/-! ## Waiting for a turn -/

/-- `bs` are the choices of consecutive rounds of constant weights, from credits `c₀` to `c`. -/
inductive Rounds (A : Finset ι) (w c₀ : ι → K) : List ι → (ι → K) → Prop where
  | nil {c : ι → K} (hc : ∀ i ∈ A, c i = c₀ i) : Rounds A w c₀ [] c
  | snoc {bs : List ι} {b : ι} {c c' : ι → K} (h : Rounds A w c₀ bs c) (hb : IsChoice A w c b)
      (hc : ∀ i ∈ A, c' i = settle A w c b i) : Rounds A w c₀ (bs ++ [b]) c'

lemma Rounds.accounts (h : Rounds A w c₀ bs c) : Accounts A w c₀ bs c := by
  induction h with
  | nil hc => exact (Accounts.refl A w c₀).congr hc
  | snoc _ _ hc ih => exact ih.settle.congr hc

lemma Rounds.mem_of_mem (h : Rounds A w c₀ bs c) (hb : b ∈ bs) : b ∈ A := by
  induction h with
  | nil => exact absurd hb List.not_mem_nil
  | snoc _ hchoice _ ih =>
    rcases List.mem_append.mp hb with hb | hb
    · exact ih hb
    · exact List.mem_singleton.mp hb ▸ hchoice.mem

lemma Rounds.sum_eq (h : Rounds A w c₀ bs c) : ∑ i ∈ A, c i = ∑ i ∈ A, c₀ i := by
  induction h with
  | nil hc => exact Finset.sum_congr rfl hc
  | snoc _ hb hc ih => rw [Finset.sum_congr rfl hc, sum_settle hb.mem, ih]

/-- While a candidate waits, no credit falls below `l`, if none started there and the waiting one
started at least a total weight above it.

**Proof sketch.** Only a chosen candidate loses credit. Its raised credit was at least that of the
waiting one, which has only gained since the start. -/
lemma Rounds.le_of_notMem (h : Rounds A w c₀ bs c) (hw : ∀ i ∈ A, 0 < w i) (hi : i ∈ A) {l : K}
    (hl : ∀ j ∈ A, l ≤ c₀ j) (hli : l ≤ c₀ i - totalWeight A w) (hwait : i ∉ bs) :
    ∀ j ∈ A, l ≤ c j := by
  induction h with
  | nil hc => exact fun j hj => (hc j hj).symm ▸ hl j hj
  | @snoc bs b c c' hrounds hb hc ih =>
    intro j hj
    have hold := ih fun hin => hwait (List.mem_append_left [b] hin)
    rw [hc j hj, SmoothRoundRobin.settle, if_pos hj]
    have hwj := hw j hj
    split_ifs with hjb
    · have hgain : c₀ i ≤ c i := by
        rw [hrounds.accounts i hi, List.count_eq_zero.mpr
          fun hin => hwait (List.mem_append_left [b] hin)]
        have hnn : 0 ≤ (bs.length : K) * w i := mul_nonneg (Nat.cast_nonneg _) (hw i hi).le
        push_cast
        linarith
      have hle := hb.le i hi
      have hwi := hw i hi
      rw [hjb]
      linarith
    · have hlj := hold j hj
      linarith

/-- **Waiting is bounded**: while a candidate waits its credit grows with every round, at the
expense of the others, which do not fall below `l`. -/
theorem Rounds.length_mul_le (h : Rounds A w c₀ bs c) (hw : ∀ i ∈ A, 0 < w i) (hi : i ∈ A)
    {l : K} (hl : ∀ j ∈ A, l ≤ c₀ j) (hli : l ≤ c₀ i - totalWeight A w) (hwait : i ∉ bs) :
    (bs.length : K) * w i ≤ ∑ j ∈ A, c₀ j - c₀ i - (A.card - 1) * l := by
  have hlow := h.le_of_notMem hw hi hl hli hwait
  have hothers : ((A.erase i).card : K) * l ≤ ∑ j ∈ A.erase i, c j := by
    rw [← nsmul_eq_mul]
    exact Finset.card_nsmul_le_sum _ _ _ fun j hj => hlow j (Finset.mem_of_mem_erase hj)
  have hcard : ((A.erase i).card : K) = A.card - 1 := by
    rw [Finset.card_erase_of_mem hi, Nat.cast_sub (Finset.card_pos.mpr ⟨i, hi⟩), Nat.cast_one]
  have hsum : c i + ∑ j ∈ A.erase i, c j = ∑ j ∈ A, c₀ j := by
    rw [Finset.add_sum_erase A c hi, h.sum_eq]
  have hown : c i = c₀ i + bs.length * w i := by
    rw [h.accounts i hi, List.count_eq_zero.mpr hwait]
    push_cast
    ring
  rw [hcard] at hothers
  linarith

end SmoothRoundRobin
