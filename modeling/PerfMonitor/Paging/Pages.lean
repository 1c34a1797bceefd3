import Mathlib.Data.List.Perm.Basic
import Mathlib.Data.List.Range
import Mathlib.Data.Multiset.ZeroCons
import Mathlib.Order.Lattice
import Mathlib.Tactic.Common

set_option relaxedAutoImplicit false
set_option autoImplicit false

/-!
# Pages of an ordered result

A query returns a window of its result, in descending order of a key that need not tell all rows
apart. Rows with equal keys may come in any order, and in another one when the query is repeated
for the next window. The windows that cut up the result put together give every row exactly
once, whatever orders are chosen, unless some cut falls between rows that share a key and show
differently.

## Main definitions

* `ResultOrder` — the orders in which a query may return its rows.
* `page`, `pages`, `pageCount` — one window, the first windows put together, how many there are.
* `CutsTie` — a cut between two windows separates rows with equal keys.

## Main results

* `take_map_perm` — what stands before a cut that separates no such rows does not depend on the
  order.
* `pages_perm_iff` — the windows give every row once exactly when no cut separates such rows.
-/

open scoped List

section Pages

variable {ρ τ κ : Type*} [LinearOrder κ] (key : ρ → κ) (shown : ρ → τ)

/-- An order in which a query may return `rows`: any that descends in the key. -/
def ResultOrder (rows order : List ρ) : Prop :=
  order.Perm rows ∧ order.Pairwise fun a b => key b ≤ key a

/-- Window `k`, counted from `0`, of windows of `size` rows. -/
def page {α : Type*} (size k : ℕ) (order : List α) : List α := (order.drop (k * size)).take size

/-- The first `n` windows put together, window `k` from the `k`th of the given results. -/
def pages {α : Type*} (size n : ℕ) (results : ℕ → List α) : List α :=
  (List.range n).flatMap fun k => page size k (results k)

/-- The number of windows that hold `total` rows: the quotient, rounded up. -/
def pageCount (total size : ℕ) : ℕ := (total + size - 1) / size

/-- Some cut between windows of `size` rows separates two rows with equal keys that show
differently: there are fewer rows above their key than the cut leaves in front of it, and more with
their key or above it. -/
def CutsTie (rows : List ρ) (size : ℕ) : Prop :=
  ∃ a ∈ rows, ∃ b ∈ rows, key a = key b ∧ shown a ≠ shown b ∧
    ∃ k, (rows.filter fun r => key a < key r).length < k * size ∧
      k * size < (rows.filter fun r => key a ≤ key r).length

instance [DecidableEq τ] (rows : List ρ) (size : ℕ) : Decidable (CutsTie key shown rows size) :=
  decidable_of_iff (∃ a ∈ rows, ∃ b ∈ rows, key a = key b ∧ shown a ≠ shown b ∧
    ∃ k < rows.length, (rows.filter fun r => key a < key r).length < k * size ∧
      k * size < (rows.filter fun r => key a ≤ key r).length) <| by
    refine exists_congr fun a => and_congr_right fun _ => exists_congr fun b =>
      and_congr_right fun _ => and_congr_right fun _ => and_congr_right fun _ =>
      exists_congr fun k => and_iff_right_of_imp fun hk => ?_
    -- a cut inside the result is a cut before one of its rows
    have hsize : 0 < size := Nat.pos_of_ne_zero fun h => by simp [h] at hk
    have hle := List.length_filter_le (fun r => decide (key a ≤ key r)) rows
    exact (Nat.le_mul_of_pos_right k hsize).trans_lt (hk.2.trans_le hle)

variable {key shown} {rows order order' : List ρ} {size n : ℕ}

/-! ## Windows -/

@[simp] lemma pages_zero {α : Type*} (size : ℕ) (results : ℕ → List α) :
    pages size 0 results = [] := rfl

lemma pages_succ {α : Type*} (size n : ℕ) (results : ℕ → List α) :
    pages size (n + 1) results = pages size n results ++ page size n (results n) := by
  simp [pages, List.range_succ]

lemma page_map {α β : Type*} (f : α → β) (size k : ℕ) (l : List α) :
    page size k (l.map f) = (page size k l).map f := by
  rw [page, page, List.map_take, List.map_drop]

/-- A window continues what stands before it. -/
lemma take_append_page {α : Type*} (size k : ℕ) (l : List α) :
    l.take (k * size) ++ page size k l = l.take ((k + 1) * size) := by
  rw [page, Nat.succ_mul, List.take_add]

/-- The windows reach the end of the result. -/
lemma le_pageCount_mul {total : ℕ} (hsize : 1 ≤ size) : total ≤ pageCount total size * size := by
  have hdiv := Nat.div_add_mod (total + size - 1) size
  have hmod := Nat.mod_lt (total + size - 1) hsize
  rw [pageCount, Nat.mul_comm]
  omega

/-- A cut inside the result is a cut between two of its windows. -/
lemma lt_pageCount {total k : ℕ} (hsize : 1 ≤ size) (h : k * size < total) :
    k < pageCount total size := by
  have hle : total ≤ pageCount total size * size := le_pageCount_mul hsize
  exact Nat.lt_of_mul_lt_mul_right (Nat.lt_of_lt_of_le h hle)

/-! ## Orders -/

variable (key) in
/-- Every list of rows can be put in order. -/
lemma exists_resultOrder (rows : List ρ) : ∃ order, ResultOrder key rows order := by
  refine ⟨rows.mergeSort fun a b => key b ≤ key a, List.mergeSort_perm _ _, ?_⟩
  have hsorted : (rows.mergeSort fun a b => key b ≤ key a).Pairwise fun a b =>
      decide (key b ≤ key a) = true := by
    apply List.pairwise_mergeSort
    · intro a b c hab hbc
      rw [decide_eq_true_iff] at hab hbc ⊢
      exact hbc.trans hab
    · intro a b
      rw [Bool.or_eq_true, decide_eq_true_iff, decide_eq_true_iff]
      exact le_total (key b) (key a)
  exact hsorted.imp fun h => decide_eq_true_iff.mp h

/-- Every order of some rows is the one that some way to sort gives them. -/
lemma ResultOrder.exists_sort (h : ResultOrder key rows order) :
    ∃ sort : List ρ → List ρ, (∀ l, ResultOrder key l (sort l)) ∧ sort rows = order := by
  classical
  choose sort hsort using exists_resultOrder key
  refine ⟨Function.update sort rows order, fun l => ?_, Function.update_self ..⟩
  by_cases hl : l = rows
  · rwa [hl, Function.update_self]
  · rw [Function.update_of_ne hl]
    exact hsort l

/-- The orders of rows that items are turned into are the orders of the items. -/
lemma ResultOrder.exists_of_map {α : Type*} {row : α → ρ} {items : List α}
    (h : ResultOrder key (items.map row) order) :
    ∃ order', ResultOrder (fun x => key (row x)) items order' ∧ order = order'.map row := by
  obtain ⟨hperm, hsorted⟩ := h
  have hcomp : Relation.Comp (· = List.map row ·) (· ~ ·) order items := by
    rwa [List.eq_map_comp_perm]
  obtain ⟨order', rfl, hperm'⟩ := hcomp
  exact ⟨order', ⟨hperm', List.pairwise_map.mp hsorted⟩, rfl⟩

/-- A list whose elements of one kind all come first. -/
lemma filter_append_filter_not {α : Type*} {p : α → Bool} {l : List α}
    (h : l.Pairwise fun a b => p b → p a) : l.filter p ++ l.filter (fun a => !p a) = l := by
  induction l with
  | nil => rfl
  | cons a l ih =>
    obtain ⟨ha, hl⟩ := List.pairwise_cons.mp h
    by_cases hpa : p a
    · simpa [hpa] using ih hl
    · -- nothing of the first kind follows
      have hnone : ∀ b ∈ l, ¬ p b := fun b hb hpb => hpa (ha b hb hpb)
      have hall : l.filter (fun b => !p b) = l := List.filter_eq_self.mpr (by simpa using hnone)
      simp [hpa, List.filter_eq_nil_iff.mpr hnone, hall]

/-- In descending order the rows with a key or above it come first. -/
lemma ResultOrder.filter_le_append (h : ResultOrder key rows order) (c : κ) :
    (order.filter fun r => c ≤ key r) ++ (order.filter fun r => !decide (c ≤ key r)) = order := by
  refine filter_append_filter_not (h.2.imp fun hab hb => ?_)
  rw [decide_eq_true_iff] at hb ⊢
  exact hb.trans hab

/-- Among these, the rows above the key come first. -/
lemma ResultOrder.filter_lt_append (h : ResultOrder key rows order) (c : κ) :
    (order.filter fun r => c < key r) ++ (order.filter fun r => key r = c) =
      order.filter fun r => c ≤ key r := by
  have hsplit := filter_append_filter_not (p := fun r => decide (c < key r))
    (l := order.filter fun r => c ≤ key r) ((h.2.filter _).imp fun hab hb => by
      rw [decide_eq_true_iff] at hb ⊢
      exact hb.trans_le hab)
  rw [List.filter_filter, List.filter_filter] at hsplit
  rw [← hsplit]
  congr 1
  · refine List.filter_congr fun r _ => ?_
    rw [← Bool.decide_and, decide_eq_decide]
    exact (and_iff_left_of_imp le_of_lt).symm
  · refine List.filter_congr fun r _ => ?_
    rw [← decide_not, ← Bool.decide_and, decide_eq_decide, not_lt]
    exact le_antisymm_iff

/-- Any two orders have the same number of rows of each kind. -/
lemma ResultOrder.length_filter (h : ResultOrder key rows order) (p : ρ → Bool) :
    (order.filter p).length = (rows.filter p).length :=
  (h.1.filter p).length_eq

/-- A row's key tells how many rows can stand before it: at least those above its key, and fewer
than those that have it or are above. -/
lemma ResultOrder.position {l₁ l₂ : List ρ} {x : ρ}
    (h : ResultOrder key rows (l₁ ++ x :: l₂)) :
    (rows.filter fun r => key x < key r).length ≤ l₁.length ∧
      l₁.length < (rows.filter fun r => key x ≤ key r).length := by
  obtain ⟨-, hx, hbefore⟩ := List.pairwise_append.mp h.2
  obtain ⟨hafter, -⟩ := List.pairwise_cons.mp hx
  rw [← h.length_filter, ← h.length_filter, List.filter_append, List.filter_append]
  constructor
  · -- nothing from `x` on is above its key
    have hnone : (x :: l₂).filter (fun r => key x < key r) = [] := by
      refine List.filter_eq_nil_iff.mpr fun r hr => ?_
      rcases List.mem_cons.mp hr with rfl | hr
      · simp
      · simpa using hafter r hr
    rw [hnone, List.append_nil]
    exact List.length_filter_le ..
  · have hall : l₁.filter (fun r => key x ≤ key r) = l₁ :=
      List.filter_eq_self.mpr fun r hr => decide_eq_true (hbefore r hr x List.mem_cons_self)
    have hself : (x :: l₂).filter (fun r => key x ≤ key r) =
        x :: l₂.filter fun r => key x ≤ key r :=
      List.filter_cons_of_pos (decide_eq_true le_rfl)
    rw [hall, hself, List.length_append, List.length_cons]
    omega

/-! ## Cuts -/

/-- What stands before a cut at `i`: the rows above the key of the row behind it, and some of those
that have it. -/
lemma ResultOrder.take_eq (h : ResultOrder key rows order) {c : κ} {i : ℕ}
    (habove : (rows.filter fun r => c < key r).length ≤ i)
    (hbelow : i < (rows.filter fun r => c ≤ key r).length) :
    order.take i = (order.filter fun r => c < key r) ++
      (order.filter fun r => key r = c).take (i - (rows.filter fun r => c < key r).length) := by
  rw [← h.length_filter] at habove hbelow ⊢
  conv_lhs => rw [← h.filter_le_append c]
  rw [List.take_append_of_le_length hbelow.le, ← h.filter_lt_append c,
    List.take_append, List.take_of_length_le habove]

/-- When all rows with a key show the same, so do the first of them in any order. -/
lemma ResultOrder.map_take_filter (h : ResultOrder key rows order) {c : κ} {x : ρ} {m : ℕ}
    (hsame : ∀ r ∈ rows, key r = c → shown r = shown x)
    (hm : (rows.filter fun r => c < key r).length + m ≤ (rows.filter fun r => c ≤ key r).length) :
    ((order.filter fun r => key r = c).take m).map shown = List.replicate m (shown x) := by
  have hlength : m ≤ (order.filter fun r => key r = c).length := by
    have hsum := congrArg List.length (h.filter_lt_append c)
    rw [List.length_append, h.length_filter fun r => c < key r,
      h.length_filter fun r => c ≤ key r] at hsum
    omega
  refine List.eq_replicate_iff.mpr ⟨?_, fun y hy => ?_⟩
  · rw [List.length_map, List.length_take_of_le hlength]
  · obtain ⟨r, hr, rfl⟩ := List.mem_map.mp hy
    obtain ⟨hmem, hkey⟩ := List.mem_filter.mp (List.mem_of_mem_take hr)
    exact hsame r (h.1.mem_iff.mp hmem) (of_decide_eq_true hkey)

/-- **A cut that separates no rows with equal keys that show differently** has the same rows in
front of it in every order, as far as they show.

**Proof sketch.** Let `c` be the key of the row behind the cut. In front of it are the rows above
`c` and, of those with key `c`, as many as there is room for. If there is room for some but not
all, they all show the same. -/
theorem take_map_perm (h : ResultOrder key rows order) (h' : ResultOrder key rows order') {i : ℕ}
    (hcut : ∀ a ∈ rows, ∀ b ∈ rows, key a = key b →
      (rows.filter fun r => key a < key r).length < i →
      i < (rows.filter fun r => key a ≤ key r).length → shown a = shown b) :
    ((order.take i).map shown).Perm ((order'.take i).map shown) := by
  rcases Nat.lt_or_ge i order.length with hi | hi
  swap
  · have hi' : order'.length ≤ i := (h'.1.trans h.1.symm).length_eq ▸ hi
    rw [List.take_of_length_le hi, List.take_of_length_le hi']
    exact (h.1.trans h'.1.symm).map shown
  · have hsplit : order = order.take i ++ order[i] :: order.drop (i + 1) := by
      rw [← List.drop_eq_getElem_cons, List.take_append_drop]
    obtain ⟨habove, hbelow⟩ := ResultOrder.position (hsplit ▸ h)
    rw [List.length_take_of_le hi.le] at habove hbelow
    rw [h.take_eq habove hbelow, h'.take_eq habove hbelow, List.map_append, List.map_append]
    refine List.Perm.append (((h.1.trans h'.1.symm).filter _).map shown) ?_
    rcases Nat.eq_or_lt_of_le habove with heq | hlt
    · simp [heq]
    · have hx : order[i] ∈ rows := h.1.mem_iff.mp (List.getElem_mem hi)
      have hsame : ∀ r ∈ rows, key r = key order[i] → shown r = shown order[i] :=
        fun r hr hkey =>
        (hcut order[i] hx r hr hkey.symm hlt hbelow).symm
      rw [h.map_take_filter hsame (by omega), h'.map_take_filter hsame (by omega)]

/-! ## All windows -/

/-- The first windows of results in any orders show what the beginning of one result shows, when
no cut separates rows with equal keys that show differently. -/
lemma pages_map_perm (h : ResultOrder key rows order) {results : ℕ → List ρ}
    (hresults : ∀ k, ResultOrder key rows (results k)) (hcut : ¬ CutsTie key shown rows size) :
    ((pages size n results).map shown).Perm ((order.take (n * size)).map shown) := by
  have hall : ∀ k, ∀ a ∈ rows, ∀ b ∈ rows, key a = key b →
      (rows.filter fun r => key a < key r).length < k * size →
      k * size < (rows.filter fun r => key a ≤ key r).length → shown a = shown b := by
    intro k a ha b hb hkey hlt hgt
    by_contra hne
    exact hcut ⟨a, ha, b, hb, hkey, hne, k, hlt, hgt⟩
  induction n with
  | zero => simp
  | succ n ih =>
    rw [pages_succ, List.map_append]
    calc (pages size n results).map shown ++ (page size n (results n)).map shown
        ~ ((results n).take (n * size)).map shown ++ (page size n (results n)).map shown :=
          (ih.trans (take_map_perm h (hresults n) (hall n))).append_right _
      _ = ((results n).take ((n + 1) * size)).map shown := by
          rw [← List.map_append, take_append_page]
      _ ~ (order.take ((n + 1) * size)).map shown :=
          take_map_perm (hresults n) h (hall (n + 1))

/-- Two families of results that differ in one window, and show the same put together, show the
same in this window. -/
lemma page_map_perm {results results' : ℕ → List ρ} {k : ℕ} (hk : k < n)
    (hother : ∀ j, j ≠ k → results j = results' j)
    (h : ((pages size n results).map shown).Perm ((pages size n results').map shown)) :
    ((page size k (results k)).map shown).Perm ((page size k (results' k)).map shown) := by
  induction n with
  | zero => exact absurd hk (Nat.not_lt_zero k)
  | succ n ih =>
    rw [pages_succ, pages_succ, List.map_append, List.map_append] at h
    rcases Nat.lt_succ_iff_lt_or_eq.mp hk with hk | rfl
    · rw [hother n hk.ne'] at h
      exact ih hk ((List.perm_append_right_iff _).mp h)
    · have hfront : pages size k results = pages size k results' := by
        simp only [pages]
        refine List.flatMap_congr fun j hj => ?_
        rw [hother j (List.mem_range.mp hj).ne]
      rw [hfront] at h
      exact (List.perm_append_left_iff _).mp h

/-- Rows with equal keys that stand together may be put in any order. -/
lemma ResultOrder.rearrange {above tied tied' below : List ρ} {c : κ}
    (h : ResultOrder key rows (above ++ tied ++ below)) (htied : ∀ r ∈ tied, key r = c)
    (hperm : tied'.Perm tied) : ResultOrder key rows (above ++ tied' ++ below) := by
  refine ⟨((hperm.append_left above).append_right below).trans h.1, ?_⟩
  obtain ⟨hfront, hbelow, hcross⟩ := List.pairwise_append.mp h.2
  obtain ⟨habove, -, hover⟩ := List.pairwise_append.mp hfront
  refine List.pairwise_append.mpr ⟨List.pairwise_append.mpr ⟨habove, ?_, ?_⟩, hbelow, ?_⟩
  · refine List.pairwise_of_forall_mem_list fun a ha b hb => ?_
    rw [htied a (hperm.mem_iff.mp ha), htied b (hperm.mem_iff.mp hb)]
  · exact fun a ha b hb => hover a ha b (hperm.mem_iff.mp hb)
  · intro a ha b hb
    rcases List.mem_append.mp ha with ha | ha
    · exact hcross a (List.mem_append_left _ ha) b hb
    · exact hcross a (List.mem_append_right _ (hperm.mem_iff.mp ha)) b hb

/-- Two elements of a list can be brought to neighbouring places anywhere, in either order. -/
lemma exists_perm_neighbours {α : Type*} {l : List α} {a b : α} (ha : a ∈ l) (hb : b ∈ l)
    (hne : b ≠ a) {i : ℕ} (hi : i + 2 ≤ l.length) :
    ∃ front back, front.length = i ∧ (front ++ a :: b :: back).Perm l ∧
      (front ++ b :: a :: back).Perm l := by
  -- take `a` and `b` out of the list
  obtain ⟨s, t, rfl⟩ := List.append_of_mem ha
  have hb' : b ∈ s ++ t := by simpa [hne] using hb
  obtain ⟨s', t', hst⟩ := List.append_of_mem hb'
  have hout : (a :: b :: (s' ++ t')).Perm (s ++ a :: t) :=
    ((List.perm_middle.symm.trans (hst ▸ .refl _)).cons a).trans List.perm_middle.symm
  have hlength := hout.length_eq
  -- and put them behind the first `i` of the others
  have hmiddle : ∀ x y : α, ((s' ++ t').take i ++ x :: y :: (s' ++ t').drop i).Perm
      (x :: y :: (s' ++ t')) := by
    intro x y
    conv_rhs => rw [← List.take_append_drop i (s' ++ t')]
    exact List.perm_middle.trans (List.perm_middle.cons x)
  refine ⟨(s' ++ t').take i, (s' ++ t').drop i, ?_, (hmiddle a b).trans hout, ?_⟩
  · simp only [List.length_cons] at hlength
    rw [List.length_take]
    omega
  · exact (hmiddle b a).trans ((List.Perm.swap a b _).trans hout)

/-- Where a cut separates rows with equal keys that show differently, there are two orders that
differ in which of two such rows is in front of the cut and which is behind it. -/
lemma CutsTie.exists_orders (h : CutsTie key shown rows size) :
    ∃ a b k front back, shown a ≠ shown b ∧ k * size = (front ++ [a]).length ∧
      ResultOrder key rows (front ++ a :: b :: back) ∧
      ResultOrder key rows (front ++ b :: a :: back) := by
  obtain ⟨a, ha, b, hb, hkey, hne, k, hlt, hgt⟩ := h
  obtain ⟨order, horder⟩ := exists_resultOrder key rows
  have habove := horder.length_filter fun r => key a < key r
  have hupto := horder.length_filter fun r => key a ≤ key r
  have hsplit := horder.filter_le_append (key a)
  rw [← horder.filter_lt_append] at hsplit hupto
  generalize habove' : (order.filter fun r => key a < key r) = above at *
  generalize htied' : (order.filter fun r => key r = key a) = tied at *
  generalize (order.filter fun r => !decide (key a ≤ key r)) = below at *
  have htied : ∀ r ∈ tied, key r = key a := by
    intro r hr
    rw [← htied'] at hr
    exact of_decide_eq_true (List.mem_filter.mp hr).2
  have hmem : ∀ r ∈ rows, key r = key a → r ∈ tied := by
    intro r hr hkey
    rw [← htied']
    exact List.mem_filter.mpr ⟨horder.1.mem_iff.mpr hr, decide_eq_true hkey⟩
  rw [List.length_append] at hupto
  -- the cut is among the tied rows, and `a` and `b` can be brought to its two sides
  obtain ⟨front, back, hfront, hab, hba⟩ := exists_perm_neighbours (hmem a ha rfl)
    (hmem b hb hkey.symm) (fun h => hne (h ▸ rfl)) (i := k * size - above.length - 1) (by omega)
  have hrearrange : ∀ tied' : List ρ, tied'.Perm tied →
      ResultOrder key rows (above ++ tied' ++ below) := fun _ hperm =>
    ResultOrder.rearrange (hsplit ▸ horder) htied hperm
  refine ⟨a, b, k, above ++ front, back ++ below, hne, ?_, ?_, ?_⟩
  · simp only [List.length_append, List.length_singleton]
    omega
  · simpa using hrearrange _ hab
  · simpa using hrearrange _ hba

/-- **Windows give every row exactly once.** Whatever order is chosen for each window, the windows
together show every row once, if and only if no cut between windows separates rows with equal
keys that show differently. -/
theorem pages_perm_iff (hsize : 1 ≤ size) :
    (∀ results : ℕ → List ρ, (∀ k, ResultOrder key rows (results k)) →
      ((pages size (pageCount rows.length size) results).map shown).Perm (rows.map shown)) ↔
      ¬ CutsTie key shown rows size := by
  constructor
  · intro hall htie
    obtain ⟨a, b, k, front, back, hne, hk, ha, hb⟩ := htie.exists_orders
    have hcount : k < pageCount rows.length size := by
      refine lt_pageCount hsize ?_
      rw [← ha.1.length_eq, hk]
      simp
    -- the window behind the cut is taken from the other order
    have hsame := hall (fun _ => front ++ a :: b :: back) fun _ => ha
    have hother := hall (Function.update (fun _ => front ++ a :: b :: back) k
      (front ++ b :: a :: back)) fun j => by
        by_cases hj : j = k
        · rwa [hj, Function.update_self]
        · rwa [Function.update_of_ne hj]
    have hpage := page_map_perm hcount (fun j hj => Function.update_of_ne hj _ _)
      (hother.trans hsame.symm)
    rw [Function.update_self] at hpage
    have hdropa : (front ++ a :: b :: back).drop (k * size) = b :: back := by
      have : front ++ a :: b :: back = (front ++ [a]) ++ b :: back := by simp
      rw [this, hk, List.drop_left]
    have hdropb : (front ++ b :: a :: back).drop (k * size) = a :: back := by
      have hlength : (front ++ [a]).length = (front ++ [b]).length := by simp
      have : front ++ b :: a :: back = (front ++ [b]) ++ a :: back := by simp
      rw [this, hk, hlength, List.drop_left]
    obtain ⟨m, rfl⟩ : ∃ m, size = m + 1 := ⟨size - 1, by omega⟩
    rw [page, page, hdropa, hdropb, List.take_succ_cons, List.take_succ_cons, List.map_cons,
      List.map_cons] at hpage
    rw [← Multiset.coe_eq_coe, ← Multiset.cons_coe, ← Multiset.cons_coe] at hpage
    exact hne ((Multiset.cons_inj_left _).mp hpage)
  · intro hcut results hresults
    obtain ⟨order, horder⟩ := exists_resultOrder key rows
    have hwhole : order.take (pageCount rows.length size * size) = order := by
      rw [List.take_of_length_le]
      rw [horder.1.length_eq]
      exact le_pageCount_mul hsize
    have hpages := pages_map_perm (n := pageCount rows.length size) horder hresults hcut
    rw [hwhole] at hpages
    exact hpages.trans (horder.1.map shown)

end Pages
