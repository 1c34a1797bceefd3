import Mathlib.Algebra.Ring.Nat
import Mathlib.Data.List.Basic
import Mathlib.Data.List.DropRight
import Mathlib.Data.List.Perm.Basic
import Mathlib.Tactic.Common

set_option relaxedAutoImplicit false
set_option autoImplicit false
set_option linter.unusedSectionVars false

/-!
# Bounded queues that drop their oldest item

A queue of at most `capacity` items. Pushing onto a full queue evicts the item at the front.

## Main definitions

* `BoundedQueue` — the queue, with its bound as a field.
* `BoundedQueue.push`, `BoundedQueue.evicted` — the push and what it drops.

## Main results

* `BoundedQueue.perm_push` — no item is lost or doubled by a push, except the one evicted.
* `BoundedQueue.pairwise_push`, `BoundedQueue.evicted_rel` — an order along the queue is kept, and
  the evicted item precedes all that stay.
* `BoundedQueue.items_push_of_eq_rtake` — a queue holds the last items that were pushed.
-/

/-- A queue of at most `capacity` items, oldest first. -/
structure BoundedQueue (α : Type) (capacity : ℕ) where
  items : List α
  length_le : items.length ≤ capacity

namespace BoundedQueue

variable {α : Type} {capacity : ℕ} [NeZero capacity]

@[ext] lemma ext {q q' : BoundedQueue α capacity} (h : q.items = q'.items) : q = q' := by
  cases q
  cases q'
  cases h
  rfl

def empty : BoundedQueue α capacity := ⟨[], Nat.zero_le _⟩

lemma length_push_le (q : BoundedQueue α capacity) (x : α) :
    (if q.items.length < capacity then q.items ++ [x] else q.items.tail ++ [x]).length ≤
      capacity := by
  have hpos := Nat.pos_of_neZero capacity
  have hle := q.length_le
  split_ifs with hlt
  · rw [List.length_append, List.length_singleton]
    exact hlt
  · rw [List.length_append, List.length_singleton, List.length_tail]
    omega

/-- Append an item, dropping the front one if the queue is full. -/
def push (q : BoundedQueue α capacity) (x : α) : BoundedQueue α capacity where
  items := if q.items.length < capacity then q.items ++ [x] else q.items.tail ++ [x]
  length_le := q.length_push_le x

/-- The item that a push drops. -/
def evicted (q : BoundedQueue α capacity) : Option α :=
  if q.items.length < capacity then none else q.items.head?

variable {q : BoundedQueue α capacity} {x y : α}

lemma push_items_of_lt (h : q.items.length < capacity) : (q.push x).items = q.items ++ [x] :=
  if_pos h

lemma push_items_of_not_lt (h : ¬ q.items.length < capacity) :
    (q.push x).items = q.items.tail ++ [x] :=
  if_neg h

lemma evicted_of_lt (h : q.items.length < capacity) : q.evicted = none := if_pos h

/-- A push that evicts `y` finds the queue full with `y` in front. -/
lemma evicted_eq_some_iff :
    q.evicted = some y ↔
      q.items.length = capacity ∧
        ∃ rest, q.items = y :: rest ∧ ∀ x, (q.push x).items = rest ++ [x] := by
  have hle := q.length_le
  unfold evicted
  split_ifs with h
  · constructor
    · exact fun hnone => absurd hnone (by simp)
    · exact fun hfull => absurd h (by omega)
  · constructor
    · intro hy
      obtain ⟨rest, hrest⟩ := List.head?_eq_some_iff.mp hy
      refine ⟨by omega, rest, hrest, fun x => ?_⟩
      rw [push_items_of_not_lt h, hrest, List.tail_cons]
    · rintro ⟨-, rest, hrest, -⟩
      rw [hrest, List.head?_cons]

lemma evicted_eq_none_iff : q.evicted = none ↔ q.items.length < capacity := by
  unfold evicted
  split_ifs with h
  · simp [h]
  · have hpos := Nat.pos_of_neZero capacity
    rw [List.head?_eq_none_iff]
    constructor
    · intro hnil
      rw [hnil] at h
      exact absurd hpos h
    · exact fun hlt => absurd hlt h

/-- **Conservation**: a push keeps every item but the one it evicts. -/
theorem perm_push (q : BoundedQueue α capacity) (x : α) :
    (q.evicted.toList ++ (q.push x).items).Perm (q.items ++ [x]) := by
  cases hev : q.evicted with
  | none =>
    rw [push_items_of_lt (evicted_eq_none_iff.mp hev), Option.toList_none, List.nil_append]
  | some y =>
    obtain ⟨-, rest, hrest, hpush⟩ := evicted_eq_some_iff.mp hev
    rw [hpush x, hrest, Option.toList_some, List.singleton_append, List.cons_append]

/-- A push of an item that every item precedes keeps the order. -/
theorem pairwise_push {R : α → α → Prop} (hq : q.items.Pairwise R) (hx : ∀ z ∈ q.items, R z x) :
    (q.push x).items.Pairwise R := by
  have happend : ∀ l : List α, l.Sublist q.items → (l ++ [x]).Pairwise R := fun l hl =>
    List.pairwise_append.mpr ⟨hq.sublist hl, List.pairwise_singleton R x,
      fun z hz w hw => List.mem_singleton.mp hw ▸ hx z (hl.subset hz)⟩
  unfold push
  split_ifs
  · exact happend _ (List.Sublist.refl _)
  · exact happend _ (List.tail_sublist _)

/-- The evicted item precedes everything that stays, and the queue stays full. -/
theorem evicted_rel {R : α → α → Prop} (hq : q.items.Pairwise R) (hx : ∀ z ∈ q.items, R z x)
    (hev : q.evicted = some y) :
    (q.push x).items.length = capacity ∧ ∀ z ∈ (q.push x).items, R y z := by
  obtain ⟨hfull, rest, hrest, hpush⟩ := evicted_eq_some_iff.mp hev
  rw [hpush x]
  rw [hrest] at hq hx hfull
  refine ⟨by simpa using hfull, fun z hz => ?_⟩
  rcases List.mem_append.mp hz with hz | hz
  · exact List.rel_of_pairwise_cons hq hz
  · exact List.mem_singleton.mp hz ▸ hx y List.mem_cons_self

/-- A queue that holds the last items of a list holds the last items of the longer list after a
push.

**Proof sketch.** One item less than the capacity is kept of the old list, whether the queue was
full or not. -/
theorem items_push_of_eq_rtake {l : List α} (h : q.items = l.rtake capacity) :
    (q.push x).items = (l ++ [x]).rtake capacity := by
  obtain ⟨n, rfl⟩ : ∃ n, capacity = n + 1 := Nat.exists_eq_succ_of_ne_zero (NeZero.ne capacity)
  rw [List.rtake_concat_succ]
  have hlength : q.items.length = l.length - (l.length - (n + 1)) := by
    rw [h, List.rtake, List.length_drop]
  by_cases hlt : q.items.length < n + 1
  · rw [push_items_of_lt hlt, h, List.rtake, List.rtake, Nat.sub_eq_zero_of_le (by omega),
      Nat.sub_eq_zero_of_le (by omega)]
  · rw [push_items_of_not_lt hlt, h, List.rtake, List.rtake, List.tail_drop]
    congr 2
    omega

end BoundedQueue
