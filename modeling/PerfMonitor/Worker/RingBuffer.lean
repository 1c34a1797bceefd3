import Mathlib.Data.Nat.ModEq
import PerfMonitor.Queue.BoundedQueue

set_option relaxedAutoImplicit false
set_option autoImplicit false
set_option linter.unusedSectionVars false

/-!
# The ring buffer

`RingBuffer` (`worker/include/utils/ring_buffer.h`): a vector of `capacity` slots, the position
`head` of the next push, the position `tail` of the oldest item and the number of items. The
relation between the three positions is a field of the structure, so that every buffer the
operations build satisfies it.

## Main definitions

* `Monitor.RingBuffer` — the buffer.
* `Monitor.RingBuffer.push`, `Monitor.RingBuffer.drain` — its operations.
* `Monitor.RingBuffer.toQueue` — the items, oldest first, as a bounded queue.

## Main results

* `Monitor.RingBuffer.toQueue_push` — a push is the push of the bounded queue.
* `Monitor.RingBuffer.toQueue_drain` — a drained buffer is empty.
-/

namespace Monitor

/-- A ring buffer of `capacity` slots. -/
structure RingBuffer (α : Type) (capacity : ℕ) where
  buffer : Vector α capacity
  head : ℕ := 0
  tail : ℕ := 0
  size : ℕ := 0
  size_le : size ≤ capacity
  tail_lt : tail < capacity
  head_eq : head = (tail + size) % capacity

namespace RingBuffer

variable {α : Type} {capacity : ℕ} [NeZero capacity]

/-- The constructor. -/
def new [Inhabited α] : RingBuffer α capacity where
  buffer := Vector.replicate capacity default
  size_le := Nat.zero_le _
  tail_lt := Nat.pos_of_neZero capacity
  head_eq := (Nat.zero_mod _).symm

lemma head_lt (rb : RingBuffer α capacity) : rb.head < capacity :=
  rb.head_eq ▸ Nat.mod_lt _ (Nat.pos_of_neZero capacity)

/-- `Push`. On a full buffer the slot written holds the oldest item. -/
def push (rb : RingBuffer α capacity) (item : α) : RingBuffer α capacity :=
  if h : rb.size < capacity then
    { buffer := rb.buffer.set rb.head item rb.head_lt
      head := (rb.head + 1) % capacity
      tail := rb.tail
      size := rb.size + 1
      size_le := h
      tail_lt := rb.tail_lt
      head_eq := by rw [rb.head_eq, Nat.mod_add_mod, Nat.add_assoc] }
  else
    { buffer := rb.buffer.set rb.head item rb.head_lt
      head := (rb.head + 1) % capacity
      tail := (rb.tail + 1) % capacity
      size := rb.size
      size_le := rb.size_le
      tail_lt := Nat.mod_lt _ (Nat.pos_of_neZero capacity)
      head_eq := by rw [rb.head_eq, Nat.mod_add_mod, Nat.mod_add_mod, Nat.add_right_comm] }

/-- The item `i` places after the oldest one. -/
def item (rb : RingBuffer α capacity) (i : ℕ) : α :=
  rb.buffer.get ⟨(rb.tail + i) % capacity, Nat.mod_lt _ (Nat.pos_of_neZero capacity)⟩

/-- `Drain`: the items, oldest first, and the buffer emptied. -/
def drain (rb : RingBuffer α capacity) : List α × RingBuffer α capacity :=
  ((List.range rb.size).map rb.item,
    { buffer := rb.buffer
      size_le := Nat.zero_le _
      tail_lt := Nat.pos_of_neZero capacity
      head_eq := (Nat.zero_mod _).symm })

/-- `Empty`. -/
def isEmpty (rb : RingBuffer α capacity) : Bool := rb.size == 0

/-! ## The buffer as a queue -/

/-- The items, oldest first. -/
def toQueue (rb : RingBuffer α capacity) : BoundedQueue α capacity where
  items := (List.range rb.size).map rb.item
  length_le := by
    rw [List.length_map, List.length_range]
    exact rb.size_le

lemma length_items (rb : RingBuffer α capacity) : rb.toQueue.items.length = rb.size := by
  rw [toQueue, List.length_map, List.length_range]

lemma items_drain (rb : RingBuffer α capacity) : rb.drain.1 = rb.toQueue.items := rfl

@[simp] lemma toQueue_drain (rb : RingBuffer α capacity) :
    rb.drain.2.toQueue = BoundedQueue.empty := rfl

@[simp] lemma toQueue_new [Inhabited α] :
    (new : RingBuffer α capacity).toQueue = BoundedQueue.empty := rfl

lemma isEmpty_iff (rb : RingBuffer α capacity) : rb.isEmpty = true ↔ rb.toQueue.items = [] := by
  rw [isEmpty, beq_iff_eq, ← rb.length_items, List.length_eq_zero_iff]

/-- Two places of a buffer fewer than `capacity` apart are different slots. -/
lemma slot_ne {t i j : ℕ} (hij : i < j) (hj : j < i + capacity) :
    (t + i) % capacity ≠ (t + j) % capacity := by
  intro heq
  have hdvd : capacity ∣ (t + j) - (t + i) :=
    (Nat.modEq_iff_dvd' (by omega)).mp heq
  have hle := Nat.le_of_dvd (by omega) hdvd
  omega

/-- Reading a slot after a write. -/
lemma get_set (v : Vector α capacity) {i j : ℕ} (hi : i < capacity) (hj : j < capacity) (x : α) :
    (v.set i x hi).get ⟨j, hj⟩ = if i = j then x else v.get ⟨j, hj⟩ := by
  exact Vector.getElem_set hi hj

/-- **A push is the push of the bounded queue.**

**Proof sketch.** The slot written is `size` places after the oldest item. While there is room it
is none of the slots in use, and becomes the last one. On a full buffer it is the slot of the
oldest item: the walk starts one place later and ends there. -/
theorem toQueue_push (rb : RingBuffer α capacity) (x : α) :
    (rb.push x).toQueue = rb.toQueue.push x := by
  have hhead := rb.head_eq
  have hsize := rb.size_le
  apply BoundedQueue.ext
  have hlen := rb.length_items
  unfold push BoundedQueue.push
  split_ifs with h h' h'
  · -- there is room
    simp only [toQueue]
    rw [List.range_succ, List.map_append, List.map_singleton]
    congr 1
    · refine List.map_congr_left fun i hi => ?_
      have hi := List.mem_range.mp hi
      unfold item
      rw [get_set, if_neg]
      dsimp only
      exact hhead ▸ (slot_ne (by omega) (by omega)).symm
    · unfold item
      rw [get_set, if_pos hhead]
  · omega
  · omega
  · -- the oldest item is overwritten
    have hfull : rb.size = capacity := by omega
    have hpos := Nat.pos_of_neZero capacity
    obtain ⟨n, hn⟩ : ∃ n, rb.size = n + 1 := ⟨rb.size - 1, by omega⟩
    simp only [toQueue, hn]
    rw [List.range_succ, List.map_append, List.map_singleton, ← List.range_succ,
      List.range_succ_eq_map, List.map_cons, List.tail_cons, List.map_map]
    congr 1
    · refine List.map_congr_left fun i hi => ?_
      have hi := List.mem_range.mp hi
      have hslot : ((rb.tail + 1) % capacity + i) % capacity = (rb.tail + (i + 1)) % capacity := by
        rw [Nat.mod_add_mod, Nat.add_assoc, Nat.add_comm 1 i]
      unfold item
      simp only [hslot]
      rw [get_set, if_neg]
      · rfl
      · have hne := @slot_ne capacity _ rb.tail 0 (i + 1) (by omega) (by omega)
        have hsame : rb.head = (rb.tail + 0) % capacity := by
          rw [hhead, hfull, Nat.add_mod_right, Nat.add_zero]
        exact hsame ▸ hne
    · have hslot : ((rb.tail + 1) % capacity + n) % capacity = rb.head := by
        rw [Nat.mod_add_mod, hhead, hn, Nat.add_assoc, Nat.add_comm 1 n]
      unfold item
      simp only [hslot]
      rw [get_set, if_pos rfl]

end RingBuffer

end Monitor
