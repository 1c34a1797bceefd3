import PerfMonitor.Automaton.Run
import PerfMonitor.Worker.RingBuffer

set_option relaxedAutoImplicit false
set_option autoImplicit false

/-!
# Runs of the ring buffer

The members of `RingBuffer` (`worker/include/utils/ring_buffer.h`) as plain numbers: nothing but
the code keeps them in relation. An access behind the end of the vector has no result, so that a
run that has one used no such index. `Drain` moves the items out of their slots, and so does the
second overload of `Push` with its argument; what a move leaves behind is a parameter.

## Main definitions

* `Monitor.RawRing` — the members, and the operations on them.
* `Monitor.RawRing.machine`, `Monitor.queueMachine` — sequences of operations on the buffer and on a
  bounded queue, with what their callers see.
* `Monitor.pushedSinceDrain` — the items pushed since the last `Drain`.

## Main results

* `Monitor.RawRing.machine_simulates` — the buffer follows every step of the queue.
* `Monitor.RawRing.run_refines_queue` — after every run the buffer holds the last items pushed.
-/

namespace Monitor

/-! ## The members and the operations -/

/-- The members of `RingBuffer`. -/
structure RawRing (α : Type) where
  buffer : Array α
  head : ℕ := 0
  tail : ℕ := 0
  size : ℕ := 0
  capacity : ℕ

namespace RawRing

variable {α : Type}

/-- The constructor; the vector is made of default values. -/
def new (default : α) (capacity : ℕ) : RawRing α where
  buffer := Array.replicate capacity default
  capacity := capacity

/-- The body of `Push`, the same in both overloads. -/
def push (rb : RawRing α) (item : α) : Option (RawRing α) :=
  if h : rb.head < rb.buffer.size then
    let written := { rb with
      buffer := rb.buffer.set rb.head item h
      head := (rb.head + 1) % rb.capacity }
    some (if rb.size < rb.capacity then { written with size := rb.size + 1 }
      else { written with tail := (rb.tail + 1) % rb.capacity })
  else none

/-- The loop of `Drain`: what the first iterations have moved out, and the vector. -/
def drainLoop (left : α → α) (rb : RawRing α) : ℕ → Option (List α × Array α)
  | 0 => some ([], rb.buffer)
  | i + 1 => do
    let (out, buffer) ← rb.drainLoop left i
    let slot := (rb.tail + i) % rb.capacity
    if h : slot < buffer.size then
      some (out ++ [buffer[slot]], buffer.set slot (left buffer[slot]) h)
    else none

/-- `Drain`: the items, how many there were and the buffer after it. -/
def drain (left : α → α) (rb : RawRing α) : Option ((List α × ℕ) × RawRing α) := do
  let (out, buffer) ← rb.drainLoop left rb.size
  return ((out, rb.size), { rb with buffer := buffer, head := 0, tail := 0, size := 0 })

/-- `Empty`. -/
def isEmpty (rb : RawRing α) : Bool := rb.size == 0

end RawRing

/-! ## Runs -/

/-- The operations. -/
inductive RingOp (α : Type) where
  /-- `Push(const T&)`. -/
  | pushCopy (item : α)
  /-- `Push(T&&)`. -/
  | pushMove (item : α)
  | drain

/-- What the callers see: the argument of a `Push` after it, the results of a `Drain`, and `Size`
and `Empty` after every operation. -/
inductive RingEvent (α : Type) where
  | pushed (argument : α)
  | drained (out : List α) (count : ℕ)
  | observed (size : ℕ) (empty : Bool)

variable {α : Type}

/-- Operations on the ring buffer. -/
def RawRing.machine (left : α → α) : EventMachine (RawRing α) (RingOp α) (RingEvent α) where
  step rb
    | .pushCopy item => (rb.push item).map fun rb' =>
        (rb', [.pushed item, .observed rb'.size rb'.isEmpty])
    | .pushMove item => (rb.push item).map fun rb' =>
        (rb', [.pushed (left item), .observed rb'.size rb'.isEmpty])
    | .drain => (rb.drain left).map fun (result, rb') =>
        (rb', [.drained result.1 result.2, .observed rb'.size rb'.isEmpty])

/-- Operations on a bounded queue. -/
def queueMachine (left : α → α) (capacity : ℕ) [NeZero capacity] :
    EventMachine (BoundedQueue α capacity) (RingOp α) (RingEvent α) where
  step q
    | .pushCopy item =>
      let q' := q.push item
      some (q', [.pushed item, .observed q'.items.length q'.items.isEmpty])
    | .pushMove item =>
      let q' := q.push item
      some (q', [.pushed (left item), .observed q'.items.length q'.items.isEmpty])
    | .drain =>
      some (BoundedQueue.empty, [.drained q.items q.items.length, .observed 0 true])

/-- The items that were pushed since the last `Drain`. -/
def pushedSinceDrain (ops : List (RingOp α)) : List α :=
  ops.foldl (fun items op =>
    match op with
    | .pushCopy item => items ++ [item]
    | .pushMove item => items ++ [item]
    | .drain => []) []

/-! ## One operation -/

section Steps

variable {capacity : ℕ} [NeZero capacity] (left : α → α)

/-- The members of a buffer. -/
def RingBuffer.toRaw (rb : RingBuffer α capacity) : RawRing α where
  buffer := rb.buffer.toArray
  head := rb.head
  tail := rb.tail
  size := rb.size
  capacity := capacity

/-- The positions of an empty buffer. -/
lemma zero_eq_zero_mod (capacity : ℕ) : 0 = (0 + 0) % capacity := (Nat.zero_mod capacity).symm

/-- An empty buffer, whatever its slots hold. -/
def RingBuffer.ofSlots (slots : Vector α capacity) : RingBuffer α capacity where
  buffer := slots
  size_le := Nat.zero_le _
  tail_lt := Nat.pos_of_neZero capacity
  head_eq := zero_eq_zero_mod capacity

lemma RingBuffer.push_toRaw (rb : RingBuffer α capacity) (item : α) :
    rb.toRaw.push item = some (rb.push item).toRaw := by
  have hhead : rb.toRaw.head < rb.toRaw.buffer.size :=
    rb.head_lt.trans_eq rb.buffer.size_toArray.symm
  rw [RawRing.push, dif_pos hhead, RingBuffer.push]
  by_cases h : rb.size < capacity
  · rw [dif_pos h]
    exact congrArg some (if_pos h)
  · rw [dif_neg h]
    exact congrArg some (if_neg h)

/-- The loop of `Drain` moves the items out, oldest first.

**Proof sketch.** By induction on the number of iterations. The slots of the items still to come
are other slots than those that have been moved out of. -/
lemma RingBuffer.drainLoop_toRaw (rb : RingBuffer α capacity) {n : ℕ} (hn : n ≤ rb.size) :
    ∃ v : Vector α capacity,
      rb.toRaw.drainLoop left n = some ((List.range n).map rb.item, v.toArray) ∧
        ∀ i, n ≤ i → i < capacity →
          v.get ⟨(rb.tail + i) % capacity, Nat.mod_lt _ (Nat.pos_of_neZero capacity)⟩ =
            rb.item i := by
  induction n with
  | zero => exact ⟨rb.buffer, rfl, fun _ _ _ => rfl⟩
  | succ n ih =>
    obtain ⟨v, hloop, hrest⟩ := ih (by omega)
    have hsize := rb.size_le
    have hslot : (rb.tail + n) % capacity < capacity := Nat.mod_lt _ (Nat.pos_of_neZero capacity)
    have hitem : v.get ⟨(rb.tail + n) % capacity, hslot⟩ = rb.item n := hrest n le_rfl (by omega)
    refine ⟨v.set _ (left (rb.item n)) hslot, ?_, fun i hi hlt => ?_⟩
    · have hbound : (rb.tail + n) % capacity < v.toArray.size := by
        rw [v.size_toArray]
        exact hslot
      rw [RawRing.drainLoop, hloop]
      show (if h : (rb.tail + n) % capacity < v.toArray.size then _ else _) = _
      rw [dif_pos hbound, List.range_succ, List.map_append, List.map_singleton, ← hitem]
      rfl
    · rw [RingBuffer.get_set, if_neg (RingBuffer.slot_ne (by omega) (by omega))]
      exact hrest i (by omega) hlt

/-- A buffer as the code keeps it holds the items of a queue. -/
def RawRing.Holds (rb : RawRing α) (q : BoundedQueue α capacity) : Prop :=
  ∃ r : RingBuffer α capacity, r.toRaw = rb ∧ r.toQueue = q

namespace RawRing.Holds

variable {rb : RawRing α} {q : BoundedQueue α capacity}

lemma new (default : α) :
    (RawRing.new default capacity).Holds (BoundedQueue.empty : BoundedQueue α capacity) :=
  ⟨RingBuffer.ofSlots (Vector.replicate capacity default), rfl, rfl⟩

lemma size_eq (h : rb.Holds q) : rb.size = q.items.length := by
  obtain ⟨r, rfl, rfl⟩ := h
  exact r.length_items.symm

lemma isEmpty_eq (h : rb.Holds q) : rb.isEmpty = q.items.isEmpty := by
  rw [RawRing.isEmpty, h.size_eq]
  cases q.items <;> rfl

/-- Every slot that an operation can use lies in the vector. -/
lemma indices_lt (h : rb.Holds q) :
    rb.head < rb.buffer.size ∧ ∀ i, (rb.tail + i) % rb.capacity < rb.buffer.size := by
  obtain ⟨r, rfl, rfl⟩ := h
  have hsize : r.toRaw.buffer.size = capacity := r.buffer.size_toArray
  rw [hsize]
  exact ⟨r.head_lt, fun i => Nat.mod_lt _ (Nat.pos_of_neZero capacity)⟩

lemma push (h : rb.Holds q) (item : α) :
    ∃ rb', rb.push item = some rb' ∧ rb'.Holds (q.push item) := by
  obtain ⟨r, rfl, rfl⟩ := h
  exact ⟨_, r.push_toRaw item, r.push item, rfl, r.toQueue_push item⟩

/-- What the caller of either `Push` sees, `argument` being what is left of the item. -/
lemma push_shown (h : rb.Holds q) (item argument : α) :
    ∃ rb', (rb.push item).map (fun rb' =>
        (rb', [RingEvent.pushed argument, RingEvent.observed rb'.size rb'.isEmpty])) =
          some (rb', [RingEvent.pushed argument,
            RingEvent.observed (q.push item).items.length (q.push item).items.isEmpty]) ∧
        rb'.Holds (q.push item) := by
  obtain ⟨rb', hpush, hholds⟩ := h.push item
  refine ⟨rb', ?_, hholds⟩
  rw [hpush, Option.map_some, hholds.size_eq, hholds.isEmpty_eq]

lemma drain (h : rb.Holds q) :
    ∃ rb', rb.drain left = some ((q.items, q.items.length), rb') ∧
      rb'.Holds (BoundedQueue.empty : BoundedQueue α capacity) := by
  obtain ⟨r, rfl, rfl⟩ := h
  obtain ⟨v, hloop, -⟩ := r.drainLoop_toRaw left le_rfl
  refine ⟨(RingBuffer.ofSlots v).toRaw, ?_, RingBuffer.ofSlots v, rfl, rfl⟩
  rw [RawRing.drain]
  show (r.toRaw.drainLoop left r.size >>= _) = _
  rw [hloop, r.length_items]
  rfl

end RawRing.Holds

end Steps

/-! ## All runs -/

section Runs

variable (left : α → α) {capacity : ℕ} [NeZero capacity]

/-- The buffer follows every step of the queue, and their callers see the same. -/
lemma RawRing.machine_simulates (rb : RawRing α) (q : BoundedQueue α capacity) (op : RingOp α)
    (q' : BoundedQueue α capacity) (es : List (RingEvent α)) (h : rb.Holds q)
    (hstep : (queueMachine left capacity).step q op = some (q', es)) :
    ∃ rb', (RawRing.machine left).step rb op = some (rb', es) ∧ rb'.Holds q' := by
  cases op with
  | pushCopy item =>
    obtain ⟨rfl, rfl⟩ := Prod.mk.inj (Option.some.inj hstep)
    exact h.push_shown item item
  | pushMove item =>
    obtain ⟨rfl, rfl⟩ := Prod.mk.inj (Option.some.inj hstep)
    exact h.push_shown item (left item)
  | drain =>
    obtain ⟨rfl, rfl⟩ := Prod.mk.inj (Option.some.inj hstep)
    obtain ⟨rb', hdrain, hholds⟩ := h.drain left
    refine ⟨rb', ?_, hholds⟩
    show (rb.drain left).map _ = _
    rw [hdrain, Option.map_some]
    dsimp only
    rw [hholds.size_eq, hholds.isEmpty_eq]
    rfl

/-- After a run the queue holds the last items that were pushed since the last `Drain`. -/
lemma items_of_queueMachine_run {ops : List (RingOp α)} {q : BoundedQueue α capacity}
    {es : List (RingEvent α)}
    (hrun : (queueMachine left capacity).run BoundedQueue.empty ops = some (q, es)) :
    q.items = (pushedSinceDrain ops).rtake capacity := by
  refine (queueMachine left capacity).run_induction
    (P := fun ops q _ => q.items = (pushedSinceDrain ops).rtake capacity)
    (List.rtake_nil capacity).symm ?_ hrun
  intro ops q es op q' fs _ ih hstep
  rw [pushedSinceDrain, List.foldl_append, List.foldl_cons, List.foldl_nil]
  cases op with
  | pushCopy item =>
    obtain ⟨rfl, -⟩ := Prod.mk.inj (Option.some.inj hstep)
    exact BoundedQueue.items_push_of_eq_rtake ih
  | pushMove item =>
    obtain ⟨rfl, -⟩ := Prod.mk.inj (Option.some.inj hstep)
    exact BoundedQueue.items_push_of_eq_rtake ih
  | drain =>
    obtain ⟨rfl, -⟩ := Prod.mk.inj (Option.some.inj hstep)
    exact (List.rtake_nil capacity).symm

/-- **The ring buffer is a bounded queue.** Every sequence of operations on a new buffer runs
without an access behind the end of the vector, and shows its callers what a bounded queue would.
At its end the queue holds the last items pushed since the last `Drain`; `Size` and `Empty` agree
with it, the slots that the next operation can use lie in the vector, and a `Drain` returns these
items, oldest first, and leaves the buffer empty. -/
theorem RawRing.run_refines_queue (default : α) (ops : List (RingOp α)) :
    ∃ (rb : RawRing α) (q : BoundedQueue α capacity) (es : List (RingEvent α)),
      (RawRing.machine left).run (RawRing.new default capacity) ops = some (rb, es) ∧
        (queueMachine left capacity).run BoundedQueue.empty ops = some (q, es) ∧
        q.items = (pushedSinceDrain ops).rtake capacity ∧
        q.items.length = min (pushedSinceDrain ops).length capacity ∧
        rb.size = q.items.length ∧ rb.isEmpty = q.items.isEmpty ∧
        (rb.head < rb.buffer.size ∧ ∀ i, (rb.tail + i) % rb.capacity < rb.buffer.size) ∧
        ∃ rb', rb.drain left = some ((q.items, q.items.length), rb') ∧ rb'.size = 0 ∧
          rb'.isEmpty = true := by
  obtain ⟨⟨q, es⟩, hqueue⟩ := (queueMachine left capacity).exists_run
    (fun q op => by cases op <;> exact ⟨_, rfl⟩) BoundedQueue.empty ops
  obtain ⟨rb, hrun, hholds⟩ := (RawRing.machine left).run_simulates
    (RawRing.machine_simulates left) (RawRing.Holds.new default) hqueue
  have hitems := items_of_queueMachine_run left hqueue
  have hlength : q.items.length = min (pushedSinceDrain ops).length capacity := by
    rw [hitems, List.rtake, List.length_drop]
    omega
  obtain ⟨rb', hdrain, hempty⟩ := hholds.drain left
  exact ⟨rb, q, es, hrun, hqueue, hitems, hlength, hholds.size_eq, hholds.isEmpty_eq,
    hholds.indices_lt, rb', hdrain, hempty.size_eq, hempty.isEmpty_eq⟩

/-- Two slots: the first of three items is dropped. -/
theorem RawRing.run_refines_queue_two_slots :
    ∃ (rb : RawRing ℕ) (es : List (RingEvent ℕ)),
      (RawRing.machine fun _ => 0).run (RawRing.new 0 2)
        [.pushCopy 5, .pushMove 6, .drain, .pushCopy 7, .pushMove 8, .pushCopy 9] =
          some (rb, es) ∧
        ∃ rb', rb.drain (fun _ => 0) = some (([8, 9], 2), rb') := by
  obtain ⟨rb, q, es, hrun, -, hitems, -, -, -, -, rb', hdrain, -⟩ :=
    @RawRing.run_refines_queue ℕ (fun _ => 0) 2 _ 0
      [.pushCopy 5, .pushMove 6, .drain, .pushCopy 7, .pushMove 8, .pushCopy 9]
  have hq : q.items = [8, 9] := hitems
  rw [hq] at hdrain
  exact ⟨rb, es, hrun, rb', hdrain⟩

end Runs

end Monitor
