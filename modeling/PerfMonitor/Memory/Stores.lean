import Mathlib.Data.List.Basic
import Mathlib.Logic.Function.Basic
import Mathlib.Tactic.Common

set_option relaxedAutoImplicit false
set_option autoImplicit false

/-!
# Stores to memory

Stores of single words, one after the other, and copies of a string to the start of a buffer.

## Main definitions

* `write` — the words after a list of stores.
* `overlay` — a buffer after a copy to its start.

## Main results

* `write_map`, `write_flatMap` — the value of a word after stores that come in some order.
* `take_overlay` — what was copied is read back, whatever the buffer held before.
-/

/-! ## Words -/

section Write

variable {α β : Type*} [DecidableEq α]

/-- The words after a list of stores, in order. -/
def write (stores : List (α × β)) (words : α → β) : α → β :=
  stores.foldl (fun w p => Function.update w p.1 p.2) words

@[simp] lemma write_nil (words : α → β) : write [] words = words := rfl

@[simp] lemma write_cons (p : α × β) (stores : List (α × β)) (words : α → β) :
    write (p :: stores) words = write stores (Function.update words p.1 p.2) := rfl

lemma write_append (stores stores' : List (α × β)) (words : α → β) :
    write (stores ++ stores') words = write stores' (write stores words) :=
  List.foldl_append

/-- A word that is not stored to keeps its value. -/
lemma write_of_notMem {a : α} {stores : List (α × β)} (h : ∀ p ∈ stores, p.1 ≠ a)
    (words : α → β) : write stores words a = words a := by
  induction stores generalizing words with
  | nil => rfl
  | cons p stores ih =>
    have hp : a ≠ p.1 := fun hap => h p List.mem_cons_self hap.symm
    rw [write_cons, ih fun q hq => h q (List.mem_cons_of_mem p hq)]
    exact Function.update_of_ne hp p.2 words

/-- When the stores come in blocks and only the block of `i` stores to `a`, that block decides
the value of `a`. -/
lemma write_flatMap {ι : Type*} {a : α} {v : β} {block : ι → List (α × β)} {l : List ι} {i : ι}
    (hi : i ∈ l) (hother : ∀ j ∈ l, j ≠ i → ∀ p ∈ block j, p.1 ≠ a)
    (hblock : ∀ words, write (block i) words a = v) (words : α → β) :
    write (l.flatMap block) words a = v := by
  induction l generalizing words with
  | nil => exact absurd hi List.not_mem_nil
  | cons j l ih =>
    rw [List.flatMap_cons, write_append]
    by_cases hil : i ∈ l
    · exact ih hil (fun k hk => hother k (List.mem_cons_of_mem j hk)) _
    · -- the block of `i` is the first one, and no later block stores to `a`
      obtain rfl : i = j := (List.mem_cons.mp hi).resolve_right hil
      rw [write_of_notMem, hblock]
      intro p hp
      obtain ⟨k, hk, hpk⟩ := List.mem_flatMap.mp hp
      exact hother k (List.mem_cons_of_mem i hk) (fun hki => hil (hki ▸ hk)) p hpk

/-- One store for every index, each to a word of its own. -/
lemma write_map {ι : Type*} {word : ι → α} (hword : Function.Injective word) (value : ι → β)
    {l : List ι} {i : ι} (hi : i ∈ l) (words : α → β) :
    write (l.map fun j => (word j, value j)) words (word i) = value i := by
  rw [List.map_eq_flatMap]
  refine write_flatMap hi (fun j _ hj p hp => ?_) (fun w => ?_) words
  · rw [List.mem_singleton.mp hp]
    exact fun heq => hj (hword heq)
  · exact Function.update_self ..

end Write

/-! ## Buffers -/

section Overlay

variable {α : Type*}

/-- `memcpy` of a string to the start of a buffer. -/
def overlay (src buffer : List α) : List α := src ++ buffer.drop src.length

/-- The part of the buffer that was copied to holds the string. -/
@[simp] lemma take_overlay (src buffer : List α) :
    (overlay src buffer).take src.length = src :=
  List.take_left

end Overlay
