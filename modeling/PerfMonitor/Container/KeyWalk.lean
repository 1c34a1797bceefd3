import Mathlib.Data.List.Nodup
import Mathlib.Tactic.Common

set_option relaxedAutoImplicit false
set_option autoImplicit false

/-!
# Walking over a hash table that grows

A hash table is walked by asking for its first key and then for the successor of each key
(`bpf_map_get_next_key`). Meanwhile keys are inserted, each at a place the hash function chooses,
before or behind the walk. No key is removed.

## Main definitions

* `KeyWalk.nextKey` — the key that follows in the order of the table; the first one for a key that
  the table does not have.
* `KeyWalk.insertAt` — the order after an insertion.
* `KeyWalk.Progress` — the invariant of a walk.

## Main results

* `KeyWalk.Progress.insertAt`, `KeyWalk.Progress.next` — insertions and steps keep it.
* `KeyWalk.Progress.complete` — a walk that comes to its end has visited every key that was there
  when it began.
* `KeyWalk.Progress.length_le` — a walk visits no more keys than the table has.
-/

namespace KeyWalk

variable {κ : Type}

/-- The first key, or the successor of a key. -/
def nextKey [DecidableEq κ] (order : List κ) : Option κ → Option κ
  | none => order.head?
  | some k => if k ∈ order then (order.dropWhile (· ≠ k)).tail.head? else order.head?

/-- The order with `k` inserted behind the first `i` keys. -/
def insertAt (order : List κ) (i : ℕ) (k : κ) : List κ := order.take i ++ k :: order.drop i

lemma mem_insertAt {order : List κ} {i : ℕ} {j k : κ} :
    j ∈ insertAt order i k ↔ j = k ∨ j ∈ order := by
  have hsplit : j ∈ order ↔ j ∈ order.take i ∨ j ∈ order.drop i := by
    rw [← List.mem_append, List.take_append_drop]
  rw [insertAt, List.mem_append, List.mem_cons, hsplit]
  tauto

lemma nodup_insertAt {order : List κ} (h : order.Nodup) (i : ℕ) {k : κ} (hk : k ∉ order) :
    (insertAt order i k).Nodup := by
  rw [insertAt, List.nodup_middle, List.take_append_drop]
  exact List.nodup_cons.mpr ⟨hk, h⟩

/-- An insertion falls into the front part of the order or into the rest. -/
lemma insertAt_append (pre post : List κ) (i : ℕ) (k : κ) :
    insertAt (pre ++ post) i k =
      if i < pre.length then insertAt pre i k ++ post
      else pre ++ insertAt post (i - pre.length) k := by
  unfold insertAt
  rw [List.take_append, List.drop_append]
  split_ifs with h
  · rw [Nat.sub_eq_zero_of_le (Nat.le_of_lt h)]
    simp
  · have htake : pre.take i = pre := List.take_of_length_le (Nat.not_lt.mp h)
    have hdrop : pre.drop i = [] := List.drop_eq_nil_of_le (Nat.not_lt.mp h)
    simp [htake, hdrop]

/-- The end of a list stays where it is when something is inserted before it. -/
lemma getLast?_insertAt {l : List κ} {i : ℕ} (h : i < l.length) (k : κ) :
    (insertAt l i k).getLast? = l.getLast? := by
  have hne : l.drop i ≠ [] := by
    intro hnil
    have hlen := congrArg List.length hnil
    rw [List.length_drop, List.length_nil] at hlen
    omega
  have hl : l.getLast? = (l.drop i).getLast? := by
    conv_lhs => rw [← List.take_append_drop i l]
    exact List.getLast?_append_of_ne_nil _ hne
  rw [hl, insertAt, List.getLast?_append_of_ne_nil _ (List.cons_ne_nil _ _),
    List.getLast?_cons_of_ne_nil hne]

/-- Where a walk is: `cursor` is the last of the keys `visited`. The order of the table is `pre`, up
to the cursor, and the rest. Of the keys that were there when the walk began, those in `pre` have
been visited. -/
structure Progress (start order visited : List κ) (cursor : Option κ) : Prop where
  nodup : order.Nodup
  start_mem : ∀ k ∈ start, k ∈ order
  split : ∃ pre post, order = pre ++ post ∧ visited.Sublist pre ∧ pre.getLast? = cursor ∧
    ∀ k ∈ start, k ∈ pre → k ∈ visited

variable {start order visited : List κ} {cursor : Option κ}

/-- A walk begins with no key visited. -/
lemma Progress.init (h : order.Nodup) : Progress order order [] none :=
  ⟨h, fun _ hk => hk, [], order, rfl, List.Sublist.slnil, rfl,
    fun _ _ hk => absurd hk List.not_mem_nil⟩

/-- **An insertion keeps the progress.** It falls before the cursor, where the walk does not come
any more, or behind it. -/
lemma Progress.insertAt (h : Progress start order visited cursor) (i : ℕ) {k : κ}
    (hk : k ∉ order) : Progress start (insertAt order i k) visited cursor := by
  refine ⟨nodup_insertAt h.nodup i hk, fun j hj => mem_insertAt.mpr (Or.inr (h.start_mem j hj)), ?_⟩
  obtain ⟨pre, post, rfl, hsub, hcursor, hstart⟩ := h.split
  rw [insertAt_append]
  split_ifs with hi
  · refine ⟨KeyWalk.insertAt pre i k, post, rfl, hsub.trans ?_, ?_, fun j hj hmem => ?_⟩
    · conv_lhs => rw [← List.take_append_drop i pre]
      exact (List.Sublist.refl _).append (List.sublist_cons_self k _)
    · rw [getLast?_insertAt hi, hcursor]
    · rcases mem_insertAt.mp hmem with rfl | hpre
      · exact absurd (h.start_mem j hj) hk
      · exact hstart j hj hpre
  · exact ⟨pre, _, rfl, hsub, hcursor, hstart⟩

lemma mem_of_nextKey [DecidableEq κ] {k : κ} (h : nextKey order cursor = some k) : k ∈ order := by
  have hfirst : order.head? = some k → k ∈ order := List.mem_of_head?
  cases cursor with
  | none => exact hfirst h
  | some j =>
    rw [nextKey] at h
    split_ifs at h
    · exact (List.dropWhile_sublist _).subset (List.mem_of_mem_tail (List.mem_of_head? h))
    · exact hfirst h

/-- Behind the cursor comes the rest of the order. -/
lemma nextKey_of_split [DecidableEq κ] {pre post : List κ} (h : (pre ++ post).Nodup) :
    nextKey (pre ++ post) pre.getLast? = post.head? := by
  rcases List.eq_nil_or_concat pre with rfl | ⟨init, k, rfl⟩
  · rfl
  · have hk : k ∉ init := by
      intro hk
      rw [List.nodup_append] at h
      have hinit := h.1
      rw [List.concat_eq_append, List.nodup_append] at hinit
      exact hinit.2.2 k hk k (List.mem_singleton_self k) rfl
    have hdrop : ((init ++ [k]) ++ post).dropWhile (· ≠ k) = k :: post := by
      rw [List.append_assoc, List.dropWhile_append_of_pos]
      · simp
      · intro j hj
        exact decide_eq_true fun heq => hk (heq ▸ hj)
    rw [List.concat_eq_append, List.getLast?_concat, nextKey, if_pos (by simp), hdrop]
    rfl

/-- **A step keeps the progress**: the next key has not been visited. -/
lemma Progress.next [DecidableEq κ] (h : Progress start order visited cursor) {k : κ}
    (hnext : nextKey order cursor = some k) :
    k ∈ order ∧ k ∉ visited ∧ Progress start order (visited ++ [k]) (some k) := by
  obtain ⟨pre, post, rfl, hsub, rfl, hstart⟩ := h.split
  rw [nextKey_of_split h.nodup] at hnext
  obtain ⟨post, rfl⟩ : ∃ post', post = k :: post' := by
    cases post with
    | nil => cases hnext
    | cons j post => exact ⟨post, by rw [Option.some.inj hnext]⟩
  have hnew : k ∉ pre := by
    have hnodup := h.nodup
    rw [List.nodup_middle, List.nodup_cons, List.mem_append, not_or] at hnodup
    exact hnodup.1.1
  refine ⟨by simp, fun hmem => hnew (hsub.subset hmem), h.nodup, h.start_mem, pre ++ [k], post,
    by simp, hsub.append (List.Sublist.refl _), List.getLast?_concat, fun j hj hmem => ?_⟩
  rcases List.mem_append.mp hmem with hpre | hlast
  · exact List.mem_append_left _ (hstart j hj hpre)
  · exact List.mem_append_right _ hlast

/-- **A walk that comes to its end has visited every key that was there when it began.** -/
theorem Progress.complete [DecidableEq κ] (h : Progress start order visited cursor)
    (hend : nextKey order cursor = none) {k : κ} (hk : k ∈ start) : k ∈ visited := by
  obtain ⟨pre, post, rfl, -, rfl, hstart⟩ := h.split
  rw [nextKey_of_split h.nodup] at hend
  obtain rfl : post = [] := List.head?_eq_none_iff.mp hend
  refine hstart k hk ?_
  rw [← List.append_nil pre]
  exact h.start_mem k hk

/-- No key is visited twice, and only keys of the table are. -/
lemma Progress.visited_nodup (h : Progress start order visited cursor) :
    visited.Nodup ∧ ∀ k ∈ visited, k ∈ order := by
  obtain ⟨pre, post, rfl, hsub, -, -⟩ := h.split
  exact ⟨(List.nodup_append.mp h.nodup).1.sublist hsub,
    fun k hk => List.mem_append_left _ (hsub.subset hk)⟩

/-- **A walk visits no more keys than the table has.** -/
theorem Progress.length_le (h : Progress start order visited cursor) :
    visited.length ≤ order.length := by
  obtain ⟨pre, post, rfl, hsub, -, -⟩ := h.split
  rw [List.length_append]
  exact Nat.le_trans hsub.length_le (Nat.le_add_right _ _)

end KeyWalk
