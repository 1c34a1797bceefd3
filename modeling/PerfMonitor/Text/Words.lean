import Mathlib.Data.List.TakeWhile
import Mathlib.Tactic.Common

set_option relaxedAutoImplicit false
set_option autoImplicit false

/-!
# Words

The words of a list are its maximal runs of elements that are no separators: the non-empty pieces
between the separators.

## Main definitions

* `Words.words` — the words of a list.

## Main results

* `Words.words_append` — a run that ends where a separator follows is a word.
* `Words.words_dropWhile` — leading separators do not count.
-/

namespace Words

variable {α : Type*} {sep : α → Bool} {l w rest : List α}

/-- The non-empty pieces between the separators. -/
def words (sep : α → Bool) (l : List α) : List (List α) := (l.splitOnP sep).filter (!·.isEmpty)

lemma ne_nil_of_mem_words (hw : w ∈ words sep l) : w ≠ [] := by
  have h := (List.mem_filter.mp hw).2
  rintro rfl
  cases h

lemma words_cons_of_sep {c : α} (hc : sep c = true) : words sep (c :: l) = words sep l := by
  rw [words, List.splitOnP_cons_eq_if_modifyHead, if_pos hc, List.filter_cons_of_neg (by simp),
    words]

/-- Leading separators do not count. -/
lemma words_dropWhile (l : List α) : words sep (l.dropWhile sep) = words sep l := by
  induction l with
  | nil => rfl
  | cons c cs ih =>
    by_cases hc : sep c = true
    · rw [List.dropWhile_cons_of_pos hc, ih, words_cons_of_sep hc]
    · rw [List.dropWhile_cons_of_neg hc]

/-- A run of other elements that ends where a separator follows, or nothing, is a word. -/
lemma words_append (hne : w ≠ []) (hw : ∀ c ∈ w, sep c = false)
    (hrest : ∀ c ∈ rest.head?, sep c = true) : words sep (w ++ rest) = w :: words sep rest := by
  have hkeep : (!w.isEmpty) = true := by simpa using hne
  cases rest with
  | nil =>
    rw [List.append_nil, words, List.splitOnP_eq_singleton hw, List.filter_cons, if_pos hkeep]
    rfl
  | cons c cs =>
    have hc : sep c = true := hrest c rfl
    rw [words, List.splitOnP_append_cons_of_forall_mem hw c hc cs, List.filter_cons, if_pos hkeep,
      words_cons_of_sep hc, words]

end Words
