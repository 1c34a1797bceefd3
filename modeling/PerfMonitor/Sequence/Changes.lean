import Mathlib.Data.List.Nodup
import Mathlib.Data.List.Sublists
import Mathlib.Tactic.Common

set_option relaxedAutoImplicit false
set_option autoImplicit false

/-!
# The changes of a sequence

A filter that remembers only the last item it has seen lets an item pass when it differs from
that one. What passes are the changes of the sequence.

## Main definitions

* `Changes` — the second list consists of the changes of the first.
* `Returns` — an item comes back after a different one.

## Main results

* `Changes.getLast?_eq`, `Changes.mem_iff` — the changes end like the sequence and have its items.
* `Changes.nodup_iff` — the changes are distinct exactly when no item comes back.
-/

variable {α : Type*}

/-- `A` consists of the changes of `D`: the items that differ from the item before. -/
inductive Changes : List α → List α → Prop where
  | nil : Changes [] []
  | stay {D A : List α} {x : α} (h : Changes D A) (hx : D.getLast? = some x) :
    Changes (D ++ [x]) A
  | change {D A : List α} {x : α} (h : Changes D A) (hx : D.getLast? ≠ some x) :
    Changes (D ++ [x]) (A ++ [x])

/-- Some item comes back after a different one. -/
def Returns (D : List α) : Prop := ∃ a b, a ≠ b ∧ [a, b, a].Sublist D

variable {D A : List α} {x : α}

lemma Changes.getLast?_eq (h : Changes D A) : A.getLast? = D.getLast? := by
  induction h with
  | nil => rfl
  | stay _ hx ih => rw [ih, hx, List.getLast?_concat]
  | change _ _ ih => rw [List.getLast?_concat, List.getLast?_concat]

lemma Changes.mem_iff (h : Changes D A) : x ∈ A ↔ x ∈ D := by
  induction h with
  | nil => exact Iff.rfl
  | @stay D A y _ hy ih =>
    rw [List.mem_append, List.mem_singleton, ih]
    refine ⟨Or.inl, fun hx => hx.elim id ?_⟩
    rintro rfl
    exact List.mem_of_getLast? hy
  | change _ _ ih => rw [List.mem_append, List.mem_append, ih]

/-- A sublist of `D ++ [x]` that ends in `a` is one of `D`, or ends in `x`. -/
lemma sublist_concat_iff {l : List α} {a : α} :
    (l ++ [a]).Sublist (D ++ [x]) ↔ (l ++ [a]).Sublist D ∨ (a = x ∧ l.Sublist D) := by
  constructor
  · intro h
    obtain ⟨l₁, l₂, heq, h₁, h₂⟩ := List.sublist_append_iff.mp h
    rcases List.sublist_singleton.mp h₂ with rfl | rfl
    · rw [List.append_nil] at heq
      exact Or.inl (heq ▸ h₁)
    · obtain ⟨rfl, hax⟩ := List.append_inj' heq rfl
      exact Or.inr ⟨List.singleton_inj.mp hax, h₁⟩
  · rintro (h | ⟨rfl, h⟩)
    · exact h.trans (List.sublist_append_left D [x])
    · exact h.append (List.Sublist.refl _)

/-- One more item returns if it follows a different one that it preceded. -/
lemma returns_concat_iff :
    Returns (D ++ [x]) ↔ Returns D ∨ ∃ b, x ≠ b ∧ [x, b].Sublist D := by
  constructor
  · rintro ⟨a, b, hab, h⟩
    rcases (sublist_concat_iff (l := [a, b])).mp h with hsub | ⟨rfl, hsub⟩
    · exact Or.inl ⟨a, b, hab, hsub⟩
    · exact Or.inr ⟨b, hab, hsub⟩
  · rintro (⟨a, b, hab, h⟩ | ⟨b, hxb, h⟩)
    · exact ⟨a, b, hab, h.trans (List.sublist_append_left D [x])⟩
    · exact ⟨x, b, hxb, (sublist_concat_iff (l := [x, b])).mpr (Or.inr ⟨rfl, h⟩)⟩

/-- An item of `D` other than the last precedes the last. -/
lemma pair_sublist_of_mem {b : α} (hx : x ∈ D) (hb : D.getLast? = some b) (hne : x ≠ b) :
    [x, b].Sublist D := by
  obtain ⟨l, rfl⟩ := List.getLast?_eq_some_iff.mp hb
  have hmem : x ∈ l := by
    rcases List.mem_append.mp hx with hx | hx
    · exact hx
    · exact absurd (List.mem_singleton.mp hx) hne
  exact (List.singleton_sublist.mpr hmem).append (List.Sublist.refl [b])

/-- **The changes are distinct exactly when no item comes back.**

**Proof sketch.** Induction on the sequence. An item that stays cannot return, for it would have
returned before. An item that is a change is a repetition exactly when it occurred before, and
then the last item so far stands between. -/
theorem Changes.nodup_iff (h : Changes D A) : A.Nodup ↔ ¬ Returns D := by
  induction h with
  | nil => exact iff_of_true List.nodup_nil fun ⟨_, _, _, h⟩ => by simp at h
  | @stay D A x hch hx ih =>
    rw [ih, not_iff_not, returns_concat_iff]
    refine ⟨Or.inl, fun h => h.elim id fun ⟨b, hxb, hsub⟩ => ⟨x, b, hxb, ?_⟩⟩
    obtain ⟨l, rfl⟩ := List.getLast?_eq_some_iff.mp hx
    have hpair : [x, b].Sublist l :=
      (sublist_concat_iff (l := [x])).mp hsub |>.resolve_right fun hbx => hxb hbx.1.symm
    exact (sublist_concat_iff (l := [x, b])).mpr (Or.inr ⟨rfl, hpair⟩)
  | @change D A x hch hx ih =>
    have hnodup : (A ++ [x]).Nodup ↔ A.Nodup ∧ x ∉ A := by
      rw [List.nodup_append_comm, List.singleton_append, List.nodup_cons, and_comm]
    have hback : (∃ b, x ≠ b ∧ [x, b].Sublist D) ↔ x ∈ D := by
      constructor
      · rintro ⟨b, -, hsub⟩
        exact hsub.subset List.mem_cons_self
      · intro hmem
        cases hlast : D.getLast? with
        | none => exact absurd hmem (List.getLast?_eq_none_iff.mp hlast ▸ List.not_mem_nil)
        | some b =>
          have hne : x ≠ b := fun heq => hx (heq ▸ hlast)
          exact ⟨b, hne, pair_sublist_of_mem hmem hlast hne⟩
    rw [hnodup, ih, hch.mem_iff, returns_concat_iff, hback, not_or]
