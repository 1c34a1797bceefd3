import Mathlib.Data.List.Induction
import Mathlib.Order.Lattice
import Mathlib.Tactic.Common

set_option relaxedAutoImplicit false
set_option autoImplicit false

/-!
# The running leader of a list

One walk over a list keeps the greatest value met so far and the item that brought it; an item takes
over only by exceeding that value. The walk starts from a value below all others.

## Main definitions

* `Ranking.lead` — one step of the walk.
* `Ranking.leader` — the first item that no other exceeds.

## Main results

* `Ranking.leader_eq_some_iff` — the leader exceeds what comes before it and is not exceeded by what
  comes after.
* `Ranking.leader_of_pairwise` — in a list of falling values the leader is the head.
* `Ranking.foldl_lead` — the walk ends with the leader.
-/

namespace Ranking

variable {α β K : Type*} [LinearOrder K] (value : α → K) (name : α → β)

/-- One step: the item takes over if its value exceeds the one kept. -/
def lead (s : K × β) (a : α) : K × β := if s.1 < value a then (value a, name a) else s

/-- The first item that no item exceeds. -/
def leader (l : List α) : Option α := l.find? fun a => ∀ b ∈ l, value b ≤ value a

variable {value} {l : List α} {a : α}

lemma leader_eq_some_iff : leader value l = some a ↔
    ∃ before after, l = before ++ a :: after ∧ (∀ b ∈ before, value b < value a) ∧
      ∀ b ∈ after, value b ≤ value a := by
  rw [leader, List.find?_eq_some_iff_append]
  simp only [decide_eq_true_eq, Bool.not_eq_true', decide_eq_false_iff_not, not_forall, not_le]
  constructor
  · rintro ⟨hmax, before, after, rfl, hexceeded⟩
    refine ⟨before, after, rfl, fun b hb => ?_, fun b hb => hmax b (by simp [hb])⟩
    obtain ⟨c, hc, hlt⟩ := hexceeded b hb
    exact hlt.trans_le (hmax c hc)
  · rintro ⟨before, after, rfl, hbefore, hafter⟩
    refine ⟨fun b hb => ?_, before, after, rfl, fun b hb => ⟨a, by simp, hbefore b hb⟩⟩
    rcases List.mem_append.mp hb with hb | hb
    · exact (hbefore b hb).le
    · rcases List.mem_cons.mp hb with rfl | hb
      · exact le_rfl
      · exact hafter b hb

lemma leader_mem (h : leader value l = some a) : a ∈ l := List.mem_of_find?_eq_some h

lemma value_le_of_leader (h : leader value l = some a) : ∀ b ∈ l, value b ≤ value a := by
  simpa using List.find?_some h

/-- A new last item takes over exactly when it exceeds the leader. -/
lemma leader_concat (h : leader value l = some a) (c : α) :
    leader value (l ++ [c]) = some (if value a < value c then c else a) := by
  obtain ⟨before, after, hl, hbefore, hafter⟩ := leader_eq_some_iff.mp h
  rw [leader_eq_some_iff]
  split_ifs with hc
  · refine ⟨l, [], rfl, fun b hb => (value_le_of_leader h b hb).trans_lt hc, ?_⟩
    exact fun b hb => absurd hb List.not_mem_nil
  · refine ⟨before, after ++ [c], by rw [hl, List.append_assoc, List.cons_append], hbefore, ?_⟩
    intro b hb
    rcases List.mem_append.mp hb with hb | hb
    · exact hafter b hb
    · rw [List.mem_singleton.mp hb]
      exact not_lt.mp hc

lemma leader_singleton (c : α) : leader value [c] = some c := by simp [leader]

lemma leader_eq_none_iff : leader value l = none ↔ l = [] := by
  induction l using List.reverseRecOn with
  | nil => exact iff_of_true rfl rfl
  | append_singleton l c ih =>
    refine iff_of_false ?_ (List.concat_ne_nil c l)
    cases h : leader value l with
    | none =>
      rw [ih.mp h, List.nil_append, leader_singleton]
      exact Option.some_ne_none c
    | some a =>
      rw [leader_concat h]
      exact Option.some_ne_none _

/-- In a list of falling values the leader is the head. -/
lemma leader_of_pairwise (hl : l.Pairwise fun a b => value b ≤ value a) :
    leader value l = l.head? := by
  cases l with
  | nil => rfl
  | cons a l =>
    refine leader_eq_some_iff.mpr ⟨[], l, rfl, ?_, (List.pairwise_cons.mp hl).1⟩
    exact fun b hb => absurd hb List.not_mem_nil

variable (value)

/-- **The walk ends with the leader** when it starts below all items, and where it started when
there are none.

**Proof sketch.** Induction on the list from its end: the last step compares the last item with the
leader of the others. -/
theorem foldl_lead {s : K × β} (hs : ∀ a ∈ l, s.1 < value a) :
    l.foldl (lead value name) s = ((leader value l).map fun a => (value a, name a)).getD s := by
  induction l using List.reverseRecOn with
  | nil => rfl
  | append_singleton l c ih =>
    have ih := ih fun a ha => hs a (List.mem_append_left [c] ha)
    rw [List.foldl_append, List.foldl_cons, List.foldl_nil, ih]
    cases h : leader value l with
    | none =>
      have hc : s.1 < value c := hs c (List.mem_append_right l List.mem_cons_self)
      rw [leader_eq_none_iff.mp h, List.nil_append, leader_singleton]
      exact if_pos hc
    | some a =>
      rw [leader_concat h]
      simp only [lead, Option.map_some, Option.getD_some]
      split_ifs <;> rfl

end Ranking
