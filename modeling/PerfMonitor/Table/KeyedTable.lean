import Mathlib.Data.List.Nodup
import Mathlib.Data.List.Perm.Subperm
import Mathlib.Tactic.Common

set_option relaxedAutoImplicit false
set_option autoImplicit false

/-!
# Tables with a unique key

A table whose rows have distinct keys, and an insertion that ignores a row whose key is taken.

## Main definitions

* `KeyedTable` — rows with distinct keys.
* `KeyedTable.insertIgnore`, `KeyedTable.insertAll` — insert one row, or several in order.

## Main results

* `KeyedTable.mem_keys_insertAll` — the keys after insertions.
* `KeyedTable.subperm_insertAll_iff` — every row gets in exactly when all keys are distinct.
-/

/-- A table of rows of type `ρ` whose keys are distinct. -/
structure KeyedTable (ρ : Type) {κ : Type} (key : ρ → κ) where
  rows : List ρ
  nodup_keys : (rows.map key).Nodup

namespace KeyedTable

variable {ρ κ : Type} {key : ρ → κ}

def empty : KeyedTable ρ key := ⟨[], List.nodup_nil⟩

/-- The keys that are taken. -/
def keys (t : KeyedTable ρ key) : List κ := t.rows.map key

variable {t : KeyedTable ρ key} {r : ρ} {rs : List ρ} {k : κ}

/-- Rows that are in a table, each as often as it is listed, have distinct keys. -/
lemma nodup_of_subperm (h : rs.Subperm t.rows) : (rs.map key).Nodup := by
  obtain ⟨l, hperm, hsub⟩ := h
  have hl : (l.map key).Nodup := t.nodup_keys.sublist (hsub.map key)
  exact (hperm.map key).nodup_iff.mp hl

variable [DecidableEq κ]

/-- Insert the row unless its key is taken. -/
def insertIgnore (t : KeyedTable ρ key) (r : ρ) : KeyedTable ρ key :=
  if h : key r ∈ t.keys then t
  else
    { rows := t.rows ++ [r]
      nodup_keys := by
        rw [List.map_append, List.nodup_append_comm]
        exact List.nodup_cons.mpr ⟨h, t.nodup_keys⟩ }

/-- Insert rows one after the other. -/
def insertAll (t : KeyedTable ρ key) (rs : List ρ) : KeyedTable ρ key := rs.foldl insertIgnore t

lemma insertIgnore_of_mem (h : key r ∈ t.keys) : t.insertIgnore r = t := dif_pos h

lemma rows_insertIgnore_of_notMem (h : key r ∉ t.keys) :
    (t.insertIgnore r).rows = t.rows ++ [r] := by
  unfold insertIgnore
  rw [dif_neg h]

/-- After an insertion there are no rows but those before and the new one. -/
lemma mem_rows_insertIgnore {r' : ρ} (h : r' ∈ (t.insertIgnore r).rows) : r' ∈ t.rows ∨ r' = r := by
  by_cases hkey : key r ∈ t.keys
  · rw [insertIgnore_of_mem hkey] at h
    exact Or.inl h
  · rw [rows_insertIgnore_of_notMem hkey, List.mem_append, List.mem_singleton] at h
    exact h

/-- An insertion deletes nothing. -/
lemma mem_rows_insertIgnore_of_mem {r' : ρ} (h : r' ∈ t.rows) : r' ∈ (t.insertIgnore r).rows := by
  by_cases hkey : key r ∈ t.keys
  · rwa [insertIgnore_of_mem hkey]
  · rw [rows_insertIgnore_of_notMem hkey]
    exact List.mem_append_left _ h

/-- A row whose key no row of the table has is appended. -/
lemma rows_insertIgnore_of_fresh (h : ∀ r' ∈ t.rows, key r' ≠ key r) :
    (t.insertIgnore r).rows = t.rows ++ [r] := by
  apply rows_insertIgnore_of_notMem
  intro hmem
  obtain ⟨r', hr', hkey⟩ := List.mem_map.mp hmem
  exact h r' hr' hkey

lemma mem_keys_insertIgnore : k ∈ (t.insertIgnore r).keys ↔ k ∈ t.keys ∨ k = key r := by
  by_cases h : key r ∈ t.keys
  · rw [insertIgnore_of_mem h]
    exact ⟨Or.inl, fun hk => hk.elim id fun heq => heq ▸ h⟩
  · rw [keys, rows_insertIgnore_of_notMem h, List.map_append, List.mem_append, List.map_singleton,
      List.mem_singleton]
    rfl

@[simp] lemma insertAll_nil (t : KeyedTable ρ key) : t.insertAll [] = t := rfl

lemma insertAll_append (t : KeyedTable ρ key) (rs rs' : List ρ) :
    t.insertAll (rs ++ rs') = (t.insertAll rs).insertAll rs' :=
  List.foldl_append

/-- Insertions into a table that is part of a larger state. -/
lemma foldl_put {σ α : Type} (put : KeyedTable ρ key → σ) {insert : σ → α → σ} {row : α → ρ}
    (hinsert : ∀ t a, insert (put t) a = put (t.insertIgnore (row a))) (t : KeyedTable ρ key)
    (items : List α) : items.foldl insert (put t) = put (t.insertAll (items.map row)) := by
  rw [insertAll, List.foldl_map]
  exact List.foldl_hom put fun t a => hinsert t a

/-- After insertions the keys taken are those taken before and those of the rows. -/
lemma mem_keys_insertAll : k ∈ (t.insertAll rs).keys ↔ k ∈ t.keys ∨ k ∈ rs.map key := by
  induction rs generalizing t with
  | nil => simp
  | cons r rs ih =>
    have hcons : t.insertAll (r :: rs) = (t.insertIgnore r).insertAll rs := rfl
    rw [hcons, ih, mem_keys_insertIgnore, List.map_cons, List.mem_cons, or_assoc]

lemma mem_rows_insertAll_of_mem {r' : ρ} (h : r' ∈ t.rows) : r' ∈ (t.insertAll rs).rows := by
  induction rs generalizing t with
  | nil => exact h
  | cons r rs ih => exact ih (mem_rows_insertIgnore_of_mem h)

/-- After insertions there are no rows but those before and the new ones. -/
lemma mem_rows_insertAll {r' : ρ} (h : r' ∈ (t.insertAll rs).rows) : r' ∈ t.rows ∨ r' ∈ rs := by
  induction rs generalizing t with
  | nil => exact Or.inl h
  | cons r rs ih =>
    rcases ih (t := t.insertIgnore r) h with h | h
    · rcases mem_rows_insertIgnore h with h | rfl
      · exact Or.inl h
      · exact Or.inr List.mem_cons_self
    · exact Or.inr (List.mem_cons_of_mem _ h)

/-- A row whose key is taken by the rows before it can be left out. -/
lemma insertAll_concat_of_mem (h : key r ∈ rs.map key) :
    t.insertAll (rs ++ [r]) = t.insertAll rs := by
  rw [insertAll_append]
  exact insertIgnore_of_mem (mem_keys_insertAll.mpr (Or.inr h))

/-- Rows with distinct fresh keys are all appended. -/
lemma rows_insertAll_of_nodup (h : (t.keys ++ rs.map key).Nodup) :
    (t.insertAll rs).rows = t.rows ++ rs := by
  induction rs generalizing t with
  | nil => exact (List.append_nil _).symm
  | cons r rs ih =>
    have hcons : t.insertAll (r :: rs) = (t.insertIgnore r).insertAll rs := rfl
    rw [List.map_cons] at h
    have hfresh : key r ∉ t.keys := fun hmem =>
      (List.nodup_append.mp h).2.2 _ hmem _ List.mem_cons_self rfl
    have hone := rows_insertIgnore_of_notMem hfresh
    have hkeys : (t.insertIgnore r).keys = t.keys ++ [key r] := by
      rw [keys, hone, List.map_append]
      rfl
    have hrest : ((t.insertIgnore r).keys ++ rs.map key).Nodup := by
      rwa [hkeys, List.append_assoc]
    rw [hcons, ih hrest, hone, List.append_assoc, List.singleton_append]

/-- Rows with distinct keys that are not taken are all appended. -/
lemma rows_insertAll_of_fresh (hnodup : (rs.map key).Nodup)
    (hfresh : ∀ r ∈ t.rows, ∀ r' ∈ rs, key r ≠ key r') :
    (t.insertAll rs).rows = t.rows ++ rs := by
  refine rows_insertAll_of_nodup (List.nodup_append.mpr ⟨t.nodup_keys, hnodup, ?_⟩)
  intro k hk k' hk'
  obtain ⟨r, hr, rfl⟩ := List.mem_map.mp hk
  obtain ⟨r', hr', rfl⟩ := List.mem_map.mp hk'
  exact hfresh r hr r' hr'

/-- Rows of a group that the table has no row of are all appended when their keys give them
distinct names. -/
lemma rows_insertAll_of_group {ι ν : Type} (group : κ → ι) (name : κ → ν) {i : ι}
    (hgroup : ∀ r ∈ rs, group (key r) = i) (hnames : (rs.map fun r => name (key r)).Nodup)
    (hnone : ∀ r ∈ t.rows, group (key r) ≠ i) :
    (t.insertAll rs).rows = t.rows ++ rs := by
  refine rows_insertAll_of_fresh ?_ ?_
  · apply List.Nodup.of_map name
    rwa [List.map_map]
  · intro r hr r' hr' heq
    apply hnone r hr
    rw [heq, hgroup r' hr']

/-- **Every row gets in exactly when all keys are distinct.**

**Proof sketch.** If they are, the rows are appended. If the rows are in the table, their keys are
among its keys, which are distinct. -/
theorem subperm_insertAll_iff :
    (t.rows ++ rs).Subperm (t.insertAll rs).rows ↔ (t.keys ++ rs.map key).Nodup := by
  constructor
  · intro h
    have hall := nodup_of_subperm h
    rwa [List.map_append] at hall
  · intro h
    rw [rows_insertAll_of_nodup h]

end KeyedTable
