import PerfMonitor.Table.KeyedTable

set_option relaxedAutoImplicit false
set_option autoImplicit false

/-!
# Deleting in batches

A statement that deletes the rows of a kind, but at most `n` of them, and does not say which. It is
repeated until it deletes nothing.

## Main definitions

* `KeyedTable.delete` — a table without some of its rows.
* `IsBatch` — rows that the statement may delete.
* `statements` — how often the statement is executed.

## Main results

* `statements_delete` — each statement that deletes something leaves one less to execute.
* `IsBatch.eq_nil_iff` — nothing is deleted exactly when no row of the kind is left.
* `exists_isBatch` — the statement can always be executed.
-/

namespace KeyedTable

variable {ρ κ : Type} {key : ρ → κ}

/-- No row is in a table twice. -/
lemma nodup_rows (t : KeyedTable ρ key) : t.rows.Nodup := List.Nodup.of_map key t.nodup_keys

variable [DecidableEq ρ]

/-- The table without the rows listed. -/
def delete (t : KeyedTable ρ key) (victims : List ρ) : KeyedTable ρ key where
  rows := t.rows.filter (· ∉ victims)
  nodup_keys := t.nodup_keys.sublist (List.filter_sublist.map key)

variable {t : KeyedTable ρ key} {victims : List ρ} {r : ρ}

lemma mem_rows_delete : r ∈ (t.delete victims).rows ↔ r ∈ t.rows ∧ r ∉ victims := by
  simp [delete]
end KeyedTable

section Batches

variable {ρ : Type} {p : ρ → Bool} {n : ℕ} {rows victims : List ρ}

/-- What `DELETE … WHERE p LIMIT n` may delete. -/
structure IsBatch (p : ρ → Bool) (n : ℕ) (rows victims : List ρ) : Prop where
  nodup : victims.Nodup
  mem : ∀ r ∈ victims, r ∈ rows ∧ p r = true
  length_eq : victims.length = min n (rows.countP p)

instance [DecidableEq ρ] : Decidable (IsBatch p n rows victims) :=
  decidable_of_iff (victims.Nodup ∧ (∀ r ∈ victims, r ∈ rows ∧ p r = true) ∧
      victims.length = min n (rows.countP p))
    ⟨fun h => ⟨h.1, h.2.1, h.2.2⟩, fun h => ⟨h.nodup, h.mem, h.length_eq⟩⟩

/-- The first rows of the kind are a batch. -/
lemma exists_isBatch (p : ρ → Bool) (n : ℕ) (hrows : rows.Nodup) :
    ∃ victims, IsBatch p n rows victims := by
  refine ⟨(rows.filter p).take n, ?_, ?_, ?_⟩
  · exact (hrows.filter p).sublist (List.take_sublist _ _)
  · intro r hr
    exact List.mem_filter.mp (List.mem_of_mem_take hr)
  · rw [List.length_take, List.countP_eq_length_filter]

/-- **Nothing is deleted exactly when no row of the kind is left.** -/
lemma IsBatch.eq_nil_iff (h : IsBatch p n rows victims) (hn : 0 < n) :
    victims = [] ↔ rows.countP p = 0 := by
  rw [← List.length_eq_zero_iff, h.length_eq]
  omega

/-- What is left of the kind. -/
lemma IsBatch.countP_filter [DecidableEq ρ] (h : IsBatch p n rows victims) (hrows : rows.Nodup) :
    (rows.filter (· ∉ victims)).countP p = rows.countP p - victims.length := by
  have hperm : (rows.filter (· ∈ victims)).Perm victims := by
    refine (List.perm_ext_iff_of_nodup (hrows.filter _) h.nodup).mpr fun r => ?_
    simp only [List.mem_filter, decide_eq_true_eq]
    exact ⟨fun hr => hr.2, fun hr => ⟨(h.mem r hr).1, hr⟩⟩
  have hall : (rows.filter (· ∈ victims)).countP p = victims.length := by
    rw [hperm.countP_eq, List.countP_eq_length]
    exact fun r hr => (h.mem r hr).2
  have hsplit := List.countP_eq_countP_filter_add rows p (· ∈ victims)
  have hnot : rows.filter (fun r => !decide (r ∈ victims)) = rows.filter (· ∉ victims) := by
    congr
    funext r
    simp
  rw [hall, hnot] at hsplit
  omega

/-- How often the statement is executed while `count` rows of the kind are there: once for each full
or partial batch, and once more to find nothing. -/
def statements (n count : ℕ) : ℕ := (count + n - 1) / n + 1

/-- **One statement less.** -/
lemma statements_delete {count : ℕ} (hn : 0 < n) (hcount : 0 < count) :
    statements n (count - min n count) + 1 = statements n count := by
  unfold statements
  rcases Nat.lt_or_ge n count with hlt | hle
  · rw [Nat.min_eq_left (Nat.le_of_lt hlt)]
    have hshift : count + n - 1 = (count - n + n - 1) + n := by omega
    rw [hshift, Nat.add_div_right _ hn]
  · rw [Nat.min_eq_right hle, Nat.sub_self]
    have hzero : (0 + n - 1) / n = 0 := Nat.div_eq_of_lt (by omega)
    have hone : (count + n - 1) / n = 1 := by
      apply Nat.div_eq_of_lt_le <;> omega
    rw [hzero, hone]

/-- With nothing of the kind, the statement is executed once. -/
lemma statements_zero (hn : 0 < n) : statements n 0 = 1 := by
  unfold statements
  rw [Nat.div_eq_of_lt (by omega)]

end Batches
