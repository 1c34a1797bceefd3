import Mathlib.Algebra.BigOperators.Fin
import Mathlib.Algebra.BigOperators.Pi
import PerfMonitor.Container.UnorderedMap

set_option relaxedAutoImplicit false
set_option autoImplicit false

/-!
# Per-CPU hash maps

A hash map of bounded size whose values have one slot for each of `n` CPUs
(`BPF_MAP_TYPE_PERCPU_HASH`). An operation runs on a CPU: a lookup gives the CPU's own slot, and
creating an entry sets that slot and zeroes the others.

## Main definitions

* `PerCpuHash` — the map.
* `PerCpuHash.updateNoExist`, `PerCpuHash.addSlot` — create an entry, add to a slot.
* `PerCpuHash.total` — what the slots of a key add up to.

## Main results

* `PerCpuHash.total_updateNoExist`, `PerCpuHash.total_addSlot` — how the operations change the
  totals.
* `PerCpuHash.mem_of_updateNoExist_eq_none` — a creation that is refused for a key of a small set
  is refused because the key is there.
-/

/-- A map from keys to one value for each CPU. -/
abbrev PerCpuHash (n : ℕ) (κ ν : Type) [DecidableEq κ] := UnorderedMap κ (Fin n → ν)

namespace PerCpuHash

variable {n : ℕ} {κ ν : Type} [DecidableEq κ] [AddCommMonoid ν]

/-- Create the entry of `k` with value `v` in the slot of `cpu` and zero in the others; `none` if
the key is there or the map is full (`bpf_map_update_elem` with `BPF_NOEXIST`). -/
def updateNoExist (maxEntries : ℕ) (m : PerCpuHash n κ ν) (k : κ) (cpu : Fin n) (v : ν) :
    Option (PerCpuHash n κ ν) :=
  if k ∈ m ∨ m.entries.length ≥ maxEntries then none
  else some (m.insert k (Function.update 0 cpu v))

/-- Add `d` to the slot of `cpu`, through the pointer that a lookup of `k` has given. -/
def addSlot (m : PerCpuHash n κ ν) (k : κ) (cpu : Fin n) (d : ν) : PerCpuHash n κ ν :=
  match m.lookup k with
  | some slots => m.insert k (Function.update slots cpu (slots cpu + d))
  | none => m

/-- The sum of the slots of `k`, zero if there is no entry. -/
def total (m : PerCpuHash n κ ν) (k : κ) : ν := ∑ cpu, (m.lookup k).getD 0 cpu

variable {m m' : PerCpuHash n κ ν} {k j : κ} {cpu : Fin n} {v d : ν} {maxEntries : ℕ}

lemma total_of_notMem (h : k ∉ m) : total m k = 0 := by
  rw [total, AList.lookup_eq_none.mpr h]
  exact Finset.sum_const_zero

lemma total_of_lookup {slots : Fin n → ν} (h : m.lookup k = some slots) :
    total m k = ∑ cpu, slots cpu := by
  rw [total, h]
  rfl

lemma total_insert (slots : Fin n → ν) :
    total (m.insert k slots) j = if j = k then ∑ cpu, slots cpu else total m j := by
  unfold total
  rw [UnorderedMap.lookup_insert_ite]
  split_ifs <;> rfl

/-- Adding to one slot adds to the sum. -/
lemma sum_update_add (slots : Fin n → ν) (cpu : Fin n) (d : ν) :
    ∑ c, Function.update slots cpu (slots cpu + d) c = (∑ c, slots c) + d := by
  have hsplit : Function.update slots cpu (slots cpu + d) = slots + Pi.single cpu d := by
    funext c
    by_cases hc : c = cpu
    · subst hc
      simp
    · simp [hc]
  rw [hsplit]
  simp [Finset.sum_add_distrib]

/-- **A creation adds its value** to the total of its key. -/
lemma total_updateNoExist (h : updateNoExist maxEntries m k cpu v = some m') :
    total m' j = total m j + if j = k then v else 0 := by
  unfold updateNoExist at h
  split_ifs at h with hfree
  cases h
  rw [total_insert]
  split_ifs with hj
  · rw [hj, total_of_notMem fun hk => hfree (Or.inl hk), zero_add]
    have hsum := sum_update_add (0 : Fin n → ν) cpu v
    simpa only [Pi.zero_apply, zero_add, Finset.sum_const_zero] using hsum
  · exact (add_zero _).symm

/-- **An addition adds its amount** to the total of its key. -/
lemma total_addSlot (h : k ∈ m) :
    total (addSlot m k cpu d) j = total m j + if j = k then d else 0 := by
  obtain ⟨slots, hslots⟩ := UnorderedMap.mem_iff_lookup.mp h
  simp only [addSlot, hslots, total_insert]
  split_ifs with hj
  · rw [sum_update_add, hj, total_of_lookup hslots]
  · exact (add_zero _).symm

lemma mem_updateNoExist (h : updateNoExist maxEntries m k cpu v = some m') :
    j ∈ m' ↔ j = k ∨ j ∈ m := by
  unfold updateNoExist at h
  split_ifs at h
  cases h
  exact AList.mem_insert m

lemma mem_addSlot : j ∈ addSlot m k cpu d ↔ j ∈ m := by
  unfold addSlot
  split
  · next slots hslots =>
    rw [AList.mem_insert]
    refine or_iff_right_of_imp ?_
    rintro rfl
    exact UnorderedMap.mem_iff_lookup.mpr ⟨slots, hslots⟩
  · rfl

/-- A creation does not overfill the map. -/
lemma length_updateNoExist (h : updateNoExist maxEntries m k cpu v = some m') :
    m'.entries.length ≤ maxEntries := by
  unfold updateNoExist at h
  split_ifs at h with hfree
  cases h
  obtain ⟨hnew, hroom⟩ := not_or.mp hfree
  rw [AList.entries_insert_of_notMem hnew, List.length_cons]
  exact not_le.mp hroom

/-- An addition creates nothing. -/
lemma length_addSlot : (addSlot m k cpu d).entries.length = m.entries.length := by
  unfold addSlot
  split
  · next slots hslots =>
    have hk : k ∈ m.keys := AList.mem_keys.mp (UnorderedMap.mem_iff_lookup.mpr ⟨slots, hslots⟩)
    have hlength : ∀ m : PerCpuHash n κ ν, m.entries.length = m.keys.length := fun m =>
      (List.length_map _).symm
    rw [hlength, hlength, AList.keys_insert, List.length_cons, List.length_erase_of_mem hk]
    have hpos := List.length_pos_of_mem hk
    omega
  · rfl

/-- Entries with keys of a small set do not fill the map, so a refused creation has found its
key. -/
lemma mem_of_updateNoExist_eq_none {S : Finset κ} (hcard : S.card ≤ maxEntries)
    (hm : ∀ j ∈ m, j ∈ S) (hk : k ∈ S) (h : updateNoExist maxEntries m k cpu v = none) :
    k ∈ m := by
  by_contra hnew
  unfold updateNoExist at h
  split_ifs at h with hfull
  have hlen : m.entries.length ≥ maxEntries := hfull.resolve_left hnew
  have hkeys : m.keys.toFinset ⊆ S.erase k := by
    intro j hj
    have hjm : j ∈ m := List.mem_toFinset.mp hj
    exact Finset.mem_erase.mpr ⟨fun heq => hnew (heq ▸ hjm), hm j hjm⟩
  have hcount := Finset.card_le_card hkeys
  rw [List.toFinset_card_of_nodup m.keys_nodup, Finset.card_erase_of_mem hk] at hcount
  have hlength : m.keys.length = m.entries.length := List.length_map _
  have hpos : 0 < S.card := Finset.card_pos.mpr ⟨k, hk⟩
  omega

end PerCpuHash
