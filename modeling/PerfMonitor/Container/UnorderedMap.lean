import Mathlib.Data.List.AList
import Mathlib.Tactic.Common

set_option relaxedAutoImplicit false
set_option autoImplicit false
set_option linter.unusedSectionVars false

/-!
# Unordered maps and their iteration orders

A hash map is modelled by its association list (`AList`, distinct keys by construction). What a
program can observe besides the stored pairs is the order in which it walks them; that order is
an argument of every walk, so that a statement about all orders covers every hash function and
every history of rehashing.

## Main definitions

* `UnorderedMap κ ν` — finite maps from `κ` to `ν`.
* `UnorderedMap.get` — the value of `operator[]`: what is stored, or the default value.
* `UnorderedMap.IterOrder` — an order in which the pairs may be walked.
* `UnorderedMap.removeIf` — erase while walking.

## Main results

* `UnorderedMap.lookup_insert_ite`, `UnorderedMap.lookup_erase_ite` — lookups after an update.
* `UnorderedMap.mem_arrange` — a walk visits exactly the stored pairs.
* `UnorderedMap.foldl_view_of_lookup_none`, `UnorderedMap.foldl_view_of_lookup` — what a walk does
  to the part of a state that belongs to one key.
* `UnorderedMap.foldl_look_of_mem`, `UnorderedMap.foldl_out` — what a walk stores and shows that
  treats every key on its own.
* `UnorderedMap.lookup_removeIf_of_mem`, `UnorderedMap.lookup_removeIf_of_not` — erasing while
  walking removes exactly the condemned keys.
-/

/-- Finite maps with distinct keys. -/
abbrev UnorderedMap (κ ν : Type) := AList fun _ : κ => ν

namespace UnorderedMap

variable {κ ν : Type} [DecidableEq κ]

/-- What `operator[]` reads: the stored value, or a default-constructed one. -/
def get [Inhabited ν] (m : UnorderedMap κ ν) (k : κ) : ν := (m.lookup k).getD default

lemma lookup_insert_ite (m : UnorderedMap κ ν) (a k : κ) (b : ν) :
    (m.insert a b).lookup k = if k = a then some b else m.lookup k := by
  split_ifs with h
  · subst h; exact AList.lookup_insert m
  · exact AList.lookup_insert_ne h

lemma lookup_erase_ite (m : UnorderedMap κ ν) (a k : κ) :
    (m.erase a).lookup k = if k = a then none else m.lookup k := by
  split_ifs with h
  · subst h; exact AList.lookup_erase k m
  · exact AList.lookup_erase_ne h

lemma get_of_lookup [Inhabited ν] {m : UnorderedMap κ ν} {k : κ} {v : ν}
    (h : m.lookup k = some v) : m.get k = v := by simp [get, h]

lemma get_insert_ite [Inhabited ν] (m : UnorderedMap κ ν) (a k : κ) (b : ν) :
    get (m.insert a b) k = if k = a then b else m.get k := by
  unfold get
  rw [lookup_insert_ite]
  split_ifs <;> rfl

lemma mem_iff_lookup {m : UnorderedMap κ ν} {k : κ} : k ∈ m ↔ ∃ v, m.lookup k = some v := by
  rw [← AList.lookup_isSome, Option.isSome_iff_exists]

lemma lookup_unique {m : UnorderedMap κ ν} {k : κ} {v v' : ν} (h : m.lookup k = some v)
    (h' : m.lookup k = some v') : v = v' :=
  Option.some.inj (h.symm.trans h')

lemma mem_entries_iff {m : UnorderedMap κ ν} {k : κ} {v : ν} :
    ⟨k, v⟩ ∈ m.entries ↔ m.lookup k = some v :=
  AList.mem_lookup_iff.symm

lemma mem_insert_of_mem {m : UnorderedMap κ ν} {k a : κ} {b : ν} (h : k ∈ m) :
    k ∈ m.insert a b :=
  (AList.mem_insert m).mpr (Or.inr h)

/-- Inserting and then erasing a key that was absent leaves the map as it was. -/
lemma erase_insert {m : UnorderedMap κ ν} {k : κ} {v : ν} (h : k ∉ m) :
    (m.insert k v).erase k = m := by
  apply AList.ext
  rw [AList.insert_of_notMem h]
  exact List.kerase_cons_eq rfl

/-- Erasing a key that is absent changes nothing. -/
lemma erase_of_lookup_none {m : UnorderedMap κ ν} {k : κ} (h : m.lookup k = none) :
    m.erase k = m := by
  apply AList.ext
  exact List.kerase_of_notMem_keys (AList.lookup_eq_none.mp h)

/-- The pairs of a map, one of them in front. -/
lemma perm_entries_of_lookup {m : UnorderedMap κ ν} {k : κ} {v : ν} (h : m.lookup k = some v) :
    m.entries.Perm (⟨k, v⟩ :: (m.erase k).entries) := by
  have hkey : k ∈ m.keys := AList.mem_keys.mp (mem_iff_lookup.mpr ⟨v, h⟩)
  obtain ⟨v', l₁, l₂, -, hsplit, herase⟩ := List.exists_of_kerase hkey
  have hmem : ⟨k, v'⟩ ∈ m.entries := by
    rw [hsplit]
    exact List.mem_append_right _ List.mem_cons_self
  obtain rfl := lookup_unique h (mem_entries_iff.mp hmem)
  have hrest : (m.erase k).entries = l₁ ++ l₂ := herase
  rw [hsplit, hrest]
  exact List.perm_middle

/-! ## Walking a map -/

/-- An order in which a hash map's pairs may be walked. -/
structure IterOrder (κ ν : Type) where
  /-- The pairs in the order of the walk. -/
  arrange : List (Σ _ : κ, ν) → List (Σ _ : κ, ν)
  /-- A walk visits every pair once. -/
  perm : ∀ l, (arrange l).Perm l

/-- The order in which the association list holds the pairs. -/
def IterOrder.stored : IterOrder κ ν := ⟨id, fun l => .refl l⟩

variable (ord : IterOrder κ ν) (m : UnorderedMap κ ν)

lemma mem_arrange {k : κ} {v : ν} : ⟨k, v⟩ ∈ ord.arrange m.entries ↔ m.lookup k = some v := by
  rw [(ord.perm m.entries).mem_iff, mem_entries_iff]

lemma nodup_keys_arrange : (ord.arrange m.entries).keys.Nodup :=
  ((ord.perm m.entries).map Sigma.fst).nodup_iff.mpr m.keys_nodup

lemma arrange_eq_nil_iff : ord.arrange m.entries = [] ↔ m.entries = [] := by
  constructor
  · intro h
    exact (h ▸ ord.perm m.entries).nil_eq.symm
  · intro h
    exact List.Perm.eq_nil (h ▸ ord.perm m.entries)

/-! ## What a walk does to one key -/

section View

variable {σ ρ : Type} {step : σ → (Σ _ : κ, ν) → σ} (view : σ → ρ) {k : κ}

/-- Steps for other keys leave the view alone. -/
lemma foldl_view_of_keys (hframe : ∀ s e, e.1 ≠ k → view (step s e) = view s)
    {l : List (Σ _ : κ, ν)} (hk : k ∉ l.keys) (s : σ) : view (l.foldl step s) = view s := by
  induction l generalizing s with
  | nil => rfl
  | cons e l ih =>
    rw [List.keys_cons, List.mem_cons, not_or] at hk
    rw [List.foldl_cons, ih hk.2, hframe s e (Ne.symm hk.1)]

/-- A walk over a map without the key leaves the view alone. -/
lemma foldl_view_of_lookup_none (hframe : ∀ s e, e.1 ≠ k → view (step s e) = view s)
    {m : UnorderedMap κ ν} (hk : m.lookup k = none) (s : σ) :
    view (m.entries.foldl step s) = view s :=
  foldl_view_of_keys view hframe (AList.lookup_eq_none.mp hk) s

/-- A walk over a map with the key acts on the view by the one step for the key. -/
lemma foldl_view_of_lookup (hframe : ∀ s e, e.1 ≠ k → view (step s e) = view s)
    (hstep : ∀ s s' v, view s = view s' → view (step s ⟨k, v⟩) = view (step s' ⟨k, v⟩))
    {m : UnorderedMap κ ν} {v : ν} (hk : m.lookup k = some v) (s : σ) :
    view (m.entries.foldl step s) = view (step s ⟨k, v⟩) := by
  obtain ⟨pre, post, hsplit⟩ := List.append_of_mem (mem_entries_iff.mpr hk)
  have hnodup : (pre ++ ⟨k, v⟩ :: post).keys.Nodup := hsplit ▸ m.keys_nodup
  rw [List.keys_append, List.keys_cons, List.nodup_middle, List.nodup_cons, List.mem_append,
    not_or] at hnodup
  rw [hsplit, List.foldl_append, List.foldl_cons, foldl_view_of_keys view hframe hnodup.1.2]
  exact hstep _ _ v (foldl_view_of_keys view hframe hnodup.1.1 s)

end View

/-! ## Walks that treat every key on its own -/

section Keyed

variable {σ ρ ι ε : Type} {step : σ → ι → σ} (key : ι → κ) (look : σ → κ → ρ)

/-- Steps for other keys leave what is stored under a key alone. -/
lemma foldl_look_of_notMem (hframe : ∀ s e k, key e ≠ k → look (step s e) k = look s k)
    {l : List ι} {k : κ} (hk : k ∉ l.map key) (s : σ) : look (l.foldl step s) k = look s k := by
  induction l generalizing s with
  | nil => rfl
  | cons e l ih =>
    rw [List.map_cons, List.mem_cons, not_or] at hk
    rw [List.foldl_cons, ih hk.2, hframe s e k (Ne.symm hk.1)]

/-- After a walk over distinct keys there stands under each key what its step has stored. -/
lemma foldl_look_of_mem (val : ι → ρ) (hframe : ∀ s e k, key e ≠ k → look (step s e) k = look s k)
    (hstore : ∀ s e, look (step s e) (key e) = val e) {l : List ι} (hl : (l.map key).Nodup)
    {e : ι} (he : e ∈ l) (s : σ) : look (l.foldl step s) (key e) = val e := by
  obtain ⟨pre, post, rfl⟩ := List.append_of_mem he
  rw [List.map_append, List.map_cons, List.nodup_middle, List.nodup_cons, List.mem_append,
    not_or] at hl
  rw [List.foldl_append, List.foldl_cons, foldl_look_of_notMem key look hframe hl.1.2, hstore]

/-- A walk over distinct keys that shows for each something that depends on what is stored under it,
and changes nothing under other keys, shows what its start says. -/
lemma foldl_out (out : σ → List ε) (g : ι → ρ → List ε)
    (hframe : ∀ s e k, key e ≠ k → look (step s e) k = look s k)
    (hout : ∀ s e, out (step s e) = out s ++ g e (look s (key e)))
    {l : List ι} (hl : (l.map key).Nodup) (s : σ) :
    out (l.foldl step s) = out s ++ l.flatMap fun e => g e (look s (key e)) := by
  induction l generalizing s with
  | nil => exact (List.append_nil _).symm
  | cons e l ih =>
    rw [List.map_cons, List.nodup_cons] at hl
    have hrest : (l.flatMap fun e' => g e' (look (step s e) (key e'))) =
        l.flatMap fun e' => g e' (look s (key e')) := by
      apply List.flatMap_congr
      intro e' he'
      rw [hframe s e (key e')]
      rintro heq
      exact hl.1 (heq ▸ List.mem_map_of_mem he')
    rw [List.foldl_cons, ih hl.2, hout, hrest, List.append_assoc, List.flatMap_cons]

end Keyed

/-! ## Erasing while walking -/

variable {μ : Type}

/-- Walk the pairs of `l` and erase from `m` the keys of those that `p` condemns. -/
def removeIf (p : κ → ν → Bool) (l : List (Σ _ : κ, ν)) (m : UnorderedMap κ μ) :
    UnorderedMap κ μ :=
  l.foldl (fun m e => if p e.1 e.2 then m.erase e.1 else m) m

@[simp] lemma removeIf_cons (p : κ → ν → Bool) (e : Σ _ : κ, ν) (l : List (Σ _ : κ, ν))
    (m : UnorderedMap κ μ) :
    removeIf p (e :: l) m = removeIf p l (if p e.1 e.2 then m.erase e.1 else m) := rfl

/-- A key that no condemned pair carries is left alone. -/
lemma lookup_removeIf_of_not (p : κ → ν → Bool) {l : List (Σ _ : κ, ν)} {m : UnorderedMap κ μ}
    {k : κ} (h : ∀ v, ⟨k, v⟩ ∈ l → p k v = false) : (removeIf p l m).lookup k = m.lookup k := by
  induction l generalizing m with
  | nil => rfl
  | cons e l ih =>
    rw [removeIf_cons, ih fun v hv => h v (List.mem_cons_of_mem e hv)]
    split_ifs with he
    · have hne : k ≠ e.1 := by
        rintro rfl
        rw [h e.2 List.mem_cons_self] at he
        exact Bool.false_ne_true he
      exact AList.lookup_erase_ne hne
    · rfl

/-- A key that a condemned pair carries is gone. -/
lemma lookup_removeIf_of_mem (p : κ → ν → Bool) {l : List (Σ _ : κ, ν)} {m : UnorderedMap κ μ}
    {k : κ} {v : ν} (hv : ⟨k, v⟩ ∈ l) (hp : p k v = true) : (removeIf p l m).lookup k = none := by
  -- once absent, a key stays absent
  have habsent : ∀ (l : List (Σ _ : κ, ν)) (m : UnorderedMap κ μ), m.lookup k = none →
      (removeIf p l m).lookup k = none := by
    intro l
    induction l with
    | nil => exact fun m hm => hm
    | cons e l ih =>
      intro m hm
      rw [removeIf_cons]
      apply ih
      split_ifs
      · rw [lookup_erase_ite, hm, ite_self]
      · exact hm
  induction l generalizing m with
  | nil => exact absurd hv List.not_mem_nil
  | cons e l ih =>
    rw [removeIf_cons]
    rcases List.mem_cons.mp hv with rfl | hv
    · rw [if_pos hp]
      exact habsent l _ (AList.lookup_erase k m)
    · exact ih hv

end UnorderedMap
