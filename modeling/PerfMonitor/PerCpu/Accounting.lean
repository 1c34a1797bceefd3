import PerfMonitor.Automaton.Run
import PerfMonitor.PerCpu.Hash

set_option relaxedAutoImplicit false
set_option autoImplicit false

/-!
# Accounting in a per-CPU hash map

Executions on `n` CPUs, one at a time on each, account amounts under keys of a per-CPU hash map. An
execution looks its key up. If it finds the entry it adds the parts of its amount to its own slot,
one after the other. If it does not, it tries to create the entry with the whole amount; when
another CPU has been faster the creation is refused, and the execution looks the key up again.

Entries are never deleted, and the keys come from a set that fits in the map.

## Main definitions

* `PerCpuExec` — where an execution is.
* `PerCpuAccounting`, `PerCpuAccounting.step` — the map and the executions.
* `PerCpuAccounting.Sound` — nothing is lost or counted twice: the slots of a key and what its
  executions still have to add make up what has been started for it.

## Main results

* `PerCpuAccounting.Sound.step` — every step keeps the accounting sound.
* `PerCpuAccounting.Sound.total_eq` — when no execution is in progress, the slots of a key add up
  to what has been started for it.
-/

/-- An execution that accounts `parts` under `k`. -/
inductive PerCpuExec (κ ν : Type) where
  | idle
  /-- Before the first lookup. -/
  | entering (k : κ) (parts : List ν)
  /-- The lookup has found nothing. -/
  | missed (k : κ) (parts : List ν)
  /-- The creation has been refused. -/
  | refused (k : κ) (parts : List ν)
  /-- A lookup has found the entry; these parts are still to be added. -/
  | adding (k : κ) (parts : List ν)
  deriving DecidableEq

/-- The map, and the execution on each CPU. -/
structure PerCpuAccounting (n : ℕ) (κ ν : Type) [DecidableEq κ] where
  map : PerCpuHash n κ ν := ∅
  execs : Fin n → PerCpuExec κ ν := fun _ => .idle

/-- An execution starts on a CPU, or makes its next helper call or addition. -/
inductive PerCpuAction (n : ℕ) (κ ν : Type) where
  | start (cpu : Fin n) (k : κ) (parts : List ν)
  | advance (cpu : Fin n)

section Accounting

variable {n : ℕ} {κ ν : Type} [DecidableEq κ] [AddCommMonoid ν]

namespace PerCpuExec

/-- The next helper call or addition of an execution on `cpu`. -/
def advance (maxEntries : ℕ) (cpu : Fin n) (m : PerCpuHash n κ ν) :
    PerCpuExec κ ν → Option (PerCpuHash n κ ν × PerCpuExec κ ν)
  | .idle => none
  | .entering k parts => some (m, if k ∈ m then .adding k parts else .missed k parts)
  | .missed k parts =>
    match m.updateNoExist maxEntries k cpu parts.sum with
    | some m' => some (m', .idle)
    | none => some (m, .refused k parts)
  | .refused k parts => some (m, if k ∈ m then .adding k parts else .idle)
  | .adding k (d :: parts) => some (m.addSlot k cpu d, .adding k parts)
  | .adding _ [] => some (m, .idle)

/-- What the execution still has to account under `j`. -/
def pending (j : κ) : PerCpuExec κ ν → ν
  | .idle => 0
  | .entering k parts | .missed k parts | .refused k parts | .adding k parts =>
    if j = k then parts.sum else 0

/-- The execution's key. -/
def key : PerCpuExec κ ν → Option κ
  | .idle => none
  | .entering k _ | .missed k _ | .refused k _ | .adding k _ => some k

/-- The execution's key has an entry. -/
def found : PerCpuExec κ ν → Option κ
  | .refused k _ | .adding k _ => some k
  | _ => none

end PerCpuExec

namespace PerCpuAccounting

/-- A start shows the key and the whole amount. -/
def step (maxEntries : ℕ) (s : PerCpuAccounting n κ ν) :
    PerCpuAction n κ ν → Option (PerCpuAccounting n κ ν × List (κ × ν))
  | .start cpu k parts =>
    match s.execs cpu with
    | .idle =>
      some ({ s with execs := Function.update s.execs cpu (.entering k parts) }, [(k, parts.sum)])
    | _ => none
  | .advance cpu =>
    ((s.execs cpu).advance maxEntries cpu s.map).map fun p =>
      ({ map := p.1, execs := Function.update s.execs cpu p.2 }, [])

/-! ## Sums over the CPUs -/

/-- What the executions on all CPUs still have to account under `j`. -/
def pendingTotal (execs : Fin n → PerCpuExec κ ν) (j : κ) : ν := ∑ cpu, (execs cpu).pending j

/-- One CPU's share of what is pending, and the rest. -/
lemma exists_pendingTotal_eq (execs : Fin n → PerCpuExec κ ν) (cpu : Fin n) (j : κ) :
    ∃ rest, pendingTotal execs j = (execs cpu).pending j + rest ∧
      ∀ e, pendingTotal (Function.update execs cpu e) j = e.pending j + rest := by
  refine ⟨∑ c ∈ Finset.univ.erase cpu, (execs c).pending j,
    (Finset.add_sum_erase _ _ (Finset.mem_univ cpu)).symm, fun e => ?_⟩
  rw [pendingTotal, ← Finset.add_sum_erase _ _ (Finset.mem_univ cpu), Function.update_self]
  congr 1
  refine Finset.sum_congr rfl fun c hc => ?_
  rw [Function.update_of_ne (Finset.ne_of_mem_erase hc)]

/-! ## Soundness -/

/-- What has been started under `j`. -/
def startedTotal (es : List (κ × ν)) (j : κ) : ν :=
  ((es.filter fun e => e.1 = j).map Prod.snd).sum

lemma startedTotal_append (es fs : List (κ × ν)) (j : κ) :
    startedTotal (es ++ fs) j = startedTotal es j + startedTotal fs j := by
  rw [startedTotal, List.filter_append, List.map_append, List.sum_append]
  rfl

/-- The accounting of the executions started so far, with keys of `S`. -/
structure Sound (S : Finset κ) (s : PerCpuAccounting n κ ν) (es : List (κ × ν)) : Prop where
  balance : ∀ j, s.map.total j + pendingTotal s.execs j = startedTotal es j
  found : ∀ cpu k, (s.execs cpu).found = some k → k ∈ s.map
  key : ∀ cpu k, (s.execs cpu).key = some k → k ∈ S
  keys : ∀ k ∈ s.map, k ∈ S
  tracked : ∀ e ∈ es, e.1 ∈ s.map ∨ ∃ cpu, (s.execs cpu).key = some e.1

/-- The map before the first execution. -/
lemma Sound.init (S : Finset κ) : Sound S ({} : PerCpuAccounting n κ ν) [] where
  balance j := by
    have hmap : (∅ : PerCpuHash n κ ν).total j = 0 :=
      PerCpuHash.total_of_notMem (AList.notMem_empty j)
    have hpending : pendingTotal (fun _ : Fin n => (.idle : PerCpuExec κ ν)) j = 0 :=
      Finset.sum_const_zero
    rw [hmap, hpending, add_zero]
    rfl
  found cpu k h := by cases h
  key cpu k h := by cases h
  keys k h := absurd h (AList.notMem_empty k)
  tracked e h := absurd h List.not_mem_nil

end PerCpuAccounting

/-! ## One execution -/

/-- What a call or an addition of one execution does. -/
structure PerCpuExec.Advances (m m' : PerCpuHash n κ ν) (e e' : PerCpuExec κ ν) : Prop where
  conserved : ∀ j, m'.total j + e'.pending j = m.total j + e.pending j
  mono : ∀ k ∈ m, k ∈ m'
  created : ∀ k ∈ m', k ∈ m ∨ e.key = some k
  found : ∀ k, e'.found = some k → k ∈ m'
  key : ∀ k, e'.key = some k → e.key = some k
  tracked : ∀ k, e.key = some k → k ∈ m' ∨ e'.key = some k

/-- A lookup, or a refused creation, leaves the map and what is still to be added. -/
lemma PerCpuExec.Advances.of_same {m : PerCpuHash n κ ν} {e e' : PerCpuExec κ ν}
    (hpending : ∀ j, e'.pending j = e.pending j) (hkey : e'.key = e.key)
    (hfound : ∀ k, e'.found = some k → k ∈ m) : Advances m m e e' where
  conserved j := by rw [hpending]
  mono _ := id
  created _ := Or.inl
  found := hfound
  key _ h := hkey ▸ h
  tracked _ h := Or.inr (hkey ▸ h)

/-- **No call or addition loses an amount or counts it twice.**

**Proof sketch.** A found entry is still there when the parts are added, as entries are not
deleted. A creation that succeeds accounts the whole amount at once; one that is refused was so
because the key is there, as the keys fit in the map, so that the second lookup finds it. -/
lemma PerCpuExec.advances {maxEntries : ℕ} {S : Finset κ} {cpu : Fin n} {m m' : PerCpuHash n κ ν}
    {e e' : PerCpuExec κ ν} (hcard : S.card ≤ maxEntries) (hkeys : ∀ k ∈ m, k ∈ S)
    (hkey : ∀ k, e.key = some k → k ∈ S) (hfound : ∀ k, e.found = some k → k ∈ m)
    (h : e.advance maxEntries cpu m = some (m', e')) : Advances m m' e e' := by
  cases e with
  | idle => cases h
  | entering k parts =>
    by_cases hk : k ∈ m
    · simp only [advance, if_pos hk, Option.some.injEq, Prod.mk.injEq] at h
      obtain ⟨rfl, rfl⟩ := h
      exact .of_same (fun _ => rfl) rfl fun j hj => Option.some.inj hj ▸ hk
    · simp only [advance, if_neg hk, Option.some.injEq, Prod.mk.injEq] at h
      obtain ⟨rfl, rfl⟩ := h
      exact .of_same (fun _ => rfl) rfl fun j hj => (nomatch hj)
  | missed k parts =>
    cases hcreate : m.updateNoExist maxEntries k cpu parts.sum with
    | some m₁ =>
      simp only [advance, hcreate, Option.some.injEq, Prod.mk.injEq] at h
      obtain ⟨rfl, rfl⟩ := h
      have hmem := fun j => @PerCpuHash.mem_updateNoExist _ _ _ _ _ _ _ _ j _ _ _ hcreate
      refine ⟨fun j => ?_, fun j hj => (hmem j).mpr (Or.inr hj), fun j hj => ?_,
        fun _ hj => (nomatch hj), fun _ hj => (nomatch hj), fun j hj => Or.inl ?_⟩
      · rw [PerCpuHash.total_updateNoExist hcreate]
        exact add_zero _
      · exact ((hmem j).mp hj).symm.imp_right fun heq => congrArg some heq.symm
      · exact (hmem j).mpr (Or.inl (Option.some.inj hj).symm)
    | none =>
      simp only [advance, hcreate, Option.some.injEq, Prod.mk.injEq] at h
      obtain ⟨rfl, rfl⟩ := h
      have hk := PerCpuHash.mem_of_updateNoExist_eq_none hcard hkeys (hkey k rfl) hcreate
      exact .of_same (fun _ => rfl) rfl fun j hj => Option.some.inj hj ▸ hk
  | refused k parts =>
    have hk : k ∈ m := hfound k rfl
    simp only [advance, if_pos hk, Option.some.injEq, Prod.mk.injEq] at h
    obtain ⟨rfl, rfl⟩ := h
    exact .of_same (fun _ => rfl) rfl hfound
  | adding k parts =>
    have hk : k ∈ m := hfound k rfl
    cases parts with
    | nil =>
      cases h
      refine ⟨fun j => ?_, fun _ => id, fun _ => Or.inl, fun _ hj => (nomatch hj),
        fun _ hj => (nomatch hj), fun j hj => Or.inl (Option.some.inj hj ▸ hk)⟩
      simp [pending]
    | cons d parts =>
      cases h
      have hmem := fun j => @PerCpuHash.mem_addSlot _ _ _ _ _ m k j cpu d
      refine ⟨fun j => ?_, fun j hj => (hmem j).mpr hj, fun j hj => Or.inl ((hmem j).mp hj), ?_,
        fun _ => id, fun _ => Or.inr⟩
      · rw [PerCpuHash.total_addSlot hk]
        simp only [pending, List.sum_cons]
        split_ifs
        · exact add_assoc _ _ _
        · rw [add_zero]
      · intro j hj
        exact (hmem j).mpr (Option.some.inj hj ▸ hk)

/-- A call or an addition creates at most one entry. -/
lemma PerCpuExec.mem_advance {maxEntries : ℕ} {cpu : Fin n} {m m' : PerCpuHash n κ ν}
    {e e' : PerCpuExec κ ν} (h : e.advance maxEntries cpu m = some (m', e')) :
    (∀ j, j ∈ m' ↔ j ∈ m) ∨ ∃ k, k ∉ m ∧ ∀ j, j ∈ m' ↔ j = k ∨ j ∈ m := by
  cases e with
  | idle => cases h
  | missed k parts =>
    cases hcreate : m.updateNoExist maxEntries k cpu parts.sum with
    | some m₁ =>
      simp only [advance, hcreate, Option.some.injEq, Prod.mk.injEq] at h
      obtain ⟨rfl, -⟩ := h
      have hnew : k ∉ m := by
        unfold PerCpuHash.updateNoExist at hcreate
        split_ifs at hcreate with hfree
        exact fun hk => hfree (Or.inl hk)
      exact Or.inr ⟨k, hnew, fun _ => PerCpuHash.mem_updateNoExist hcreate⟩
    | none =>
      simp only [advance, hcreate, Option.some.injEq, Prod.mk.injEq] at h
      obtain ⟨rfl, -⟩ := h
      exact Or.inl fun _ => Iff.rfl
  | entering k parts | refused k parts =>
    cases h
    exact Or.inl fun _ => Iff.rfl
  | adding k parts =>
    cases parts with
    | nil =>
      cases h
      exact Or.inl fun _ => Iff.rfl
    | cons d parts =>
      cases h
      exact Or.inl fun _ => PerCpuHash.mem_addSlot

/-- No call or addition overfills the map. -/
lemma PerCpuExec.length_advance {maxEntries : ℕ} {cpu : Fin n} {m m' : PerCpuHash n κ ν}
    {e e' : PerCpuExec κ ν} (hstep : e.advance maxEntries cpu m = some (m', e'))
    (h : m.entries.length ≤ maxEntries) : m'.entries.length ≤ maxEntries := by
  cases e with
  | idle => cases hstep
  | missed k parts =>
    cases hcreate : m.updateNoExist maxEntries k cpu parts.sum with
    | some m₁ =>
      simp only [advance, hcreate, Option.some.injEq, Prod.mk.injEq] at hstep
      exact hstep.1 ▸ PerCpuHash.length_updateNoExist hcreate
    | none =>
      simp only [advance, hcreate, Option.some.injEq, Prod.mk.injEq] at hstep
      exact hstep.1 ▸ h
  | entering k parts | refused k parts =>
    cases hstep
    exact h
  | adding k parts =>
    cases parts with
    | nil =>
      cases hstep
      exact h
    | cons d parts =>
      cases hstep
      exact PerCpuHash.length_addSlot.trans_le h

namespace PerCpuAccounting

variable {maxEntries : ℕ} {S : Finset κ} {s s' : PerCpuAccounting n κ ν} {es fs : List (κ × ν)}
  {a : PerCpuAction n κ ν}

/-- No step overfills the map. -/
lemma length_step (hstep : s.step maxEntries a = some (s', fs))
    (h : s.map.entries.length ≤ maxEntries) : s'.map.entries.length ≤ maxEntries := by
  cases a with
  | start cpu k parts =>
    simp only [PerCpuAccounting.step] at hstep
    split at hstep
    · cases hstep
      exact h
    · cases hstep
  | advance cpu =>
    simp only [PerCpuAccounting.step, Option.map_eq_some_iff, Prod.exists] at hstep
    obtain ⟨m, e, hadvance, hs'⟩ := hstep
    cases hs'
    exact PerCpuExec.length_advance hadvance h

/-- A step creates at most one entry. -/
lemma mem_step (hstep : s.step maxEntries a = some (s', fs)) :
    (∀ j, j ∈ s'.map ↔ j ∈ s.map) ∨ ∃ k, k ∉ s.map ∧ ∀ j, j ∈ s'.map ↔ j = k ∨ j ∈ s.map := by
  cases a with
  | start cpu k parts =>
    simp only [PerCpuAccounting.step] at hstep
    split at hstep
    · cases hstep
      exact Or.inl fun _ => Iff.rfl
    · cases hstep
  | advance cpu =>
    simp only [PerCpuAccounting.step, Option.map_eq_some_iff, Prod.exists] at hstep
    obtain ⟨m, e, hadvance, hs'⟩ := hstep
    cases hs'
    exact PerCpuExec.mem_advance hadvance

/-- The key that an action brings in is one of `S`. -/
def StartsIn (S : Finset κ) : PerCpuAction n κ ν → Prop
  | .start _ k _ => k ∈ S
  | .advance _ => True

/-- The accounting stays sound when one CPU's execution and the map change together: what the
execution accounts or starts is balanced, and keys are kept. -/
lemma Sound.update (h : Sound S s es) (cpu : Fin n) {m : PerCpuHash n κ ν} {e : PerCpuExec κ ν}
    (hbalance : ∀ j, m.total j + e.pending j =
      s.map.total j + (s.execs cpu).pending j + startedTotal fs j)
    (hmono : ∀ k ∈ s.map, k ∈ m) (hkeys : ∀ k ∈ m, k ∈ S)
    (hfound : ∀ k, e.found = some k → k ∈ m) (hkey : ∀ k, e.key = some k → k ∈ S)
    (htracked : ∀ k, (s.execs cpu).key = some k ∨ k ∈ fs.map Prod.fst → k ∈ m ∨ e.key = some k) :
    Sound S ⟨m, Function.update s.execs cpu e⟩ (es ++ fs) := by
  have hself : Function.update s.execs cpu e cpu = e := Function.update_self _ _ _
  refine ⟨fun j => ?_, fun c k hk => ?_, fun c k hk => ?_, hkeys, fun x hx => ?_⟩
  · obtain ⟨rest, hbefore, hafter⟩ := exists_pendingTotal_eq s.execs cpu j
    calc m.total j + pendingTotal (Function.update s.execs cpu e) j
        = m.total j + e.pending j + rest := by rw [hafter, add_assoc]
      _ = s.map.total j + (s.execs cpu).pending j + startedTotal fs j + rest := by
          rw [hbalance]
      _ = s.map.total j + pendingTotal s.execs j + startedTotal fs j := by
          rw [hbefore, add_right_comm, add_assoc (s.map.total j)]
      _ = startedTotal (es ++ fs) j := by rw [h.balance, startedTotal_append]
  · dsimp only at hk
    by_cases hc : c = cpu
    · rw [hc, hself] at hk
      exact hfound k hk
    · rw [Function.update_of_ne hc] at hk
      exact hmono k (h.found c k hk)
  · dsimp only at hk
    by_cases hc : c = cpu
    · rw [hc, hself] at hk
      exact hkey k hk
    · rw [Function.update_of_ne hc] at hk
      exact h.key c k hk
  · have hown : (s.execs cpu).key = some x.1 ∨ x.1 ∈ fs.map Prod.fst →
        x.1 ∈ m ∨ ∃ c, (Function.update s.execs cpu e c).key = some x.1 := fun hx' =>
      (htracked x.1 hx').imp_right fun hk => ⟨cpu, by rw [hself, hk]⟩
    rcases List.mem_append.mp hx with hx | hx
    · rcases h.tracked x hx with hmem | ⟨c, hc⟩
      · exact Or.inl (hmono _ hmem)
      · by_cases hcpu : c = cpu
        · exact hown (Or.inl (hcpu ▸ hc))
        · exact Or.inr ⟨c, by rw [← hc]; exact congrArg _ (Function.update_of_ne hcpu _ _)⟩
    · exact hown (Or.inr (List.mem_map_of_mem hx))

/-- **Every step keeps the accounting sound**, whichever CPU takes it. -/
theorem Sound.step (h : Sound S s es) (hcard : S.card ≤ maxEntries) (ha : StartsIn S a)
    (hstep : s.step maxEntries a = some (s', fs)) : Sound S s' (es ++ fs) := by
  cases a with
  | start cpu k parts =>
    simp only [PerCpuAccounting.step] at hstep
    split at hstep
    · next hidle =>
      cases hstep
      refine h.update cpu (fun j => ?_) (fun _ => id) h.keys (fun l hl => nomatch hl) ?_ ?_
      · rw [hidle, add_assoc]
        congr 1
        simp only [PerCpuExec.pending, startedTotal, List.filter_singleton, zero_add]
        by_cases hj : j = k
        · simp [hj]
        · simp [hj, Ne.symm hj]
      · intro l hl
        exact Option.some.inj hl ▸ ha
      · rintro l (hl | hl)
        · rw [hidle] at hl
          cases hl
        · exact Or.inr (congrArg some (List.mem_singleton.mp hl).symm)
    · cases hstep
  | advance cpu =>
    simp only [PerCpuAccounting.step, Option.map_eq_some_iff, Prod.exists] at hstep
    obtain ⟨m, e, hadvance, hs'⟩ := hstep
    cases hs'
    have hone := PerCpuExec.advances hcard h.keys (h.key cpu) (h.found cpu) hadvance
    refine h.update cpu (fun j => ?_) hone.mono ?_ hone.found ?_ ?_
    · rw [hone.conserved]
      exact (add_zero _).symm
    · exact fun k hk => (hone.created k hk).elim (h.keys k) (h.key cpu k)
    · exact fun k hk => h.key cpu k (hone.key k hk)
    · rintro k (hk | hk)
      · exact hone.tracked k hk
      · cases hk

/-- **When no execution is in progress, the slots of a key add up to what has been started for
it**, and every key with a start has its entry. -/
theorem Sound.total_eq (h : Sound S s es) (hidle : ∀ cpu, s.execs cpu = .idle) (j : κ) :
    s.map.total j = startedTotal es j ∧ ∀ e ∈ es, e.1 ∈ s.map := by
  constructor
  · have hpending : pendingTotal s.execs j = 0 :=
      Finset.sum_eq_zero fun cpu _ => by rw [hidle cpu]; rfl
    have hbalance := h.balance j
    rwa [hpending, add_zero] at hbalance
  · intro e he
    refine (h.tracked e he).resolve_right fun ⟨cpu, hcpu⟩ => ?_
    rw [hidle cpu] at hcpu
    cases hcpu

end PerCpuAccounting

end Accounting
