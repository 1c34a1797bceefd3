import Mathlib.Algebra.Order.Monoid.Canonical.Defs
import Mathlib.Order.Basic
import PerfMonitor.PerCpu.Accounting

set_option relaxedAutoImplicit false
set_option autoImplicit false

/-!
# The amounts that the slots stand for

The slots of a per-CPU hash map may hold their amounts in a finite form, such as modulo a power of
two. If addition commutes with that form, an accounting of the finite values follows an accounting
of the amounts step by step. In the latter every slot only grows.

## Main definitions

* `PerCpuHash.Represents`, `PerCpuAccounting.Represents` — every value is the image of an amount.

## Main results

* `PerCpuAccounting.Represents.step` — the two accountings keep in step.
* `PerCpuAccounting.step_grows` — no slot ever shrinks.
-/

section Exact

variable {n : ℕ} {κ ν N : Type} [DecidableEq κ] [AddCommMonoid ν] [AddCommMonoid N] {f : N →+ ν}

/-! ## Maps -/

namespace PerCpuHash

/-- Every slot holds the image of an amount. -/
def Represents (f : N →+ ν) (m : PerCpuHash n κ ν) (x : PerCpuHash n κ N) : Prop :=
  ∀ k, m.lookup k = (x.lookup k).map fun slots cpu => f (slots cpu)

variable {m : PerCpuHash n κ ν} {x : PerCpuHash n κ N} {k : κ} {cpu : Fin n} {maxEntries : ℕ}

lemma Represents.empty : Represents f (∅ : PerCpuHash n κ ν) ∅ := fun _ => rfl

lemma Represents.mem_iff (h : Represents f m x) : k ∈ m ↔ k ∈ x := by
  rw [← AList.lookup_isSome, ← AList.lookup_isSome, h k, Option.isSome_map]

/-- The maps have the same size. -/
lemma Represents.length_eq (h : Represents f m x) : m.entries.length = x.entries.length := by
  have hkeys : m.keys.Perm x.keys :=
    (List.perm_ext_iff_of_nodup m.keys_nodup x.keys_nodup).mpr fun _ => h.mem_iff
  have hm : m.keys.length = m.entries.length := List.length_map _
  have hx : x.keys.length = x.entries.length := List.length_map _
  rw [← hm, ← hx, hkeys.length_eq]

lemma Represents.insert (h : Represents f m x) (k : κ) (slots : Fin n → N) :
    Represents f (m.insert k fun cpu => f (slots cpu)) (x.insert k slots) := by
  intro j
  rw [UnorderedMap.lookup_insert_ite, UnorderedMap.lookup_insert_ite, h j]
  split_ifs <;> rfl

lemma map_update (slots : Fin n → N) (cpu : Fin n) (v : N) :
    Function.update (fun c => f (slots c)) cpu (f v) =
      fun c => f (Function.update slots cpu v c) := by
  funext c
  by_cases hc : c = cpu
  · subst hc
    rw [Function.update_self, Function.update_self]
  · rw [Function.update_of_ne hc, Function.update_of_ne hc]

/-- A creation is refused in both maps or succeeds in both. -/
lemma Represents.updateNoExist (h : Represents f m x) (maxEntries : ℕ) (k : κ) (cpu : Fin n)
    (v : N) :
    (m.updateNoExist maxEntries k cpu (f v) = none ∧ x.updateNoExist maxEntries k cpu v = none) ∨
    ∃ m' x', m.updateNoExist maxEntries k cpu (f v) = some m' ∧
      x.updateNoExist maxEntries k cpu v = some x' ∧ Represents f m' x' := by
  unfold PerCpuHash.updateNoExist
  simp only [h.mem_iff, h.length_eq]
  split_ifs
  · exact Or.inl ⟨rfl, rfl⟩
  · refine Or.inr ⟨_, _, rfl, rfl, ?_⟩
    have hzero : (0 : Fin n → ν) = fun c => f ((0 : Fin n → N) c) := by
      funext c
      exact (map_zero f).symm
    rw [hzero, map_update]
    exact h.insert k _

lemma Represents.addSlot (h : Represents f m x) (k : κ) (cpu : Fin n) (d : N) :
    Represents f (m.addSlot k cpu (f d)) (x.addSlot k cpu d) := by
  unfold PerCpuHash.addSlot
  cases hx : x.lookup k with
  | none =>
    rw [h k, hx]
    exact h
  | some slots =>
    rw [h k, hx]
    dsimp only [Option.map_some]
    rw [← map_add f, map_update]
    exact h.insert k _

end PerCpuHash

/-! ## Executions -/

namespace PerCpuExec

/-- The execution with the images of its amounts. -/
def map (f : N → ν) : PerCpuExec κ N → PerCpuExec κ ν
  | .idle => .idle
  | .entering k parts => .entering k (parts.map f)
  | .missed k parts => .missed k (parts.map f)
  | .refused k parts => .refused k (parts.map f)
  | .adding k parts => .adding k (parts.map f)

/-- An execution and its image make the same step. -/
lemma advance_represents {m m' : PerCpuHash n κ ν} {x : PerCpuHash n κ N} {maxEntries : ℕ}
    {cpu : Fin n} {e : PerCpuExec κ N} {e' : PerCpuExec κ ν} (h : m.Represents f x)
    (hstep : (e.map f).advance maxEntries cpu m = some (m', e')) :
    ∃ x' y, e.advance maxEntries cpu x = some (x', y) ∧ m'.Represents f x' ∧ e' = y.map f := by
  cases e with
  | idle => cases hstep
  | entering k parts =>
    cases hstep
    refine ⟨_, _, rfl, h, ?_⟩
    simp only [h.mem_iff]
    split_ifs <;> rfl
  | missed k parts =>
    have hsum : (parts.map f).sum = f parts.sum := (map_list_sum f parts).symm
    simp only [map, advance, hsum] at hstep ⊢
    rcases h.updateNoExist maxEntries k cpu parts.sum with ⟨hm, hx⟩ | ⟨m₁, x₁, hm, hx, h₁⟩
    · rw [hm] at hstep
      rw [hx]
      cases hstep
      exact ⟨_, _, rfl, h, rfl⟩
    · rw [hm] at hstep
      rw [hx]
      cases hstep
      exact ⟨_, _, rfl, h₁, rfl⟩
  | refused k parts =>
    cases hstep
    refine ⟨_, _, rfl, h, ?_⟩
    simp only [h.mem_iff]
    split_ifs <;> rfl
  | adding k parts =>
    cases parts with
    | nil =>
      cases hstep
      exact ⟨_, _, rfl, h, rfl⟩
    | cons d parts =>
      cases hstep
      exact ⟨_, _, rfl, h.addSlot k cpu d, rfl⟩

/-- **A step leaves every slot or adds to it.** -/
lemma advance_grows [PartialOrder N] [CanonicallyOrderedAdd N] {x x' : PerCpuHash n κ N}
    {maxEntries : ℕ} {cpu : Fin n} {e e' : PerCpuExec κ N}
    (hstep : e.advance maxEntries cpu x = some (x', e')) {k : κ} {slots : Fin n → N}
    (hk : x.lookup k = some slots) : ∃ slots', x'.lookup k = some slots' ∧ slots ≤ slots' := by
  have hsame : ∃ slots', x.lookup k = some slots' ∧ slots ≤ slots' := ⟨slots, hk, le_rfl⟩
  cases e with
  | idle => cases hstep
  | entering j parts =>
    cases hstep
    exact hsame
  | missed j parts =>
    cases hcreate : x.updateNoExist maxEntries j cpu parts.sum with
    | none =>
      simp only [advance, hcreate, Option.some.injEq, Prod.mk.injEq] at hstep
      obtain ⟨rfl, -⟩ := hstep
      exact hsame
    | some x₁ =>
      simp only [advance, hcreate, Option.some.injEq, Prod.mk.injEq] at hstep
      obtain ⟨rfl, -⟩ := hstep
      unfold PerCpuHash.updateNoExist at hcreate
      split_ifs at hcreate with hfree
      cases hcreate
      have hne : k ≠ j := fun heq =>
        hfree (Or.inl (heq ▸ UnorderedMap.mem_iff_lookup.mpr ⟨slots, hk⟩))
      rw [AList.lookup_insert_ne hne]
      exact hsame
  | refused j parts =>
    cases hstep
    exact hsame
  | adding j parts =>
    cases parts with
    | nil =>
      cases hstep
      exact hsame
    | cons d parts =>
      cases hstep
      unfold PerCpuHash.addSlot
      cases hj : x.lookup j with
      | none => exact hsame
      | some slots₁ =>
        dsimp only
        rw [UnorderedMap.lookup_insert_ite]
        split_ifs with hkj
        · subst hkj
          obtain rfl := UnorderedMap.lookup_unique hk hj
          exact ⟨_, rfl, le_update_iff.mpr ⟨le_self_add, fun _ _ => le_rfl⟩⟩
        · exact hsame

end PerCpuExec

/-! ## Accountings -/

namespace PerCpuAccounting

/-- The action with the images of its amounts. -/
def mapAction (f : N → ν) : PerCpuAction n κ N → PerCpuAction n κ ν
  | .start cpu k parts => .start cpu k (parts.map f)
  | .advance cpu => .advance cpu

/-- The map and the executions hold the images of amounts. -/
structure Represents (f : N →+ ν) (s : PerCpuAccounting n κ ν) (t : PerCpuAccounting n κ N) :
    Prop where
  map : s.map.Represents f t.map
  execs : ∀ cpu, s.execs cpu = (t.execs cpu).map f

lemma Represents.init : Represents f ({} : PerCpuAccounting n κ ν) {} :=
  ⟨PerCpuHash.Represents.empty, fun _ => rfl⟩

variable {s s' : PerCpuAccounting n κ ν} {t t' : PerCpuAccounting n κ N} {maxEntries : ℕ}

lemma Represents.update {m : PerCpuHash n κ ν} {x : PerCpuHash n κ N} (h : Represents f s t)
    (hmap : m.Represents f x) (cpu : Fin n) (e : PerCpuExec κ N) :
    Represents f ⟨m, Function.update s.execs cpu (e.map f)⟩
      ⟨x, Function.update t.execs cpu e⟩ := by
  refine ⟨hmap, fun c => ?_⟩
  dsimp only
  by_cases hc : c = cpu
  · subst hc
    rw [Function.update_self, Function.update_self]
  · rw [Function.update_of_ne hc, Function.update_of_ne hc, h.execs c]

/-- **The two accountings keep in step.** -/
theorem Represents.step (h : Represents f s t) {b : PerCpuAction n κ N} {es : List (κ × ν)}
    (hstep : s.step maxEntries (mapAction f b) = some (s', es)) :
    ∃ t' fs, t.step maxEntries b = some (t', fs) ∧ Represents f s' t' := by
  cases b with
  | start cpu k parts =>
    simp only [mapAction, PerCpuAccounting.step, h.execs cpu] at hstep ⊢
    cases hidle : t.execs cpu with
    | idle =>
      rw [hidle] at hstep
      cases hstep
      exact ⟨_, _, rfl, h.update h.map cpu (.entering k parts)⟩
    | _ =>
      rw [hidle] at hstep
      cases hstep
  | advance cpu =>
    simp only [mapAction, PerCpuAccounting.step, h.execs cpu, Option.map_eq_some_iff,
      Prod.exists] at hstep
    obtain ⟨m, e, hadvance, hs'⟩ := hstep
    cases hs'
    obtain ⟨x, y, hx, hmap, rfl⟩ := PerCpuExec.advance_represents h.map hadvance
    refine ⟨⟨x, Function.update t.execs cpu y⟩, [], ?_, h.update hmap cpu y⟩
    simp only [PerCpuAccounting.step, hx, Option.map_some]

/-- **No slot ever shrinks.** -/
theorem step_grows [PartialOrder N] [CanonicallyOrderedAdd N] {b : PerCpuAction n κ N}
    {fs : List (κ × N)} (hstep : t.step maxEntries b = some (t', fs)) {k : κ}
    {slots : Fin n → N} (hk : t.map.lookup k = some slots) :
    ∃ slots', t'.map.lookup k = some slots' ∧ slots ≤ slots' := by
  cases b with
  | start cpu j parts =>
    simp only [PerCpuAccounting.step] at hstep
    split at hstep
    · cases hstep
      exact ⟨slots, hk, le_rfl⟩
    · cases hstep
  | advance cpu =>
    simp only [PerCpuAccounting.step, Option.map_eq_some_iff, Prod.exists] at hstep
    obtain ⟨x, e, hadvance, hs'⟩ := hstep
    cases hs'
    exact PerCpuExec.advance_grows hadvance hk

end PerCpuAccounting

end Exact
