import Mathlib.Data.List.Induction
import Mathlib.Tactic.Common

set_option relaxedAutoImplicit false
set_option autoImplicit false

/-!
# Runs of event machines

An event machine executes one action at a time: an action that is enabled yields the next
state and the list of events it shows, an action that is not enabled yields nothing. A run is
a finite list of actions, each enabled in the state the previous ones lead to; its trace is
the concatenation of the events shown.

Everything nondeterministic (which thread moves, in which order a container is walked, what
the environment answers) is data of the action, so that a step is a function and a run can be
evaluated. Safety statements quantify over all lists of actions.

## Main definitions

* `EventMachine` — states, actions, events and the step function.
* `EventMachine.run` — execute a list of actions.
* `EventMachine.Meets` — every step of a run satisfies a condition on the action and the state
  it is taken in.
* `EventMachine.Throughout` — a predicate holds in every state a run passes through.
* `EventMachine.decidableMeets` — a decidable condition is decided along a run.

## Main results

* `EventMachine.run_append_iff` — a run of `as ++ bs` is a run of `as` followed by one of `bs`.
* `EventMachine.run_induction` — induction on the last action of a run.
* `EventMachine.run_invariant`, `EventMachine.run_invariant_of_meets` — what every step
  preserves, every run preserves.
* `EventMachine.throughout_iff_meets` — conditions that decide an invariant step by step.
* `EventMachine.run_simulates` — a machine that follows the steps of another one follows its runs.
-/

/-- A machine that executes one action at a time and shows events. -/
structure EventMachine (σ α ε : Type*) where
  /-- The state after an action and the events it shows; `none` if it is not enabled. -/
  step : σ → α → Option (σ × List ε)

namespace EventMachine

variable {σ α ε : Type*} (M : EventMachine σ α ε)

/-- Execute a list of actions, collecting the events shown. -/
def run : σ → List α → Option (σ × List ε)
  | s, [] => some (s, [])
  | s, a :: as => (M.step s a).bind fun p => (run p.1 as).map fun q => (q.1, p.2 ++ q.2)

@[simp] lemma run_nil (s : σ) : M.run s [] = some (s, []) := rfl

/-- A run of `a :: as` is one step followed by a run of `as`. -/
lemma run_cons_iff {s t : σ} {a : α} {as : List α} {es : List ε} :
    M.run s (a :: as) = some (t, es) ↔
      ∃ s₁ es₁ es₂, M.step s a = some (s₁, es₁) ∧ M.run s₁ as = some (t, es₂) ∧
        es = es₁ ++ es₂ := by
  simp only [run, Option.bind_eq_some_iff, Option.map_eq_some_iff, Prod.exists, Prod.mk.injEq]
  constructor
  · rintro ⟨s₁, es₁, hstep, t', es₂, hrun, rfl, rfl⟩
    exact ⟨s₁, es₁, es₂, hstep, hrun, rfl⟩
  · rintro ⟨s₁, es₁, es₂, hstep, hrun, rfl⟩
    exact ⟨s₁, es₁, hstep, t, es₂, hrun, rfl, rfl⟩

/-- A one-action run is a step. -/
@[simp] lemma run_singleton (s : σ) (a : α) : M.run s [a] = M.step s a := by
  rcases h : M.step s a with _ | ⟨t, es⟩ <;> simp [run, h]

/-- A run of `as ++ bs` is a run of `as` followed by a run of `bs`. -/
lemma run_append_iff {s t : σ} {as bs : List α} {es : List ε} :
    M.run s (as ++ bs) = some (t, es) ↔
      ∃ s₁ es₁ es₂, M.run s as = some (s₁, es₁) ∧ M.run s₁ bs = some (t, es₂) ∧
        es = es₁ ++ es₂ := by
  induction as generalizing s es with
  | nil => simp
  | cons a as ih =>
    simp only [List.cons_append, run_cons_iff, ih]
    constructor
    · rintro ⟨s₁, e₁, _, hstep, ⟨s₂, e₂, e₃, has, hbs, rfl⟩, rfl⟩
      exact ⟨s₂, e₁ ++ e₂, e₃, ⟨s₁, e₁, e₂, hstep, has, rfl⟩, hbs, by simp⟩
    · rintro ⟨s₂, _, e₃, ⟨s₁, e₁, e₂, hstep, has, rfl⟩, hbs, rfl⟩
      exact ⟨s₁, e₁, e₂ ++ e₃, hstep, ⟨s₂, e₂, e₃, has, hbs, rfl⟩, by simp⟩

/-- Runs compose. -/
lemma run_append {s t u : σ} {as bs : List α} {es fs : List ε}
    (has : M.run s as = some (t, es)) (hbs : M.run t bs = some (u, fs)) :
    M.run s (as ++ bs) = some (u, es ++ fs) :=
  M.run_append_iff.mpr ⟨t, es, fs, has, hbs, rfl⟩

/-- Prepending a step to a run. -/
lemma run_cons {s t u : σ} {a : α} {as : List α} {es fs : List ε}
    (ha : M.step s a = some (t, es)) (has : M.run t as = some (u, fs)) :
    M.run s (a :: as) = some (u, es ++ fs) :=
  M.run_cons_iff.mpr ⟨t, es, fs, ha, has, rfl⟩

/-- If every action is enabled in every state, every list of actions is a run. -/
lemma exists_run (htotal : ∀ s a, ∃ p, M.step s a = some p) (s : σ) (as : List α) :
    ∃ p, M.run s as = some p := by
  induction as generalizing s with
  | nil => exact ⟨(s, []), rfl⟩
  | cons a as ih =>
    obtain ⟨p, ha⟩ := htotal s a
    obtain ⟨q, has⟩ := ih p.1
    exact ⟨_, M.run_cons ha has⟩

/-- **Induction on the last action of a run.** What holds of the empty run and survives one more
step, in the company of the actions executed and the events shown, holds of every run. -/
theorem run_induction {P : List α → σ → List ε → Prop} {s : σ} (h0 : P [] s [])
    (hstep : ∀ as t es a u fs, M.run s as = some (t, es) → P as t es →
      M.step t a = some (u, fs) → P (as ++ [a]) u (es ++ fs))
    {as : List α} {t : σ} {es : List ε} (hrun : M.run s as = some (t, es)) : P as t es := by
  induction as using List.reverseRecOn generalizing t es with
  | nil =>
    obtain ⟨rfl, rfl⟩ : s = t ∧ [] = es := by simpa using hrun
    exact h0
  | append_singleton as a ih =>
    obtain ⟨s₁, e₁, e₂, has, ha, rfl⟩ := M.run_append_iff.mp hrun
    rw [run_singleton] at ha
    exact hstep as s₁ e₁ a t e₂ has (ih has) ha

/-- Every step of the run of `as` from `s` satisfies `C`, a condition on the action and on the
state it is taken in. -/
def Meets (C : σ → α → Prop) (s : σ) (as : List α) : Prop :=
  ∀ pre a post t es, as = pre ++ a :: post → M.run s pre = some (t, es) → C t a

/-- `P` holds in every state that the run of `as` from `s` passes through, both ends included. -/
def Throughout (P : σ → Prop) (s : σ) (as : List α) : Prop :=
  ∀ pre post t es, as = pre ++ post → M.run s pre = some (t, es) → P t

variable {M}

lemma Meets.of_append {C : σ → α → Prop} {s : σ} {as bs : List α} (h : M.Meets C s (as ++ bs)) :
    M.Meets C s as := by
  rintro pre a post t es rfl hrun
  exact h pre a (post ++ bs) t es (by simp) hrun

lemma Meets.last {C : σ → α → Prop} {s t : σ} {as : List α} {a : α} {es : List ε}
    (h : M.Meets C s (as ++ [a])) (hrun : M.run s as = some (t, es)) : C t a :=
  h as a [] t es rfl hrun

lemma meets_nil (C : σ → α → Prop) (s : σ) : M.Meets C s [] := by
  rintro pre a post t es hsplit
  simp at hsplit

/-- The steps of `a :: as` meet `C` when the first one does and the later ones do. -/
lemma meets_cons {C : σ → α → Prop} {s : σ} {a : α} {as : List α} (ha : C s a)
    (has : ∀ t es, M.step s a = some (t, es) → M.Meets C t as) : M.Meets C s (a :: as) := by
  rintro (_ | ⟨b, pre⟩) a' post t es hsplit hrun
  · obtain ⟨rfl, rfl⟩ : s = t ∧ [] = es := by simpa using hrun
    obtain ⟨rfl, -⟩ : a = a' ∧ as = post := by simpa using hsplit
    exact ha
  · obtain ⟨rfl, rfl⟩ : a = b ∧ as = pre ++ a' :: post := by simpa using hsplit
    obtain ⟨s₁, es₁, es₂, hstep, hpre, -⟩ := M.run_cons_iff.mp hrun
    exact has s₁ es₁ hstep pre a' post t es₂ rfl hpre

/-- After a first step, the others are the steps from the state it leads to. -/
lemma meets_cons_iff {C : σ → α → Prop} {s t : σ} {a : α} {as : List α} {es : List ε}
    (ha : M.step s a = some (t, es)) : M.Meets C s (a :: as) ↔ C s a ∧ M.Meets C t as := by
  refine ⟨fun h => ⟨h [] a as s [] rfl rfl, ?_⟩, fun ⟨hC, has⟩ => meets_cons hC fun u fs hu => ?_⟩
  · rintro pre b post u fs rfl hpre
    exact h (a :: pre) b post u (es ++ fs) rfl (M.run_cons ha hpre)
  · rw [ha] at hu
    cases hu
    exact has

/-- Nothing follows a first action that is not enabled. -/
lemma meets_cons_iff_of_eq_none {C : σ → α → Prop} {s : σ} {a : α} {as : List α}
    (ha : M.step s a = none) : M.Meets C s (a :: as) ↔ C s a := by
  refine ⟨fun h => h [] a as s [] rfl rfl, fun hC => meets_cons hC fun t es ht => ?_⟩
  rw [ha] at ht
  cases ht

/-- A decidable condition can be checked along a run. -/
instance decidableMeets (C : σ → α → Prop) [∀ s a, Decidable (C s a)] :
    ∀ (s : σ) (as : List α), Decidable (M.Meets C s as)
  | s, [] => isTrue (meets_nil C s)
  | s, a :: as =>
    match ha : M.step s a with
    | none => decidable_of_iff (C s a) (meets_cons_iff_of_eq_none ha).symm
    | some (t, _) =>
      have := decidableMeets C t as
      decidable_of_iff (C s a ∧ M.Meets C t as) (meets_cons_iff ha).symm

/-- The steps of `as ++ [a]` meet `C` when those of `as` do and the last one does. -/
lemma meets_concat_iff {C : σ → α → Prop} {s t : σ} {as : List α} {a : α} {es : List ε}
    (hrun : M.run s as = some (t, es)) : M.Meets C s (as ++ [a]) ↔ M.Meets C s as ∧ C t a := by
  refine ⟨fun h => ⟨h.of_append, h.last hrun⟩, fun ⟨has, ha⟩ => ?_⟩
  rintro pre b post u fs hsplit hpre
  rcases List.eq_nil_or_concat post with rfl | ⟨post, c, rfl⟩
  · obtain ⟨rfl, hab⟩ := List.append_inj' hsplit rfl
    rw [hrun] at hpre
    cases hpre
    exact List.singleton_inj.mp hab ▸ ha
  · rw [List.concat_eq_append, ← List.cons_append, ← List.append_assoc] at hsplit
    obtain ⟨rfl, -⟩ := List.append_inj' hsplit rfl
    exact has pre b post u fs rfl hpre

/-- The steps of `as ++ bs` meet `C` when those of `as` do and, after them, those of `bs`. -/
lemma meets_append {C : σ → α → Prop} {s : σ} {as bs : List α} (has : M.Meets C s as)
    (hbs : ∀ t es, M.run s as = some (t, es) → M.Meets C t bs) : M.Meets C s (as ++ bs) := by
  induction as generalizing s with
  | nil => exact hbs s [] rfl
  | cons a as ih =>
    refine meets_cons (has [] a as s [] rfl rfl) fun t es hstep => ih ?_ ?_
    · rintro pre b post u fs rfl hrun
      exact has (a :: pre) b post u (es ++ fs) rfl (M.run_cons hstep hrun)
    · exact fun u fs hrun => hbs u (es ++ fs) (M.run_cons hstep hrun)

/-- A condition that the actions meet in every state. -/
lemma meets_of_forall {C : σ → α → Prop} {s : σ} {as : List α} (h : ∀ a ∈ as, ∀ t, C t a) :
    M.Meets C s as := by
  rintro pre a post t es rfl -
  exact h a (List.mem_append_right pre List.mem_cons_self) t

lemma Throughout.of_append {P : σ → Prop} {s : σ} {as bs : List α}
    (h : M.Throughout P s (as ++ bs)) : M.Throughout P s as := by
  rintro pre post t es rfl hrun
  exact h pre (post ++ bs) t es (by simp) hrun

lemma Throughout.start {P : σ → Prop} {s : σ} {as : List α} (h : M.Throughout P s as) : P s :=
  h [] as s [] rfl rfl

lemma Throughout.last {P : σ → Prop} {s t : σ} {as : List α} {es : List ε}
    (h : M.Throughout P s as) (hrun : M.run s as = some (t, es)) : P t :=
  h as [] t es (by simp) hrun

/-- A predicate holds throughout a run when it holds at the start of each step and at the end. -/
lemma throughout_iff {P : σ → Prop} {s t : σ} {as : List α} {es : List ε}
    (hrun : M.run s as = some (t, es)) :
    M.Throughout P s as ↔ M.Meets (fun u _ => P u) s as ∧ P t := by
  constructor
  · refine fun h => ⟨?_, h.last hrun⟩
    rintro pre a post u fs rfl hpre
    exact h pre (a :: post) u fs rfl hpre
  · rintro ⟨hmeets, hend⟩ pre (_ | ⟨a, post⟩) u fs rfl hpre
    · rw [List.append_nil, hpre] at hrun
      cases hrun
      exact hend
    · exact hmeets pre a post u fs rfl hpre

lemma throughout_singleton {P : σ → Prop} {s t : σ} {a : α} {es : List ε}
    (ha : M.step s a = some (t, es)) (hs : P s) (ht : P t) : M.Throughout P s [a] := by
  intro pre post u fs hsplit hpre
  rcases pre with _ | ⟨b, pre⟩
  · cases hpre
    exact hs
  · obtain ⟨rfl, rfl⟩ : a = b ∧ pre = [] := by
      simp only [List.cons_append, List.cons.injEq] at hsplit
      exact ⟨hsplit.1, (List.append_eq_nil_iff.mp hsplit.2.symm).1⟩
    rw [run_singleton, ha] at hpre
    cases hpre
    exact ht

variable (M)

/-- **Invariants of conditioned runs.** If every step whose action and state meet `C` preserves
`I`, then a run all of whose steps meet `C` preserves `I`. -/
theorem run_invariant_of_meets {I : σ → Prop} {C : σ → α → Prop}
    (hstep : ∀ s a t es, C s a → I s → M.step s a = some (t, es) → I t)
    {s t : σ} {as : List α} {es : List ε} (hs : I s) (hC : M.Meets C s as)
    (hrun : M.run s as = some (t, es)) : I t := by
  refine M.run_induction (P := fun as t _ => M.Meets C s as → I t) (fun _ => hs) ?_ hrun hC
  intro as t es a u fs has ih ha hC
  exact hstep t a u fs (hC.last has) (ih hC.of_append) ha

/-- **Invariants of runs.** If every step by an action of `A` preserves `I`, then so does every
run of actions of `A`. -/
theorem run_invariant {I : σ → Prop} {A : α → Prop}
    (hstep : ∀ s a t es, A a → I s → M.step s a = some (t, es) → I t)
    {s t : σ} {as : List α} {es : List ε} (hs : I s) (hA : ∀ a ∈ as, A a)
    (hrun : M.run s as = some (t, es)) : I t :=
  M.run_invariant_of_meets (C := fun _ a => A a) hstep hs
    (fun pre a post _ _ has _ => hA a (by simp [has])) hrun

/-- **Conditions that decide an invariant.** If in runs from `s` the condition `C` on a step from a
state of `P` decides whether the step leads to a state of `P`, then `P` holds throughout a run
exactly when all its steps meet `C`. -/
theorem throughout_iff_meets {P : σ → Prop} {C : σ → α → Prop} {s : σ} (h0 : P s)
    (htotal : ∀ t a, ∃ p, M.step t a = some p)
    (hstep : ∀ as t es a u fs, M.run s as = some (t, es) → P t → M.step t a = some (u, fs) →
      (P u ↔ C t a)) (as : List α) : M.Throughout P s as ↔ M.Meets C s as := by
  constructor
  · rintro hP pre a post t es rfl hrun
    obtain ⟨⟨u, fs⟩, ha⟩ := htotal t a
    have hsplit : pre ++ a :: post = (pre ++ [a]) ++ post := by simp
    have hu := hP (pre ++ [a]) post u (es ++ fs) hsplit
      (M.run_append hrun ((M.run_singleton t a).trans ha))
    exact (hstep pre t es a u fs hrun (hP pre (a :: post) t es rfl hrun) ha).mp hu
  · rintro hC pre post t es rfl hrun
    refine M.run_induction (P := fun as t _ => M.Meets C s as → P t) (fun _ => h0) ?_ hrun
      hC.of_append
    intro as t es a u fs has ih ha hC
    exact (hstep as t es a u fs has (ih hC.of_append) ha).mpr (hC.last has)

/-- **Lockstep simulation.** If a machine can follow every step of another one from related states,
showing the same events, then it can follow every run. -/
theorem run_simulates {τ : Type*} {N : EventMachine τ α ε} {R : σ → τ → Prop}
    (hstep : ∀ s t a t' es, R s t → N.step t a = some (t', es) →
      ∃ s', M.step s a = some (s', es) ∧ R s' t')
    {s : σ} {t t' : τ} {as : List α} {es : List ε} (hR : R s t)
    (hrun : N.run t as = some (t', es)) : ∃ s', M.run s as = some (s', es) ∧ R s' t' := by
  refine N.run_induction (P := fun as t' es => ∃ s', M.run s as = some (s', es) ∧ R s' t')
    ⟨s, rfl, hR⟩ ?_ hrun
  rintro as u es a u' fs - ⟨s₁, hs₁, hu⟩ ha
  obtain ⟨s₂, hs₂, hu'⟩ := hstep s₁ u a u' fs hu ha
  exact ⟨s₂, M.run_append hs₁ ((M.run_singleton s₁ a).trans hs₂), hu'⟩

end EventMachine
