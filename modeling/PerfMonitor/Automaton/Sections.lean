import Mathlib.Logic.Function.Basic
import PerfMonitor.Automaton.Run

set_option relaxedAutoImplicit false
set_option autoImplicit false

/-!
# Critical sections

Threads share a mutex. Each thread is in some phase of its code, and some phases are inside the
critical section. What a thread finds out inside the section can be dated: it was true in a state
that the run passed through since the thread's call began.

## Main definitions

* `Mutex` — who holds the mutex and where the threads are.
* `Mutex.Exclusive` — a thread is inside exactly when it holds the mutex.
* `EventMachine.HeldSince` — a predicate held in some state of a run since the last action of a
  kind.

## Main results

* `Mutex.Exclusive.acquire`, `Mutex.Exclusive.release`, `Mutex.Exclusive.moveTo` — the steps of the
  threads keep the section exclusive.
* `EventMachine.HeldSince.concat` — what held since a call began is not forgotten.
-/

/-- Who holds the mutex, and the phase each thread is in. -/
structure Mutex (θ π : Type*) where
  owner : Option θ
  phase : θ → π

namespace Mutex

variable {θ π : Type*}

/-- A thread is inside the section exactly when it holds the mutex. -/
def Exclusive (inside : π → Prop) (m : Mutex θ π) : Prop :=
  ∀ t, inside (m.phase t) ↔ m.owner = some t

/-- At most one thread is inside. -/
lemma Exclusive.eq {inside : π → Prop} {m : Mutex θ π} {t u : θ} (h : m.Exclusive inside)
    (ht : inside (m.phase t))
    (hu : inside (m.phase u)) : t = u := by
  have htu := ((h t).mp ht).symm.trans ((h u).mp hu)
  exact Option.some.inj htu

variable [DecidableEq θ]

/-- A thread moves to a phase. -/
def moveTo (m : Mutex θ π) (t : θ) (p : π) : Mutex θ π :=
  { m with phase := Function.update m.phase t p }

/-- A thread takes the mutex. -/
def acquire (m : Mutex θ π) (t : θ) (p : π) : Mutex θ π :=
  ⟨some t, Function.update m.phase t p⟩

/-- A thread gives the mutex back. -/
def release (m : Mutex θ π) (t : θ) (p : π) : Mutex θ π :=
  ⟨none, Function.update m.phase t p⟩

variable (m : Mutex θ π) (t : θ) (p : π)

@[simp] lemma owner_moveTo : (m.moveTo t p).owner = m.owner := rfl

@[simp] lemma owner_acquire : (m.acquire t p).owner = some t := rfl

@[simp] lemma owner_release : (m.release t p).owner = none := rfl

lemma phase_moveTo : (m.moveTo t p).phase = Function.update m.phase t p := rfl

lemma phase_acquire : (m.acquire t p).phase = Function.update m.phase t p := rfl

lemma phase_release : (m.release t p).phase = Function.update m.phase t p := rfl

variable {inside : π → Prop} {m t p}

/-- A thread that neither enters nor leaves. -/
lemma Exclusive.moveTo (h : m.Exclusive inside) (hp : inside p ↔ inside (m.phase t)) :
    (m.moveTo t p).Exclusive inside := by
  intro u
  rw [phase_moveTo, owner_moveTo]
  by_cases hu : u = t
  · subst hu
    rw [Function.update_self, hp]
    exact h u
  · rw [Function.update_of_ne hu]
    exact h u

/-- A thread that enters while the mutex is free. -/
lemma Exclusive.acquire (h : m.Exclusive inside) (hfree : m.owner = none) (hp : inside p) :
    (m.acquire t p).Exclusive inside := by
  intro u
  rw [phase_acquire, owner_acquire]
  by_cases hu : u = t
  · subst hu
    simp [hp]
  · have hout : ¬ inside (m.phase u) := by simp [h u, hfree]
    simp [Function.update_of_ne hu, hout, Ne.symm hu]

/-- A thread that leaves. -/
lemma Exclusive.release (h : m.Exclusive inside) (ht : inside (m.phase t)) (hp : ¬ inside p) :
    (m.release t p).Exclusive inside := by
  intro u
  rw [phase_release, owner_release]
  by_cases hu : u = t
  · subst hu
    simp [hp]
  · have hout : ¬ inside (m.phase u) := fun hin => hu (h.eq hin ht)
    simp [Function.update_of_ne hu, hout]

end Mutex

namespace EventMachine

variable {σ α ε : Type*} (M : EventMachine σ α ε)

/-- `Q` held in some state that the run of `as` from `s` passed through, no action behind that
state being one of `start`. -/
def HeldSince (start : α → Prop) (Q : σ → Prop) (s : σ) (as : List α) : Prop :=
  ∃ pre post t es, as = pre ++ post ∧ M.run s pre = some (t, es) ∧ Q t ∧ ∀ a ∈ post, ¬ start a

variable {M} {start : α → Prop} {Q R : σ → Prop} {s : σ} {as : List α}

/-- What holds at the end of a run. -/
lemma HeldSince.now {t : σ} {es : List ε} (hrun : M.run s as = some (t, es)) (hQ : Q t) :
    M.HeldSince start Q s as :=
  ⟨as, [], t, es, (List.append_nil as).symm, hrun, hQ, fun _ ha => absurd ha List.not_mem_nil⟩

/-- What held is not forgotten by an action that is not of the kind. -/
lemma HeldSince.concat {a : α} (h : M.HeldSince start Q s as) (ha : ¬ start a) :
    M.HeldSince start Q s (as ++ [a]) := by
  obtain ⟨pre, post, t, es, rfl, hrun, hQ, hpost⟩ := h
  refine ⟨pre, post ++ [a], t, es, List.append_assoc .., hrun, hQ, ?_⟩
  intro b hb
  rcases List.mem_append.mp hb with hb | hb
  · exact hpost b hb
  · rw [List.mem_singleton.mp hb]
    exact ha

lemma HeldSince.mono (h : M.HeldSince start Q s as) (hQR : ∀ t, Q t → R t) :
    M.HeldSince start R s as := by
  obtain ⟨pre, post, t, es, has, hrun, hQ, hpost⟩ := h
  exact ⟨pre, post, t, es, has, hrun, hQR t hQ, hpost⟩

end EventMachine
