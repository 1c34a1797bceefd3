import Mathlib.Tactic.Common

set_option relaxedAutoImplicit false
set_option autoImplicit false

/-!
# Transactions on one connection

A session of a transactional store: what is committed, and what the open transaction has made of
it. Every call may fail; the outcome of the `n`th call of an attempt is a function of `n`.

## Main definitions

* `Session` — the store as one connection sees it.
* `Session.transact` — begin, run statements until one fails, commit or roll back.

## Main results

* `Session.transact_eq_true_iff` — the attempt succeeds exactly when all its calls do.
* `Session.transact_of_true`, `Session.transact_of_false` — all statements take effect, or none.
* `Session.Holds.transact` — what every statement keeps, an attempt keeps, however it ends.
-/

/-- A store of type `δ` as one connection sees it. -/
structure Session (δ : Type) where
  stored : δ
  /-- The content as the open transaction sees it; `none` if no transaction is open. -/
  working : Option δ := none

namespace Session

variable {δ : Type}

/-- A transaction begins; one that is still open is committed. -/
def begin (s : Session δ) : Session δ :=
  ⟨s.working.getD s.stored, some (s.working.getD s.stored)⟩

/-- A statement, inside the open transaction if there is one. -/
def apply (s : Session δ) (f : δ → δ) : Session δ :=
  match s.working with
  | some d => { s with working := some (f d) }
  | none => { s with stored := f s.stored }

def commit (s : Session δ) : Session δ := ⟨s.working.getD s.stored, none⟩

/-- Rolling back, and closing the connection. -/
def rollback (s : Session δ) : Session δ := ⟨s.stored, none⟩

/-- Run statements from call `n` on until one fails: whether all succeeded, and the number of the
next call. -/
def runAll (ok : ℕ → Bool) : ℕ → List (δ → δ) → Session δ → Bool × ℕ × Session δ
  | n, [], s => (true, n, s)
  | n, f :: fs, s => if ok n then runAll ok (n + 1) fs (s.apply f) else (false, n + 1, s)

/-- Begin, run the statements and commit. If a statement or the commit fails, roll back, which may
fail too. -/
def transact (ok : ℕ → Bool) (fs : List (δ → δ)) (s : Session δ) : Bool × Session δ :=
  if ok 0 then
    match runAll ok 1 fs s.begin with
    | (false, n, s) => (false, if ok n then s.rollback else s)
    | (true, n, s) =>
      if ok n then (true, s.commit) else (false, if ok (n + 1) then s.rollback else s)
  else (false, s)

variable {ok : ℕ → Bool} {fs : List (δ → δ)} {s : Session δ} {n : ℕ}

/-- Statements in an open transaction leave what is committed. -/
lemma runAll_open {d : δ} (hs : s.working = some d) :
    (runAll ok n fs s).2.2.stored = s.stored ∧
      ((runAll ok n fs s).1 = true ↔ ∀ i, n ≤ i → i < n + fs.length → ok i = true) ∧
      ((runAll ok n fs s).1 = true → (runAll ok n fs s).2.1 = n + fs.length ∧
        (runAll ok n fs s).2.2.working = some (fs.foldl (fun d f => f d) d)) := by
  induction fs generalizing n s d with
  | nil =>
    refine ⟨rfl, ⟨fun _ i hn hi => ?_, fun _ => rfl⟩, fun _ => ⟨rfl, hs⟩⟩
    exact absurd hi (by simpa using hn)
  | cons f fs ih =>
    by_cases hn : ok n = true
    · have hone : (s.apply f).working = some (f d) := by rw [apply, hs]
      have hkeep : (s.apply f).stored = s.stored := by rw [apply, hs]
      obtain ⟨hstored, htrue, hend⟩ := @ih (s.apply f) (n + 1) (f d) hone
      simp only [runAll, hn, ↓reduceIte, List.length_cons, List.foldl_cons]
      refine ⟨hstored.trans hkeep, htrue.trans ⟨fun h i hle hlt => ?_, fun h i hle hlt => ?_⟩,
        fun h => ⟨(hend h).1.trans (by omega), (hend h).2⟩⟩
      · rcases Nat.eq_or_lt_of_le hle with rfl | hlt'
        · exact hn
        · exact h i hlt' (by omega)
      · exact h i (by omega) (by omega)
    · simp only [runAll, hn, Bool.false_eq_true, ↓reduceIte, List.length_cons, false_iff,
        false_implies, and_true, true_and, not_forall]
      exact ⟨n, Nat.le_refl n, by omega, hn⟩

/-- **An attempt succeeds exactly when all its calls do.** -/
theorem transact_eq_true_iff :
    (transact ok fs s).1 = true ↔ ∀ i < fs.length + 2, ok i = true := by
  obtain ⟨-, htrue, hend⟩ := @runAll_open δ ok fs s.begin 1 (s.working.getD s.stored) rfl
  unfold transact
  by_cases h0 : ok 0 = true
  · rw [if_pos h0]
    rcases hrun : runAll ok 1 fs s.begin with ⟨_ | _, n, s'⟩
    · rw [hrun] at htrue
      simp only [Bool.false_eq_true, false_iff] at htrue ⊢
      exact fun h => htrue fun i _ hi => h i (by omega)
    · rw [hrun] at htrue hend
      obtain ⟨rfl, -⟩ := hend rfl
      have hall := htrue.mp rfl
      dsimp only
      constructor
      · intro h i hi
        have hlast : ok (1 + fs.length) = true := by
          by_contra hlast
          rw [if_neg hlast] at h
          exact Bool.false_ne_true h
        rcases Nat.eq_zero_or_pos i with rfl | hpos
        · exact h0
        · rcases Nat.lt_or_ge i (1 + fs.length) with hlt | hge
          · exact hall i hpos hlt
          · rwa [show i = 1 + fs.length by omega]
      · intro h
        rw [if_pos (h _ (by omega))]
  · rw [if_neg h0]
    simp only [Bool.false_eq_true, false_iff]
    exact fun h => h0 (h 0 (by omega))

/-- After a successful attempt all statements have taken effect on what is stored when the
transaction begins, and no transaction is open. -/
theorem transact_of_true (h : (transact ok fs s).1 = true) :
    (transact ok fs s).2 = ⟨fs.foldl (fun d f => f d) s.begin.stored, none⟩ := by
  have hall := transact_eq_true_iff.mp h
  obtain ⟨-, htrue, hend⟩ := @runAll_open δ ok fs s.begin 1 s.begin.stored rfl
  have hrun := htrue.mpr fun i _ hi => hall i (by omega)
  obtain ⟨hn, hwork⟩ := hend hrun
  unfold transact
  rw [if_pos (hall 0 (by omega))]
  rcases hcases : runAll ok 1 fs s.begin with ⟨b, n, s'⟩
  rw [hcases] at hrun hn hwork
  dsimp only at hrun hn hwork
  subst hrun
  dsimp only
  rw [hn, if_pos (hall _ (by omega)), commit, hwork]
  rfl

/-- A session without an open transaction stores the same after a transaction begins. -/
lemma stored_begin (hs : s.working = none) : s.begin.stored = s.stored := by
  rw [begin, hs]
  rfl

/-- After a failed attempt what is committed is as before. -/
theorem transact_of_false (hs : s.working = none) (h : (transact ok fs s).1 = false) :
    (transact ok fs s).2.stored = s.stored := by
  obtain ⟨hstored, -, -⟩ := @runAll_open δ ok fs s.begin 1 (s.working.getD s.stored) rfl
  have hbegin : s.begin.stored = s.stored := stored_begin hs
  unfold transact at h ⊢
  by_cases h0 : ok 0 = true
  · rw [if_pos h0] at h ⊢
    rcases hrun : runAll ok 1 fs s.begin with ⟨_ | _, n, s'⟩
    · rw [hrun] at hstored
      dsimp only at hstored ⊢
      split_ifs
      · exact hstored.trans hbegin
      · exact hstored.trans hbegin
    · rw [hrun] at hstored h
      dsimp only at hstored h ⊢
      split_ifs at h ⊢
      · exact hstored.trans hbegin
      · exact hstored.trans hbegin
  · rw [if_neg h0]

/-! ## What statements keep -/

/-- A property of what is committed and of what the open transaction sees. -/
def Holds (P : δ → Prop) (s : Session δ) : Prop := P s.stored ∧ ∀ d, s.working = some d → P d

variable {P : δ → Prop}

lemma Holds.getD (hs : s.Holds P) : P (s.working.getD s.stored) := by
  cases hw : s.working with
  | none => exact hs.1
  | some d => exact hs.2 d hw

lemma Holds.begin (hs : s.Holds P) : s.begin.Holds P :=
  ⟨hs.getD, fun _ hd => Option.some.inj hd ▸ hs.getD⟩

lemma Holds.commit (hs : s.Holds P) : s.commit.Holds P :=
  ⟨hs.getD, fun _ hd => nomatch hd⟩

lemma Holds.rollback (hs : s.Holds P) : s.rollback.Holds P :=
  ⟨hs.1, fun _ hd => nomatch hd⟩

lemma Holds.apply {f : δ → δ} (hf : ∀ d, P d → P (f d)) (hs : s.Holds P) :
    (s.apply f).Holds P := by
  unfold Session.apply
  cases hw : s.working with
  | none => exact ⟨hf _ hs.1, fun d hd => hs.2 d (hw ▸ hd)⟩
  | some d => exact ⟨hs.1, fun _ hd => Option.some.inj hd ▸ hf d (hs.2 d hw)⟩

lemma Holds.runAll (hfs : ∀ f ∈ fs, ∀ d, P d → P (f d)) (hs : s.Holds P) :
    (runAll ok n fs s).2.2.Holds P := by
  induction fs generalizing n s with
  | nil => exact hs
  | cons f fs ih =>
    unfold Session.runAll
    split_ifs
    · refine ih (fun g hg => hfs g (List.mem_cons_of_mem f hg)) ?_
      exact hs.apply (hfs f List.mem_cons_self)
    · exact hs

/-- **What every statement keeps, an attempt keeps**, however it ends. -/
theorem Holds.transact (hfs : ∀ f ∈ fs, ∀ d, P d → P (f d)) (hs : s.Holds P) :
    (transact ok fs s).2.Holds P := by
  have hrun : (Session.runAll ok 1 fs s.begin).2.2.Holds P := hs.begin.runAll hfs
  unfold Session.transact
  split_ifs
  · rcases hcases : Session.runAll ok 1 fs s.begin with ⟨_ | _, n, s'⟩
    · rw [hcases] at hrun
      dsimp only
      split_ifs
      · exact hrun.rollback
      · exact hrun
    · rw [hcases] at hrun
      dsimp only
      split_ifs
      · exact hrun.commit
      · exact hrun.rollback
      · exact hrun
  · exact hs

end Session
