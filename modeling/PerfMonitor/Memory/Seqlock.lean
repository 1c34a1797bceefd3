import Mathlib.Data.Nat.Basic
import PerfMonitor.Automaton.Run
import PerfMonitor.Memory.Stores

set_option relaxedAutoImplicit false
set_option autoImplicit false

/-!
# Sequence locks

One writer and one reader share a region of words and a sequence word. The writer repeats: read
the sequence word `q`, store `q + 1`, store the words of the update one by one, store `q + 2`.
The reader makes a bounded number of attempts: read the sequence word, give the attempt up if it
is odd, copy the sequence word and every word of the region in any order, read the sequence word
again, give the attempt up if it changed or is odd or differs from the copied one; otherwise the
copy is handed to a validity check that decides the result of the call.

Every load and every store is one action, and a run interleaves the actions of the two parties
in any order. The sequence word wraps around at an even modulus `2 * half`. An attempt that fewer
than `half` updates overtake returns a copy of the region as it stood between two updates.

## Main definitions

* `Region` — the shared words.
* `Seqlock` — the update's stores, the copied words, the validity check and the modulus.
* `Seqlock.step`, `Seqlock.machine` — the two parties, one memory access at a time.
* `Seqlock.State.updates` — the updates that ended since the running attempt began.
* `Seqlock.Settled` — the words of a region on which no update is under way.

## Main results

* `Seqlock.invariant_step` — what every memory access preserves.
* `Seqlock.settled_of_returned` — an accepted copy is settled.
-/

/-! ## The two parties -/

/-- The shared memory: the sequence word and the words it guards. -/
structure Region (α β : Type*) where
  seq : ℕ
  words : α → β

/-- A sequence lock: `body` lists the stores of an update, `layout` the words the reader copies,
`accept` is the validity check on a copy, and the sequence word counts modulo `2 * half`. -/
structure Seqlock (α β δ ρ : Type*) where
  half : ℕ
  retries : ℕ
  layout : List α
  body : δ → List (α × β)
  accept : (α → β) → Option ρ
  mem_layout : ∀ a, a ∈ layout

namespace Seqlock

/-- Where the writer stands in an update. -/
inductive Writer (α β δ : Type*)
  /-- Between two updates. -/
  | idle
  /-- The sequence word was read, nothing is stored yet. -/
  | loaded (d : δ) (seqBefore : ℕ)
  /-- The odd number is stored, and so are all words of the body but `rest`. -/
  | storing (d : δ) (seqBefore : ℕ) (rest : List (α × β))

/-- The odd number of the current update is in the sequence word. -/
def Writer.isStoring {α β δ : Type*} : Writer α β δ → Bool
  | .storing _ _ _ => true
  | _ => false

/-- The local variables of one attempt of the reader. `since` counts the updates that had ended
when the attempt read the sequence word; no check looks at it. -/
structure Attempt (α β : Type*) where
  seqBefore : ℕ
  snapshotSeq : Option ℕ
  snapshot : α → β
  pending : List α
  since : ℕ

/-- Where the reader stands. -/
inductive Reader (α β : Type*)
  /-- No call is under way. -/
  | idle
  /-- The attempt with this index is about to read the sequence word. -/
  | trying (attempt : ℕ)
  /-- The attempt is copying. -/
  | copying (attempt : ℕ) (t : Attempt α β)

/-- Memory, the two parties, and the updates that have ended, newest first. -/
structure State (α β δ : Type*) where
  region : Region α β
  writer : Writer α β δ
  reader : Reader α β
  history : List δ

/-- The memory accesses of the writer (the first four) and of the reader. -/
inductive Action (α β δ : Type*)
  /-- Read the sequence word at the start of an update; `d` is what the update will store, which
  does not depend on the region. -/
  | begin (d : δ)
  /-- Store the odd number. -/
  | markOdd
  /-- Store the next word of the body. -/
  | storeWord
  /-- Store the next even number. -/
  | markEven
  /-- Start a call. -/
  | call
  /-- Read the sequence word at the start of an attempt; `stack` is what the local copy holds
  before it is written. -/
  | loadBefore (stack : α → β)
  /-- Copy the sequence word. -/
  | loadSeq
  /-- Copy one word. -/
  | loadWord (a : α)
  /-- Read the sequence word again and decide. -/
  | loadAfter

/-- What a call of the reader returns: the accepted copy and what the check made of it. -/
inductive Event (α β ρ : Type*)
  | returned (result : Option ((α → β) × ρ))

variable {α β δ ρ : Type*} [DecidableEq α] (L : Seqlock α β δ ρ)

/-- The number at which the sequence word wraps around. -/
def modulus : ℕ := 2 * L.half

/-- A failed attempt: the next one, or the end of the call. -/
def retry (s : State α β δ) (attempt : ℕ) : State α β δ × List (Event α β ρ) :=
  if attempt + 1 < L.retries then ({ s with reader := .trying (attempt + 1) }, [])
  else ({ s with reader := .idle }, [.returned none])

/-- The checks after the second read of the sequence word. -/
def conclude (s : State α β δ) (attempt : ℕ) (t : Attempt α β) (snapshotSeq : ℕ) :
    State α β δ × List (Event α β ρ) :=
  if t.seqBefore ≠ s.region.seq ∨ s.region.seq % 2 ≠ 0 then L.retry s attempt
  else if snapshotSeq ≠ t.seqBefore then L.retry s attempt
  else ({ s with reader := .idle },
    [.returned ((L.accept t.snapshot).map fun r => (t.snapshot, r))])

/-- One memory access. -/
def step (s : State α β δ) : Action α β δ → Option (State α β δ × List (Event α β ρ))
  | .begin d =>
    match s.writer with
    | .idle => some ({ s with writer := .loaded d s.region.seq }, [])
    | _ => none
  | .markOdd =>
    match s.writer with
    | .loaded d q =>
      some ({ s with
        region := { s.region with seq := (q + 1) % L.modulus }
        writer := .storing d q (L.body d) }, [])
    | _ => none
  | .storeWord =>
    match s.writer with
    | .storing d q (p :: rest) =>
      some ({ s with
        region := { s.region with words := Function.update s.region.words p.1 p.2 }
        writer := .storing d q rest }, [])
    | _ => none
  | .markEven =>
    match s.writer with
    | .storing d q [] =>
      some ({ s with
        region := { s.region with seq := (q + 2) % L.modulus }
        writer := .idle
        history := d :: s.history }, [])
    | _ => none
  | .call =>
    match s.reader with
    | .idle =>
      if 0 < L.retries then some ({ s with reader := .trying 0 }, [])
      else some (s, [.returned none])
    | _ => none
  | .loadBefore stack =>
    match s.reader with
    | .trying n =>
      if s.region.seq % 2 ≠ 0 then some (L.retry s n)
      else some ({ s with
        reader := .copying n
          { seqBefore := s.region.seq, snapshotSeq := none, snapshot := stack
            pending := L.layout, since := s.history.length } }, [])
    | _ => none
  | .loadSeq =>
    match s.reader with
    | .copying n t =>
      if t.snapshotSeq = none then
        some ({ s with reader := .copying n { t with snapshotSeq := some s.region.seq } }, [])
      else none
    | _ => none
  | .loadWord a =>
    match s.reader with
    | .copying n t =>
      if a ∈ t.pending then
        some ({ s with
          reader := .copying n
            { t with
              snapshot := Function.update t.snapshot a (s.region.words a)
              pending := t.pending.erase a } }, [])
      else none
    | _ => none
  | .loadAfter =>
    match s.reader with
    | .copying n t =>
      match t.pending, t.snapshotSeq with
      | [], some q => some (L.conclude s n t q)
      | _, _ => none
    | _ => none

/-- The two parties as an event machine. -/
def machine : EventMachine (State α β δ) (Action α β δ) (Event α β ρ) := ⟨L.step⟩

/-- Memory holding `init`, no update and no call yet. -/
def start (init : α → β) : State α β δ :=
  { region := ⟨0, init⟩, writer := .idle, reader := .idle, history := [] }

/-- The number of updates that ended since the running attempt read the sequence word. -/
def State.updates (s : State α β δ) : ℕ :=
  match s.reader with
  | .copying _ t => s.history.length - t.since
  | _ => 0

/-! ## What an access does -/

/-- The accesses that are possible in a state, with the state after each and what it returns. -/
inductive Step (s : State α β δ) : Action α β δ → State α β δ → List (Event α β ρ) → Prop
  | begin {d : δ} (hw : s.writer = .idle) :
    Step s (.begin d) { s with writer := .loaded d s.region.seq } []
  | markOdd {d : δ} {q : ℕ} (hw : s.writer = .loaded d q) :
    Step s .markOdd { s with
      region := { s.region with seq := (q + 1) % L.modulus }
      writer := .storing d q (L.body d) } []
  | storeWord {d : δ} {q : ℕ} {p : α × β} {rest : List (α × β)}
    (hw : s.writer = .storing d q (p :: rest)) :
    Step s .storeWord { s with
      region := { s.region with words := Function.update s.region.words p.1 p.2 }
      writer := .storing d q rest } []
  | markEven {d : δ} {q : ℕ} (hw : s.writer = .storing d q []) :
    Step s .markEven { s with
      region := { s.region with seq := (q + 2) % L.modulus }
      writer := .idle
      history := d :: s.history } []
  | call (hr : s.reader = .idle) (hretries : 0 < L.retries) :
    Step s .call { s with reader := .trying 0 } []
  | refuse (hr : s.reader = .idle) (hretries : ¬ 0 < L.retries) : Step s .call s [.returned none]
  | odd {stack : α → β} {n : ℕ} (hr : s.reader = .trying n) (hodd : s.region.seq % 2 ≠ 0) :
    Step s (.loadBefore stack) (L.retry s n).1 (L.retry s n).2
  | loadBefore {stack : α → β} {n : ℕ} (hr : s.reader = .trying n)
    (heven : s.region.seq % 2 = 0) :
    Step s (.loadBefore stack) { s with
      reader := .copying n
        { seqBefore := s.region.seq, snapshotSeq := none, snapshot := stack
          pending := L.layout, since := s.history.length } } []
  | loadSeq {n : ℕ} {c : Attempt α β} (hr : s.reader = .copying n c)
    (hseq : c.snapshotSeq = none) :
    Step s .loadSeq { s with
      reader := .copying n { c with snapshotSeq := some s.region.seq } } []
  | loadWord {a : α} {n : ℕ} {c : Attempt α β} (hr : s.reader = .copying n c)
    (ha : a ∈ c.pending) :
    Step s (.loadWord a) { s with
      reader := .copying n
        { c with
          snapshot := Function.update c.snapshot a (s.region.words a)
          pending := c.pending.erase a } } []
  | loadAfter {n : ℕ} {c : Attempt α β} {q : ℕ} (hr : s.reader = .copying n c)
    (hpending : c.pending = []) (hseq : c.snapshotSeq = some q) :
    Step s .loadAfter (L.conclude s n c q).1 (L.conclude s n c q).2

variable {L} in
/-- What the step function does is among these. -/
lemma step_cases {s t : State α β δ} {a : Action α β δ} {es : List (Event α β ρ)}
    (hstep : L.step s a = some (t, es)) : L.Step s a t es := by
  cases a with
  | begin d =>
    simp only [step] at hstep
    split at hstep <;> cases hstep
    exact .begin (by assumption)
  | markOdd =>
    simp only [step] at hstep
    split at hstep <;> cases hstep
    exact .markOdd (by assumption)
  | storeWord =>
    simp only [step] at hstep
    split at hstep <;> cases hstep
    exact .storeWord (by assumption)
  | markEven =>
    simp only [step] at hstep
    split at hstep <;> cases hstep
    exact .markEven (by assumption)
  | call =>
    simp only [step] at hstep
    split at hstep
    · split_ifs at hstep with hretries
      · cases hstep
        exact .call (by assumption) hretries
      · cases hstep
        exact .refuse (by assumption) hretries
    · cases hstep
  | loadBefore stack =>
    simp only [step] at hstep
    split at hstep
    · split_ifs at hstep with hodd
      · obtain ⟨rfl, rfl⟩ := Prod.ext_iff.mp (Option.some.inj hstep)
        exact .odd (by assumption) hodd
      · cases hstep
        exact .loadBefore (by assumption) (not_not.mp hodd)
    · cases hstep
  | loadSeq =>
    simp only [step] at hstep
    split at hstep
    · split_ifs at hstep with hseq
      cases hstep
      exact .loadSeq (by assumption) hseq
    · cases hstep
  | loadWord a =>
    simp only [step] at hstep
    split at hstep
    · split_ifs at hstep with ha
      cases hstep
      exact .loadWord (by assumption) ha
    · cases hstep
  | loadAfter =>
    simp only [step] at hstep
    split at hstep
    · split at hstep
      · obtain ⟨rfl, rfl⟩ := Prod.ext_iff.mp (Option.some.inj hstep)
        exact .loadAfter (by assumption) (by assumption) (by assumption)
      · cases hstep
    · cases hstep

/-! ## The invariant -/

/-- The words of a region on which no update is under way: the initial ones, or the result of the
last update on whatever was there before it. -/
def Settled (init : α → β) (history : List δ) (words : α → β) : Prop :=
  match history with
  | [] => words = init
  | d :: _ => ∃ base, words = write (L.body d) base

/-- What the writer's position says about its local variables and about the words. -/
def WriterInvariant (init : α → β) (s : State α β δ) : Prop :=
  match s.writer with
  | .idle => L.Settled init s.history s.region.words
  | .loaded _ q =>
    q = 2 * s.history.length % L.modulus ∧ L.Settled init s.history s.region.words
  | .storing d q rest =>
    q = 2 * s.history.length % L.modulus ∧
      ∃ stored base, stored ++ rest = L.body d ∧ s.region.words = write stored base

/-- What an attempt relies on: the sequence word it read is that of `since` ended updates, and as
long as no update has ended or is storing, what it copied is what the region holds. -/
def ReaderInvariant (s : State α β δ) : Prop :=
  match s.reader with
  | .copying _ t =>
    t.since ≤ s.history.length ∧ t.seqBefore = 2 * t.since % L.modulus ∧
      (t.since = s.history.length → s.writer.isStoring = false →
        ∀ a, a ∉ t.pending → t.snapshot a = s.region.words a)
  | _ => True

/-- The invariant of a run on a region that first held `init`. -/
structure Invariant (init : α → β) (s : State α β δ) : Prop where
  seq_eq : s.region.seq = (2 * s.history.length + s.writer.isStoring.toNat) % L.modulus
  writer : L.WriterInvariant init s
  reader : L.ReaderInvariant s

variable {L} {init : α → β} {s t : State α β δ} {es : List (Event α β ρ)}

lemma invariant_start : L.Invariant init (start init) where
  seq_eq := rfl
  writer := rfl
  reader := trivial

/-- The sequence word is even exactly when no update is storing. -/
lemma Invariant.even_iff (h : L.Invariant init s) :
    s.region.seq % 2 = 0 ↔ s.writer.isStoring = false := by
  rw [h.seq_eq, modulus, Nat.mod_mul_right_mod]
  cases s.writer.isStoring <;> simp

/-- When no update is storing, the words are settled. -/
lemma Invariant.settled (h : L.Invariant init s) (hw : s.writer.isStoring = false) :
    L.Settled init s.history s.region.words := by
  have hwriter := h.writer
  unfold WriterInvariant at hwriter
  cases hs : s.writer with
  | idle => rwa [hs] at hwriter
  | loaded d q =>
    rw [hs] at hwriter
    exact hwriter.2
  | storing d q rest =>
    rw [hs] at hw
    cases hw

/-- Steps of the reader leave memory, writer and history alone, so only the reader's part of the
invariant is at stake. -/
lemma Invariant.of_reader (h : L.Invariant init s) {r : Reader α β}
    (hr : L.ReaderInvariant { s with reader := r }) :
    L.Invariant init { s with reader := r } where
  seq_eq := h.seq_eq
  writer := h.writer
  reader := hr

lemma Invariant.retry (h : L.Invariant init s) (n : ℕ) :
    L.Invariant init (L.retry s n).1 := by
  unfold Seqlock.retry
  split_ifs
  · exact h.of_reader trivial
  · exact h.of_reader trivial

lemma Invariant.conclude (h : L.Invariant init s) (n : ℕ) (t : Attempt α β) (q : ℕ) :
    L.Invariant init (L.conclude s n t q).1 := by
  unfold Seqlock.conclude
  split_ifs
  · exact h.retry n
  · exact h.retry n
  · exact h.of_reader trivial

omit [DecidableEq α] in
/-- A step of the writer keeps the reader's part: either it ends an update, or an update is
storing after it, or it changes neither the words nor whether one is storing. -/
lemma ReaderInvariant.of_writer (h : L.ReaderInvariant s) (hreader : t.reader = s.reader)
    (hlength : s.history.length ≤ t.history.length)
    (hstable : t.history.length = s.history.length → t.writer.isStoring = false →
      s.writer.isStoring = false ∧ t.region.words = s.region.words) : L.ReaderInvariant t := by
  unfold ReaderInvariant at h ⊢
  rw [hreader]
  cases hs : s.reader with
  | idle => trivial
  | trying n => trivial
  | copying n c =>
    rw [hs] at h
    obtain ⟨hsince, hbefore, hcopy⟩ := h
    refine ⟨Nat.le_trans hsince hlength, hbefore, fun heq hidle a ha => ?_⟩
    have hlen : t.history.length = s.history.length := by omega
    obtain ⟨hs', hwords⟩ := hstable hlen hidle
    rw [hwords]
    exact hcopy (heq.trans hlen) hs' a ha

/-! ### Accesses of the writer -/

lemma Invariant.begin (h : L.Invariant init s) {d : δ} (hw : s.writer = .idle) :
    L.Invariant init { s with writer := .loaded d s.region.seq } := by
  have hidle : s.writer.isStoring = false := by rw [hw]; rfl
  have hseq : s.region.seq = 2 * s.history.length % L.modulus := by
    rw [h.seq_eq, hidle]
    rfl
  exact
    { seq_eq := hseq
      writer := ⟨hseq, h.settled hidle⟩
      reader := h.reader.of_writer rfl le_rfl fun _ _ => ⟨hidle, rfl⟩ }

lemma Invariant.markOdd (h : L.Invariant init s) {d : δ} {q : ℕ} (hw : s.writer = .loaded d q) :
    L.Invariant init { s with
      region := { s.region with seq := (q + 1) % L.modulus }
      writer := .storing d q (L.body d) } := by
  have hwriter := h.writer
  simp only [WriterInvariant, hw] at hwriter
  exact
    { seq_eq := by
        show (q + 1) % L.modulus = (2 * s.history.length + 1) % L.modulus
        rw [hwriter.1, Nat.mod_add_mod]
      writer := ⟨hwriter.1, [], s.region.words, rfl, rfl⟩
      reader := h.reader.of_writer rfl le_rfl fun _ hidle => nomatch hidle }

lemma Invariant.storeWord (h : L.Invariant init s) {d : δ} {q : ℕ} {p : α × β}
    {rest : List (α × β)} (hw : s.writer = .storing d q (p :: rest)) :
    L.Invariant init { s with
      region := { s.region with words := Function.update s.region.words p.1 p.2 }
      writer := .storing d q rest } := by
  have hwriter := h.writer
  simp only [WriterInvariant, hw] at hwriter
  obtain ⟨hq, stored, base, hbody, hwords⟩ := hwriter
  have hseq := h.seq_eq
  rw [hw] at hseq
  exact
    { seq_eq := hseq
      writer := ⟨hq, stored ++ [p], base, by simpa using hbody, by
        show Function.update s.region.words p.1 p.2 = write (stored ++ [p]) base
        rw [hwords, write_append]
        rfl⟩
      reader := h.reader.of_writer rfl le_rfl fun _ hidle => nomatch hidle }

lemma Invariant.markEven (h : L.Invariant init s) {d : δ} {q : ℕ}
    (hw : s.writer = .storing d q []) :
    L.Invariant init { s with
      region := { s.region with seq := (q + 2) % L.modulus }
      writer := .idle
      history := d :: s.history } := by
  have hwriter := h.writer
  simp only [WriterInvariant, hw] at hwriter
  obtain ⟨hq, stored, base, hbody, hwords⟩ := hwriter
  rw [List.append_nil] at hbody
  exact
    { seq_eq := by
        show (q + 2) % L.modulus = 2 * (s.history.length + 1) % L.modulus
        rw [hq, Nat.mod_add_mod]
        rfl
      writer := ⟨base, hbody ▸ hwords⟩
      reader := by
        refine h.reader.of_writer rfl (Nat.le_succ _) fun hlen _ => ?_
        exact absurd hlen (Nat.succ_ne_self _) }

/-! ### Accesses of the reader -/

lemma Invariant.loadBefore (h : L.Invariant init s) {stack : α → β} {n : ℕ}
    (heven : s.region.seq % 2 = 0) :
    L.Invariant init { s with
      reader := .copying n
        { seqBefore := s.region.seq, snapshotSeq := none, snapshot := stack
          pending := L.layout, since := s.history.length } } := by
  refine h.of_reader ⟨le_rfl, ?_, fun _ _ a ha => absurd (L.mem_layout a) ha⟩
  -- the word read is even, so no update is storing
  have hidle := h.even_iff.mp heven
  show s.region.seq = 2 * s.history.length % L.modulus
  rw [h.seq_eq, hidle]
  rfl

lemma Invariant.loadSeq (h : L.Invariant init s) {n : ℕ} {c : Attempt α β}
    (hr : s.reader = .copying n c) :
    L.Invariant init { s with
      reader := .copying n { c with snapshotSeq := some s.region.seq } } := by
  have hreader := h.reader
  simp only [ReaderInvariant, hr] at hreader
  exact h.of_reader hreader

lemma Invariant.loadWord (h : L.Invariant init s) {a : α} {n : ℕ} {c : Attempt α β}
    (hr : s.reader = .copying n c) :
    L.Invariant init { s with
      reader := .copying n
        { c with
          snapshot := Function.update c.snapshot a (s.region.words a)
          pending := c.pending.erase a } } := by
  have hreader := h.reader
  simp only [ReaderInvariant, hr] at hreader
  obtain ⟨hsince, hbefore, hcopy⟩ := hreader
  refine h.of_reader ⟨hsince, hbefore, fun heq hidle b hb => ?_⟩
  show Function.update c.snapshot a (s.region.words a) b = s.region.words b
  by_cases hba : b = a
  · rw [hba, Function.update_self]
  · rw [Function.update_of_ne hba]
    exact hcopy heq hidle b fun hmem => hb ((List.mem_erase_of_ne hba).mpr hmem)

/-- **One memory access.** Every access of either party preserves the invariant. -/
theorem invariant_step {a : Action α β δ} (h : L.Invariant init s)
    (hstep : L.step s a = some (t, es)) : L.Invariant init t := by
  cases step_cases hstep with
  | begin hw => exact h.begin hw
  | markOdd hw => exact h.markOdd hw
  | storeWord hw => exact h.storeWord hw
  | markEven hw => exact h.markEven hw
  | call => exact h.of_reader trivial
  | refuse => exact h
  | odd => exact h.retry _
  | loadBefore _ heven => exact h.loadBefore heven
  | loadSeq hr _ => exact h.loadSeq hr
  | loadWord hr _ => exact h.loadWord hr
  | loadAfter => exact h.conclude _ _ _

/-- Every run from a region that holds `init` keeps the invariant. -/
lemma invariant_run {as : List (Action α β δ)}
    (hrun : L.machine.run (start init) as = some (s, es)) : L.Invariant init s :=
  L.machine.run_invariant (A := fun _ => True) (fun _ _ _ _ _ h hstep => invariant_step h hstep)
    invariant_start (fun _ _ => trivial) hrun

omit [DecidableEq α] in
@[simp] lemma history_retry (s : State α β δ) (n : ℕ) : (L.retry s n).1.history = s.history := by
  unfold retry
  split_ifs <;> rfl

omit [DecidableEq α] in
@[simp] lemma history_conclude (s : State α β δ) (n : ℕ) (c : Attempt α β) (q : ℕ) :
    (L.conclude s n c q).1.history = s.history := by
  unfold conclude
  split_ifs <;> simp

/-- One memory access ends at most one update. -/
lemma length_history_step {a : Action α β δ} (hstep : L.step s a = some (t, es)) :
    t.history.length ≤ s.history.length + 1 := by
  cases step_cases hstep with
  | odd => simp
  | loadAfter => simp
  | markEven hw => exact le_rfl
  | _ => exact Nat.le_succ _

/-- A run of `n` memory accesses ends at most `n` updates. -/
lemma length_history_run {as : List (Action α β δ)}
    (hrun : L.machine.run (start init) as = some (s, es)) : s.history.length ≤ as.length := by
  refine L.machine.run_induction (P := fun as s _ => s.history.length ≤ as.length) le_rfl ?_ hrun
  intro as s es a t fs _ ih hstep
  have := length_history_step hstep
  simp only [List.length_append, List.length_singleton]
  omega

/-- In a run of fewer than `half` memory accesses, fewer than `half` updates overtake any
attempt. -/
lemma throughout_updates_lt {as : List (Action α β δ)} (h : as.length < L.half) :
    L.machine.Throughout (fun s => s.updates < L.half) (start init) as := by
  rintro pre post s es rfl hrun
  have hle : s.updates ≤ s.history.length := by
    unfold State.updates
    split
    · exact Nat.sub_le ..
    · exact Nat.zero_le _
  have hlen := length_history_run hrun
  rw [List.length_append] at h
  omega

/-! ## Accepted copies -/

omit [DecidableEq α] in
/-- Two even numbers of fewer than `half` steps of two apart differ modulo `2 * half`. -/
lemma eq_of_two_mul_mod_eq {m n : ℕ} (hle : m ≤ n) (hlt : n - m < L.half)
    (h : 2 * m % L.modulus = 2 * n % L.modulus) : m = n := by
  rw [modulus, Nat.mul_mod_mul_left, Nat.mul_mod_mul_left] at h
  have hmod : n % L.half = m % L.half := by omega
  have hzero : (n - m) % L.half = 0 := Nat.sub_mod_eq_zero_of_mod_eq hmod
  rw [Nat.mod_eq_of_lt hlt] at hzero
  omega

omit [DecidableEq α] in
lemma not_returned_of_retry {n : ℕ} {p : (α → β) × ρ} :
    Event.returned (some p) ∉ (L.retry s n).2 := by
  unfold retry
  split_ifs <;> simp

omit [DecidableEq α] in
/-- The checks accept a copy only when the second read of the sequence word finds the number of
the first one, and that number is even. -/
lemma conclude_returned {n : ℕ} {c : Attempt α β} {q : ℕ} {snapshot : α → β} {r : ρ}
    (hret : Event.returned (some (snapshot, r)) ∈ (L.conclude s n c q).2) :
    c.seqBefore = s.region.seq ∧ s.region.seq % 2 = 0 ∧ c.snapshot = snapshot ∧
      L.accept snapshot = some r := by
  unfold conclude at hret
  split_ifs at hret with hseq hcopy
  · exact absurd hret not_returned_of_retry
  · exact absurd hret not_returned_of_retry
  · rw [not_or, not_not, not_not] at hseq
    have hmap : (L.accept c.snapshot).map (fun r => (c.snapshot, r)) = some (snapshot, r) := by
      simpa [eq_comm] using hret
    obtain ⟨r', haccept, heq⟩ := Option.map_eq_some_iff.mp hmap
    obtain ⟨rfl, rfl⟩ := Prod.mk.inj heq
    exact ⟨hseq.1, hseq.2, rfl, haccept⟩

/-- A call returns a copy only at the second read of the sequence word, with all words copied. -/
lemma copying_of_returned {a : Action α β δ} {snapshot : α → β} {r : ρ}
    (hstep : L.step s a = some (t, es)) (hret : Event.returned (some (snapshot, r)) ∈ es) :
    ∃ n c q, s.reader = .copying n c ∧ c.pending = [] ∧
      Event.returned (some (snapshot, r)) ∈ (L.conclude s n c q).2 := by
  cases step_cases hstep with
  | loadAfter hr hpending _ => exact ⟨_, _, _, hr, hpending, hret⟩
  | odd => exact absurd hret not_returned_of_retry
  | refuse => simp at hret
  | _ => exact absurd hret List.not_mem_nil

/-- When a call returns a copy, no update ends. -/
lemma history_of_returned {a : Action α β δ} {snapshot : α → β} {r : ρ}
    (hstep : L.step s a = some (t, es)) (hret : Event.returned (some (snapshot, r)) ∈ es) :
    t.history = s.history := by
  cases step_cases hstep with
  | loadAfter => exact history_conclude s _ _ _
  | odd => exact history_retry s _
  | refuse => rfl
  | _ => exact absurd hret List.not_mem_nil

/-- A copy that is returned while the invariant holds. -/
lemma Invariant.settled_copy {a : Action α β δ} {fs : List (Event α β ρ)} {snapshot : α → β} {r : ρ}
    (hinv : L.Invariant init s) (hfew : s.updates < L.half) (hstep : L.step s a = some (t, fs))
    (hret : Event.returned (some (snapshot, r)) ∈ fs) :
    L.accept snapshot = some r ∧ L.Settled init s.history snapshot := by
  obtain ⟨n, c, q, hr, hpending, hconclude⟩ := copying_of_returned hstep hret
  obtain ⟨hseq, heven, rfl, haccept⟩ := conclude_returned hconclude
  have hreader := hinv.reader
  simp only [ReaderInvariant, hr] at hreader
  obtain ⟨hsince, hbefore, hcopy⟩ := hreader
  have hidle : s.writer.isStoring = false := hinv.even_iff.mp heven
  have hcount : c.since = s.history.length := by
    refine eq_of_two_mul_mod_eq (L := L) hsince ?_ ?_
    · simpa only [State.updates, hr] using hfew
    · rw [← hbefore, hseq, hinv.seq_eq, hidle]
      rfl
  have hwords : c.snapshot = s.region.words := by
    funext a
    exact hcopy hcount hidle a (hpending ▸ List.not_mem_nil)
  exact ⟨haccept, hwords ▸ hinv.settled hidle⟩

/-- **Accepted copies are settled.** If fewer than `half` updates end during any one attempt, then
whenever a call returns a copy, the copy is the region as the last ended update left it.

**Proof sketch.** The copy is returned at the second read of the sequence word, which finds the
even number that the first one found. By parity no update is storing, and as fewer than `half`
updates ended since, equal numbers mean that none did. The invariant of the reader then says that
all copied words are the current ones, and these are settled. -/
theorem settled_of_returned {as : List (Action α β δ)} {a : Action α β δ}
    {fs : List (Event α β ρ)} {snapshot : α → β} {r : ρ}
    (hrun : L.machine.run (start init) as = some (s, es)) (hfew : s.updates < L.half)
    (hstep : L.step s a = some (t, fs)) (hret : Event.returned (some (snapshot, r)) ∈ fs) :
    L.accept snapshot = some r ∧ L.Settled init s.history snapshot :=
  (invariant_run hrun).settled_copy hfew hstep hret

end Seqlock
