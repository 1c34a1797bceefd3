import Mathlib.Data.List.Nodup
import PerfMonitor.Worker.MonitorPusher

set_option relaxedAutoImplicit false
set_option autoImplicit false

/-!
# Conservation of the backlog

Every sample a worker collects is delivered once, waits in the buffer once or was evicted once,
whatever `PushData` returns. The buffer holds its samples in the order of collection, so a full
buffer evicts the oldest.

## Main definitions

* `Monitor.Worker.Older` — the order of collection.
* `Monitor.Worker.Accounted` — the invariant of the push loop.
* `Monitor.Worker.Conserved` — the three classes of samples.

## Main results

* `Monitor.Worker.Accounted.flushPhase`, `Monitor.Worker.Accounted.pushOnce` — the parts of an
  iteration keep the invariant.
* `Monitor.Worker.pushOnce_evicted` — an evicted sample is older than all that stay.
* `Monitor.Worker.backlog_conservation` — the three classes in every reachable state.
-/

namespace Monitor.Worker

variable {ω : Type} {pushData : ω → MonitorInfo → Bool × ω} {w w' : Worker ω}
  {es : List WorkerEvent}

/-- `x` was collected before `y`. -/
def Older (x y : MonitorInfo) : Prop := x.sequence < y.sequence

/-- The invariant of the push loop: the samples collected so far, `collected es`, have strictly
increasing sequences up to the counter; those in the buffer are in the same order; and each is
delivered, in the buffer or evicted. -/
structure Accounted (w : Worker ω) (es : List WorkerEvent) : Prop where
  sorted : (collected es).Pairwise Older
  bounded : ∀ x ∈ collected es, x.sequence ≤ w.collectSeq
  items_sorted : w.items.Pairwise Older
  perm : (delivered es ++ w.items ++ evicted es).Perm (collected es)

lemma Accounted.items_bounded (h : Accounted w es) {x : MonitorInfo} (hx : x ∈ w.items) :
    x.sequence ≤ w.collectSeq := by
  refine h.bounded x (h.perm.mem_iff.mp ?_)
  exact List.mem_append_left _ (List.mem_append_right _ hx)

variable (pushData) in
/-- The flush moves samples from the buffer to the deliveries. -/
lemma Accounted.flushPhase (h : Accounted w es) :
    Accounted (w.flushPhase pushData).1 (es ++ (w.flushPhase pushData).2) := by
  obtain ⟨hsub, hperm, hev, hcol, -, hseq⟩ := w.flushPhase_spec pushData
  refine ⟨?_, ?_, h.items_sorted.sublist hsub, ?_⟩
  · rw [collected_append, hcol, List.append_nil]
    exact h.sorted
  · rw [collected_append, hcol, List.append_nil, hseq]
    exact h.bounded
  · rw [delivered_append, evicted_append, collected_append, hev, hcol, List.append_nil,
      List.append_nil, List.append_assoc (delivered es)]
    exact ((hperm.append_left _).append_right _).trans h.perm

/-- Every sample in the buffer is older than the new one. -/
lemma Accounted.older_newSample (h : Accounted w es) (metrics : MonitorInfo) :
    ∀ z ∈ w.items, Older z (w.newSample metrics) := fun _ hz =>
  Nat.lt_succ_of_le (h.items_bounded hz)

variable (pushData) in
/-- Collecting and sending a sample adds it to one of the three classes.

**Proof sketch.** If the sample is delivered it is one more delivery. If not, the push puts it
into the buffer, and `BoundedQueue.perm_push` says what the push evicts. -/
lemma Accounted.pushOnce (h : Accounted w es) (metrics : MonitorInfo) :
    Accounted (w.pushOnce pushData metrics).1 (es ++ (w.pushOnce pushData metrics).2) := by
  rw [pushOnce_eq]
  set info := w.newSample metrics
  obtain ⟨-, hseq, hcol⟩ := send_frame pushData (w.collectAll metrics).2 info
  have hnew : collected (es ++ .collected info :: (send pushData (w.collectAll metrics).2 info).2) =
      collected es ++ [info] := by
    rw [collected_append, collected_cons_collected, hcol]
  refine ⟨?_, ?_, ?_, ?_⟩
  · rw [hnew]
    refine List.pairwise_append.mpr ⟨h.sorted, List.pairwise_singleton _ _, fun x hx y hy => ?_⟩
    rw [List.mem_singleton.mp hy]
    exact Nat.lt_succ_of_le (h.bounded x hx)
  · rw [hnew, hseq]
    intro x hx
    rcases List.mem_append.mp hx with hx | hx
    · exact (h.bounded x hx).trans (Nat.le_succ _)
    · rw [List.mem_singleton.mp hx]
      exact le_rfl
  · rcases send_spec pushData (w.collectAll metrics).2 info with ⟨hitems, -, -⟩ | ⟨hitems, -, -⟩
    · exact hitems.symm ▸ h.items_sorted
    · exact hitems.symm ▸ BoundedQueue.pairwise_push h.items_sorted (h.older_newSample metrics)
  · have hall : (delivered es ++ w.items ++ evicted es ++ [info]).Perm (collected es ++ [info]) :=
      h.perm.append_right _
    rw [hnew, delivered_append, evicted_append, delivered_cons_collected, evicted_cons_collected]
    refine List.Perm.trans ?_ hall
    have hbuffer : (w.collectAll metrics).2.items = w.items := rfl
    rcases send_spec pushData (w.collectAll metrics).2 info with
      ⟨hitems, hdel, hev⟩ | ⟨hitems, hdel, hev⟩
    · rw [hitems, hdel, hev, hbuffer, List.append_nil]
      refine List.perm_iff_count.mpr fun x => ?_
      simp only [List.count_append]
      omega
    · rw [hitems, hdel, hev, List.append_nil]
      have hpush := BoundedQueue.perm_push (w.collectAll metrics).2.backlog.toQueue info
      refine List.perm_iff_count.mpr fun x => ?_
      have hx := hpush.count_eq x
      have hsame : (w.collectAll metrics).2.backlog.toQueue.items.count x = w.items.count x := rfl
      simp only [List.count_append] at hx ⊢
      omega

/-- **An evicted sample is older than all the 120 that stay.** -/
lemma pushOnce_evicted (h : Accounted w es) (metrics : MonitorInfo) {x : MonitorInfo}
    (hx : x ∈ evicted (w.pushOnce pushData metrics).2) :
    (w.pushOnce pushData metrics).1.items.length = 120 ∧
      ∀ z ∈ (w.pushOnce pushData metrics).1.items, Older x z := by
  rw [pushOnce_eq] at hx ⊢
  set info := w.newSample metrics
  rw [evicted_cons_collected] at hx
  rcases send_spec pushData (w.collectAll metrics).2 info with ⟨-, -, hev⟩ | ⟨hitems, -, hev⟩
  · rw [hev] at hx
    exact absurd hx List.not_mem_nil
  · rw [hev, Option.mem_toList] at hx
    rw [hitems]
    exact BoundedQueue.evicted_rel h.items_sorted (h.older_newSample metrics) hx

/-- Every state the push loop reaches is accounted for. -/
lemma run_accounted {hostname : String} {seed : ℕ} {world : ω} {ms : List MonitorInfo}
    (hrun : (worker pushData).run (start hostname seed world) ms = some (w, es)) :
    Accounted w es := by
  refine (worker pushData).run_induction (P := fun _ w es => Accounted w es) ?_ ?_ hrun
  · exact ⟨.nil, by simp, .nil, .refl _⟩
  · intro ms w es metrics w' fs _ h hstep
    obtain ⟨rfl, rfl⟩ := worker_step_iff.mp hstep
    have hboth := (h.flushPhase pushData).pushOnce pushData metrics
    rwa [List.append_assoc] at hboth

/-- The three classes of the samples collected so far, and the order of the buffer. -/
structure Conserved (w : Worker ω) (es : List WorkerEvent) : Prop where
  /-- Each sample collected is in exactly one class, exactly once. -/
  one_class : ∀ x ∈ collected es,
    (delivered es).count x + w.items.count x + (evicted es).count x = 1
  /-- The buffer is in strictly increasing sequence order. -/
  increasing : (w.items.map MonitorInfo.sequence).Pairwise (· < ·)
  /-- It holds at most 120 samples. -/
  length_le : w.items.length ≤ 120

/-- **Conservation of the backlog.** After any number of iterations with any outcomes of `PushData`,
every sample collected so far was delivered once, or is in the buffer once, or was evicted once,
and the buffer is in strictly increasing order and holds at most 120 samples. The flush of the
next iteration evicts nothing, and what its `PushOnce` evicts is older than the 120 samples
then in the buffer.

**Proof sketch.** `run_accounted`: the three classes are a permutation of the samples collected,
which are distinct. -/
theorem backlog_conservation {hostname : String} {seed : ℕ} {world : ω} {ms : List MonitorInfo}
    (hrun : (worker pushData).run (start hostname seed world) ms = some (w, es)) :
    Conserved w es ∧ evicted (w.flushBacklog pushData).2 = [] ∧
      ∀ metrics, ∀ x ∈ evicted ((w.flushPhase pushData).1.pushOnce pushData metrics).2,
        ((w.flushPhase pushData).1.pushOnce pushData metrics).1.items.length = 120 ∧
        ∀ z ∈ ((w.flushPhase pushData).1.pushOnce pushData metrics).1.items,
          x.sequence < z.sequence := by
  have h := run_accounted hrun
  refine ⟨⟨fun x hx => ?_, ?_, w.backlog.toQueue.length_le⟩, ?_, fun metrics x hx => ?_⟩
  · have hnodup : (collected es).Nodup := h.sorted.imp fun hlt heq => by
      rw [heq] at hlt
      exact lt_irrefl _ hlt
    have hcount := h.perm.count_eq x
    rw [List.count_append, List.count_append, List.count_eq_one_of_mem hnodup hx] at hcount
    exact hcount
  · exact List.pairwise_map.mpr h.items_sorted
  · cases hempty : w.backlog.isEmpty with
    | false =>
      have hev := (w.flushPhase_spec pushData).2.2.1
      rwa [flushPhase, hempty] at hev
    | true =>
      have hitems : w.backlog.drain.1 = [] := (w.backlog.isEmpty_iff).mp hempty
      rw [flushBacklog]
      simp only [hitems]
      rfl
  · exact pushOnce_evicted (h.flushPhase pushData) metrics hx

/-! ## Outages -/

/-- Every sample delivered was sent in a call that succeeded. -/
def Answered (pushData : ω → MonitorInfo → Bool × ω) (es : List WorkerEvent) : Prop :=
  ∀ x ∈ delivered es, ∃ world, (pushData world x).1 = true

lemma Answered.append {fs : List WorkerEvent} (h : Answered pushData es)
    (h' : Answered pushData fs) : Answered pushData (es ++ fs) := by
  intro x hx
  rw [delivered_append] at hx
  exact (List.mem_append.mp hx).elim (h x) (h' x)

variable (pushData)

lemma answered_send (w : Worker ω) (info : MonitorInfo) :
    Answered pushData (w.send pushData info).2 := by
  unfold send keep
  rcases hpush : pushData w.world info with ⟨_ | _, world⟩
  · simp [Answered]
  · intro x hx
    obtain rfl : x = info := by simpa using hx
    exact ⟨w.world, by rw [hpush]⟩

lemma answered_replay (pending : List MonitorInfo) (w : Worker ω) :
    Answered pushData (w.replay pushData pending).2 := by
  induction pending generalizing w with
  | nil => exact fun x hx => absurd hx List.not_mem_nil
  | cons info pending ih => exact (answered_send pushData w info).append (ih _)

lemma answered_iteration (w : Worker ω) (metrics : MonitorInfo) :
    Answered pushData (w.iteration pushData metrics).2 := by
  rw [iteration_eq]
  refine Answered.append ?_ ?_
  · unfold flushPhase
    split_ifs
    · exact fun x hx => absurd hx List.not_mem_nil
    · exact answered_replay pushData _ _
  · rw [pushOnce_eq]
    exact answered_send pushData _ _

variable {pushData}

/-- What `PushLoop` has delivered was answered, and it has collected one sample an iteration. -/
lemma run_answered {hostname : String} {seed : ℕ} {world : ω} {ms : List MonitorInfo}
    (hrun : (worker pushData).run (start hostname seed world) ms = some (w, es)) :
    Answered pushData es ∧ (collected es).length = ms.length := by
  refine (worker pushData).run_induction (P := fun ms _ es =>
    Answered pushData es ∧ (collected es).length = ms.length) ?_ ?_ hrun
  · exact ⟨fun x hx => absurd hx List.not_mem_nil, rfl⟩
  · intro ms w es metrics w' fs _ ⟨hanswered, hlength⟩ hstep
    obtain ⟨rfl, rfl⟩ := worker_step_iff.mp hstep
    refine ⟨hanswered.append (answered_iteration pushData w metrics), ?_⟩
    rw [collected_append, collected_iteration, List.length_append, List.length_append, hlength]
    rfl

/-- The first call and the sixth one succeed. -/
def briefOutage (calls : ℕ) (_ : MonitorInfo) : Bool × ℕ := (calls == 0 || calls == 5, calls + 1)

/-- Four iterations, the second sample failing three times, and an outage of `121` iterations, in
which the buffer overflows. -/
theorem backlog_conservation_outages :
    (∃ w es, (worker briefOutage).run (start "a" 0 0) [{}, {}, {}, {}] = some (w, es) ∧
      (delivered es).map MonitorInfo.sequence = [1, 3] ∧
      w.items.map MonitorInfo.sequence = [2, 4] ∧ Conserved w es) ∧
    ∃ w es, (worker fun _ _ => (false, ())).run (start "a" 0 ()) (List.replicate 121 {}) =
        some (w, es) ∧
      delivered es = [] ∧ evicted es ≠ [] ∧ Conserved w es := by
  constructor
  · have hend : ((worker briefOutage).run (start "a" 0 0) [{}, {}, {}, {}]).map (fun p =>
        ((delivered p.2).map MonitorInfo.sequence, p.1.items.map MonitorInfo.sequence)) =
        some ([1, 3], [2, 4]) := by
      decide +kernel
    obtain ⟨⟨w, es⟩, hrun, hs⟩ := Option.map_eq_some_iff.mp hend
    simp only [Prod.mk.injEq] at hs
    exact ⟨w, es, hrun, hs.1, hs.2, (backlog_conservation hrun).1⟩
  · obtain ⟨⟨w, es⟩, hrun⟩ := (worker fun (_ : Unit) _ => (false, ())).exists_run
      (fun _ _ => ⟨_, rfl⟩) (start "a" 0 ()) (List.replicate 121 {})
    obtain ⟨hanswered, hlength⟩ := run_answered hrun
    have hdelivered : delivered es = [] := List.eq_nil_iff_forall_not_mem.mpr fun x hx =>
      absurd (hanswered x hx) (by simp)
    refine ⟨w, es, hrun, hdelivered, fun hevicted => ?_, (backlog_conservation hrun).1⟩
    have hperm := (run_accounted hrun).perm.length_eq
    rw [hdelivered, hevicted, List.nil_append, List.append_nil, hlength,
      List.length_replicate] at hperm
    have hle : w.items.length ≤ 120 := w.backlog.toQueue.length_le
    omega

end Monitor.Worker
