import PerfMonitor.Manager.QueryBestHost
import PerfMonitor.Sequence.Changes
import PerfMonitor.Worker.Backlog

set_option relaxedAutoImplicit false
set_option autoImplicit false

/-!
# A worker and its manager

One worker process pushes to one manager; calls are handled one at a time. A call may be lost, or
be processed with its answer lost, or be processed and answered. The pattern of outcomes is a
function of the number of calls made so far.

## Main definitions

* `Monitor.setMonitorInfo` — the service method a worker calls.
* `Monitor.RpcOutcome`, `Monitor.Link` — what becomes of a call; the manager seen by the worker.
* `Monitor.Link.pushData` — `PushData` over the link.
* `Monitor.Link.Logged` — the manager's memory described by the samples it has processed.

## Main results

* `Monitor.Link.Logged.pushData` — a call keeps the description.
* `Monitor.Link.run_logged` — so do runs of the push loop.
* `Monitor.Link.processed_iteration` — the samples that reach the manager in an iteration.
-/

namespace Monitor

/-- `GrpcServerImpl::SetMonitorInfo`, with `OnDataReceived` as its callback. -/
def setMonitorInfo (ord : HashOrder) (m : HostManager) (info : MonitorInfo) (now : Time) :
    Except RpcError HostManager :=
  let hostname :=
    if info.name = "" then (info.hostInfo.map HostInfo.hostname).getD "" else info.name
  if hostname = "" then .error ⟨.invalidArgument, "Missing hostname"⟩
  else .ok (m.onDataReceived ord info now)

/-- A report that `SetMonitorInfo` lets through names a host. -/
lemma hostName_ne_of_setMonitorInfo {ord : HashOrder} {m m' : HostManager} {info : MonitorInfo}
    {now : Time} (h : setMonitorInfo ord m info now = .ok m') :
    hostName info ≠ "" ∧ m' = m.onDataReceived ord info now := by
  unfold setMonitorInfo at h
  dsimp only at h
  by_cases hne : (if info.name = "" then (info.hostInfo.map HostInfo.hostname).getD ""
      else info.name) = ""
  · rw [if_pos hne] at h
    cases h
  rw [if_neg hne] at h
  refine ⟨fun hempty => hne ?_, (Except.ok.inj h).symm⟩
  unfold hostName at hempty
  dsimp only at hempty
  split_ifs at hempty with hfrom
  · rw [if_pos hempty]
    cases hinfo : info.hostInfo with
    | none => rfl
    | some hi =>
      simp only [hinfo] at hfrom
      rw [Option.map_some, Option.getD_some]
      by_contra hhost
      split_ifs at hfrom
      · have hlen := congrArg String.length hfrom
        simp [String.length_append] at hlen
      · exact hhost hfrom
  · exact absurd hempty hfrom

/-- What becomes of a `SetMonitorInfo` call; a call that is processed is so at some clock reading,
with some iteration order of the hash map. -/
inductive RpcOutcome where
  /-- The manager does not get the call. -/
  | lost
  /-- The manager processes the call and the answer does not come back in time. -/
  | unanswered (now : Time) (ord : HashOrder)
  | answered (now : Time) (ord : HashOrder)

/-- The manager at the other end, and what has passed over the link so far. -/
structure Link where
  manager : HostManager := {}
  calls : ℕ := 0
  /-- The samples `OnDataReceived` was called with. -/
  processed : List MonitorInfo := []
  /-- The samples that passed the duplicate check. -/
  accepted : List MonitorInfo := []

namespace Link

/-- The manager handles a call; whether its status is OK. -/
def receive (l : Link) (ord : HashOrder) (info : MonitorInfo) (now : Time) : Bool × Link :=
  match setMonitorInfo ord l.manager info now with
  | .error _ => (false, l)
  | .ok m =>
    (true,
      { l with
        manager := m
        processed := l.processed ++ [info]
        accepted :=
          if (l.manager.checkDuplicate (hostName info) info.sequence).isSome then
            l.accepted ++ [info]
          else l.accepted })

/-- `PushData` over the link: true if an OK answer came back. -/
def pushData (pattern : ℕ → RpcOutcome) (l : Link) (info : MonitorInfo) : Bool × Link :=
  let l' := { l with calls := l.calls + 1 }
  match pattern l.calls with
  | .lost => (false, l')
  | .unanswered now ord => (false, (l'.receive ord info now).2)
  | .answered now ord => l'.receive ord info now

/-! ## The manager's memory and the samples it has processed -/

/-- The sequences of the samples of host `h`, in order. -/
def seqsOf (h : String) (log : List MonitorInfo) : List ℕ :=
  (log.filter (hostName · = h)).map MonitorInfo.sequence

lemma seqsOf_append (h : String) (log log' : List MonitorInfo) :
    seqsOf h (log ++ log') = seqsOf h log ++ seqsOf h log' := by
  rw [seqsOf, List.filter_append, List.map_append]
  rfl

lemma seqsOf_singleton (h : String) (info : MonitorInfo) :
    seqsOf h [info] = if hostName info = h then [info.sequence] else [] := by
  by_cases hh : hostName info = h <;> simp [seqsOf, hh]

lemma mem_seqsOf {h : String} {log : List MonitorInfo} {n : ℕ} :
    n ∈ seqsOf h log ↔ ∃ x ∈ log, hostName x = h ∧ x.sequence = n := by
  simp [seqsOf, and_assoc]

/-- The samples accepted from a host are the changes of those processed; the last one processed
is the last sequence recorded, and the last one accepted is the record. -/
structure Logged (l : Link) : Prop where
  changes : ∀ h, Changes (seqsOf h l.processed) (seqsOf h l.accepted)
  last : ∀ h, l.manager.lastSequences.lookup h = (seqsOf h l.processed).getLast?
  record : ∀ h, (l.manager.hostScores.lookup h).map (fun r => r.info.sequence) =
    (seqsOf h l.accepted).getLast?

lemma logged_start : Logged {} := ⟨fun _ => .nil, fun _ => rfl, fun _ => rfl⟩

/-- A duplicate is a repetition of the last sample processed. -/
lemma Logged.duplicate {l : Link} (hl : Logged l) {info : MonitorInfo}
    (hcheck : l.manager.checkDuplicate (hostName info) info.sequence = none) :
    Logged { l with processed := l.processed ++ [info] } := by
  have hlast : (seqsOf (hostName info) l.processed).getLast? = some info.sequence := by
    rw [← hl.last, (HostManager.checkDuplicate_eq_none_iff.mp hcheck).2]
  refine ⟨fun h => ?_, fun h => ?_, hl.record⟩
  · dsimp only
    rw [seqsOf_append, seqsOf_singleton]
    split_ifs with hh
    · exact (hl.changes h).stay (hh ▸ hlast)
    · rw [List.append_nil]
      exact hl.changes h
  · dsimp only
    rw [seqsOf_append, seqsOf_singleton, hl.last]
    split_ifs with hh
    · rw [List.getLast?_concat, ← hh, hlast]
    · rw [List.append_nil]

/-- Any other sample is a change. -/
lemma Logged.accept {l : Link} (hl : Logged l) (ord : HashOrder) {info : MonitorInfo}
    (hseq : 0 < info.sequence) (now : Time) {m₁ : HostManager}
    (hcheck : l.manager.checkDuplicate (hostName info) info.sequence = some m₁) :
    Logged { l with
      manager := m₁.applyReport ord (hostName info) info now
      processed := l.processed ++ [info]
      accepted := l.accepted ++ [info] } := by
  obtain ⟨hnew, rfl⟩ := HostManager.checkDuplicate_eq_some_iff.mp hcheck
  have hlast : (seqsOf (hostName info) l.processed).getLast? ≠ some info.sequence := by
    rw [← hl.last]
    exact hnew hseq
  refine ⟨fun h => ?_, fun h => ?_, fun h => ?_⟩
  · dsimp only
    rw [seqsOf_append, seqsOf_append, seqsOf_singleton]
    split_ifs with hh
    · exact (hl.changes h).change (hh ▸ hlast)
    · rw [List.append_nil, List.append_nil]
      exact hl.changes h
  · dsimp only
    rw [HostManager.applyReport_lastSequences, if_pos hseq, UnorderedMap.lookup_insert_ite,
      seqsOf_append, seqsOf_singleton, hl.last]
    by_cases hh : hostName info = h
    · rw [if_pos hh.symm, if_pos hh, List.getLast?_concat]
    · rw [if_neg (Ne.symm hh), if_neg hh, List.append_nil]
  · dsimp only
    rw [HostManager.lookup_applyReport, seqsOf_append, seqsOf_singleton]
    by_cases hh : hostName info = h
    · rw [if_pos hh.symm, if_pos hh, List.getLast?_concat]
      rfl
    · rw [if_neg (Ne.symm hh), if_neg hh, List.append_nil]
      exact hl.record h

/-- A call that the manager handles keeps the description of its memory. -/
lemma Logged.receive {l : Link} (hl : Logged l) (ord : HashOrder) {info : MonitorInfo}
    (hseq : 0 < info.sequence) (now : Time) : Logged (l.receive ord info now).2 := by
  unfold Link.receive
  cases hset : setMonitorInfo ord l.manager info now with
  | error e => exact hl
  | ok m =>
    obtain ⟨hname, rfl⟩ := hostName_ne_of_setMonitorInfo hset
    dsimp only
    cases hcheck : l.manager.checkDuplicate (hostName info) info.sequence with
    | none =>
      rw [HostManager.onDataReceived_duplicate hname hcheck]
      exact hl.duplicate hcheck
    | some m₁ =>
      rw [HostManager.onDataReceived_accept hname hcheck]
      exact hl.accept ord hseq now hcheck

lemma Logged.calls {l : Link} (hl : Logged l) (n : ℕ) : Logged { l with calls := n } :=
  ⟨hl.changes, hl.last, hl.record⟩

/-- **A call keeps the description of the manager's memory**, whatever becomes of it. -/
lemma Logged.pushData {l : Link} (hl : Logged l) (pattern : ℕ → RpcOutcome) {info : MonitorInfo}
    (hseq : 0 < info.sequence) : Logged (l.pushData pattern info).2 := by
  unfold Link.pushData
  dsimp only
  split
  · exact hl.calls _
  · exact (hl.calls _).receive _ hseq _
  · exact (hl.calls _).receive _ hseq _

/-- A call adds the sample to those processed, or adds nothing. -/
lemma processed_pushData (pattern : ℕ → RpcOutcome) (l : Link) (info : MonitorInfo) :
    (l.pushData pattern info).2.processed = l.processed ∨
      (l.pushData pattern info).2.processed = l.processed ++ [info] := by
  have hreceive : ∀ (l : Link) (ord : HashOrder) (now : Time),
      (l.receive ord info now).2.processed = l.processed ∨
        (l.receive ord info now).2.processed = l.processed ++ [info] := by
    intro l ord now
    unfold receive
    split
    · exact Or.inl rfl
    · exact Or.inr rfl
  unfold pushData
  dsimp only
  split
  · exact Or.inl rfl
  · exact hreceive _ _ _
  · exact hreceive _ _ _

/-- The samples processed while some samples are sent are some of these, in order. -/
lemma processed_pushAll (pattern : ℕ → RpcOutcome) (l : Link) (samples : List MonitorInfo) :
    ∃ new, new.Sublist samples ∧
      (Worker.pushAll (Link.pushData pattern) l samples).processed = l.processed ++ new := by
  induction samples generalizing l with
  | nil => exact ⟨[], .slnil, (List.append_nil _).symm⟩
  | cons x samples ih =>
    obtain ⟨new, hsub, hnew⟩ := ih (l.pushData pattern x).2
    rcases processed_pushData pattern l x with hx | hx
    · exact ⟨new, hsub.cons x, hnew.trans (by rw [hx])⟩
    · exact ⟨x :: new, hsub.cons_cons x, hnew.trans (by rw [hx, List.append_assoc]; rfl)⟩

/-! ## The push loop over the link -/

variable {pattern : ℕ → RpcOutcome} {w : Worker Link} {es : List WorkerEvent}
  {ms : List MonitorInfo} {hostname : String} {seed : ℕ}

/-- Samples are numbered from above the seed. -/
lemma sequence_pos_of_run (hrun : (worker (Link.pushData pattern)).run
    (Worker.start hostname seed {}) ms = some (w, es)) :
    ∀ x ∈ w.items, 0 < x.sequence := by
  have hall : ∀ x ∈ collected es, 0 < x.sequence := by
    refine (worker (Link.pushData pattern)).run_induction
      (P := fun _ _ es => ∀ x ∈ collected es, 0 < x.sequence) (by simp) ?_ hrun
    intro ms w es metrics w' fs _ ih hstep x hx
    obtain ⟨-, rfl⟩ := worker_step_iff.mp hstep
    rw [collected_append, Worker.collected_iteration] at hx
    rcases List.mem_append.mp hx with hx | hx
    · exact ih x hx
    · rw [List.mem_singleton.mp hx]
      exact Nat.succ_pos _
  intro x hx
  refine hall x ((Worker.run_accounted hrun).perm.mem_iff.mp ?_)
  exact List.mem_append_left _ (List.mem_append_right _ hx)

/-- Sending samples with sequences keeps the description of the manager's memory. -/
lemma Logged.pushAll {l : Link} (hl : Logged l) {samples : List MonitorInfo}
    (hseq : ∀ x ∈ samples, 0 < x.sequence) :
    Logged (Worker.pushAll (Link.pushData pattern) l samples) := by
  induction samples generalizing l with
  | nil => exact hl
  | cons x samples ih =>
    exact ih (hl.pushData pattern (hseq x List.mem_cons_self))
      fun y hy => hseq y (List.mem_cons_of_mem x hy)

/-- **The manager's memory is described by the samples processed** in every state that the push
loop reaches. -/
theorem run_logged (hrun : (worker (Link.pushData pattern)).run
    (Worker.start hostname seed {}) ms = some (w, es)) : Logged w.world := by
  refine (worker (Link.pushData pattern)).run_induction
    (P := fun _ w _ => Logged w.world) logged_start ?_ hrun
  intro ms w es metrics w' fs hpre ih hstep
  obtain ⟨rfl, -⟩ := worker_step_iff.mp hstep
  rw [Worker.iteration_world]
  refine ih.pushAll fun x hx => ?_
  rcases List.mem_append.mp hx with hx | hx
  · exact sequence_pos_of_run hpre x hx
  · rw [List.mem_singleton.mp hx]
    exact Nat.succ_pos _

/-- The samples that reach the manager in an iteration are in strictly increasing order. -/
lemma processed_iteration (hrun : (worker (Link.pushData pattern)).run
    (Worker.start hostname seed {}) ms = some (w, es)) (metrics : MonitorInfo) :
    ∃ new, new.Pairwise Worker.Older ∧
      (w.iteration (Link.pushData pattern) metrics).1.world.processed =
        w.world.processed ++ new := by
  have h := Worker.run_accounted hrun
  obtain ⟨new, hsub, hnew⟩ :=
    processed_pushAll pattern w.world (w.items ++ [w.newSample metrics])
  refine ⟨new, List.Pairwise.sublist hsub ?_, by rw [Worker.iteration_world, hnew]⟩
  refine List.pairwise_append.mpr ⟨h.items_sorted, List.pairwise_singleton _ _, fun x hx y hy => ?_⟩
  rw [List.mem_singleton.mp hy]
  exact h.older_newSample metrics x hx

end Link

end Monitor
