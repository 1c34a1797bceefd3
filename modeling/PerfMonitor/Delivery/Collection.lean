import PerfMonitor.Delivery.Link
import PerfMonitor.Manager.ManagerProcess

set_option relaxedAutoImplicit false
set_option autoImplicit false

/-!
# From a worker to the tables

A worker pushes its samples to the manager process while the threads of the process go on: other
calls, the cleanup thread and the write thread. A call may be lost, or be handled with its answer
lost, or be handled and answered.

## Main definitions

* `Monitor.Site` — the manager process as a worker sees it.
* `Monitor.Site.pushData` — `PushData` against it.
* `Monitor.Healthy` — MySQL does what it is asked to.

## Main results

* `Monitor.Worker.run_delivered` — what a call that returns true makes sure of, holds of every
  sample delivered.
* `Monitor.Site.delivered_stored` — where every sample is that `PushData` returned true for.
-/

namespace Monitor

/-! ## What deliveries make sure of -/

namespace Worker

variable {ω : Type} {pushData : ω → MonitorInfo → Bool × ω} {I : ω → Prop}
  {K : ω → MonitorInfo → Prop}

/-- What is known of the world is kept by every call, and known of a sample whose call returns
true. -/
structure MakesSure (pushData : ω → MonitorInfo → Bool × ω) (I : ω → Prop)
    (K : ω → MonitorInfo → Prop) : Prop where
  keep : ∀ e y, I e → I (pushData e y).2
  mono : ∀ e y x, I e → K e x → K (pushData e y).2 x
  known : ∀ e x, I e → (pushData e x).1 = true → K (pushData e x).2 x

/-- Part of an iteration, from one worker to another, that keeps what is known and makes sure of its
deliveries. -/
def Sure (I : ω → Prop) (K : ω → MonitorInfo → Prop) (w w' : Worker ω) (es : List WorkerEvent) :
    Prop :=
  I w'.world ∧ (∀ x, K w.world x → K w'.world x) ∧ ∀ x ∈ delivered es, K w'.world x

lemma Sure.trans {w w' w'' : Worker ω} {es fs : List WorkerEvent} (h : Sure I K w w' es)
    (h' : Sure I K w' w'' fs) : Sure I K w w'' (es ++ fs) := by
  refine ⟨h'.1, fun x hx => h'.2.1 x (h.2.1 x hx), fun x hx => ?_⟩
  rw [delivered_append] at hx
  rcases List.mem_append.mp hx with hx | hx
  · exact h'.2.1 x (h.2.2 x hx)
  · exact h'.2.2 x hx

variable (hsure : MakesSure pushData I K)
include hsure

lemma sure_send {w : Worker ω} (hI : I w.world) (info : MonitorInfo) :
    Sure I K w (w.send pushData info).1 (w.send pushData info).2 := by
  unfold Sure
  rw [send_world]
  refine ⟨hsure.keep _ _ hI, fun x => hsure.mono _ _ x hI, fun x hx => ?_⟩
  unfold send at hx
  cases hok : (pushData w.world info).1 with
  | false =>
    rw [show pushData w.world info = (false, (pushData w.world info).2) from Prod.ext hok rfl] at hx
    simp [keep] at hx
  | true =>
    rw [show pushData w.world info = (true, (pushData w.world info).2) from Prod.ext hok rfl] at hx
    obtain rfl : x = info := by simpa using hx
    exact hsure.known _ _ hI hok

lemma sure_replay {w : Worker ω} (hI : I w.world) (pending : List MonitorInfo) :
    Sure I K w (w.replay pushData pending).1 (w.replay pushData pending).2 := by
  induction pending generalizing w with
  | nil => exact ⟨hI, fun _ h => h, fun x hx => absurd hx List.not_mem_nil⟩
  | cons info pending ih =>
    have hsend := sure_send hsure hI info
    exact hsend.trans (ih hsend.1)

lemma sure_iteration {w : Worker ω} (hI : I w.world) (metrics : MonitorInfo) :
    Sure I K w (w.iteration pushData metrics).1 (w.iteration pushData metrics).2 := by
  have hflush : Sure I K w (w.flushPhase pushData).1 (w.flushPhase pushData).2 := by
    unfold flushPhase
    split_ifs
    · exact ⟨hI, fun _ h => h, fun x hx => absurd hx List.not_mem_nil⟩
    · exact sure_replay hsure (w := { w with backlog := w.backlog.drain.2 }) hI w.backlog.drain.1
  rw [iteration_eq]
  refine hflush.trans ?_
  rw [pushOnce_eq]
  exact sure_send hsure (w := ((w.flushPhase pushData).1.collectAll metrics).2) hflush.1 _

/-- **What deliveries make sure of** holds of every sample delivered in a run. -/
theorem run_delivered {hostname : String} {seed : ℕ} {world : ω} (hI : I world)
    {ms : List MonitorInfo} {w : Worker ω} {es : List WorkerEvent}
    (hrun : (worker pushData).run (start hostname seed world) ms = some (w, es)) :
    I w.world ∧ ∀ x ∈ delivered es, K w.world x := by
  have hall : Sure I K (start hostname seed world) w es := by
    refine (worker pushData).run_induction
      (P := fun _ w es => Sure I K (start hostname seed world) w es)
      ⟨hI, fun _ h => h, fun x hx => absurd hx List.not_mem_nil⟩ ?_ hrun
    intro ms w es metrics w' fs _ ih hstep
    obtain ⟨rfl, rfl⟩ := worker_step_iff.mp hstep
    exact ih.trans (sure_iteration hsure ih.1 metrics)
  exact ⟨hall.1, hall.2.2⟩

end Worker

/-! ## The process as a worker sees it -/

/-- The last sequence of a host was accepted before. -/
lemma Service.Step.lastSequences {s s' : Service} {a : ServiceAction} {es : List ServiceEvent}
    (h : Service.Step s a s' es) {host : String} {seq : ℕ}
    (hseq : s'.manager.lastSequences.lookup host = some seq) :
    s.manager.lastSequences.lookup host = some seq ∨ (host, seq) ∈ acceptedKeys es := by
  cases h with
  | checkAccept t r m ht hd =>
    obtain ⟨-, rfl⟩ := HostManager.checkDuplicate_eq_some_iff.mp hd
    dsimp only at hseq
    split_ifs at hseq
    · rw [UnorderedMap.lookup_insert_ite] at hseq
      split_ifs at hseq with hhost
      · cases hseq
        exact Or.inr (by simp [acceptedKeys, hhost])
      · exact Or.inl hseq
    · exact Or.inl hseq
  | cleanup now hnow =>
    dsimp only at hseq
    rw [HostManager.lookup_lastSequences_removeStaleHosts] at hseq
    split_ifs at hseq
    exact Or.inl hseq
  | pick t ord task ht => exact Or.inl (by simpa using hseq)
  | selectNone q ord hq hb => exact Or.inl (by simpa using hseq)
  | select q ord hq hb => exact Or.inl (by simpa using hseq)
  | _ => exact Or.inl hseq

/-- The write thread leaves the last sequences alone. -/
lemma MysqlWriter.Step.lastSequences {γ : Type} [DecidableEq γ] {collate : List UInt8 → γ}
    {localtime : ℤ → Tm} {s s' : MysqlWriter collate} {a : WriterAction} {es : List WriterEvent}
    (h : MysqlWriter.Step localtime s a s' es) :
    s'.manager.lastSequences = s.manager.lastSequences := by
  cases h <;> rfl

/-- The process, the calls made to it so far, and what it has shown. -/
structure Site {γ : Type} [DecidableEq γ] (collate : List UInt8 → γ) where
  process : ManagerProcess collate
  calls : ℕ := 0
  shown : List ProcessEvent := []

/-- What becomes of a call. What the other threads do is skipped where it is not possible. -/
inductive CallOutcome where
  /-- The process does not get the call. -/
  | lost (meanwhile : List ProcessAction)
  /-- The call is handled under number `t`. -/
  | handled (before : List ProcessAction) (t : ℕ) (after : List ProcessAction) (answered : Bool)

namespace Site

variable {γ : Type} [DecidableEq γ] {collate : List UInt8 → γ} (localtime : ℤ → Tm)

/-- A section of some thread, if it is possible. -/
def act (s : Site collate) (a : ProcessAction) : Site collate :=
  match (managerProcess localtime).step s.process a with
  | none => s
  | some (process, es) => { s with process := process, shown := s.shown ++ es }

/-- Several sections. -/
def exec (s : Site collate) (as : List ProcessAction) : Site collate := as.foldl (act localtime) s

/-- `SetMonitorInfo` finds a name in the sample. -/
def HasHostname (info : MonitorInfo) : Prop :=
  (if info.name = "" then (info.hostInfo.map HostInfo.hostname).getD "" else info.name) ≠ ""

instance (info : MonitorInfo) : Decidable (HasHostname info) :=
  inferInstanceAs (Decidable (_ ≠ _))

/-- Then so does `OnDataReceived`. -/
lemma HasHostname.hostName_ne {info : MonitorInfo} (h : HasHostname info) :
    hostName info ≠ "" := by
  have hok : setMonitorInfo .stored {} info 0 =
      .ok (({} : HostManager).onDataReceived .stored info 0) := if_neg h
  exact (hostName_ne_of_setMonitorInfo hok).1

/-- `PushData`. `SetMonitorInfo` refuses a sample without a name; otherwise it answers when
`OnDataReceived` is done. -/
def pushData (pattern : ℕ → CallOutcome) (s : Site collate) (info : MonitorInfo) :
    Bool × Site collate :=
  let s' := { s with calls := s.calls + 1 }
  match pattern s.calls with
  | .lost meanwhile => (false, s'.exec localtime meanwhile)
  | .handled before t after answered =>
    let s' := s'.exec localtime before
    if ¬ HasHostname info ∨ t ∈ s'.process.service.reports then (false, s')
    else
      (answered,
        s'.exec localtime ([.service (.receive t info), .service (.check t)] ++ after))

/-- A process that has just started. -/
def start (stored : Database collate) : Site collate where
  process := ManagerProcess.start stored

end Site

/-- If the action is one of the write thread, MySQL does what it is asked to. -/
def Healthy : ProcessAction → Prop
  | .writer (.connect ok) | .writer (.write ok) => ∀ n, ok n = true
  | _ => True

/-- MySQL does what it is asked to while a call is made. -/
def CallOutcome.Healthy : CallOutcome → Prop
  | lost meanwhile => ∀ a ∈ meanwhile, Monitor.Healthy a
  | handled before _ after _ => (∀ a ∈ before, Monitor.Healthy a) ∧ ∀ a ∈ after, Monitor.Healthy a

namespace Site

variable {γ : Type} [DecidableEq γ] {collate : List UInt8 → γ} {localtime : ℤ → Tm}
  {stored : Database collate} {s : Site collate}

/-- The process has come to where it is by a run in which MySQL did what it was asked to, and the
last sequences were accepted in it. -/
structure Reached (localtime : ℤ → Tm) (stored : Database collate) (s : Site collate) : Prop where
  run : ∃ as, (∀ a ∈ as, Healthy a) ∧
    (managerProcess localtime).run (ManagerProcess.start stored) as = some (s.process, s.shown)
  last : ∀ host seq, s.process.service.manager.lastSequences.lookup host = some seq →
    (host, seq) ∈ acceptedKeys (serviceEvents s.shown)

/-- The sample has been accepted. -/
def Accepted (s : Site collate) (info : MonitorInfo) : Prop :=
  (hostName info, info.sequence) ∈ acceptedKeys (serviceEvents s.shown)

lemma reached_start : (start stored).Reached localtime stored :=
  ⟨⟨[], by simp, rfl⟩, fun _ _ h => by cases h⟩

/-- One section keeps what is known. -/
lemma Reached.act (h : s.Reached localtime stored) {a : ProcessAction} (ha : Healthy a) :
    (s.act localtime a).Reached localtime stored ∧
      ∀ info, s.Accepted info → (s.act localtime a).Accepted info := by
  unfold Site.act
  cases hstep : (managerProcess localtime).step s.process a with
  | none => exact ⟨h, fun _ hinfo => hinfo⟩
  | some p =>
    obtain ⟨process, es⟩ := p
    obtain ⟨as, has, hrun⟩ := h.run
    refine ⟨⟨⟨as ++ [a], ?_, ?_⟩, fun host seq hseq => ?_⟩, fun info hinfo => ?_⟩
    · intro b hb
      rcases List.mem_append.mp hb with hb | hb
      · exact has b hb
      · rw [List.mem_singleton.mp hb]
        exact ha
    · exact (managerProcess localtime).run_append hrun
        (((managerProcess localtime).run_singleton _ _).trans hstep)
    · dsimp only at hseq ⊢
      rw [serviceEvents_append, acceptedKeys_append, List.mem_append]
      rcases ManagerProcess.step_cases hstep with ⟨b, service, gs, rfl, hb, rfl, rfl⟩ |
        ⟨b, w, gs, rfl, -, hb, rfl, rfl⟩
      · rw [serviceEvents_map_service]
        exact (hb.lastSequences hseq).imp_left (h.last host seq)
      · refine Or.inl (h.last host seq ?_)
        rw [← hseq]
        exact congrArg (AList.lookup host) hb.lastSequences.symm
    · unfold Accepted at hinfo ⊢
      rw [serviceEvents_append, acceptedKeys_append]
      exact List.mem_append_left _ hinfo

/-- So do several. -/
lemma Reached.exec (h : s.Reached localtime stored) {as : List ProcessAction}
    (has : ∀ a ∈ as, Healthy a) :
    (s.exec localtime as).Reached localtime stored ∧
      ∀ info, s.Accepted info → (s.exec localtime as).Accepted info := by
  induction as generalizing s with
  | nil => exact ⟨h, fun _ hinfo => hinfo⟩
  | cons a as ih =>
    obtain ⟨hone, haccepted⟩ := h.act (has a List.mem_cons_self)
    obtain ⟨hrest, haccepted'⟩ := ih hone fun b hb => has b (List.mem_cons_of_mem a hb)
    exact ⟨hrest, fun info hinfo => haccepted' info (haccepted info hinfo)⟩

lemma act_of_step {a : ProcessAction} {process : ManagerProcess collate} {es : List ProcessEvent}
    (h : (managerProcess localtime).step s.process a = some (process, es)) :
    s.act localtime a = { s with process := process, shown := s.shown ++ es } := by
  unfold Site.act
  rw [h]

/-- **A call that is handled**: its sample is accepted, or was accepted before. -/
lemma accepted_check (h : s.Reached localtime stored) {info : MonitorInfo} {t : ℕ}
    (hname : hostName info ≠ "") (ht : t ∉ s.process.service.reports) :
    (s.exec localtime [.service (.receive t info), .service (.check t)]).Accepted info := by
  have hreceive : s.act localtime (.service (.receive t info)) = _ :=
    act_of_step (ManagerProcess.step_service (.receive t info ht))
  have hlookup : (s.process.service.reports.insert t (.received info)).lookup t =
      some (.received info) := AList.lookup_insert _
  cases hd : s.process.service.manager.checkDuplicate (hostName info) info.sequence with
  | none =>
    have hlast := (HostManager.checkDuplicate_eq_none_iff.mp hd).2
    exact (h.exec (by simp [Healthy])).2 info (h.last _ _ hlast)
  | some m =>
    have hcheck : (managerProcess localtime).step
        (s.act localtime (.service (.receive t info))).process (.service (.check t)) = _ :=
      ManagerProcess.step_service (.checkAccept t ⟨info, hname⟩ m
        (by rw [hreceive]; exact hlookup) (by rw [hreceive]; exact hd))
    show ((s.act localtime _).act localtime _).Accepted info
    rw [act_of_step hcheck]
    unfold Accepted
    rw [serviceEvents_append, serviceEvents_map_service, acceptedKeys_append]
    exact List.mem_append_right _ (by simp [acceptedKeys, NamedReport.host])

/-- What a call makes sure of. -/
lemma makesSure_pushData {pattern : ℕ → CallOutcome} (hhealthy : ∀ n, (pattern n).Healthy) :
    Worker.MakesSure (pushData localtime pattern) (Reached localtime stored)
      fun (s : Site collate) info => hostName info ≠ "" ∧ s.Accepted info := by
  have hcall : ∀ (s : Site collate) (y : MonitorInfo), s.Reached localtime stored →
      (s.pushData localtime pattern y).2.Reached localtime stored ∧
        (∀ x, s.Accepted x → (s.pushData localtime pattern y).2.Accepted x) ∧
        ((s.pushData localtime pattern y).1 = true →
          hostName y ≠ "" ∧ (s.pushData localtime pattern y).2.Accepted y) := by
    intro s y hs
    have hcounted : ({ s with calls := s.calls + 1 } : Site collate).Reached localtime stored :=
      ⟨hs.run, hs.last⟩
    have hn := hhealthy s.calls
    unfold pushData
    cases hout : pattern s.calls with
    | lost meanwhile =>
      rw [hout] at hn
      obtain ⟨hafter, hkept⟩ := hcounted.exec hn
      exact ⟨hafter, hkept, by simp⟩
    | handled before t after answered =>
      rw [hout] at hn
      obtain ⟨hbefore, hkept⟩ := hcounted.exec hn.1
      dsimp only
      split_ifs with hrefused
      · exact ⟨hbefore, hkept, by simp⟩
      · obtain ⟨hnamed, ht⟩ := not_or.mp hrefused
        have hname := (not_not.mp hnamed).hostName_ne
        have hcalls : ∀ a ∈ ([.service (.receive t y), .service (.check t)] :
            List ProcessAction), Healthy a := by simp [Healthy]
        obtain ⟨hchecked, hkept'⟩ := hbefore.exec hcalls
        obtain ⟨hafter, hkept''⟩ := hchecked.exec hn.2
        unfold exec
        rw [List.foldl_append]
        exact ⟨hafter, fun x hx => hkept'' x (hkept' x (hkept x hx)),
          fun _ => ⟨hname, hkept'' y (accepted_check hbefore hname ht)⟩⟩
  exact
    { keep := fun e y he => (hcall e y he).1
      mono := fun e y x he hx => ⟨hx.1, (hcall e y he).2.1 x hx.2⟩
      known := fun e x he hok => (hcall e x he).2.2 hok }

/-! ## The rows -/

variable (localtime) in
/-- The key of the main row of a committed task is taken. -/
lemma mem_keys_foldl_insertTask {tasks : List MysqlWriteTask} {task : MysqlWriteTask}
    (htask : task ∈ tasks) (d : Database collate) :
    historyKey collate task ∈
      (tasks.foldl (fun d task => d.insertTask localtime task) d).performance.keys := by
  have hrows : ∀ (tasks : List MysqlWriteTask) (d : Database collate),
      (tasks.foldl (fun d task => d.insertTask localtime task) d).performance =
        d.performance.insertAll (tasks.map (performanceRow localtime)) := by
    intro tasks
    induction tasks with
    | nil => exact fun d => rfl
    | cons task tasks ih => exact fun d => ih _
  rw [hrows]
  refine KeyedTable.mem_keys_insertAll.mpr (Or.inr ?_)
  rw [List.map_map]
  exact List.mem_map.mpr ⟨task, htask, rfl⟩

/-- **Where every delivered sample is.** A worker pushes samples to the manager process, whose other
threads do whatever they can in between, and MySQL does what it is asked to. Then every sample that
`PushData` has returned true for, at once or when it was replayed, has a main row under its key, or
is on its way to it: in a call in progress, in the queue, or in the hands of the write thread. -/
theorem delivered_stored {pattern : ℕ → CallOutcome} (hhealthy : ∀ n, (pattern n).Healthy)
    {hostname : String} {seed : ℕ} {ms : List MonitorInfo} {w : Worker (Site collate)}
    {es : List WorkerEvent}
    (hrun : (worker (pushData localtime pattern)).run
      (Worker.start hostname seed (start stored)) ms = some (w, es)) :
    ∀ x ∈ delivered es,
      (hostName x, x.sequence) ∈ w.world.process.service.inProgress ++
        (w.world.process.service.manager.mysqlWriteQueue ++
          w.world.process.phase.current).map taskKey ∨
      hostSeqKey collate (hostName x) x.sequence ∈
        w.world.process.session.stored.performance.keys := by
  obtain ⟨hreached, hknown⟩ :=
    Worker.run_delivered (makesSure_pushData hhealthy) reached_start hrun
  intro x hx
  obtain ⟨as, has, hprocess⟩ := hreached.run
  obtain ⟨dropped, hperm, hdropped⟩ := ManagerProcess.run_accepted hprocess
  have hsession := ManagerProcess.run_session hprocess
  have hnone : dropped = [] := by
    refine hdropped.mpr (EventMachine.meets_of_forall fun a ha t => ?_)
    have hhealth := has a ha
    cases a with
    | service b => trivial
    | writer b =>
      cases b with
      | connect ok => exact fun n _ => hhealth n
      | write ok => exact fun task _ n _ => hhealth n
      | _ => trivial
  have hmem := hperm.mem_iff.mp (hknown x hx).2
  rw [hnone, List.append_nil, List.map_append, ← List.append_assoc, List.mem_append] at hmem
  refine hmem.imp_right fun hcommitted => ?_
  obtain ⟨task, htask, hkey⟩ := List.mem_map.mp hcommitted
  rw [hsession]
  have hstored := mem_keys_foldl_insertTask localtime htask stored
  have hsame : historyKey collate task = hostSeqKey collate (hostName x) x.sequence := by
    obtain ⟨hhost, hseq⟩ := Prod.ext_iff.mp hkey
    exact congrArg₂ (hostSeqKey collate) hhost hseq
  rwa [hsame] at hstored

/-! ## A replayed sample -/

/-- The first call is handled and its answer is lost; while the second is made, which replays the
first sample, that sample is written; the third call is lost. -/
def replayedSample : ℕ → CallOutcome
  | 0 => .handled [] 0 [] false
  | 1 =>
    .handled
      ([.service (.score 0), .service (.sample 0), .service (.store 0),
        .service (.pick 0 .stored), .service (.enqueue 0), .writer .take,
        .writer (.connect fun _ => true), .writer (.write fun _ => true)])
      1 [] true
  | _ => .lost []

lemma healthy_replayedSample (n : ℕ) : (replayedSample n).Healthy := by
  match n with
  | 0 => simp [replayedSample, CallOutcome.Healthy]
  | 1 => simp [replayedSample, CallOutcome.Healthy, Monitor.Healthy]
  | _ + 2 => simp [replayedSample, CallOutcome.Healthy]

/-- The worker whose first sample is handled twice. -/
def replaying : Option (Worker (Site (id : List UInt8 → List UInt8)) × List WorkerEvent) :=
  (worker (pushData epoch replayedSample)).run
    (Worker.start "a" 0 (start (.empty (id : List UInt8 → List UInt8)))) [{}, {}]

/-- The sample has a row. -/
theorem delivered_stored_replayed : ∃ w es, replaying = some (w, es) ∧
    (delivered es).map (fun x => x.sequence) = [1] ∧
    ∀ x ∈ delivered es,
      (hostName x, x.sequence) ∈ w.world.process.service.inProgress ++
        (w.world.process.service.manager.mysqlWriteQueue ++
          w.world.process.phase.current).map taskKey ∨
      hostSeqKey (id : List UInt8 → List UInt8) (hostName x) x.sequence ∈
        w.world.process.session.stored.performance.keys := by
  have hend : replaying.map (fun p => (delivered p.2).map (fun x => x.sequence)) = some [1] := by
    decide +kernel
  obtain ⟨⟨w, es⟩, hrun, hdelivered⟩ := Option.map_eq_some_iff.mp hend
  exact ⟨w, es, hrun, hdelivered, delivered_stored healthy_replayedSample hrun⟩

end Site

end Monitor
