import PerfMonitor.Manager.History
import PerfMonitor.Manager.WriteAtomicity

set_option relaxedAutoImplicit false
set_option autoImplicit false

/-!
# From the reports to the tables

All threads of the manager process (`manager/src/host_manager.cpp`) at once: any number of
`OnDataReceived` and `QueryBestHost` calls in progress and the cleanup thread, as in
`Monitor.service`, with the MySQL write thread, as in `Monitor.mysqlWriteLoop`, on the same memory.
A report that passes the duplicate check is followed through the sections of its call, the queue and
the hands of the write thread into the tables.

## Main definitions

* `Monitor.ManagerProcess`, `Monitor.managerProcess` — the process as an event machine.
* `Monitor.Service.inProgress`, `Monitor.taskKey` — the accepted reports on their way, by host and
  sequence.

## Main results

* `Monitor.ManagerProcess.run_writer` — the write thread of a run is a run of the write thread.
* `Monitor.ManagerProcess.accepted_accounted` — where every accepted report is.
-/

namespace Monitor

/-! ## Reports on their way to the queue -/

/-- The host and the sequence number of a report that has passed the duplicate check. -/
def ReportState.key : ReportState → Option (String × ℕ)
  | received _ => none
  | checked r | scored r _ | sampled r _ _ => some (r.host, r.info.sequence)
  | stored task | picked task => some (task.hostName, task.hostScore.info.sequence)

/-- The host and the sequence number of a task's report. -/
def taskKey (task : MysqlWriteTask) : String × ℕ :=
  (task.hostName, task.hostScore.info.sequence)

/-- The reports that have passed the duplicate check. -/
def acceptedKeys (es : List ServiceEvent) : List (String × ℕ) :=
  es.filterMap fun
    | .accepted host seq => some (host, seq)
    | _ => none

lemma acceptedKeys_append (es fs : List ServiceEvent) :
    acceptedKeys (es ++ fs) = acceptedKeys es ++ acceptedKeys fs := List.filterMap_append

namespace Service

/-- The accepted reports whose calls have not enqueued their task yet. -/
def inProgress (s : Service) : List (String × ℕ) := s.reports.entries.filterMap fun e => e.2.key

variable {s s' : Service} {a : ServiceAction} {es : List ServiceEvent} {t : ℕ} {x y : ReportState}

/-- The calls but one. -/
def others (s : Service) (t : ℕ) : List (String × ℕ) :=
  (s.reports.erase t).entries.filterMap fun e => e.2.key

lemma inProgress_of_lookup (h : s.reports.lookup t = some x) :
    s.inProgress.Perm (x.key.toList ++ s.others t) := by
  refine ((UnorderedMap.perm_entries_of_lookup h).filterMap _).trans (.of_eq ?_)
  cases hx : x.key <;> simp [hx, others]

lemma inProgress_of_notMem (h : t ∉ s.reports) : s.inProgress = s.others t := by
  rw [inProgress, others, UnorderedMap.erase_of_lookup_none (AList.lookup_eq_none.mpr h)]

lemma inProgress_insert (s : Service) (m : HostManager) (t : ℕ) (y : ReportState) :
    ({ s with manager := m, reports := s.reports.insert t y } : Service).inProgress =
      y.key.toList ++ s.others t := by
  have herase : (s.reports.erase t).entries = s.reports.entries.kerase t := rfl
  unfold inProgress others
  rw [AList.entries_insert, herase]
  cases hy : y.key <;> simp [hy]

lemma inProgress_erase (s : Service) (m : HostManager) (t : ℕ) :
    ({ s with manager := m, reports := s.reports.erase t } : Service).inProgress = s.others t := rfl

/-- **The step of a call.** What a section accepts is in progress afterwards, and what is in
progress stays so until its task is in the queue. -/
lemma Step.accounted (h : Step s a s' es) :
    ∃ tasks, s'.manager.mysqlWriteQueue = s.manager.mysqlWriteQueue ++ tasks ∧
      (acceptedKeys es ++ s.inProgress).Perm (s'.inProgress ++ tasks.map taskKey) := by
  cases h with
  | receive t info ht =>
    refine ⟨[], (List.append_nil _).symm, .of_eq ?_⟩
    rw [inProgress_insert s s.manager, inProgress_of_notMem ht]
    simp [acceptedKeys, ReportState.key]
  | checkUnnamed t info ht hn =>
    refine ⟨[], (List.append_nil _).symm, ?_⟩
    rw [inProgress_erase s s.manager]
    simpa [acceptedKeys, ReportState.key] using inProgress_of_lookup ht
  | checkDuplicate t r ht hd =>
    refine ⟨[], (List.append_nil _).symm, ?_⟩
    rw [inProgress_erase s s.manager]
    simpa [acceptedKeys, ReportState.key] using inProgress_of_lookup ht
  | checkAccept t r m ht hd =>
    obtain ⟨-, rfl⟩ := HostManager.checkDuplicate_eq_some_iff.mp hd
    refine ⟨[], (List.append_nil _).symm, ?_⟩
    rw [inProgress_insert]
    have hrest : s.inProgress.Perm (s.others t) := inProgress_of_lookup ht
    simpa [acceptedKeys, ReportState.key] using hrest.cons (r.host, r.info.sequence)
  | score t r ht =>
    refine ⟨[], (List.append_nil _).symm, ?_⟩
    rw [inProgress_insert s s.manager]
    simpa [acceptedKeys, ReportState.key] using inProgress_of_lookup ht
  | sample t r now ht =>
    refine ⟨[], (List.append_nil _).symm, ?_⟩
    rw [inProgress_insert]
    simpa [acceptedKeys, ReportState.key] using inProgress_of_lookup ht
  | store t r now rates ht =>
    refine ⟨[], (List.append_nil _).symm, ?_⟩
    rw [inProgress_insert]
    simpa [acceptedKeys, ReportState.key, HostManager.writeTask, NamedReport.hostScore] using
      inProgress_of_lookup ht
  | pick t ord task ht =>
    refine ⟨[], by simp, ?_⟩
    rw [inProgress_insert]
    simpa [acceptedKeys, ReportState.key] using inProgress_of_lookup ht
  | enqueue t task ht =>
    refine ⟨[task], rfl, ?_⟩
    rw [inProgress_erase]
    have hrest : s.inProgress.Perm (s.others t ++ [taskKey task]) :=
      (inProgress_of_lookup ht).trans List.perm_append_comm
    simpa [acceptedKeys, taskKey] using hrest
  | selectNone q ord hq hb => exact ⟨[], by simp, by simp [acceptedKeys, inProgress]⟩
  | select q ord hq hb => exact ⟨[], by simp, by simp [acceptedKeys, inProgress]⟩
  | respond q best hq => exact ⟨[], by simp, by simp [acceptedKeys, inProgress]⟩
  | cleanup now hnow => exact ⟨[], by simp, by simp [acceptedKeys, inProgress]⟩
  | tick d => exact ⟨[], by simp, by simp [acceptedKeys, inProgress]⟩

end Service

/-! ## The process -/

/-- The calls on the manager and the write thread, which share the manager's memory. -/
structure ManagerProcess {γ : Type} [DecidableEq γ] (collate : List UInt8 → γ) where
  service : Service := {}
  running : Bool := true
  phase : WriterPhase := .waiting
  connected : Bool := false
  session : Session (Database collate)

/-- A section of a call or of the cleanup thread, or of the write thread or `Stop`. -/
inductive ProcessAction where
  | service (a : ServiceAction)
  | writer (a : WriterAction)

inductive ProcessEvent where
  | service (e : ServiceEvent)
  | writer (e : WriterEvent)

namespace ManagerProcess

variable {γ : Type} [DecidableEq γ] {collate : List UInt8 → γ} (localtime : ℤ → Tm)

/-- The write thread with the memory it sees. -/
def toWriter (s : ManagerProcess collate) : MysqlWriter collate where
  manager := s.service.manager
  running := s.running
  phase := s.phase
  connected := s.connected
  session := s.session

/-- The process with what the write thread has made of its memory. -/
def withWriter (s : ManagerProcess collate) (w : MysqlWriter collate) : ManagerProcess collate where
  service := { s.service with manager := w.manager }
  running := w.running
  phase := w.phase
  connected := w.connected
  session := w.session

/-- One section. Tasks are enqueued by `OnDataReceived` only. -/
def step (s : ManagerProcess collate) :
    ProcessAction → Option (ManagerProcess collate × List ProcessEvent)
  | .service a =>
    (s.service.step a).map fun (service, es) => ({ s with service := service }, es.map .service)
  | .writer (.enqueue _) => none
  | .writer a =>
    (s.toWriter.step localtime a).map fun (w, es) => (s.withWriter w, es.map .writer)

/-- The process as it starts, on the tables it finds. -/
def start (stored : Database collate) : ManagerProcess collate where
  session := ⟨stored, none⟩

end ManagerProcess

/-- The threads of the manager process. -/
def managerProcess {γ : Type} [DecidableEq γ] {collate : List UInt8 → γ} (localtime : ℤ → Tm) :
    EventMachine (ManagerProcess collate) ProcessAction ProcessEvent where
  step := ManagerProcess.step localtime

/-- What the calls show. -/
def serviceEvents (es : List ProcessEvent) : List ServiceEvent :=
  es.filterMap fun
    | .service e => some e
    | .writer _ => none

/-- What the write thread shows. -/
def writerEvents (es : List ProcessEvent) : List WriterEvent :=
  es.filterMap fun
    | .service _ => none
    | .writer e => some e

section Events

variable (es fs : List ProcessEvent) (ss : List ServiceEvent) (ws : List WriterEvent)

lemma serviceEvents_append : serviceEvents (es ++ fs) = serviceEvents es ++ serviceEvents fs :=
  List.filterMap_append

lemma writerEvents_append : writerEvents (es ++ fs) = writerEvents es ++ writerEvents fs :=
  List.filterMap_append

@[simp] lemma serviceEvents_map_service : serviceEvents (ss.map .service) = ss := by
  simp [serviceEvents, List.filterMap_map]

@[simp] lemma serviceEvents_map_writer : serviceEvents (ws.map .writer) = [] := by
  simp [serviceEvents, List.filterMap_map]

@[simp] lemma writerEvents_map_service : writerEvents (ss.map .service) = [] := by
  simp [writerEvents, List.filterMap_map]

@[simp] lemma writerEvents_map_writer : writerEvents (ws.map .writer) = ws := by
  simp [writerEvents, List.filterMap_map]

end Events

namespace ManagerProcess

variable {γ : Type} [DecidableEq γ] {collate : List UInt8 → γ} {localtime : ℤ → Tm}
  {s s' : ManagerProcess collate} {a : ProcessAction} {as : List ProcessAction}
  {es : List ProcessEvent} {stored : Database collate}

lemma step_service {b : ServiceAction} {service : Service} {fs : List ServiceEvent}
    (h : Service.Step s.service b service fs) :
    (managerProcess localtime).step s (.service b) =
      some ({ s with service := service }, fs.map .service) := by
  show s.step localtime (.service b) = _
  simp only [step, Service.step_iff.mpr h, Option.map_some]

lemma step_writer {b : WriterAction} (hb : ∀ task, b ≠ .enqueue task) :
    s.step localtime (.writer b) =
      (s.toWriter.step localtime b).map fun (w, es) => (s.withWriter w, es.map .writer) := by
  cases b with
  | enqueue task => exact absurd rfl (hb task)
  | _ => rfl

/-- What a step can do. -/
lemma step_cases (h : (managerProcess localtime).step s a = some (s', es)) :
    (∃ b service fs, a = .service b ∧ Service.Step s.service b service fs ∧
      s' = { s with service := service } ∧ es = fs.map .service) ∨
    (∃ b w fs, a = .writer b ∧ (∀ task, b ≠ .enqueue task) ∧
      MysqlWriter.Step localtime s.toWriter b w fs ∧ s' = s.withWriter w ∧
      es = fs.map .writer) := by
  change s.step localtime a = _ at h
  cases a with
  | service b =>
    obtain ⟨⟨service, fs⟩, hstep, heq⟩ := Option.map_eq_some_iff.mp h
    cases heq
    exact Or.inl ⟨b, service, fs, rfl, Service.step_iff.mp hstep, rfl, rfl⟩
  | writer b =>
    have hb : ∀ task, b ≠ .enqueue task := by
      rintro task rfl
      cases h
    rw [step_writer hb] at h
    obtain ⟨⟨w, fs⟩, hstep, heq⟩ := Option.map_eq_some_iff.mp h
    cases heq
    exact Or.inr ⟨b, w, fs, rfl, hb, MysqlWriter.step_iff.mp hstep, rfl, rfl⟩

/-! ## The write thread of a run -/

/-- Every call that the write thread makes to MySQL in a step succeeds. -/
def CallsSucceed (s : ManagerProcess collate) : ProcessAction → Prop
  | .service _ => True
  | .writer b => s.toWriter.CallsSucceed b

/-- The write thread on its own has the same queue and has come as far. -/
structure Follows (u : MysqlWriter collate) (s : ManagerProcess collate) : Prop where
  queue : u.manager.mysqlWriteQueue = s.service.manager.mysqlWriteQueue
  running : u.running = s.running
  phase : u.phase = s.phase
  connected : u.connected = s.connected
  session : u.session = s.session

/-- The write thread reads nothing of the manager's memory but the queue. -/
lemma Follows.step {u : MysqlWriter collate} {b : WriterAction} {w : MysqlWriter collate}
    {fs : List WriterEvent} (h : Follows u s) (hb : ∀ task, b ≠ .enqueue task)
    (hstep : MysqlWriter.Step localtime s.toWriter b w fs) :
    ∃ u', MysqlWriter.Step localtime u b u' fs ∧ Follows u' (s.withWriter w) := by
  cases hstep with
  | enqueue task => exact absurd rfl (hb task)
  | stop => exact ⟨_, .stop, h.queue, rfl, h.phase, h.connected, h.session⟩
  | take task rest hphase hqueue =>
    exact ⟨_, .take task rest (h.phase.trans hphase) (h.queue.trans hqueue), rfl, h.running, rfl,
      h.connected, h.session⟩
  | exit hphase hstop hqueue =>
    exact ⟨_, .exit (h.phase.trans hphase) (h.running.trans hstop) (h.queue.trans hqueue), h.queue,
      h.running, rfl, rfl, congrArg Session.rollback h.session⟩
  | connect ok task hphase hconn hok =>
    exact ⟨_, .connect ok task (h.phase.trans hphase) (h.connected.trans hconn) hok, h.queue,
      h.running, h.phase, rfl, h.session⟩
  | connectFailed ok task hphase hconn hok =>
    exact ⟨_, .connectFailed ok task (h.phase.trans hphase) (h.connected.trans hconn) hok, h.queue,
      h.running, rfl, h.connected, h.session⟩
  | write ok task hphase hconn hok =>
    have hsame : writeToMysql localtime ok task u.session =
        writeToMysql localtime ok task s.toWriter.session := by
      rw [h.session]
      rfl
    exact ⟨_, .write ok task (h.phase.trans hphase) (h.connected.trans hconn)
      (by rw [hsame]; exact hok), h.queue, h.running, rfl, h.connected, congrArg Prod.snd hsame⟩
  | writeFailed ok task hphase hconn hok =>
    have hsame : writeToMysql localtime ok task u.session =
        writeToMysql localtime ok task s.toWriter.session := by
      rw [h.session]
      rfl
    exact ⟨_, .writeFailed ok task (h.phase.trans hphase) (h.connected.trans hconn)
      (by rw [hsame]; exact hok), h.queue, h.running, rfl, rfl,
      congrArg (fun p => p.2.rollback) hsame⟩

lemma Follows.callsSucceed {u : MysqlWriter collate} (h : Follows u s) (b : WriterAction) :
    u.CallsSucceed b ↔ s.toWriter.CallsSucceed b := by
  cases b with
  | write ok =>
    unfold MysqlWriter.CallsSucceed
    rw [h.phase]
    rfl
  | _ => rfl

variable (localtime) in
/-- The write thread while others enqueue tasks. -/
lemma run_enqueue (u : MysqlWriter collate) (tasks : List MysqlWriteTask) :
    ∃ u', (mysqlWriteLoop localtime).run u (tasks.map .enqueue) = some (u', []) ∧
      u'.manager.mysqlWriteQueue = u.manager.mysqlWriteQueue ++ tasks ∧ u'.running = u.running ∧
      u'.phase = u.phase ∧ u'.connected = u.connected ∧ u'.session = u.session := by
  induction tasks generalizing u with
  | nil => exact ⟨u, rfl, (List.append_nil _).symm, rfl, rfl, rfl, rfl⟩
  | cons task tasks ih =>
    obtain ⟨u', hrun, hqueue, hrest⟩ := ih { u with manager := u.manager.enqueueMysqlWrite task }
    have hstep : (mysqlWriteLoop localtime).step u (.enqueue task) =
        some ({ u with manager := u.manager.enqueueMysqlWrite task }, []) := rfl
    refine ⟨u', (mysqlWriteLoop localtime).run_cons hstep hrun, hqueue.trans ?_, hrest⟩
    exact List.append_assoc _ [task] tasks

/-- What a run of the process and a run of the write thread on its own have in common. -/
structure Shadows (localtime : ℤ → Tm) (stored : Database collate) (as : List ProcessAction)
    (s : ManagerProcess collate) (es : List ProcessEvent) (bs : List WriterAction)
    (u : MysqlWriter collate) : Prop where
  run : (mysqlWriteLoop localtime).run (MysqlWriter.start {} stored) bs = some (u, writerEvents es)
  follows : Follows u s
  meets : (mysqlWriteLoop localtime).Meets MysqlWriter.CallsSucceed (MysqlWriter.start {} stored)
      bs ↔ (managerProcess localtime).Meets CallsSucceed (start stored) as
  accounted : (acceptedKeys (serviceEvents es)).Perm
    (s.service.inProgress ++ (MysqlWriter.enqueuedTasks bs).map taskKey)

/-- **The write thread of a run is a run of the write thread**, and the tasks that the others
enqueue meanwhile are those of the accepted reports.

**Proof sketch.** By induction on the run. A section of a call enqueues what
`Service.Step.accounted` says; a section of the write thread reads and writes the queue alone of
what it shares. -/
theorem run_writer (hrun : (managerProcess localtime).run (start stored) as = some (s, es)) :
    ∃ bs u, Shadows localtime stored as s es bs u := by
  refine (managerProcess localtime).run_induction
    (P := fun as s es => ∃ bs u, Shadows localtime stored as s es bs u) ?_ ?_ hrun
  · exact ⟨[], _, rfl, ⟨rfl, rfl, rfl, rfl, rfl⟩,
      iff_of_true (EventMachine.meets_nil _ _) (EventMachine.meets_nil _ _), .refl _⟩
  · rintro as s es a s' fs has ⟨bs, u, hu⟩ hstep
    rcases step_cases hstep with ⟨b, service, gs, rfl, hb, rfl, rfl⟩ |
      ⟨b, w, gs, rfl, henq, hb, rfl, rfl⟩
    · obtain ⟨tasks, hqueue, hperm⟩ := hb.accounted
      obtain ⟨u', hrun', hqueue', hrunning, hphase, hconn, hsession⟩ :=
        run_enqueue localtime u tasks
      have hwriter : writerEvents (es ++ gs.map .service) = writerEvents es := by
        rw [writerEvents_append, writerEvents_map_service, List.append_nil]
      refine ⟨bs ++ tasks.map .enqueue, u', ?_, ?_, ?_, ?_⟩
      · have hboth := (mysqlWriteLoop localtime).run_append hu.run hrun'
        rwa [List.append_nil, ← hwriter] at hboth
      · exact ⟨by rw [hqueue', hu.follows.queue, hqueue], hrunning.trans hu.follows.running,
          hphase.trans hu.follows.phase, hconn.trans hu.follows.connected,
          hsession.trans hu.follows.session⟩
      · rw [EventMachine.meets_concat_iff has, ← hu.meets]
        refine ⟨fun h => ⟨h.of_append, trivial⟩, fun h => EventMachine.meets_append h.1 ?_⟩
        refine fun t fs _ => EventMachine.meets_of_forall fun b hb v => ?_
        obtain ⟨task, -, rfl⟩ := List.mem_map.mp hb
        trivial
      · have henqueued : MysqlWriter.enqueuedTasks (bs ++ tasks.map .enqueue) =
            MysqlWriter.enqueuedTasks bs ++ tasks := by
          simp [MysqlWriter.enqueuedTasks, List.filterMap_append, List.filterMap_map]
        rw [serviceEvents_append, serviceEvents_map_service, acceptedKeys_append, henqueued,
          List.map_append]
        refine List.perm_iff_count.mpr fun x => ?_
        have hx := hu.accounted.count_eq x
        have hy := hperm.count_eq x
        simp only [List.count_append] at hx hy ⊢
        omega
    · obtain ⟨u', hu', hfollows⟩ := hu.follows.step henq hb
      have hone := (mysqlWriteLoop localtime).run_append hu.run
        (((mysqlWriteLoop localtime).run_singleton u b).trans
          (MysqlWriter.mysqlWriteLoop_step_iff.mpr hu'))
      refine ⟨bs ++ [b], u', ?_, hfollows, ?_, ?_⟩
      · rwa [writerEvents_append, writerEvents_map_writer]
      · rw [EventMachine.meets_concat_iff has, EventMachine.meets_concat_iff hu.run, hu.meets,
          hu.follows.callsSucceed]
        rfl
      · have henqueued : MysqlWriter.enqueuedTasks (bs ++ [b]) = MysqlWriter.enqueuedTasks bs := by
          cases b with
          | enqueue task => exact absurd rfl (henq task)
          | _ => simp [MysqlWriter.enqueuedTasks]
        rw [serviceEvents_append, serviceEvents_map_writer, List.append_nil, henqueued]
        exact hu.accounted

/-! ## Where every report is -/

/-- The reports that have passed the duplicate check. None is dropped exactly when every call to
MySQL succeeded. -/
lemma run_accepted (hrun : (managerProcess localtime).run (start stored) as = some (s, es)) :
    ∃ dropped,
      (acceptedKeys (serviceEvents es)).Perm (s.service.inProgress ++
        (s.service.manager.mysqlWriteQueue ++ s.phase.current ++
          committedTasks (writerEvents es) ++ dropped).map taskKey) ∧
      (dropped = [] ↔ (managerProcess localtime).Meets CallsSucceed (start stored) as) := by
  obtain ⟨bs, u, hu⟩ := run_writer hrun
  obtain ⟨dropped, hperm, hmeets⟩ := MysqlWriter.run_dropped hu.run
  have htaken := MysqlWriter.run_taken hu.run
  refine ⟨dropped, ?_, hmeets.trans hu.meets⟩
  refine hu.accounted.trans (List.Perm.append_left _ (List.Perm.map _ ?_))
  have hqueue : ({} : HostManager).mysqlWriteQueue = [] := rfl
  rw [hqueue, List.nil_append] at htaken
  rw [← htaken, ← hu.follows.queue, ← hu.follows.phase]
  refine List.perm_iff_count.mpr fun x => ?_
  have hx := hperm.count_eq x
  simp only [List.count_append] at hx ⊢
  omega

/-- The tables are the insertions of the committed tasks. -/
lemma run_session (hrun : (managerProcess localtime).run (start stored) as = some (s, es)) :
    s.session = ⟨(committedTasks (writerEvents es)).foldl
      (fun d task => d.insertTask localtime task) stored, none⟩ := by
  obtain ⟨bs, u, hu⟩ := run_writer hrun
  rw [← hu.follows.session, MysqlWriter.run_session hu.run]

/-- **Where every accepted report is.** However the sections of the calls, the cleanup thread and
the write thread interleave, and whichever calls to MySQL fail: the reports that have passed the
duplicate check are, each exactly once, in progress in their call, in the queue, in the hands of the
write thread, committed, or dropped; none is dropped exactly when every call to MySQL succeeded; and
the tables are what the insertions of the committed tasks, in order, make of the tables at the
start. -/
theorem accepted_accounted
    (hrun : (managerProcess localtime).run (start stored) as = some (s, es)) :
    (∃ dropped,
      (acceptedKeys (serviceEvents es)).Perm (s.service.inProgress ++
        (s.service.manager.mysqlWriteQueue ++ s.phase.current ++
          committedTasks (writerEvents es) ++ dropped).map taskKey) ∧
      (dropped = [] ↔ (managerProcess localtime).Meets CallsSucceed (start stored) as)) ∧
    s.session = ⟨(committedTasks (writerEvents es)).foldl
      (fun d task => d.insertTask localtime task) stored, none⟩ :=
  ⟨run_accepted hrun, run_session hrun⟩

/-! ## Three reports -/

/-- The first report is written; the second one is taken while the third one is in its call, and a
call of its write fails. -/
def failingWrite : List ProcessAction :=
  (Service.reportActions 0 (idleInfo "a" 1) .stored).map .service ++
    [.writer .take, .writer (.connect fun _ => true)] ++
    (Service.reportActions 0 (busyInfo "b" 1) .stored).map .service ++
    [.writer (.write fun _ => true), .service (.receive 0 (idleInfo "a" 2)), .writer .take,
      .service (.check 0), .writer (.write fun n => n != 1), .service (.score 0)]

/-- One report is committed, one is dropped, and one is in progress. -/
theorem accepted_accounted_failing_write : ∃ s es, ∃ dropped : List MysqlWriteTask,
    (managerProcess epoch).run (start (.empty (id : List UInt8 → List UInt8))) failingWrite =
        some (s, es) ∧
      acceptedKeys (serviceEvents es) = [("a", 1), ("b", 1), ("a", 2)] ∧
      s.service.inProgress = [("a", 2)] ∧ dropped.map taskKey = [("b", 1)] ∧
      ¬ (managerProcess epoch).Meets CallsSucceed (start (.empty id)) failingWrite ∧
      s.session = ⟨(Database.empty id).insertTask epoch (idleTask "a" 1), none⟩ := by
  have hend : ((managerProcess epoch).run
      (start (.empty (id : List UInt8 → List UInt8))) failingWrite).map
      (fun p : ManagerProcess (id : List UInt8 → List UInt8) × List ProcessEvent =>
        (acceptedKeys (serviceEvents p.2), p.1.service.inProgress,
          p.1.service.manager.mysqlWriteQueue ++ p.1.phase.current,
          committedTasks (writerEvents p.2))) =
      some ([("a", 1), ("b", 1), ("a", 2)], [("a", 2)], [], [idleTask "a" 1]) := by
    decide +kernel
  obtain ⟨⟨s, es⟩, hrun, hs⟩ := Option.map_eq_some_iff.mp hend
  simp only [Prod.mk.injEq] at hs
  obtain ⟨haccepted, hprogress, hwaiting, hcommitted⟩ := hs
  obtain ⟨⟨dropped, hperm, hmeets⟩, hsession⟩ := accepted_accounted hrun
  rw [haccepted, hprogress, hwaiting, hcommitted] at hperm
  have hdropped : dropped.map taskKey = [("b", 1)] := by
    have hrest : ([("a", 2), ("a", 1)] ++ [("b", 1)]).Perm
        ([("a", 2), ("a", 1)] ++ dropped.map taskKey) := List.Perm.trans (by decide) hperm
    exact (List.singleton_perm.mp ((List.perm_append_left_iff _).mp hrest)).symm
  refine ⟨s, es, dropped, hrun, haccepted, hprogress, hdropped, fun hcalls => ?_, ?_⟩
  · rw [hmeets.mpr hcalls] at hdropped
    cases hdropped
  · rw [hsession, hcommitted]
    rfl

end ManagerProcess

end Monitor
