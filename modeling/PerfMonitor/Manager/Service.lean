import PerfMonitor.Automaton.Run
import PerfMonitor.Manager.QueryBestHost

set_option relaxedAutoImplicit false
set_option autoImplicit false

/-!
# The manager process

Any number of `OnDataReceived` and `QueryBestHost` calls in progress on one `HostManager`, with
the cleanup thread and the system clock. An action is one atomic section of one of them, so
that the runs of `Monitor.service` are the interleavings of the sections. `ProcessLoop` reads the
clock before it takes the lock, so a pass may work with an earlier reading.

## Main definitions

* `Monitor.ReportState` — how far an `OnDataReceived` call has come, with its local variables.
* `Monitor.Service`, `Monitor.ServiceAction`, `Monitor.ServiceEvent`, `Monitor.service` — the
  process as an event machine.
* `Monitor.Service.Step` — the steps as a relation, one constructor for each branch of a section.
* `Monitor.Service.reportActions` — the sections of one report, with nothing in between.

## Main results

* `Monitor.Service.step_iff` — the relation is the step function.
* `Monitor.Service.run_reportActions` — a report without interference is `onDataReceived`.
-/

namespace Monitor

/-- A report that names a host. -/
structure NamedReport where
  info : MonitorInfo
  named : hostName info ≠ ""

namespace NamedReport

/-- The host key of the report. -/
def host (r : NamedReport) : String := hostName r.info

/-- The sample taken from the report. -/
def sample (r : NamedReport) : PerfSample := PerfSample.ofInfo r.info (calcScore r.info)

/-- The record stored for the report, `now` being the clock reading of the call. -/
def hostScore (r : NamedReport) (now : Time) : HostScore := ⟨r.info, calcScore r.info, now⟩

end NamedReport

/-- A report that carries no metrics. -/
def idleInfo (host : String) (seq : ℕ) : MonitorInfo := { name := host, sequence := seq }

@[simp] lemma hostName_idleInfo (host : String) (seq : ℕ) :
    hostName (idleInfo host seq) = host := rfl

@[simp] lemma calcScore_idleInfo (host : String) (seq : ℕ) :
    calcScore (idleInfo host seq) = 100 := by
  have h : calcScore (idleInfo host seq) = calcScore {} := rfl
  rw [h]
  decide +kernel

/-- A report that scores `50`. -/
def busyInfo (host : String) (seq : ℕ) : MonitorInfo :=
  { name := host
    sequence := seq
    cpuLoad := some { loadAvg1 := 1000 }
    cpuStat := [{ cpuPercent := 100 }] }

lemma calcScore_busyInfo (host : String) (seq : ℕ) : calcScore (busyInfo host seq) = 50 := by
  have h : calcScore (busyInfo host seq) = calcScore (busyInfo "" 0) := rfl
  rw [h]
  decide +kernel

/-- Progress of an `OnDataReceived` call, named by the last section it has finished. -/
inductive ReportState where
  | received (info : MonitorInfo)
  | checked (r : NamedReport)
  | scored (r : NamedReport) (now : Time)
  | sampled (r : NamedReport) (now : Time) (rates : ChangeRates)
  | stored (task : MysqlWriteTask)
  | picked (task : MysqlWriteTask)

/-- The memory, the clock, the `OnDataReceived` calls in progress and the `QueryBestHost` calls
between their two sections, with the host named by the first. -/
structure Service where
  manager : HostManager := {}
  clock : Time := 0
  reports : UnorderedMap ℕ ReportState := ∅
  queries : UnorderedMap ℕ String := ∅

/-- One atomic section of a call, of the cleanup thread, or the passing of time. -/
inductive ServiceAction where
  | receive (t : ℕ) (info : MonitorInfo)
  | check (t : ℕ)
  | score (t : ℕ)
  | sample (t : ℕ)
  | store (t : ℕ)
  | pick (t : ℕ) (ord : HashOrder)
  | enqueue (t : ℕ)
  | select (q : ℕ) (ord : HashOrder)
  | respond (q : ℕ)
  | cleanup (now : Time)
  | tick (d : ℕ)

inductive ServiceEvent where
  /-- A report passed the duplicate check. -/
  | accepted (host : String) (seq : ℕ)
  /-- A report was skipped as a duplicate. -/
  | duplicate (host : String) (seq : ℕ)
  /-- A report was stored with this score. -/
  | stored (host : String) (score : ℚ)
  /-- `GetBestHost`, called at the end of a report, named this host. -/
  | picked (host : String)
  /-- `GetBestHost`, called by `QueryBestHost`, named this host. -/
  | selected (q : ℕ) (host : String)
  /-- A `QueryBestHost` call was answered. -/
  | replied (q : ℕ) (answer : Except RpcError ServerOverviewRecord)
  /-- A cleanup pass removed these hosts. -/
  | removed (hosts : List String)

namespace Service

/-- One section. -/
def step (s : Service) : ServiceAction → Option (Service × List ServiceEvent)
  | .receive t info =>
    if t ∈ s.reports then none
    else some ({ s with reports := s.reports.insert t (.received info) }, [])
  | .check t =>
    match s.reports.lookup t with
    | some (.received info) =>
      if hn : hostName info = "" then some ({ s with reports := s.reports.erase t }, [])
      else
        match s.manager.checkDuplicate (hostName info) info.sequence with
        | none =>
          some ({ s with reports := s.reports.erase t },
            [.duplicate (hostName info) info.sequence])
        | some m =>
          some ({ s with manager := m, reports := s.reports.insert t (.checked ⟨info, hn⟩) },
            [.accepted (hostName info) info.sequence])
    | _ => none
  | .score t =>
    match s.reports.lookup t with
    | some (.checked r) =>
      some ({ s with reports := s.reports.insert t (.scored r s.clock) }, [])
    | _ => none
  | .sample t =>
    match s.reports.lookup t with
    | some (.scored r now) =>
      let (rates, m) := s.manager.replaceSample r.host r.sample
      some ({ s with manager := m, reports := s.reports.insert t (.sampled r now rates) }, [])
    | _ => none
  | .store t =>
    match s.reports.lookup t with
    | some (.sampled r now rates) =>
      some ({ s with
              manager := s.manager.storeReport r.host (r.hostScore now)
              reports := s.reports.insert t
                (.stored (HostManager.writeTask r.host (r.hostScore now) rates)) },
        [.stored r.host (calcScore r.info)])
    | _ => none
  | .pick t ord =>
    match s.reports.lookup t with
    | some (.stored task) =>
      let (best, m) := s.manager.getBestHost ord
      some ({ s with manager := m, reports := s.reports.insert t (.picked task) },
        [.picked best])
    | _ => none
  | .enqueue t =>
    match s.reports.lookup t with
    | some (.picked task) =>
      some ({ s with
              manager := s.manager.enqueueMysqlWrite task
              reports := s.reports.erase t }, [])
    | _ => none
  | .select q ord =>
    if q ∈ s.queries then none
    else
      let (best, m) := s.manager.getBestHost ord
      if best = "" then
        some ({ s with manager := m },
          [.selected q best, .replied q (m.answerBestHost best s.clock)])
      else some ({ s with manager := m, queries := s.queries.insert q best }, [.selected q best])
  | .respond q =>
    match s.queries.lookup q with
    | some best =>
      some ({ s with queries := s.queries.erase q },
        [.replied q (s.manager.answerBestHost best s.clock)])
    | none => none
  | .cleanup now =>
    if now ≤ s.clock then
      some ({ s with manager := s.manager.removeStaleHosts now },
        [.removed (s.manager.staleHosts now)])
    else none
  | .tick d => some ({ s with clock := s.clock + d }, [])

/-- The steps as a relation. -/
inductive Step (s : Service) : ServiceAction → Service → List ServiceEvent → Prop where
  | receive (t : ℕ) (info : MonitorInfo) (ht : t ∉ s.reports) :
    Step s (.receive t info) { s with reports := s.reports.insert t (.received info) } []
  | checkUnnamed (t : ℕ) (info : MonitorInfo) (ht : s.reports.lookup t = some (.received info))
      (hn : hostName info = "") :
    Step s (.check t) { s with reports := s.reports.erase t } []
  | checkDuplicate (t : ℕ) (r : NamedReport) (ht : s.reports.lookup t = some (.received r.info))
      (hd : s.manager.checkDuplicate r.host r.info.sequence = none) :
    Step s (.check t) { s with reports := s.reports.erase t }
      [.duplicate r.host r.info.sequence]
  | checkAccept (t : ℕ) (r : NamedReport) (m : HostManager)
      (ht : s.reports.lookup t = some (.received r.info))
      (hd : s.manager.checkDuplicate r.host r.info.sequence = some m) :
    Step s (.check t) { s with manager := m, reports := s.reports.insert t (.checked r) }
      [.accepted r.host r.info.sequence]
  | score (t : ℕ) (r : NamedReport) (ht : s.reports.lookup t = some (.checked r)) :
    Step s (.score t) { s with reports := s.reports.insert t (.scored r s.clock) } []
  | sample (t : ℕ) (r : NamedReport) (now : Time)
      (ht : s.reports.lookup t = some (.scored r now)) :
    Step s (.sample t)
      { s with
        manager := (s.manager.replaceSample r.host r.sample).2
        reports := s.reports.insert t
          (.sampled r now (s.manager.replaceSample r.host r.sample).1) } []
  | store (t : ℕ) (r : NamedReport) (now : Time) (rates : ChangeRates)
      (ht : s.reports.lookup t = some (.sampled r now rates)) :
    Step s (.store t)
      { s with
        manager := s.manager.storeReport r.host (r.hostScore now)
        reports := s.reports.insert t
          (.stored (HostManager.writeTask r.host (r.hostScore now) rates)) }
      [.stored r.host (calcScore r.info)]
  | pick (t : ℕ) (ord : HashOrder) (task : MysqlWriteTask)
      (ht : s.reports.lookup t = some (.stored task)) :
    Step s (.pick t ord)
      { s with
        manager := (s.manager.getBestHost ord).2
        reports := s.reports.insert t (.picked task) }
      [.picked (s.manager.getBestHost ord).1]
  | enqueue (t : ℕ) (task : MysqlWriteTask) (ht : s.reports.lookup t = some (.picked task)) :
    Step s (.enqueue t)
      { s with
        manager := s.manager.enqueueMysqlWrite task
        reports := s.reports.erase t } []
  | selectNone (q : ℕ) (ord : HashOrder) (hq : q ∉ s.queries)
      (hb : (s.manager.getBestHost ord).1 = "") :
    Step s (.select q ord) { s with manager := (s.manager.getBestHost ord).2 }
      [.selected q (s.manager.getBestHost ord).1,
        .replied q ((s.manager.getBestHost ord).2.answerBestHost (s.manager.getBestHost ord).1
          s.clock)]
  | select (q : ℕ) (ord : HashOrder) (hq : q ∉ s.queries)
      (hb : (s.manager.getBestHost ord).1 ≠ "") :
    Step s (.select q ord)
      { s with
        manager := (s.manager.getBestHost ord).2
        queries := s.queries.insert q (s.manager.getBestHost ord).1 }
      [.selected q (s.manager.getBestHost ord).1]
  | respond (q : ℕ) (best : String) (hq : s.queries.lookup q = some best) :
    Step s (.respond q) { s with queries := s.queries.erase q }
      [.replied q (s.manager.answerBestHost best s.clock)]
  | cleanup (now : Time) (hnow : now ≤ s.clock) :
    Step s (.cleanup now) { s with manager := s.manager.removeStaleHosts now }
      [.removed (s.manager.staleHosts now)]
  | tick (d : ℕ) : Step s (.tick d) { s with clock := s.clock + d } []

/-- **What one section can do**: the relation describes the step function.

**Proof sketch.** From left to right, follow the branches of the section; from right to left,
each constructor carries the conditions of its branch. -/
theorem step_iff {s s' : Service} {a : ServiceAction} {es : List ServiceEvent} :
    s.step a = some (s', es) ↔ Step s a s' es := by
  constructor
  · intro h
    cases a with
    | receive t info =>
      simp only [step] at h
      split_ifs at h with ht
      cases h
      exact .receive t info ht
    | check t =>
      simp only [step] at h
      split at h
      · next info ht =>
        split_ifs at h with hn
        · cases h
          exact .checkUnnamed t info ht hn
        · split at h
          · next hd =>
            cases h
            exact .checkDuplicate t ⟨info, hn⟩ ht hd
          · next m hd =>
            cases h
            exact .checkAccept t ⟨info, hn⟩ m ht hd
      · cases h
    | score t =>
      simp only [step] at h
      split at h
      · next r ht => cases h; exact .score t r ht
      · cases h
    | sample t =>
      simp only [step] at h
      split at h
      · next r now ht => cases h; exact .sample t r now ht
      · cases h
    | store t =>
      simp only [step] at h
      split at h
      · next r now rates ht => cases h; exact .store t r now rates ht
      · cases h
    | pick t ord =>
      simp only [step] at h
      split at h
      · next task ht => cases h; exact .pick t ord task ht
      · cases h
    | enqueue t =>
      simp only [step] at h
      split at h
      · next task ht => cases h; exact .enqueue t task ht
      · cases h
    | select q ord =>
      simp only [step] at h
      split_ifs at h with hq hb
      · cases h; exact .selectNone q ord hq hb
      · cases h; exact .select q ord hq hb
    | respond q =>
      simp only [step] at h
      split at h
      · next best hq => cases h; exact .respond q best hq
      · cases h
    | cleanup now =>
      simp only [step] at h
      split_ifs at h with hnow
      cases h
      exact .cleanup now hnow
    | tick d => cases h; exact .tick d
  · intro h
    cases h with
    | receive t info ht => simp [step, ht]
    | checkUnnamed t info ht hn => simp [step, ht, hn]
    | checkDuplicate t r ht hd =>
      have hn := r.named
      unfold NamedReport.host at hd ⊢
      simp [step, ht, hn, hd]
    | checkAccept t r m ht hd =>
      have hn := r.named
      unfold NamedReport.host at hd ⊢
      simp [step, ht, hn, hd]
    | score t r ht => simp [step, ht]
    | sample t r now ht => simp [step, ht]
    | store t r now rates ht => simp [step, ht]
    | pick t ord task ht => simp [step, ht]
    | enqueue t task ht => simp [step, ht]
    | selectNone q ord hq hb => simp [step, hq, hb]
    | select q ord hq hb => simp [step, hq, hb]
    | respond q best hq => simp [step, hq]
    | cleanup now hnow => simp [step, hnow]
    | tick d => rfl

end Service

/-- The manager process. -/
def service : EventMachine Service ServiceAction ServiceEvent := ⟨Service.step⟩

namespace Service

lemma service_step_iff {s s' : Service} {a : ServiceAction} {es : List ServiceEvent} :
    service.step s a = some (s', es) ↔ Step s a s' es := step_iff

/-! ## A report without interference -/

/-- The sections of one report, with nothing in between. -/
def reportActions (t : ℕ) (info : MonitorInfo) (ord : HashOrder) : List ServiceAction :=
  [.receive t info, .check t, .score t, .sample t, .store t, .pick t ord, .enqueue t]

/-- The memory just before an accepted report's own `GetBestHost`. -/
def storedManager (m : HostManager) (r : NamedReport) (now : Time) : HostManager :=
  (m.replaceSample r.host r.sample).2.storeReport r.host (r.hostScore now)

/-- `onDataReceived` of a report that passes the duplicate check. -/
lemma onDataReceived_eq {m m₁ : HostManager} {r : NamedReport} {ord : HashOrder} {now : Time}
    (hd : m.checkDuplicate r.host r.info.sequence = some m₁) :
    m.onDataReceived ord r.info now =
      ((storedManager m₁ r now).getBestHost ord).2.enqueueMysqlWrite
        (HostManager.writeTask r.host (r.hostScore now) (m₁.replaceSample r.host r.sample).1) := by
  rw [HostManager.onDataReceived_accept r.named hd]
  rfl

/-- **A report without interference is `onDataReceived`.** Its sections run one after the other
leave the memory as the composed function does, and no call in progress.

**Proof sketch.** Each section is enabled by the progress the previous one recorded; the map of
calls in progress ends as it began, the call's own entry inserted and erased. -/
theorem run_reportActions {s : Service} {t : ℕ} {r : NamedReport} {ord : HashOrder}
    {m₁ : HostManager} (ht : t ∉ s.reports)
    (hd : s.manager.checkDuplicate r.host r.info.sequence = some m₁) :
    service.run s (reportActions t r.info ord) =
      some ({ s with manager := s.manager.onDataReceived ord r.info s.clock },
        [.accepted r.host r.info.sequence, .stored r.host (calcScore r.info),
          .picked ((storedManager m₁ r s.clock).getBestHost ord).1]) := by
  have herase : ∀ x, (s.reports.insert t x).erase t = s.reports :=
    fun x => UnorderedMap.erase_insert ht
  rw [onDataReceived_eq hd, reportActions]
  refine (service.run_cons (service_step_iff.mpr (.receive t r.info ht)) <|
    service.run_cons (service_step_iff.mpr (.checkAccept t r m₁ (AList.lookup_insert _) hd)) <|
    service.run_cons (service_step_iff.mpr (.score t r (AList.lookup_insert _))) <|
    service.run_cons (service_step_iff.mpr (.sample t r s.clock (AList.lookup_insert _))) <|
    service.run_cons
      (service_step_iff.mpr (.store t r s.clock _ (AList.lookup_insert _))) <|
    service.run_cons (service_step_iff.mpr (.pick t ord _ (AList.lookup_insert _))) <|
    service.run_cons (service_step_iff.mpr (.enqueue t _ (AList.lookup_insert _)))
      (service.run_nil _)).trans ?_
  simp only [AList.insert_insert, herase]
  rfl

end Service

end Monitor
