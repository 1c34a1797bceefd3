import PerfMonitor.Manager.ManagerProcess
import PerfMonitor.Manager.RoundTrip

set_option relaxedAutoImplicit false
set_option autoImplicit false

/-!
# The archive behind the queries

What the tables and the five queries are for, without tables: an archive of samples that can be
asked for those of a server in a range of time. The tables that the threads of the manager process
fill refine it: each query of `QueryManager` (`manager/src/query_manager.cpp`) answers with pages of
the archived samples.

## Main definitions

* `Monitor.FitsTables` — a sample whose names the buffers and the unique keys keep apart.
* `Monitor.QueryEnv.reports`, `Monitor.devicesOf` — the samples of a server in a range, and what
  they tell of its devices.
* `Monitor.Answers` — a query answers with pages of given items.
* `Monitor.Archives` — the tables have the rows of given samples and no others.

## Main results

* `Monitor.Archives.insertTask` — writing a sample adds it to the archive.
* `Monitor.ManagerProcess.answers_committed` — the queries in every state of a run.
-/

namespace Monitor

/-! ## The archive -/

section Archive

variable {γ δ : Type} (env : QueryEnv γ δ)

/-- The performance record of a sample. The change rates of the network are read from the columns
they are written to, each from the other's. -/
def performanceRecord (task : MysqlWriteTask) : PerformanceRecord :=
  let info := task.hostScore.info
  let cpu := info.cpuStat.head?.getD {}
  let load := info.cpuLoad.getD {}
  { serverName := cString (nameBytes task.hostName)
    timestamp := sampleTime env task
    cpuPercent := cpu.cpuPercent
    loadAvg1 := load.loadAvg1
    loadAvg3 := load.loadAvg3
    loadAvg15 := load.loadAvg15
    memUsedPercent := (info.memInfo.getD {}).usedPercent
    diskUtilPercent := maxDiskUtil info.diskInfo
    sendRate := (info.netInfo.map NetInfo.sendRate).sum
    rcvRate := (info.netInfo.map NetInfo.rcvRate).sum
    score := task.hostScore.score
    cpuPercentRate := task.cpuPercentRate
    memUsedPercentRate := task.memUsedPercentRate
    diskUtilPercentRate := task.diskUtilPercentRate
    loadAvg1Rate := task.loadAvg1Rate
    sendRateRate := task.netInRateRate
    rcvRateRate := task.netOutRateRate }

lemma record_performanceRow {task : MysqlWriteTask}
    (hhost : (nameBytes task.hostName).length ≤ 255) :
    (performanceQuery env).record (performanceRow env.localtime task) =
      performanceRecord env task := by
  rw [performanceRecord, ← boundBytes_eq hhost]
  rfl

/-- The `DATETIME` value of a sample. -/
def sampleDatetime (task : MysqlWriteTask) : δ :=
  env.datetime (formatTimestamp env.localtime task.hostScore.timestamp)

/-- What samples tell of their devices, each with its sample. -/
def devicesOf {α : Type} (devices : MonitorInfo → List α) (tasks : List MysqlWriteTask) :
    List (MysqlWriteTask × α) :=
  tasks.flatMap fun task => (devices task.hostScore.info).map (Prod.mk task)

lemma mem_devicesOf {α : Type} {devices : MonitorInfo → List α} {tasks : List MysqlWriteTask}
    {x : MysqlWriteTask × α} :
    x ∈ devicesOf devices tasks ↔ x.1 ∈ tasks ∧ x.2 ∈ devices x.1.hostScore.info := by
  obtain ⟨task, a⟩ := x
  simp [devicesOf]

lemma devicesOf_concat {α : Type} (devices : MonitorInfo → List α) (tasks : List MysqlWriteTask)
    (task : MysqlWriteTask) :
    devicesOf devices (tasks ++ [task]) =
      devicesOf devices tasks ++ (devices task.hostScore.info).map (Prod.mk task) := by
  simp [devicesOf]

lemma filter_devicesOf {α : Type} (devices : MonitorInfo → List α) (tasks : List MysqlWriteTask)
    (p : MysqlWriteTask → Bool) :
    (devicesOf devices tasks).filter (fun x => p x.1) = devicesOf devices (tasks.filter p) := by
  induction tasks with
  | nil => rfl
  | cons task tasks ih =>
    have hcons : ∀ tasks, devicesOf devices (task :: tasks) =
        (devices task.hostScore.info).map (Prod.mk task) ++ devicesOf devices tasks :=
      fun _ => List.flatMap_cons
    rw [hcons, List.filter_append, ih, List.filter_map, List.filter_cons]
    cases hp : p task with
    | false => simp [Function.comp_def, hp]
    | true => simp [Function.comp_def, hp, hcons]

end Archive

section Reports

variable {γ δ : Type} [DecidableEq γ] [LinearOrder δ] (env : QueryEnv γ δ)

/-- The sample is one of the server, as the collation compares names, and its time is in the
range. -/
def QueryEnv.reports (serverName : String) (range : TimeRange) (task : MysqlWriteTask) : Bool :=
  decide (env.collate (nameBytes task.hostName) = env.collate (nameBytes serverName)) &&
    decide (env.datetime (formatTimestamp env.localtime range.startTime) ≤
      sampleDatetime env task) &&
    decide (sampleDatetime env task ≤
      env.datetime (formatTimestamp env.localtime range.endTime))

/-- Page `k + 1` of the query is window `k` of the items' records, the items being in some order
that descends in their key, and the total is the number of items. MySQL may put rows with equal
keys in any order. -/
def Answers {α ρ τ κ : Type} [LinearOrder κ] (rowKey : ρ → κ)
    (query : (List ρ → List ρ) → ℤ → ℤ → List τ × Option ℤ) (key : α → κ) (record : α → τ)
    (items : List α) : Prop :=
  ∀ orderBy, (∀ l, ResultOrder rowKey l (orderBy l)) →
    ∃ order, ResultOrder key items order ∧
      ∀ (k : ℕ) (pageSize : ℤ), 1 ≤ pageSize → k * pageSize < 2 ^ 31 →
        query orderBy (k + 1) pageSize =
          ((page pageSize.toNat k order).map record, some (toInt items.length))

variable {env}

/-- A query on rows that come from items of samples. -/
lemma answers_of_rows {α ρ τ κ : Type} [LinearOrder κ] (spec : QuerySpec ρ τ κ)
    (sample : α → MysqlWriteTask) {rows : List ρ} {items : List α} {row : α → ρ} {record : α → τ}
    (serverName : String) {range : TimeRange} (hrange : validateTimeRange range = true)
    (hrows : rows = items.map row)
    (hname : ∀ x ∈ items, spec.serverName (row x) = nameBytes (sample x).hostName)
    (htime : ∀ x ∈ items,
      spec.timestamp (row x) = formatTimestamp env.localtime (sample x).hostScore.timestamp)
    (hrecord : ∀ x ∈ items, spec.record (row x) = record x) :
    Answers spec.key
      (fun orderBy page pageSize => runQuery true .succeed range page pageSize
        (orderBy (rows.filter (env.selects spec serverName range))) spec.record)
      (fun x => spec.key (row x)) record
      (items.filter fun x => env.reports serverName range (sample x)) := by
  intro orderBy hsort
  have hselected : rows.filter (env.selects spec serverName range) =
      (items.filter fun x => env.reports serverName range (sample x)).map row := by
    rw [hrows, List.filter_map]
    refine congrArg (List.map row) (List.filter_congr fun x hx => ?_)
    rw [Function.comp_apply, Bool.eq_iff_iff]
    simp only [QueryEnv.selects, QueryEnv.reports, Bool.and_eq_true, decide_eq_true_eq,
      hname x hx, htime x hx]
    rfl
  have hsorted := hsort (rows.filter (env.selects spec serverName range))
  rw [hselected] at hsorted
  obtain ⟨order, horder, heq⟩ := hsorted.exists_of_map
  refine ⟨order, horder, fun k pageSize hsize hoffset => ?_⟩
  show runQuery true .succeed range (k + 1) pageSize
    (orderBy (rows.filter (env.selects spec serverName range))) spec.record = _
  have hrecords : (page pageSize.toNat k order).map (spec.record ∘ row) =
      (page pageSize.toNat k order).map record := by
    refine List.map_congr_left fun x hx => hrecord x ?_
    have hmem : x ∈ order := List.mem_of_mem_drop (List.mem_of_mem_take hx)
    exact (List.mem_filter.mp (horder.1.subset hmem)).1
  rw [runQuery_of_valid hrange hsize hoffset, hselected, heq, page_map, List.map_map, hrecords,
    List.length_map, horder.1.length_eq]

end Reports

/-! ## The tables of an archive -/

section Tables

variable {γ δ : Type} (env : QueryEnv γ δ)

/-- The names of a sample fit into the buffers, and the keys tell its devices and processes
apart. -/
structure FitsTables (task : MysqlWriteTask) : Prop where
  hostName : (nameBytes task.hostName).length ≤ 255
  netNames : ∀ net ∈ task.hostScore.info.netInfo, (nameBytes net.name).length ≤ 63
  diskNames : ∀ disk ∈ task.hostScore.info.diskInfo, (nameBytes disk.name).length ≤ 63
  procNames : ∀ proc ∈ task.hostScore.info.processNetInfo, (nameBytes proc.name).length ≤ 63
  nodup_nets : (task.hostScore.info.netInfo.map fun net => env.collate (nameBytes net.name)).Nodup
  nodup_disks :
    (task.hostScore.info.diskInfo.map fun disk => env.collate (nameBytes disk.name)).Nodup
  nodup_pids : (task.hostScore.info.processNetInfo.map ProcessNetInfo.pid).Nodup
  /-- A `uint32` of the message. -/
  pids : ∀ proc ∈ task.hostScore.info.processNetInfo, proc.pid < 2 ^ 32

instance [DecidableEq γ] (task : MysqlWriteTask) : Decidable (FitsTables env task) :=
  decidable_of_iff
    ((nameBytes task.hostName).length ≤ 255 ∧
      (∀ net ∈ task.hostScore.info.netInfo, (nameBytes net.name).length ≤ 63) ∧
      (∀ disk ∈ task.hostScore.info.diskInfo, (nameBytes disk.name).length ≤ 63) ∧
      (∀ proc ∈ task.hostScore.info.processNetInfo, (nameBytes proc.name).length ≤ 63) ∧
      (task.hostScore.info.netInfo.map fun net => env.collate (nameBytes net.name)).Nodup ∧
      (task.hostScore.info.diskInfo.map fun disk => env.collate (nameBytes disk.name)).Nodup ∧
      (task.hostScore.info.processNetInfo.map ProcessNetInfo.pid).Nodup ∧
      ∀ proc ∈ task.hostScore.info.processNetInfo, proc.pid < 2 ^ 32)
    ⟨fun ⟨h₁, h₂, h₃, h₄, h₅, h₆, h₇, h₈⟩ => ⟨h₁, h₂, h₃, h₄, h₅, h₆, h₇, h₈⟩,
      fun ⟨h₁, h₂, h₃, h₄, h₅, h₆, h₇, h₈⟩ => ⟨h₁, h₂, h₃, h₄, h₅, h₆, h₇, h₈⟩⟩

/-- The tables have the rows of the samples, in the order they were written, and no others. -/
structure Archives (d : Database env.collate) (tasks : List MysqlWriteTask) : Prop where
  performance : d.performance.rows = tasks.map (performanceRow env.localtime)
  cpuDetail : d.cpuDetail.rows = tasks.map (cpuRow env.localtime)
  netDetail : d.netDetail.rows =
    (devicesOf MonitorInfo.netInfo tasks).map fun x => netRow env.localtime x.1 x.2
  diskDetail : d.diskDetail.rows =
    (devicesOf MonitorInfo.diskInfo tasks).map fun x => diskRow env.localtime x.1 x.2
  netProcessDetail : d.netProcessDetail.rows =
    (devicesOf MonitorInfo.processNetInfo tasks).map fun x => netProcessRow env.localtime x.1 x.2

variable {env} {d : Database env.collate} {tasks : List MysqlWriteTask} {task : MysqlWriteTask}

lemma archives_empty : Archives env (.empty env.collate) [] where
  performance := rfl
  cpuDetail := rfl
  netDetail := rfl
  diskDetail := rfl
  netProcessDetail := rfl

/-- A sample whose server and sequence no archived sample has is new to all tables. -/
lemma Archives.newSample (h : Archives env d tasks) (hfit : FitsTables env task)
    (hkey : historyKey env.collate task ∉ tasks.map (historyKey env.collate)) :
    NewSample env d task := by
  have hne : ∀ t ∈ tasks, (env.collate (boundBytes 255 t.hostName), t.hostScore.info.sequence) ≠
      (env.collate (nameBytes task.hostName), task.hostScore.info.sequence) := by
    intro t ht heq
    rw [← boundBytes_eq hfit.hostName] at heq
    exact hkey (List.mem_map.mpr ⟨t, ht, heq⟩)
  have hdevices : ∀ {α : Type} {devices : MonitorInfo → List α},
      ∀ x ∈ devicesOf devices tasks, (env.collate (boundBytes 255 x.1.hostName),
        x.1.hostScore.info.sequence) ≠
          (env.collate (nameBytes task.hostName), task.hostScore.info.sequence) :=
    fun x hx => hne x.1 (mem_devicesOf.mp hx).1
  exact {
    hfit with
    performance := by
      rw [h.performance]
      exact List.forall_mem_map.mpr hne
    cpuDetail := by
      rw [h.cpuDetail]
      exact List.forall_mem_map.mpr hne
    netDetail := by
      rw [h.netDetail]
      exact List.forall_mem_map.mpr hdevices
    diskDetail := by
      rw [h.diskDetail]
      exact List.forall_mem_map.mpr hdevices
    netProcessDetail := by
      rw [h.netProcessDetail]
      exact List.forall_mem_map.mpr hdevices }

variable [DecidableEq γ]

/-- **Writing a sample adds it to the archive**, when its names fit and no archived sample has its
server and sequence. -/
lemma Archives.insertTask (h : Archives env d tasks) (hfit : FitsTables env task)
    (hkey : historyKey env.collate task ∉ tasks.map (historyKey env.collate)) :
    Archives env (d.insertTask env.localtime task) (tasks ++ [task]) := by
  have hnew := h.newSample hfit hkey
  refine ⟨?_, ?_, ?_, ?_, ?_⟩
  · rw [rows_performance_insertTask hnew, h.performance, List.map_append, List.map_singleton]
  · rw [rows_cpuDetail_insertTask hnew, h.cpuDetail, List.map_append, List.map_singleton]
  · rw [rows_netDetail_insertTask hnew, h.netDetail, devicesOf_concat, List.map_append,
      List.map_map]
    rfl
  · rw [rows_diskDetail_insertTask hnew, h.diskDetail, devicesOf_concat, List.map_append,
      List.map_map]
    rfl
  · rw [rows_netProcessDetail_insertTask hnew, h.netProcessDetail, devicesOf_concat,
      List.map_append, List.map_map]
    rfl

/-- Samples with servers and sequences of their own, written one after the other to empty tables. -/
lemma archives_foldl (hfit : ∀ task ∈ tasks, FitsTables env task)
    (hkeys : (tasks.map (historyKey env.collate)).Nodup) :
    Archives env (tasks.foldl (fun d task => d.insertTask env.localtime task)
      (.empty env.collate)) tasks := by
  induction tasks using List.reverseRecOn with
  | nil => exact archives_empty
  | append_singleton tasks task ih =>
    rw [List.map_append, List.nodup_append] at hkeys
    obtain ⟨hbefore, -, hdisjoint⟩ := hkeys
    rw [List.foldl_concat]
    refine (ih (fun t ht => hfit t (List.mem_append_left _ ht)) hbefore).insertTask
      (hfit task (by simp)) fun hmem => ?_
    exact hdisjoint _ hmem _ (List.mem_map_of_mem (List.mem_singleton_self task)) rfl

end Tables

/-! ## The queries in a run of the process -/

namespace ManagerProcess

variable {γ δ : Type} [DecidableEq γ] [LinearOrder δ] {env : QueryEnv γ δ}
  {as : List ProcessAction} {s : ManagerProcess env.collate} {es : List ProcessEvent}

omit [LinearOrder δ] in
/-- The tables of a run from empty ones archive the committed samples. -/
lemma run_archives
    (hrun : (managerProcess env.localtime).run (start (.empty env.collate)) as = some (s, es))
    (hfit : ∀ task ∈ committedTasks (writerEvents es), FitsTables env task)
    (hkeys : ((committedTasks (writerEvents es)).map (historyKey env.collate)).Nodup) :
    Archives env s.session.stored (committedTasks (writerEvents es)) := by
  rw [run_session hrun]
  exact archives_foldl hfit hkeys

/-- **The queries answer with the committed samples.** However the calls, the cleanup thread and the
write thread interleave and whichever calls to MySQL fail: in every state of a run from empty tables
whose committed samples fit and have servers and sequences of their own, the five queries over a
valid range answer with pages of the records of exactly the committed samples of the server in that
range, one for each sample, for its CPU, and for each of its interfaces, processes and disks, in
descending order of time, and of the total rate for processes of one time.

**Proof sketch.** The write thread of a run is a run of the write thread, so the tables are the
insertions of the committed samples (`run_archives`), and none of their rows is ignored
(`Archives.insertTask`). A query selects the rows of the samples it is about and reads their records
back (`answers_of_rows`). -/
theorem answers_committed
    (hrun : (managerProcess env.localtime).run (start (.empty env.collate)) as = some (s, es))
    (hfit : ∀ task ∈ committedTasks (writerEvents es), FitsTables env task)
    (hkeys : ((committedTasks (writerEvents es)).map (historyKey env.collate)).Nodup)
    (serverName : String) {range : TimeRange} (hrange : validateTimeRange range = true) :
    let d := s.session.stored
    let samples := (committedTasks (writerEvents es)).filter (env.reports serverName range)
    Answers (performanceQuery env).key (queryPerformance env d true .succeed serverName range)
      (sampleDatetime env) (performanceRecord env) samples ∧
    Answers (cpuDetailQuery env).key (queryCpuDetail env d true .succeed serverName range)
      (sampleDatetime env) (cpuDetailRecord env) samples ∧
    Answers (netDetailQuery env).key (queryNetDetail env d true .succeed serverName range)
      (fun x => sampleDatetime env x.1) (fun x => netDetailRecord env x.1 x.2)
      (devicesOf MonitorInfo.netInfo samples) ∧
    Answers (netProcessDetailQuery env).key
      (queryNetProcessDetail env d true .succeed serverName range)
      (fun x => toLex (sampleDatetime env x.1, x.2.totalRate))
      (fun x => netProcessDetailRecord env x.1 x.2)
      (devicesOf MonitorInfo.processNetInfo samples) ∧
    Answers (diskDetailQuery env).key (queryDiskDetail env d true .succeed serverName range)
      (fun x => sampleDatetime env x.1) (fun x => diskDetailRecord env x.1 x.2)
      (devicesOf MonitorInfo.diskInfo samples) := by
  have harch := run_archives hrun hfit hkeys
  set tasks := committedTasks (writerEvents es)
  have hhost : ∀ task ∈ tasks, boundBytes 255 task.hostName = nameBytes task.hostName :=
    fun task htask => boundBytes_eq (hfit task htask).hostName
  have hsample : ∀ {α : Type} {devices : MonitorInfo → List α} {x : MysqlWriteTask × α},
      x ∈ devicesOf devices tasks → x.1 ∈ tasks := fun hx => (mem_devicesOf.mp hx).1
  intro d samples
  simp only [samples, ← filter_devicesOf]
  refine ⟨?_, ?_, ?_, ?_, ?_⟩
  · exact answers_of_rows (performanceQuery env) id _ hrange harch.performance hhost
      (fun _ _ => rfl) fun task htask => record_performanceRow env (hfit task htask).hostName
  · exact answers_of_rows (cpuDetailQuery env) id _ hrange harch.cpuDetail hhost
      (fun _ _ => rfl) fun task htask => record_cpuRow env (hfit task htask).hostName
  · have hanswers := answers_of_rows (netDetailQuery env) Prod.fst serverName hrange
      harch.netDetail (fun x hx => hhost x.1 (hsample hx)) (fun _ _ => rfl)
      fun x hx => record_netRow env (hfit _ (hsample hx)).hostName
        ((hfit _ (hsample hx)).netNames _ (mem_devicesOf.mp hx).2)
    exact hanswers
  · have hanswers := answers_of_rows (netProcessDetailQuery env) Prod.fst serverName hrange
      harch.netProcessDetail (fun x hx => hhost x.1 (hsample hx)) (fun _ _ => rfl)
      fun x hx => record_netProcessRow env (hfit _ (hsample hx)).hostName
        ((hfit _ (hsample hx)).procNames _ (mem_devicesOf.mp hx).2)
        ((hfit _ (hsample hx)).pids _ (mem_devicesOf.mp hx).2)
    exact hanswers
  · have hanswers := answers_of_rows (diskDetailQuery env) Prod.fst serverName hrange
      harch.diskDetail (fun x hx => hhost x.1 (hsample hx)) (fun _ _ => rfl)
      fun x hx => record_diskRow env (hfit _ (hsample hx)).hostName
        ((hfit _ (hsample hx)).diskNames _ (mem_devicesOf.mp hx).2)
    exact hanswers

/-! ## Samples of two seconds -/

/-- Two samples are reported, one second after the other, and written. -/
def twoSecondsReported : List ProcessAction :=
  (Service.reportActions 0 (sampleOfSecond 0).hostScore.info .stored).map .service ++
    [.service (.tick 1000000000)] ++
    (Service.reportActions 0 (sampleOfSecond 1).hostScore.info .stored).map .service ++
    [.writer .take, .writer (.connect fun _ => true), .writer (.write fun _ => true),
      .writer .take, .writer (.write fun _ => true)]

/-- For the range of both seconds the queries answer with both samples, the one for interfaces with
the two of each. -/
theorem answers_committed_two_seconds : ∃ s es,
    (managerProcess minuteEnv.localtime).run (start (.empty minuteEnv.collate))
        twoSecondsReported = some (s, es) ∧
      let env := minuteEnv
      let d := s.session.stored
      let samples := (committedTasks (writerEvents es)).filter (env.reports "h" threeSecondsRange)
      samples.map (fun task => (task.hostScore.info.sequence, task.hostScore.timestamp)) =
          [(1, 0), (2, second)] ∧
        Answers (performanceQuery env).key
          (queryPerformance env d true .succeed "h" threeSecondsRange)
          (sampleDatetime env) (performanceRecord env) samples ∧
        Answers (netDetailQuery env).key
          (queryNetDetail env d true .succeed "h" threeSecondsRange)
          (fun x => sampleDatetime env x.1) (fun x => netDetailRecord env x.1 x.2)
          (devicesOf MonitorInfo.netInfo samples) := by
  have hend : ((managerProcess minuteEnv.localtime).run (start (.empty minuteEnv.collate))
      twoSecondsReported).map (fun p : ManagerProcess minuteEnv.collate × List ProcessEvent =>
        (((committedTasks (writerEvents p.2)).filter
            (minuteEnv.reports "h" threeSecondsRange)).map fun task =>
              (task.hostScore.info.sequence, task.hostScore.timestamp),
          decide ((∀ task ∈ committedTasks (writerEvents p.2), FitsTables minuteEnv task) ∧
            ((committedTasks (writerEvents p.2)).map (historyKey minuteEnv.collate)).Nodup))) =
      some ([(1, 0), (2, second)], true) := by
    decide +kernel
  obtain ⟨⟨s, es⟩, hrun, hs⟩ := Option.map_eq_some_iff.mp hend
  rw [Prod.mk.injEq] at hs
  obtain ⟨hsamples, hmeets⟩ := hs
  obtain ⟨hfit, hkeys⟩ := of_decide_eq_true hmeets
  have hrange : validateTimeRange threeSecondsRange = true := by decide
  obtain ⟨hperf, -, hnet, -⟩ := answers_committed hrun hfit hkeys "h" hrange
  exact ⟨s, es, hrun, hsamples, hperf, hnet⟩

end ManagerProcess

end Monitor
