import PerfMonitor.Manager.QueryBestHost
import PerfMonitor.Manager.QueryPages
import PerfMonitor.Manager.StatementBuffers

set_option relaxedAutoImplicit false
set_option autoImplicit false

/-!
# Reading a sample back

A sample is written by five statements with columns in one order and read by five queries with
columns in another. After a successful write the queries return what they returned before and
the records of the sample.

## Main definitions

* `Monitor.cpuDetailRecord`, `Monitor.netDetailRecord`, `Monitor.diskDetailRecord`,
  `Monitor.netProcessDetailRecord`, `Monitor.PerformanceRecord.Describes` — the records of a sample.
* `Monitor.NewSample` — a sample whose names fit and whose rows are not stored.
* `Monitor.ReadsBack` — a query returns what it returned before and the records of a sample.

## Main results

* `Monitor.write_query_round_trip` — the queries after a successful write.
-/

namespace Monitor

/-! ## The records of a sample -/

/-- The bytes of a name. -/
def nameBytes (name : String) : List UInt8 := name.toUTF8.data.toList

lemma boundBytes_eq {limit : ℕ} {name : String} (h : (nameBytes name).length ≤ limit) :
    boundBytes limit name = nameBytes name :=
  List.take_of_length_le h

section Records

variable {γ δ : Type} (env : QueryEnv γ δ) (task : MysqlWriteTask)

/-- The timestamp of a sample as the queries read it. -/
def sampleTime : Time :=
  parseMysqlTime env.mktime (formatTimestamp env.localtime task.hostScore.timestamp)

/-- The CPU record of a sample. -/
def cpuDetailRecord : CpuDetailRecord :=
  let cpu := task.hostScore.info.cpuStat.head?.getD {}
  { serverName := cString (nameBytes task.hostName)
    timestamp := sampleTime env task
    usrPercent := cpu.usrPercent
    systemPercent := cpu.systemPercent
    nicePercent := cpu.nicePercent
    idlePercent := cpu.idlePercent
    ioWaitPercent := cpu.ioWaitPercent
    irqPercent := cpu.irqPercent
    softIrqPercent := cpu.softIrqPercent }

/-- The record of a network interface. -/
def netDetailRecord (net : NetInfo) : NetDetailRecord where
  serverName := cString (nameBytes task.hostName)
  netName := cString (nameBytes net.name)
  timestamp := sampleTime env task
  rcvBytesRate := net.rcvRate
  sndBytesRate := net.sendRate
  rcvPacketsRate := net.rcvPacketsRate
  sndPacketsRate := net.sendPacketsRate

/-- The record of a disk. -/
def diskDetailRecord (disk : DiskInfo) : DiskDetailRecord where
  serverName := cString (nameBytes task.hostName)
  diskName := cString (nameBytes disk.name)
  timestamp := sampleTime env task
  readBytesPerSec := disk.readBytesPerSec
  writeBytesPerSec := disk.writeBytesPerSec
  readIops := disk.readIops
  writeIops := disk.writeIops
  avgReadLatencyMs := disk.avgReadLatencyMs
  avgWriteLatencyMs := disk.avgWriteLatencyMs
  utilPercent := disk.utilPercent

/-- The record of a process. -/
def netProcessDetailRecord (proc : ProcessNetInfo) : NetProcessDetailRecord where
  serverName := cString (nameBytes task.hostName)
  pid := proc.pid
  procName := cString (nameBytes proc.name)
  timestamp := sampleTime env task
  sndBytesRate := proc.sendRate
  rcvBytesRate := proc.rcvRate
  totalBytesRate := proc.totalRate
  sharePercent := proc.sharePercent

end Records

/-- A performance record has the quantities of a sample; the change rates are left open. -/
structure PerformanceRecord.Describes {γ δ : Type} (env : QueryEnv γ δ) (task : MysqlWriteTask)
    (rec : PerformanceRecord) : Prop where
  serverName : rec.serverName = cString (nameBytes task.hostName)
  timestamp : rec.timestamp = sampleTime env task
  cpuPercent : rec.cpuPercent = (task.hostScore.info.cpuStat.head?.getD {}).cpuPercent
  loadAvg1 : rec.loadAvg1 = (task.hostScore.info.cpuLoad.getD {}).loadAvg1
  loadAvg3 : rec.loadAvg3 = (task.hostScore.info.cpuLoad.getD {}).loadAvg3
  loadAvg15 : rec.loadAvg15 = (task.hostScore.info.cpuLoad.getD {}).loadAvg15
  memUsedPercent : rec.memUsedPercent = (task.hostScore.info.memInfo.getD {}).usedPercent
  diskUtilPercent : rec.diskUtilPercent =
    task.hostScore.info.diskInfo.foldl (fun m d => max m d.utilPercent) 0
  sendRate : rec.sendRate = (task.hostScore.info.netInfo.map NetInfo.sendRate).sum
  rcvRate : rec.rcvRate = (task.hostScore.info.netInfo.map NetInfo.rcvRate).sum
  score : rec.score = task.hostScore.score

/-- A performance record and a summary agree on the fields they share. -/
structure PerformanceRecord.Agrees (rec : PerformanceRecord) (overview : ServerOverviewRecord) :
    Prop where
  score : rec.score = overview.score
  cpuPercent : rec.cpuPercent = overview.cpuPercent
  memUsedPercent : rec.memUsedPercent = overview.memUsedPercent
  diskUtilPercent : rec.diskUtilPercent = overview.diskUtilPercent
  loadAvg1 : rec.loadAvg1 = overview.loadAvg1
  sendRate : rec.sendRate = overview.sendRate
  rcvRate : rec.rcvRate = overview.rcvRate

/-- What describes a sample agrees with its summary, which goes through the interfaces and disks in
loops of its own. -/
lemma PerformanceRecord.Describes.agrees {γ δ : Type} {env : QueryEnv γ δ}
    {task : MysqlWriteTask} {rec : PerformanceRecord} (h : rec.Describes env task) (now : Time) :
    rec.Agrees (buildServerOverviewRecord task.hostName task.hostScore now) where
  score := h.score
  cpuPercent := by
    rw [h.cpuPercent, buildServerOverviewRecord]
    cases task.hostScore.info.cpuStat.head? <;> rfl
  memUsedPercent := by
    rw [h.memUsedPercent, buildServerOverviewRecord]
    cases task.hostScore.info.memInfo <;> rfl
  diskUtilPercent := h.diskUtilPercent
  loadAvg1 := by
    rw [h.loadAvg1, buildServerOverviewRecord]
    cases task.hostScore.info.cpuLoad <;> rfl
  sendRate := h.sendRate
  rcvRate := h.rcvRate

/-! ## Rows and records -/

section Rows

variable {γ δ : Type} (env : QueryEnv γ δ) {task : MysqlWriteTask}

/-- What `QueryPerformance` makes of the main row of a sample. -/
lemma describes_performanceRow (hhost : (nameBytes task.hostName).length ≤ 255) :
    ((performanceQuery env).record (performanceRow env.localtime task)).Describes env task where
  serverName := by rw [← boundBytes_eq hhost]; rfl
  timestamp := rfl
  cpuPercent := rfl
  loadAvg1 := rfl
  loadAvg3 := rfl
  loadAvg15 := rfl
  memUsedPercent := rfl
  diskUtilPercent := maxDiskUtil_eq _
  sendRate := rfl
  rcvRate := rfl
  score := rfl

lemma record_cpuRow (hhost : (nameBytes task.hostName).length ≤ 255) :
    (cpuDetailQuery env).record (cpuRow env.localtime task) = cpuDetailRecord env task := by
  rw [cpuDetailRecord, ← boundBytes_eq hhost]
  rfl

lemma record_netRow (hhost : (nameBytes task.hostName).length ≤ 255) {net : NetInfo}
    (hname : (nameBytes net.name).length ≤ 63) :
    (netDetailQuery env).record (netRow env.localtime task net) = netDetailRecord env task net := by
  rw [netDetailRecord, ← boundBytes_eq hhost, ← boundBytes_eq hname]
  rfl

lemma record_diskRow (hhost : (nameBytes task.hostName).length ≤ 255) {disk : DiskInfo}
    (hname : (nameBytes disk.name).length ≤ 63) :
    (diskDetailQuery env).record (diskRow env.localtime task disk) =
      diskDetailRecord env task disk := by
  rw [diskDetailRecord, ← boundBytes_eq hhost, ← boundBytes_eq hname]
  rfl

lemma record_netProcessRow (hhost : (nameBytes task.hostName).length ≤ 255)
    {proc : ProcessNetInfo} (hname : (nameBytes proc.name).length ≤ 63)
    (hpid : proc.pid < 2 ^ 32) :
    (netProcessDetailQuery env).record (netProcessRow env.localtime task proc) =
      netProcessDetailRecord env task proc := by
  rw [netProcessDetailRecord, ← boundBytes_eq hhost, ← boundBytes_eq hname,
    ← Nat.mod_eq_of_lt hpid]
  rfl

end Rows

/-! ## A new sample -/

section NewSample

variable {γ δ : Type} [DecidableEq γ] (env : QueryEnv γ δ)

/-- A sample whose names fit into the buffers and are told apart by the collation, and of whose
server and sequence no table has a row. -/
structure NewSample (d : Database env.collate) (task : MysqlWriteTask) : Prop where
  hostName : (nameBytes task.hostName).length ≤ 255
  netNames : ∀ net ∈ task.hostScore.info.netInfo, (nameBytes net.name).length ≤ 63
  diskNames : ∀ disk ∈ task.hostScore.info.diskInfo, (nameBytes disk.name).length ≤ 63
  procNames : ∀ proc ∈ task.hostScore.info.processNetInfo, (nameBytes proc.name).length ≤ 63
  nodup_nets : (task.hostScore.info.netInfo.map fun net => env.collate (nameBytes net.name)).Nodup
  nodup_disks :
    (task.hostScore.info.diskInfo.map fun disk => env.collate (nameBytes disk.name)).Nodup
  nodup_pids : (task.hostScore.info.processNetInfo.map ProcessNetInfo.pid).Nodup
  /-- A `uint32` of the message. -/
  pids : ∀ proc ∈ task.hostScore.info.processNetInfo, proc.pid < 2 ^ 32
  performance : ∀ r ∈ d.performance.rows, (env.collate r.serverName, r.sequence) ≠
    (env.collate (nameBytes task.hostName), task.hostScore.info.sequence)
  cpuDetail : ∀ r ∈ d.cpuDetail.rows, (env.collate r.serverName, r.sequence) ≠
    (env.collate (nameBytes task.hostName), task.hostScore.info.sequence)
  netDetail : ∀ r ∈ d.netDetail.rows, (env.collate r.serverName, r.sequence) ≠
    (env.collate (nameBytes task.hostName), task.hostScore.info.sequence)
  diskDetail : ∀ r ∈ d.diskDetail.rows, (env.collate r.serverName, r.sequence) ≠
    (env.collate (nameBytes task.hostName), task.hostScore.info.sequence)
  netProcessDetail : ∀ r ∈ d.netProcessDetail.rows, (env.collate r.serverName, r.sequence) ≠
    (env.collate (nameBytes task.hostName), task.hostScore.info.sequence)

variable {env} {d : Database env.collate} {task : MysqlWriteTask}

lemma rows_performance_insertTask (hnew : NewSample env d task) :
    (d.insertTask env.localtime task).performance.rows =
      d.performance.rows ++ [performanceRow env.localtime task] := by
  have hnone := hnew.performance
  rw [← boundBytes_eq hnew.hostName] at hnone
  exact KeyedTable.rows_insertIgnore_of_fresh hnone

lemma rows_cpuDetail_insertTask (hnew : NewSample env d task) :
    (d.insertTask env.localtime task).cpuDetail.rows =
      d.cpuDetail.rows ++ [cpuRow env.localtime task] := by
  have hnone := hnew.cpuDetail
  rw [← boundBytes_eq hnew.hostName] at hnone
  exact KeyedTable.rows_insertIgnore_of_fresh hnone

lemma rows_netDetail_insertTask (hnew : NewSample env d task) :
    (d.insertTask env.localtime task).netDetail.rows =
      d.netDetail.rows ++ task.hostScore.info.netInfo.map (netRow env.localtime task) := by
  refine KeyedTable.rows_insertAll_of_group (fun k => (k.1, k.2.1)) (fun k => k.2.2) ?_ ?_
    hnew.netDetail
  · intro r hr
    obtain ⟨net, -, rfl⟩ := List.mem_map.mp hr
    rw [← boundBytes_eq hnew.hostName]
    rfl
  · rw [List.map_map]
    convert hnew.nodup_nets using 1
    refine List.map_congr_left fun net hnet => ?_
    rw [← boundBytes_eq (hnew.netNames net hnet)]
    rfl

lemma rows_diskDetail_insertTask (hnew : NewSample env d task) :
    (d.insertTask env.localtime task).diskDetail.rows =
      d.diskDetail.rows ++ task.hostScore.info.diskInfo.map (diskRow env.localtime task) := by
  refine KeyedTable.rows_insertAll_of_group (fun k => (k.1, k.2.1)) (fun k => k.2.2) ?_ ?_
    hnew.diskDetail
  · intro r hr
    obtain ⟨disk, -, rfl⟩ := List.mem_map.mp hr
    rw [← boundBytes_eq hnew.hostName]
    rfl
  · rw [List.map_map]
    convert hnew.nodup_disks using 1
    refine List.map_congr_left fun disk hdisk => ?_
    rw [← boundBytes_eq (hnew.diskNames disk hdisk)]
    rfl

lemma rows_netProcessDetail_insertTask (hnew : NewSample env d task) :
    (d.insertTask env.localtime task).netProcessDetail.rows =
      d.netProcessDetail.rows ++
        task.hostScore.info.processNetInfo.map (netProcessRow env.localtime task) := by
  refine KeyedTable.rows_insertAll_of_group (fun k => (k.1, k.2.1)) (fun k => k.2.2) ?_ ?_
    hnew.netProcessDetail
  · intro r hr
    obtain ⟨proc, -, rfl⟩ := List.mem_map.mp hr
    rw [← boundBytes_eq hnew.hostName]
    rfl
  · rw [List.map_map]
    exact hnew.nodup_pids

end NewSample

/-! ## Reading back -/

section ReadsBack

variable {γ δ : Type} [DecidableEq γ] [LinearOrder δ] (env : QueryEnv γ δ)

/-- A range of time that a sample is in. -/
structure TimeRange.Covers (range : TimeRange) (task : MysqlWriteTask) : Prop where
  valid : validateTimeRange range = true
  start_le : env.datetime (formatTimestamp env.localtime range.startTime) ≤
    env.datetime (formatTimestamp env.localtime task.hostScore.timestamp)
  le_end : env.datetime (formatTimestamp env.localtime task.hostScore.timestamp) ≤
    env.datetime (formatTimestamp env.localtime range.endTime)

/-- A query that returned the records of the matching rows `before` returns these and the records
of a sample from the rows `after`. All are on one page, in whatever order MySQL returns rows that
agree on the `ORDER BY` clause. -/
def ReadsBack {ρ τ κ : Type} [LinearOrder κ] (spec : QuerySpec ρ τ κ) (before after : List ρ)
    (serverName : String) (range : TimeRange)
    (query : (List ρ → List ρ) → ℤ → ℤ → List τ × Option ℤ) (sample : List τ) : Prop :=
  ∀ orderBy pageSize, (∀ l, ResultOrder spec.key l (orderBy l)) → 1 ≤ pageSize →
    ((env.matchingRows spec after serverName range).length : ℤ) ≤ pageSize →
    (query orderBy 1 pageSize).1.Perm
      ((env.matchingRows spec before serverName range).map spec.record ++ sample)

variable {env} {task : MysqlWriteTask} {range : TimeRange}

/-- A query over a range that a sample is in returns the new rows, when these are the sample's. -/
lemma readsBack_of_rows {ρ τ κ : Type} [LinearOrder κ] (spec : QuerySpec ρ τ κ)
    {before after new : List ρ} (hhost : (nameBytes task.hostName).length ≤ 255)
    (hrange : range.Covers env task) (hafter : after = before ++ new)
    (hname : ∀ r ∈ new, spec.serverName r = boundBytes 255 task.hostName)
    (htime : ∀ r ∈ new,
      spec.timestamp r = formatTimestamp env.localtime task.hostScore.timestamp) :
    ReadsBack env spec before after task.hostName range
      (fun orderBy page pageSize => runQuery true .succeed range page pageSize
        (orderBy (after.filter (env.selects spec task.hostName range))) spec.record)
      (new.map spec.record) := by
  intro orderBy pageSize hsort hsize hlength
  have hselects : ∀ r ∈ new, env.selects spec task.hostName range r = true := by
    intro r hr
    simp [QueryEnv.selects, hname r hr, htime r hr, boundBytes_eq hhost, hrange.start_le,
      hrange.le_end, nameBytes]
  have hmatching : after.filter (env.selects spec task.hostName range) =
      before.filter (env.selects spec task.hostName range) ++ new := by
    rw [hafter, List.filter_append, List.filter_eq_self.mpr hselects]
  rw [QueryEnv.matchingRows, if_pos hrange.valid] at hlength ⊢
  set selected := after.filter (env.selects spec task.hostName range)
  obtain ⟨hperm, -⟩ := hsort selected
  have hquery : runQuery true .succeed range ((0 : ℕ) + 1) pageSize (orderBy selected)
      spec.record = _ := runQuery_of_valid hrange.valid hsize (by simp)
  -- the first page holds everything
  have hpage : page pageSize.toNat 0 (orderBy selected) = orderBy selected := by
    rw [page, Nat.zero_mul, List.drop_zero, List.take_of_length_le]
    rw [hperm.length_eq]
    omega
  rw [Nat.cast_zero, zero_add, hpage] at hquery
  show (runQuery true .succeed range 1 pageSize (orderBy selected) spec.record).1.Perm _
  rw [hquery, ← List.map_append, ← hmatching]
  exact hperm.map spec.record

/-- The same for rows that come from the items of a list. -/
lemma readsBack_of_items {α ρ τ κ : Type} [LinearOrder κ] (spec : QuerySpec ρ τ κ) {items : List α}
    {row : α → ρ} {rec : α → τ} {before after : List ρ}
    (hhost : (nameBytes task.hostName).length ≤ 255) (hrange : range.Covers env task)
    (hafter : after = before ++ items.map row)
    (hname : ∀ a, spec.serverName (row a) = boundBytes 255 task.hostName)
    (htime : ∀ a, spec.timestamp (row a) =
      formatTimestamp env.localtime task.hostScore.timestamp)
    (hrecord : ∀ a ∈ items, spec.record (row a) = rec a) :
    ReadsBack env spec before after task.hostName range
      (fun orderBy page pageSize => runQuery true .succeed range page pageSize
        (orderBy (after.filter (env.selects spec task.hostName range))) spec.record)
      (items.map rec) := by
  have hrecords : items.map rec = (items.map row).map spec.record := by
    rw [List.map_map]
    exact List.map_congr_left fun a ha => (hrecord a ha).symm
  rw [hrecords]
  exact readsBack_of_rows spec hhost hrange hafter (List.forall_mem_map.mpr fun a _ => hname a)
    (List.forall_mem_map.mpr fun a _ => htime a)

/-- **A written sample is read back.** Whatever tasks the statement contexts were used for before,
and with any calls to MySQL failing before this write: when `WriteToMysql` returns true for a sample
that is not stored yet, each of the five queries over a range the sample is in returns what it
returned before and the records of the sample, one for the sample, its CPU, and each interface,
process and disk. The performance record agrees with the summary of the same report.

**Proof sketch.** The contents of the buffers make no difference (`writeToMysqlWith_eq`), so the
sample's rows are inserted, and none of them is ignored because the names tell them apart. A query
selects all of them, and parsing the selected columns of a row gives its record. -/
theorem write_query_round_trip (env : QueryEnv γ δ) {ok : ℕ → Bool} {task : MysqlWriteTask}
    {c : StmtContexts} {s : Session (Database env.collate)} {range : TimeRange}
    (hwrite : (writeToMysqlWith env.localtime ok task c s).1 = true)
    (hnew : NewSample env s.begin.stored task) (hrange : range.Covers env task) :
    let before := s.begin.stored
    let after := (writeToMysqlWith env.localtime ok task c s).2.2.stored
    let host := task.hostName
    let info := task.hostScore.info
    (∃ rec : PerformanceRecord, rec.Describes env task ∧
      (∀ now, rec.Agrees (buildServerOverviewRecord host task.hostScore now)) ∧
      ReadsBack env (performanceQuery env) before.performance.rows after.performance.rows host range
        (queryPerformance env after true .succeed host range) [rec]) ∧
    ReadsBack env (cpuDetailQuery env) before.cpuDetail.rows after.cpuDetail.rows host range
      (queryCpuDetail env after true .succeed host range) [cpuDetailRecord env task] ∧
    ReadsBack env (netDetailQuery env) before.netDetail.rows after.netDetail.rows host range
      (queryNetDetail env after true .succeed host range)
      (info.netInfo.map (netDetailRecord env task)) ∧
    ReadsBack env (netProcessDetailQuery env) before.netProcessDetail.rows
      after.netProcessDetail.rows host range
      (queryNetProcessDetail env after true .succeed host range)
      (info.processNetInfo.map (netProcessDetailRecord env task)) ∧
    ReadsBack env (diskDetailQuery env) before.diskDetail.rows after.diskDetail.rows host range
      (queryDiskDetail env after true .succeed host range)
      (info.diskInfo.map (diskDetailRecord env task)) := by
  have hhost := hnew.hostName
  have hstored : (writeToMysqlWith env.localtime ok task c s).2.2.stored =
      s.begin.stored.insertTask env.localtime task := by
    obtain ⟨hdone, hsession⟩ :=
      @writeToMysqlWith_eq _ _ env.collate env.localtime task ok c s
    rw [hsession, writeToMysql_snd_of_true (hdone.symm.trans hwrite)]
  intro before after host info
  simp only [after, hstored]
  refine ⟨⟨_, describes_performanceRow env hhost, (describes_performanceRow env hhost).agrees, ?_⟩,
    ?_, ?_, ?_, ?_⟩
  · exact readsBack_of_rows (performanceQuery env) hhost hrange
      (rows_performance_insertTask hnew) (List.forall_mem_singleton.mpr rfl)
      (List.forall_mem_singleton.mpr rfl)
  · rw [← record_cpuRow env hhost]
    exact readsBack_of_rows (cpuDetailQuery env) hhost hrange
      (rows_cpuDetail_insertTask hnew) (List.forall_mem_singleton.mpr rfl)
      (List.forall_mem_singleton.mpr rfl)
  · exact readsBack_of_items (netDetailQuery env) hhost hrange (rows_netDetail_insertTask hnew)
      (fun _ => rfl) (fun _ => rfl)
      fun net hnet => record_netRow env hhost (hnew.netNames net hnet)
  · exact readsBack_of_items (netProcessDetailQuery env) hhost hrange
      (rows_netProcessDetail_insertTask hnew) (fun _ => rfl) (fun _ => rfl)
      fun proc hproc =>
        record_netProcessRow env hhost (hnew.procNames proc hproc) (hnew.pids proc hproc)
  · exact readsBack_of_items (diskDetailQuery env) hhost hrange (rows_diskDetail_insertTask hnew)
      (fun _ => rfl) (fun _ => rfl)
      fun disk hdisk => record_diskRow env hhost (hnew.diskNames disk hdisk)

end ReadsBack

/-! ## Two interfaces in used buffers -/

/-- What a task with longer names and other values may have left in a context. -/
def usedCtx : StmtCtx where
  srvName := nameBytes "some other host"
  srvNameLen := 15
  fvals := fun i => i + 1
  seqVal := 7
  tsBuf := "1999-12-31 23:59:59".toList
  tsLen := 19

/-- Contexts that have been used. -/
def usedContexts : StmtContexts where
  perf := { usedCtx with }
  cpu := { usedCtx with }
  net := { usedCtx with netName := nameBytes "enp0s31f6", netNameLen := 9 }
  disk := { usedCtx with diskName := nameBytes "nvme0n1", diskNameLen := 7 }
  procNet := { usedCtx with pidVal := 4242, procName := nameBytes "postgres", procNameLen := 8 }

lemma newSample_twoInterfaces : NewSample utcEnv (.empty utcEnv.collate) twoInterfaces where
  hostName := by decide +kernel
  netNames := by decide +kernel
  diskNames := by decide +kernel
  procNames := by decide +kernel
  nodup_nets := by decide +kernel
  nodup_disks := by decide +kernel
  nodup_pids := by decide +kernel
  pids := by decide +kernel
  performance := by decide +kernel
  cpuDetail := by decide +kernel
  netDetail := by decide +kernel
  diskDetail := by decide +kernel
  netProcessDetail := by decide +kernel

/-- Used buffers, empty tables: the query returns the two interfaces of the sample. -/
theorem write_query_round_trip_used :
    let after := (writeToMysqlWith utcEnv.localtime (fun _ => true) twoInterfaces usedContexts
      ⟨.empty utcEnv.collate, none⟩).2.2.stored
    ReadsBack utcEnv (netDetailQuery utcEnv) [] after.netDetail.rows "h" ⟨0, 0⟩
      (queryNetDetail utcEnv after true .succeed "h" ⟨0, 0⟩)
      (twoInterfaces.hostScore.info.netInfo.map (netDetailRecord utcEnv twoInterfaces)) := by
  have hwrite : (writeToMysqlWith utcEnv.localtime (fun _ => true) twoInterfaces usedContexts
      ⟨.empty utcEnv.collate, none⟩).1 = true := by decide +kernel
  have hrange : TimeRange.Covers utcEnv ⟨0, 0⟩ twoInterfaces :=
    ⟨by decide +kernel, le_rfl, le_rfl⟩
  exact (write_query_round_trip utcEnv hwrite newSample_twoInterfaces hrange).2.2.1

end Monitor
