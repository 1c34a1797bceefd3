import PerfMonitor.Manager.HostManager
import PerfMonitor.Table.KeyedTable
import PerfMonitor.Table.Transaction

set_option relaxedAutoImplicit false
set_option autoImplicit false

/-!
# Writing a sample to MySQL

`HostManager::WriteToMysql` (`manager/src/host_manager.cpp`) and the tables it writes to
(`manager/sql/init_server_performance.sql`). One sample becomes one row of the main table, one row
of CPU details, and one row for each network interface, disk and process, inserted in one
transaction with `INSERT IGNORE`. Columns of type `FLOAT` hold rationals, names hold the bytes
bound to them, and the automatic row ids are left out. How the column's collation compares names
and what `localtime_r` returns are parameters.

## Main definitions

* `Monitor.ServerPerformance`, `Monitor.ServerCpuDetail`, `Monitor.ServerNetDetail`,
  `Monitor.ServerDiskDetail`, `Monitor.ServerNetProcessDetail` — the rows of the five tables.
* `Monitor.Database` — the five tables with their unique keys.
* `Monitor.insertStatements` — the insertions of one sample, in order.
* `Monitor.writeToMysql` — the transaction.
* `Monitor.Database.insertTask` — the tables after all insertions of a sample.
* `Monitor.WrittenAll` — tasks written one after the other, each successfully.

## Main results

* `Monitor.writeToMysql_eq_true_iff` — the write succeeds exactly when all its calls do.
* `Monitor.writeToMysql_of_true` — a successful write executes all insertions.
* `Monitor.performance_writeToMysql` — what a successful write does to the main table.
* `Monitor.performance_writtenAll` — what successful writes do to it.
-/

namespace Monitor

/-! ## Timestamps -/

/-- Broken-down time, as `struct tm` has it. -/
structure Tm where
  tmYear : ℤ
  tmMon : ℕ
  tmMday : ℕ
  tmHour : ℕ
  tmMin : ℕ
  tmSec : ℕ
  deriving DecidableEq, Repr

/-- A number in at least two digits. -/
def twoDigits (n : ℕ) : String := if n < 10 then "0" ++ toString n else toString n

/-- `FormatTimestamp`: the local time of `tp` in the format `%Y-%m-%d %H:%M:%S`. -/
def formatTimestamp (localtime : ℤ → Tm) (tp : Time) : String :=
  let tm := localtime (tp.tdiv second)
  toString (tm.tmYear + 1900) ++ "-" ++ twoDigits (tm.tmMon + 1) ++ "-" ++ twoDigits tm.tmMday ++
    " " ++ twoDigits tm.tmHour ++ ":" ++ twoDigits tm.tmMin ++ ":" ++ twoDigits tm.tmSec

/-! ## Rows -/

/-- The bytes of a name that are bound: at most `limit` of them. -/
def boundBytes (limit : ℕ) (name : String) : List UInt8 := name.toUTF8.data.toList.take limit

/-- A row of `server_performance`. -/
structure ServerPerformance where
  serverName : List UInt8
  cpuPercent : ℚ
  loadAvg1 : ℚ
  loadAvg3 : ℚ
  loadAvg15 : ℚ
  memUsedPercent : ℚ
  diskUtilPercent : ℚ
  sendRate : ℚ
  rcvRate : ℚ
  score : ℚ
  cpuPercentRate : ℚ
  loadAvg1Rate : ℚ
  memUsedPercentRate : ℚ
  diskUtilPercentRate : ℚ
  sendRateRate : ℚ
  rcvRateRate : ℚ
  sequence : ℕ
  timestamp : String
  deriving DecidableEq, Repr

/-- A row of `server_cpu_detail`. -/
structure ServerCpuDetail where
  serverName : List UInt8
  usrPercent : ℚ
  systemPercent : ℚ
  nicePercent : ℚ
  idlePercent : ℚ
  ioWaitPercent : ℚ
  irqPercent : ℚ
  softIrqPercent : ℚ
  sequence : ℕ
  timestamp : String
  deriving DecidableEq, Repr

/-- A row of `server_net_detail`. -/
structure ServerNetDetail where
  serverName : List UInt8
  netName : List UInt8
  rcvBytesRate : ℚ
  rcvPacketsRate : ℚ
  sndBytesRate : ℚ
  sndPacketsRate : ℚ
  sequence : ℕ
  timestamp : String
  deriving DecidableEq, Repr

/-- A row of `server_disk_detail`. -/
structure ServerDiskDetail where
  serverName : List UInt8
  diskName : List UInt8
  readBytesPerSec : ℚ
  writeBytesPerSec : ℚ
  readIops : ℚ
  writeIops : ℚ
  avgReadLatencyMs : ℚ
  avgWriteLatencyMs : ℚ
  utilPercent : ℚ
  sequence : ℕ
  timestamp : String
  deriving DecidableEq, Repr

/-- A row of `server_net_process_detail`. -/
structure ServerNetProcessDetail where
  serverName : List UInt8
  pid : ℕ
  procName : List UInt8
  sndBytesRate : ℚ
  rcvBytesRate : ℚ
  totalBytesRate : ℚ
  sharePercent : ℚ
  sequence : ℕ
  timestamp : String
  deriving DecidableEq, Repr

section Rows

variable (localtime : ℤ → Tm) (task : MysqlWriteTask)

/-- The main row of a task. -/
def performanceRow : ServerPerformance :=
  let info := task.hostScore.info
  let cpu := info.cpuStat.head?.getD {}
  let load := info.cpuLoad.getD {}
  { serverName := boundBytes 255 task.hostName
    cpuPercent := cpu.cpuPercent
    loadAvg1 := load.loadAvg1
    loadAvg3 := load.loadAvg3
    loadAvg15 := load.loadAvg15
    memUsedPercent := (info.memInfo.getD {}).usedPercent
    diskUtilPercent := maxDiskUtil info.diskInfo
    sendRate := (info.netInfo.map NetInfo.sendRate).sum
    rcvRate := (info.netInfo.map NetInfo.rcvRate).sum
    score := task.hostScore.score
    cpuPercentRate := task.cpuPercentRate
    loadAvg1Rate := task.loadAvg1Rate
    memUsedPercentRate := task.memUsedPercentRate
    diskUtilPercentRate := task.diskUtilPercentRate
    -- the incoming rate goes to the send column, and the outgoing one to the receive column
    sendRateRate := task.netInRateRate
    rcvRateRate := task.netOutRateRate
    sequence := info.sequence
    timestamp := formatTimestamp localtime task.hostScore.timestamp }

/-- The CPU row of a task. -/
def cpuRow : ServerCpuDetail :=
  let cpu := task.hostScore.info.cpuStat.head?.getD {}
  { serverName := boundBytes 255 task.hostName
    usrPercent := cpu.usrPercent
    systemPercent := cpu.systemPercent
    nicePercent := cpu.nicePercent
    idlePercent := cpu.idlePercent
    ioWaitPercent := cpu.ioWaitPercent
    irqPercent := cpu.irqPercent
    softIrqPercent := cpu.softIrqPercent
    sequence := task.hostScore.info.sequence
    timestamp := formatTimestamp localtime task.hostScore.timestamp }

/-- The row of one network interface of a task. -/
def netRow (net : NetInfo) : ServerNetDetail where
  serverName := boundBytes 255 task.hostName
  netName := boundBytes 63 net.name
  rcvBytesRate := net.rcvRate
  rcvPacketsRate := net.rcvPacketsRate
  sndBytesRate := net.sendRate
  sndPacketsRate := net.sendPacketsRate
  sequence := task.hostScore.info.sequence
  timestamp := formatTimestamp localtime task.hostScore.timestamp

/-- The row of one disk of a task. -/
def diskRow (disk : DiskInfo) : ServerDiskDetail where
  serverName := boundBytes 255 task.hostName
  diskName := boundBytes 63 disk.name
  readBytesPerSec := disk.readBytesPerSec
  writeBytesPerSec := disk.writeBytesPerSec
  readIops := disk.readIops
  writeIops := disk.writeIops
  avgReadLatencyMs := disk.avgReadLatencyMs
  avgWriteLatencyMs := disk.avgWriteLatencyMs
  utilPercent := disk.utilPercent
  sequence := task.hostScore.info.sequence
  timestamp := formatTimestamp localtime task.hostScore.timestamp

/-- The row of one process of a task. -/
def netProcessRow (proc : ProcessNetInfo) : ServerNetProcessDetail where
  serverName := boundBytes 255 task.hostName
  pid := proc.pid
  procName := boundBytes 63 proc.name
  sndBytesRate := proc.sendRate
  rcvBytesRate := proc.rcvRate
  totalBytesRate := proc.totalRate
  sharePercent := proc.sharePercent
  sequence := task.hostScore.info.sequence
  timestamp := formatTimestamp localtime task.hostScore.timestamp

end Rows

/-! ## The tables -/

section Tables

variable {γ : Type} [DecidableEq γ]

/-- The five tables, `collate` being what the collation compares names by. The keys are
`uk_host_seq`, `uk_cpu_host_seq`, `uk_net_host_seq`, `uk_disk_host_seq` and `uk_proc_host_seq`. -/
structure Database (collate : List UInt8 → γ) where
  performance : KeyedTable ServerPerformance fun r => (collate r.serverName, r.sequence)
  cpuDetail : KeyedTable ServerCpuDetail fun r => (collate r.serverName, r.sequence)
  netDetail : KeyedTable ServerNetDetail fun r =>
    (collate r.serverName, r.sequence, collate r.netName)
  diskDetail : KeyedTable ServerDiskDetail fun r =>
    (collate r.serverName, r.sequence, collate r.diskName)
  netProcessDetail : KeyedTable ServerNetProcessDetail fun r =>
    (collate r.serverName, r.sequence, r.pid)

/-- The database as the initialisation script leaves it. -/
def Database.empty (collate : List UInt8 → γ) : Database collate :=
  ⟨.empty, .empty, .empty, .empty, .empty⟩

variable {collate : List UInt8 → γ} (localtime : ℤ → Tm)

/-- The `INSERT IGNORE` statements of a task, in the order `WriteToMysql` executes them. -/
def insertStatements (task : MysqlWriteTask) : List (Database collate → Database collate) :=
  let info := task.hostScore.info
  [fun d => { d with performance := d.performance.insertIgnore (performanceRow localtime task) },
    fun d => { d with cpuDetail := d.cpuDetail.insertIgnore (cpuRow localtime task) }] ++
  info.netInfo.map (fun net d =>
    { d with netDetail := d.netDetail.insertIgnore (netRow localtime task net) }) ++
  info.diskInfo.map (fun disk d =>
    { d with diskDetail := d.diskDetail.insertIgnore (diskRow localtime task disk) }) ++
  info.processNetInfo.map (fun proc d =>
    { d with
      netProcessDetail := d.netProcessDetail.insertIgnore (netProcessRow localtime task proc) })

/-- `WriteToMysql` with prepared statements, `ok n` telling whether its `n`th call succeeds. -/
def writeToMysql (ok : ℕ → Bool) (task : MysqlWriteTask) (s : Session (Database collate)) :
    Bool × Session (Database collate) :=
  s.transact ok (insertStatements localtime task)

/-- The number of MySQL calls of a successful write: the statements, and the two that open and
commit the transaction. -/
def writeCalls (task : MysqlWriteTask) : ℕ :=
  let info := task.hostScore.info
  info.netInfo.length + info.diskInfo.length + info.processNetInfo.length + 4

variable {localtime} {ok : ℕ → Bool} {task : MysqlWriteTask} {s : Session (Database collate)}

lemma length_insertStatements :
    (insertStatements localtime task : List (Database collate → Database collate)).length + 2 =
      writeCalls task := by
  simp only [insertStatements, writeCalls, List.length_append, List.length_cons, List.length_nil,
    List.length_map]
  omega

/-- **A write succeeds exactly when all its calls do.** -/
theorem writeToMysql_eq_true_iff :
    (writeToMysql localtime ok task s).1 = true ↔ ∀ n < writeCalls task, ok n = true := by
  rw [writeToMysql, Session.transact_eq_true_iff, length_insertStatements]

variable (localtime) in
/-- The tables after all insertions of a task: the main row, the CPU row, and the rows of its
interfaces, disks and processes, each ignored if its key is taken. -/
def Database.insertTask (d : Database collate) (task : MysqlWriteTask) : Database collate where
  performance := d.performance.insertIgnore (performanceRow localtime task)
  cpuDetail := d.cpuDetail.insertIgnore (cpuRow localtime task)
  netDetail := d.netDetail.insertAll (task.hostScore.info.netInfo.map (netRow localtime task))
  diskDetail := d.diskDetail.insertAll (task.hostScore.info.diskInfo.map (diskRow localtime task))
  netProcessDetail := d.netProcessDetail.insertAll
    (task.hostScore.info.processNetInfo.map (netProcessRow localtime task))

/-- The statements of a task, in order, insert its rows.

**Proof sketch.** The statements of one loop change one table, so their fold is the fold of that
table's insertions (`KeyedTable.foldl_put`). -/
lemma foldl_insertStatements (d : Database collate) :
    (insertStatements localtime task).foldl (fun d f => f d) d = d.insertTask localtime task := by
  have hnet : ∀ (d : Database collate) (nets : List NetInfo),
      nets.foldl (fun d net =>
          { d with netDetail := d.netDetail.insertIgnore (netRow localtime task net) }) d =
        { d with netDetail := d.netDetail.insertAll (nets.map (netRow localtime task)) } := by
    intro d nets
    refine KeyedTable.foldl_put (fun t => { d with netDetail := t }) ?_ d.netDetail nets
    exact fun _ _ => rfl
  have hdisk : ∀ (d : Database collate) (disks : List DiskInfo),
      disks.foldl (fun d disk =>
          { d with diskDetail := d.diskDetail.insertIgnore (diskRow localtime task disk) }) d =
        { d with diskDetail := d.diskDetail.insertAll (disks.map (diskRow localtime task)) } := by
    intro d disks
    refine KeyedTable.foldl_put (fun t => { d with diskDetail := t }) ?_ d.diskDetail disks
    exact fun _ _ => rfl
  have hproc : ∀ (d : Database collate) (procs : List ProcessNetInfo),
      procs.foldl (fun d proc =>
          { d with
            netProcessDetail :=
              d.netProcessDetail.insertIgnore (netProcessRow localtime task proc) }) d =
        { d with
          netProcessDetail :=
            d.netProcessDetail.insertAll (procs.map (netProcessRow localtime task)) } := by
    intro d procs
    refine KeyedTable.foldl_put (fun t => { d with netProcessDetail := t }) ?_ d.netProcessDetail
      procs
    exact fun _ _ => rfl
  simp only [insertStatements, List.foldl_append, List.foldl_map, List.foldl_cons, List.foldl_nil]
  rw [hnet, hdisk, hproc]
  rfl

/-- **A successful write executes all insertions** on what is stored when its transaction begins,
and leaves no transaction open. -/
theorem writeToMysql_snd_of_true (h : (writeToMysql localtime ok task s).1 = true) :
    (writeToMysql localtime ok task s).2 = ⟨s.begin.stored.insertTask localtime task, none⟩ := by
  unfold writeToMysql at h ⊢
  rw [Session.transact_of_true h, foldl_insertStatements]

/-- The same on a session without an open transaction. -/
theorem writeToMysql_of_true (hs : s.working = none)
    (h : (writeToMysql localtime ok task s).1 = true) :
    (writeToMysql localtime ok task s).2 = ⟨s.stored.insertTask localtime task, none⟩ := by
  rw [writeToMysql_snd_of_true h, Session.stored_begin hs]

/-- **A successful write inserts its main row**, unless the row's key is taken. -/
theorem performance_writeToMysql (hs : s.working = none)
    (h : (writeToMysql localtime ok task s).1 = true) :
    (writeToMysql localtime ok task s).2.stored.performance =
        s.stored.performance.insertIgnore (performanceRow localtime task) ∧
      (writeToMysql localtime ok task s).2.working = none := by
  rw [writeToMysql_of_true hs h]
  exact ⟨rfl, rfl⟩

/-- After a failed write, closing the connection leaves the tables as they were. -/
lemma rollback_writeToMysql (hs : s.working = none)
    (h : (writeToMysql localtime ok task s).1 = false) :
    (writeToMysql localtime ok task s).2.rollback = s := by
  have hstored := Session.transact_of_false hs h
  rw [← writeToMysql] at hstored
  rw [Session.rollback, hstored, ← hs]

variable (localtime) in
/-- The session after the tasks are written one after the other, each write returning true. -/
inductive WrittenAll : List MysqlWriteTask → Session (Database collate) →
    Session (Database collate) → Prop where
  | nil (s : Session (Database collate)) : WrittenAll [] s s
  | cons {ok : ℕ → Bool} {task : MysqlWriteTask} {tasks : List MysqlWriteTask}
      {s s₁ s₂ : Session (Database collate)}
      (hwrite : writeToMysql localtime ok task s = (true, s₁))
      (hrest : WrittenAll tasks s₁ s₂) : WrittenAll (task :: tasks) s s₂

/-- Tasks are written after others. -/
lemma WrittenAll.append {tasks tasks' : List MysqlWriteTask} {s₁ s₂ : Session (Database collate)}
    (h : WrittenAll localtime tasks s s₁) (h' : WrittenAll localtime tasks' s₁ s₂) :
    WrittenAll localtime (tasks ++ tasks') s s₂ := by
  induction h with
  | nil s => exact h'
  | cons hfirst _ ih => exact .cons hfirst (ih h')

/-- **Successful writes insert their main rows in order.** -/
theorem performance_writtenAll {tasks : List MysqlWriteTask} {s₁ : Session (Database collate)}
    (h : WrittenAll localtime tasks s s₁) (hs : s.working = none) :
    s₁.stored.performance =
        s.stored.performance.insertAll (tasks.map (performanceRow localtime)) ∧
      s₁.working = none := by
  induction h with
  | nil s => exact ⟨rfl, hs⟩
  | cons hwrite hrest ih =>
    have hone := performance_writeToMysql hs (congrArg Prod.fst hwrite)
    rw [hwrite] at hone
    obtain ⟨hrow, hwork⟩ := ih hone.2
    refine ⟨?_, hwork⟩
    rw [hrow, hone.1]
    rfl

end Tables

end Monitor
