import Mathlib.Algebra.BigOperators.Group.List.Basic
import PerfMonitor.Manager.WriteToMysql
import PerfMonitor.Memory.Stores
import PerfMonitor.Table.Columns

set_option relaxedAutoImplicit false
set_option autoImplicit false

/-!
# The bind buffers of the prepared statements

`MysqlWriteLoop` keeps five statement contexts (`manager/src/host_manager.cpp`), whose buffers are
bound to the placeholders of the `INSERT` statements. `WriteToMysql` fills the buffers and executes
the statements; nothing ever clears them, so each task finds what the tasks before it left.

A `char` buffer is a list, copied to from its start, and what is executed of it is as long as its
length field says. The columns of a statement and the values bound to it are lists, matched by
position.

## Main definitions

* `Monitor.StmtPerfCtx`, `Monitor.StmtCpuCtx`, `Monitor.StmtNetCtx`, `Monitor.StmtDiskCtx`,
  `Monitor.StmtProcNetCtx` — the contexts.
* `Monitor.StmtContexts` — the five of them.
* `Monitor.writeToMysqlWith` — `WriteToMysql` on given contexts.

## Main results

* `Monitor.writeToMysqlWith_eq` — the buffers' contents make no difference.
-/

namespace Monitor

/-! ## Contexts -/

/-- What all contexts have: the server name, the float values, the sequence and the timestamp. -/
structure StmtCtx where
  srvName : List UInt8
  srvNameLen : ℕ
  fvals : ℕ → ℚ
  seqVal : ℕ
  tsBuf : List Char
  tsLen : ℕ

structure StmtPerfCtx extends StmtCtx

structure StmtCpuCtx extends StmtCtx

structure StmtNetCtx extends StmtCtx where
  netName : List UInt8
  netNameLen : ℕ

structure StmtDiskCtx extends StmtCtx where
  diskName : List UInt8
  diskNameLen : ℕ

structure StmtProcNetCtx extends StmtCtx where
  pidVal : ℕ
  procName : List UInt8
  procNameLen : ℕ

/-- The contexts of one connection. -/
structure StmtContexts where
  perf : StmtPerfCtx
  cpu : StmtCpuCtx
  net : StmtNetCtx
  disk : StmtDiskCtx
  procNet : StmtProcNetCtx

/-! ## Bound values -/

namespace StmtCtx

/-- The bound server name. -/
def srvCell (c : StmtCtx) : Cell := .bytes (c.srvName.take c.srvNameLen)

/-- The first `n` bound float values. -/
def floatCells (c : StmtCtx) (n : ℕ) : List Cell := (List.range n).map fun i => .real (c.fvals i)

/-- The bound sequence and timestamp. -/
def tailCells (c : StmtCtx) : List Cell :=
  [.nat c.seqVal, .time (String.ofList (c.tsBuf.take c.tsLen))]

end StmtCtx

def StmtPerfCtx.binds (c : StmtPerfCtx) : List Cell :=
  c.srvCell :: (c.floatCells 15 ++ c.tailCells)

def StmtCpuCtx.binds (c : StmtCpuCtx) : List Cell :=
  c.srvCell :: (c.floatCells 7 ++ c.tailCells)

def StmtNetCtx.binds (c : StmtNetCtx) : List Cell :=
  c.srvCell :: .bytes (c.netName.take c.netNameLen) :: (c.floatCells 4 ++ c.tailCells)

def StmtDiskCtx.binds (c : StmtDiskCtx) : List Cell :=
  c.srvCell :: .bytes (c.diskName.take c.diskNameLen) :: (c.floatCells 7 ++ c.tailCells)

def StmtProcNetCtx.binds (c : StmtProcNetCtx) : List Cell :=
  c.srvCell :: .nat c.pidVal :: .bytes (c.procName.take c.procNameLen) ::
    (c.floatCells 4 ++ c.tailCells)

/-! ## The statements -/

/-- `INSERT IGNORE INTO server_performance`. -/
def performanceInsertColumns : List String :=
  ["server_name", "cpu_percent", "load_avg_1", "load_avg_3", "load_avg_15",
    "mem_used_percent", "disk_util_percent", "send_rate", "rcv_rate", "score",
    "cpu_percent_rate", "load_avg_1_rate", "mem_used_percent_rate",
    "disk_util_percent_rate", "send_rate_rate", "rcv_rate_rate", "sequence", "timestamp"]

/-- `INSERT IGNORE INTO server_cpu_detail`. -/
def cpuDetailInsertColumns : List String :=
  ["server_name", "usr_percent", "system_percent", "nice_percent", "idle_percent",
    "io_wait_percent", "irq_percent", "soft_irq_percent", "sequence", "timestamp"]

/-- `INSERT IGNORE INTO server_net_detail`. -/
def netDetailInsertColumns : List String :=
  ["server_name", "net_name", "rcv_bytes_rate", "rcv_packets_rate", "snd_bytes_rate",
    "snd_packets_rate", "sequence", "timestamp"]

/-- `INSERT IGNORE INTO server_disk_detail`. -/
def diskDetailInsertColumns : List String :=
  ["server_name", "disk_name", "read_bytes_per_sec", "write_bytes_per_sec", "read_iops",
    "write_iops", "avg_read_latency_ms", "avg_write_latency_ms", "util_percent", "sequence",
    "timestamp"]

/-- `INSERT IGNORE INTO server_net_process_detail`. -/
def netProcessDetailInsertColumns : List String :=
  ["server_name", "pid", "proc_name", "snd_bytes_rate", "rcv_bytes_rate", "total_bytes_rate",
    "share_percent", "sequence", "timestamp"]

/-- The row of `server_performance` with the given cells. -/
def ServerPerformance.ofCells (r : NamedCells) : ServerPerformance where
  serverName := r.bytes "server_name"
  cpuPercent := r.real "cpu_percent"
  loadAvg1 := r.real "load_avg_1"
  loadAvg3 := r.real "load_avg_3"
  loadAvg15 := r.real "load_avg_15"
  memUsedPercent := r.real "mem_used_percent"
  diskUtilPercent := r.real "disk_util_percent"
  sendRate := r.real "send_rate"
  rcvRate := r.real "rcv_rate"
  score := r.real "score"
  cpuPercentRate := r.real "cpu_percent_rate"
  loadAvg1Rate := r.real "load_avg_1_rate"
  memUsedPercentRate := r.real "mem_used_percent_rate"
  diskUtilPercentRate := r.real "disk_util_percent_rate"
  sendRateRate := r.real "send_rate_rate"
  rcvRateRate := r.real "rcv_rate_rate"
  sequence := r.nat "sequence"
  timestamp := r.time "timestamp"

/-- The row of `server_cpu_detail` with the given cells. -/
def ServerCpuDetail.ofCells (r : NamedCells) : ServerCpuDetail where
  serverName := r.bytes "server_name"
  usrPercent := r.real "usr_percent"
  systemPercent := r.real "system_percent"
  nicePercent := r.real "nice_percent"
  idlePercent := r.real "idle_percent"
  ioWaitPercent := r.real "io_wait_percent"
  irqPercent := r.real "irq_percent"
  softIrqPercent := r.real "soft_irq_percent"
  sequence := r.nat "sequence"
  timestamp := r.time "timestamp"

/-- The row of `server_net_detail` with the given cells. -/
def ServerNetDetail.ofCells (r : NamedCells) : ServerNetDetail where
  serverName := r.bytes "server_name"
  netName := r.bytes "net_name"
  rcvBytesRate := r.real "rcv_bytes_rate"
  rcvPacketsRate := r.real "rcv_packets_rate"
  sndBytesRate := r.real "snd_bytes_rate"
  sndPacketsRate := r.real "snd_packets_rate"
  sequence := r.nat "sequence"
  timestamp := r.time "timestamp"

/-- The row of `server_disk_detail` with the given cells. -/
def ServerDiskDetail.ofCells (r : NamedCells) : ServerDiskDetail where
  serverName := r.bytes "server_name"
  diskName := r.bytes "disk_name"
  readBytesPerSec := r.real "read_bytes_per_sec"
  writeBytesPerSec := r.real "write_bytes_per_sec"
  readIops := r.real "read_iops"
  writeIops := r.real "write_iops"
  avgReadLatencyMs := r.real "avg_read_latency_ms"
  avgWriteLatencyMs := r.real "avg_write_latency_ms"
  utilPercent := r.real "util_percent"
  sequence := r.nat "sequence"
  timestamp := r.time "timestamp"

/-- The row of `server_net_process_detail` with the given cells. -/
def ServerNetProcessDetail.ofCells (r : NamedCells) : ServerNetProcessDetail where
  serverName := r.bytes "server_name"
  pid := r.nat "pid"
  procName := r.bytes "proc_name"
  sndBytesRate := r.real "snd_bytes_rate"
  rcvBytesRate := r.real "rcv_bytes_rate"
  totalBytesRate := r.real "total_bytes_rate"
  sharePercent := r.real "share_percent"
  sequence := r.nat "sequence"
  timestamp := r.time "timestamp"

/-! ## Filling the buffers -/

section Fill

variable (localtime : ℤ → Tm) (task : MysqlWriteTask)

/-- What `WriteToMysql` does to every context: `set_server_name`, the timestamp and the
sequence. -/
def StmtCtx.fill (c : StmtCtx) : StmtCtx :=
  let host := boundBytes 255 task.hostName
  let time := (formatTimestamp localtime task.hostScore.timestamp).toList
  { c with
    srvName := overlay host c.srvName
    srvNameLen := host.length
    tsBuf := overlay time c.tsBuf
    tsLen := time.length
    seqVal := task.hostScore.info.sequence }

/-- The fifteen values of `server_performance`. -/
def performanceStores : List (ℕ × ℚ) :=
  let info := task.hostScore.info
  let cpu := info.cpuStat.head?.getD {}
  let load := info.cpuLoad.getD {}
  [(0, cpu.cpuPercent),
    (1, load.loadAvg1), (2, load.loadAvg3), (3, load.loadAvg15),
    (4, (info.memInfo.getD {}).usedPercent),
    (5, info.diskInfo.foldl (fun m d => if d.utilPercent > m then d.utilPercent else m) 0),
    (6, info.netInfo.foldl (fun r net => r + net.sendRate) 0),
    (7, info.netInfo.foldl (fun r net => r + net.rcvRate) 0),
    (8, task.hostScore.score),
    (9, task.cpuPercentRate), (10, task.loadAvg1Rate),
    (11, task.memUsedPercentRate), (12, task.diskUtilPercentRate),
    (13, task.netInRateRate), (14, task.netOutRateRate)]

/-- The seven values of `server_cpu_detail`. -/
def cpuDetailStores : List (ℕ × ℚ) :=
  let cpu := task.hostScore.info.cpuStat.head?.getD {}
  [(0, cpu.usrPercent), (1, cpu.systemPercent), (2, cpu.nicePercent), (3, cpu.idlePercent),
    (4, cpu.ioWaitPercent), (5, cpu.irqPercent), (6, cpu.softIrqPercent)]

/-- What is filled in before the transaction starts. -/
def StmtContexts.fill (c : StmtContexts) : StmtContexts where
  perf :=
    { c.perf.toStmtCtx.fill localtime task with
      fvals := write (performanceStores task) c.perf.fvals }
  cpu :=
    { c.cpu.toStmtCtx.fill localtime task with
      fvals := write (cpuDetailStores task) c.cpu.fvals }
  net := { c.net with toStmtCtx := c.net.toStmtCtx.fill localtime task }
  disk := { c.disk with toStmtCtx := c.disk.toStmtCtx.fill localtime task }
  procNet := { c.procNet with toStmtCtx := c.procNet.toStmtCtx.fill localtime task }

end Fill

/-- What is filled in for one network interface. -/
def StmtNetCtx.load (c : StmtNetCtx) (net : NetInfo) : StmtNetCtx :=
  let name := boundBytes 63 net.name
  { c with
    netName := overlay name c.netName
    netNameLen := name.length
    fvals := write [(0, net.rcvRate), (1, net.rcvPacketsRate), (2, net.sendRate),
      (3, net.sendPacketsRate)] c.fvals }

/-- What is filled in for one disk. -/
def StmtDiskCtx.load (c : StmtDiskCtx) (disk : DiskInfo) : StmtDiskCtx :=
  let name := boundBytes 63 disk.name
  { c with
    diskName := overlay name c.diskName
    diskNameLen := name.length
    fvals := write [(0, disk.readBytesPerSec), (1, disk.writeBytesPerSec), (2, disk.readIops),
      (3, disk.writeIops), (4, disk.avgReadLatencyMs), (5, disk.avgWriteLatencyMs),
      (6, disk.utilPercent)] c.fvals }

/-- What is filled in for one process. -/
def StmtProcNetCtx.load (c : StmtProcNetCtx) (proc : ProcessNetInfo) : StmtProcNetCtx :=
  let name := boundBytes 63 proc.name
  { c with
    procName := overlay name c.procName
    procNameLen := name.length
    pidVal := proc.pid
    fvals := write [(0, proc.sendRate), (1, proc.rcvRate), (2, proc.totalRate),
      (3, proc.sharePercent)] c.fvals }

/-! ## Executing the statements -/

section Execute

variable {γ : Type} [DecidableEq γ] {collate : List UInt8 → γ}

/-- One `Execute`: what is filled in for it, and what it inserts. -/
structure BoundStatement (collate : List UInt8 → γ) where
  load : StmtContexts → StmtContexts
  execute : StmtContexts → Database collate → Database collate

/-- The statements of a task, in the order `WriteToMysql` executes them. -/
def boundStatements (task : MysqlWriteTask) : List (BoundStatement collate) :=
  let info := task.hostScore.info
  [{ load := id
     execute := fun c d =>
      { d with
        performance := d.performance.insertIgnore
          (.ofCells (.bind performanceInsertColumns c.perf.binds)) } },
    { load := id
      execute := fun c d =>
        { d with
          cpuDetail := d.cpuDetail.insertIgnore
            (.ofCells (.bind cpuDetailInsertColumns c.cpu.binds)) } }] ++
  info.netInfo.map (fun net =>
    { load := fun c => { c with net := c.net.load net }
      execute := fun c d =>
        { d with
          netDetail := d.netDetail.insertIgnore
            (.ofCells (.bind netDetailInsertColumns c.net.binds)) } }) ++
  info.diskInfo.map (fun disk =>
    { load := fun c => { c with disk := c.disk.load disk }
      execute := fun c d =>
        { d with
          diskDetail := d.diskDetail.insertIgnore
            (.ofCells (.bind diskDetailInsertColumns c.disk.binds)) } }) ++
  info.processNetInfo.map (fun proc =>
    { load := fun c => { c with procNet := c.procNet.load proc }
      execute := fun c d =>
        { d with
          netProcessDetail := d.netProcessDetail.insertIgnore
            (.ofCells (.bind netProcessDetailInsertColumns c.procNet.binds)) } })

/-- Fill in and execute from call `n` on until a call fails: whether all succeeded, the number of
the next call, and what the contexts and the session are then. -/
def executeAll (ok : ℕ → Bool) : ℕ → List (BoundStatement collate) → StmtContexts →
    Session (Database collate) → Bool × ℕ × StmtContexts × Session (Database collate)
  | n, [], c, s => (true, n, c, s)
  | n, st :: sts, c, s =>
    if ok n then executeAll ok (n + 1) sts (st.load c) (s.apply (st.execute (st.load c)))
    else (false, n + 1, st.load c, s)

/-- `WriteToMysql` on contexts that hold anything, `ok n` telling whether its `n`th call
succeeds. -/
def writeToMysqlWith (localtime : ℤ → Tm) (ok : ℕ → Bool) (task : MysqlWriteTask)
    (c : StmtContexts) (s : Session (Database collate)) :
    Bool × StmtContexts × Session (Database collate) :=
  let c := c.fill localtime task
  if ok 0 then
    match executeAll ok 1 (boundStatements task) c s.begin with
    | (false, n, c, s) => (false, c, if ok n then s.rollback else s)
    | (true, n, c, s) =>
      if ok n then (true, c, s.commit)
      else (false, c, if ok (n + 1) then s.rollback else s)
  else (false, c, s)

end Execute

/-! ## What is bound -/

section Bound

variable {localtime : ℤ → Tm} {task : MysqlWriteTask}

/-- The fields that every context is filled with are those of the task. -/
structure StmtCtx.Filled (localtime : ℤ → Tm) (task : MysqlWriteTask) (c : StmtCtx) : Prop where
  srv : c.srvCell = .bytes (boundBytes 255 task.hostName)
  tail : c.tailCells = [.nat task.hostScore.info.sequence,
    .time (formatTimestamp localtime task.hostScore.timestamp)]

lemma StmtCtx.filled_fill (c : StmtCtx) : (c.fill localtime task).Filled localtime task where
  srv := by simp [srvCell, fill]
  tail := by simp [tailCells, fill]

/-- The float values are no part of this. -/
lemma StmtCtx.Filled.withFloats {c : StmtCtx} (h : c.Filled localtime task) (f : ℕ → ℚ) :
    StmtCtx.Filled localtime task { c with fvals := f } where
  srv := h.srv
  tail := h.tail

/-- The contexts are filled with the fields of the task, and those of its two single rows with
their values. -/
structure StmtContexts.Filled (localtime : ℤ → Tm) (task : MysqlWriteTask) (c : StmtContexts) :
    Prop where
  perf : c.perf.toStmtCtx.Filled localtime task
  cpu : c.cpu.toStmtCtx.Filled localtime task
  net : c.net.toStmtCtx.Filled localtime task
  disk : c.disk.toStmtCtx.Filled localtime task
  procNet : c.procNet.toStmtCtx.Filled localtime task
  perfValues : c.perf.floatCells 15 = (performanceStores task).map fun p => .real p.2
  cpuValues : c.cpu.floatCells 7 = (cpuDetailStores task).map fun p => .real p.2

lemma StmtContexts.filled_fill (c : StmtContexts) :
    (c.fill localtime task).Filled localtime task where
  perf := c.perf.toStmtCtx.filled_fill.withFloats _
  cpu := c.cpu.toStmtCtx.filled_fill.withFloats _
  net := c.net.filled_fill
  disk := c.disk.filled_fill
  procNet := c.procNet.filled_fill
  perfValues := rfl
  cpuValues := rfl

/-! ### The rows -/

lemma foldl_add_eq_sum {α : Type} (f : α → ℚ) (l : List α) :
    l.foldl (fun r a => r + f a) 0 = (l.map f).sum := by
  rw [List.sum_eq_foldl, List.foldl_map]

variable {c : StmtContexts} (h : c.Filled localtime task)

include h

/-- What the first statement inserts. -/
lemma StmtContexts.Filled.performanceRow_eq :
    ServerPerformance.ofCells (.bind performanceInsertColumns c.perf.binds) =
      performanceRow localtime task := by
  rw [StmtPerfCtx.binds, h.perf.srv, h.perfValues, h.perf.tail]
  simp only [performanceStores, foldl_add_eq_sum]
  rfl

/-- What the second statement inserts. -/
lemma StmtContexts.Filled.cpuRow_eq :
    ServerCpuDetail.ofCells (.bind cpuDetailInsertColumns c.cpu.binds) =
      cpuRow localtime task := by
  rw [StmtCpuCtx.binds, h.cpu.srv, h.cpuValues, h.cpu.tail]
  rfl

/-- What is inserted for a network interface. -/
lemma StmtContexts.Filled.netRow_eq (net : NetInfo) :
    ServerNetDetail.ofCells (.bind netDetailInsertColumns (c.net.load net).binds) =
      netRow localtime task net := by
  have hsrv : (c.net.load net).srvCell = _ := h.net.srv
  have htail : (c.net.load net).tailCells = _ := h.net.tail
  have hname : (c.net.load net).netName.take (c.net.load net).netNameLen =
      boundBytes 63 net.name := take_overlay _ _
  rw [StmtNetCtx.binds, hsrv, htail, hname]
  rfl

/-- What is inserted for a disk. -/
lemma StmtContexts.Filled.diskRow_eq (disk : DiskInfo) :
    ServerDiskDetail.ofCells (.bind diskDetailInsertColumns (c.disk.load disk).binds) =
      diskRow localtime task disk := by
  have hsrv : (c.disk.load disk).srvCell = _ := h.disk.srv
  have htail : (c.disk.load disk).tailCells = _ := h.disk.tail
  have hname : (c.disk.load disk).diskName.take (c.disk.load disk).diskNameLen =
      boundBytes 63 disk.name := take_overlay _ _
  rw [StmtDiskCtx.binds, hsrv, htail, hname]
  rfl

/-- What is inserted for a process. -/
lemma StmtContexts.Filled.netProcessRow_eq (proc : ProcessNetInfo) :
    ServerNetProcessDetail.ofCells
        (.bind netProcessDetailInsertColumns (c.procNet.load proc).binds) =
      netProcessRow localtime task proc := by
  have hsrv : (c.procNet.load proc).srvCell = _ := h.procNet.srv
  have htail : (c.procNet.load proc).tailCells = _ := h.procNet.tail
  have hname : (c.procNet.load proc).procName.take (c.procNet.load proc).procNameLen =
      boundBytes 63 proc.name := take_overlay _ _
  rw [StmtProcNetCtx.binds, hsrv, htail, hname]
  rfl

end Bound

/-! ## The write -/

section Write

variable {γ : Type} [DecidableEq γ] {collate : List UInt8 → γ} {localtime : ℤ → Tm}
  {task : MysqlWriteTask} {ok : ℕ → Bool} {c : StmtContexts}

omit [DecidableEq γ] in
variable (ok) in
/-- Executing bound statements is running what they insert, when on contexts of a kind that what is
filled in keeps, each inserts what it should. -/
lemma executeAll_eq {I : StmtContexts → Prop} {sts : List (BoundStatement collate)}
    {fs : List (Database collate → Database collate)}
    (hsts : List.Forall₂ (fun st f => ∀ c, I c → I (st.load c) ∧ st.execute (st.load c) = f) sts fs)
    (hc : I c) (n : ℕ) (s : Session (Database collate)) :
    (executeAll ok n sts c s).1 = (Session.runAll ok n fs s).1 ∧
      (executeAll ok n sts c s).2.1 = (Session.runAll ok n fs s).2.1 ∧
      (executeAll ok n sts c s).2.2.2 = (Session.runAll ok n fs s).2.2 := by
  induction hsts generalizing c n s with
  | nil => exact ⟨rfl, rfl, rfl⟩
  | cons hone _ ih =>
    obtain ⟨hload, hexecute⟩ := hone c hc
    unfold executeAll Session.runAll
    split_ifs
    · rw [hexecute]
      exact ih hload (n + 1) _
    · exact ⟨rfl, rfl, rfl⟩

/-- On filled contexts every statement inserts its row. -/
lemma boundStatements_insert :
    List.Forall₂ (fun st f => ∀ c : StmtContexts, c.Filled localtime task →
        (st.load c).Filled localtime task ∧ st.execute (st.load c) = f)
      (boundStatements task)
      (insertStatements localtime task : List (Database collate → Database collate)) := by
  refine List.rel_append (List.rel_append (List.rel_append (.cons ?_ (.cons ?_ .nil)) ?_) ?_) ?_
  · intro c hc
    refine ⟨hc, ?_⟩
    funext d
    rw [← hc.performanceRow_eq]
    rfl
  · intro c hc
    refine ⟨hc, ?_⟩
    funext d
    rw [← hc.cpuRow_eq]
    rfl
  · rw [List.forall₂_map_left_iff, List.forall₂_map_right_iff, List.forall₂_same]
    intro net _ c hc
    refine ⟨{ hc with net := hc.net.withFloats _ }, ?_⟩
    funext d
    rw [← hc.netRow_eq]
  · rw [List.forall₂_map_left_iff, List.forall₂_map_right_iff, List.forall₂_same]
    intro disk _ c hc
    refine ⟨{ hc with disk := hc.disk.withFloats _ }, ?_⟩
    funext d
    rw [← hc.diskRow_eq]
  · rw [List.forall₂_map_left_iff, List.forall₂_map_right_iff, List.forall₂_same]
    intro proc _ c hc
    refine ⟨{ hc with procNet := hc.procNet.withFloats _ }, ?_⟩
    funext d
    rw [← hc.netProcessRow_eq]

/-- **The buffers' contents make no difference.** On contexts that hold anything, in particular on
what any tasks executed before have left in them, `WriteToMysql` returns and stores what it does
on the values of the task alone. -/
theorem writeToMysqlWith_eq (c : StmtContexts) (s : Session (Database collate)) :
    (writeToMysqlWith localtime ok task c s).1 = (writeToMysql localtime ok task s).1 ∧
      (writeToMysqlWith localtime ok task c s).2.2 = (writeToMysql localtime ok task s).2 := by
  have hfilled : (c.fill localtime task).Filled localtime task := c.filled_fill
  obtain ⟨hdone, hcall, hsession⟩ := executeAll_eq ok boundStatements_insert hfilled 1 s.begin
  unfold writeToMysqlWith writeToMysql Session.transact
  dsimp only
  split_ifs with h0
  · rcases hbound : executeAll ok 1 (boundStatements task) (c.fill localtime task) s.begin with
      ⟨done, n, c', s'⟩
    rcases hplain : Session.runAll ok 1 (insertStatements localtime task) s.begin with
      ⟨done', n', s''⟩
    rw [hbound, hplain] at hdone hcall hsession
    dsimp only at hdone hcall hsession
    subst hdone hcall hsession
    cases done with
    | false => exact ⟨rfl, rfl⟩
    | true =>
      dsimp only
      split_ifs
      · exact ⟨rfl, rfl⟩
      · exact ⟨rfl, rfl⟩
      · exact ⟨rfl, rfl⟩
  · exact ⟨rfl, rfl⟩

end Write

end Monitor
