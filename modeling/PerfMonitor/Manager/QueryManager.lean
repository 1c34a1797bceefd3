import Mathlib.Algebra.Order.Ring.Rat
import Mathlib.Data.Prod.Lex
import PerfMonitor.Manager.WriteToMysql
import PerfMonitor.Paging.Pages
import PerfMonitor.Table.Columns

set_option relaxedAutoImplicit false
set_option autoImplicit false

/-!
# Historical queries

The five queries of `QueryManager` (`manager/src/query_manager.cpp`). Each one selects columns of
the rows of a server with a timestamp in a range, sorts them by time, and returns one page of
them and the number of all of them. Columns of type `FLOAT` are read back exactly.

How MySQL puts rows in order is a parameter of every query, as is whether its calls succeed. So are
the collation, `localtime_r`, `mktime` and the order of `DATETIME` values.

## Main definitions

* `Monitor.PerformanceRecord`, `Monitor.NetDetailRecord`, `Monitor.NetProcessDetailRecord`,
  `Monitor.DiskDetailRecord`, `Monitor.CpuDetailRecord` — what the queries return.
* `Monitor.runQuery` — what the five have in common.
* `Monitor.queryPerformance`, `Monitor.queryNetDetail`, `Monitor.queryNetProcessDetail`,
  `Monitor.queryDiskDetail`, `Monitor.queryCpuDetail` — the queries.
* `Monitor.matchingRows` — the rows that a query is about.
-/

namespace Monitor

/-! ## Reading timestamps -/

/-- One directive of `std::get_time`: the literal in front of it, the number of digits it takes,
the numbers it accepts, and where it puts them. -/
structure TimeDirective where
  literal : Option Char
  width : ℕ
  min : ℕ
  max : ℕ
  set : Tm → ℕ → Tm

/-- The format `%Y-%m-%d %H:%M:%S`. -/
def mysqlTimeFormat : List TimeDirective :=
  [⟨none, 4, 0, 9999, fun tm n => { tm with tmYear := n - 1900 }⟩,
    ⟨some '-', 2, 1, 12, fun tm n => { tm with tmMon := n - 1 }⟩,
    ⟨some '-', 2, 1, 31, fun tm n => { tm with tmMday := n }⟩,
    ⟨some ' ', 2, 0, 23, fun tm n => { tm with tmHour := n }⟩,
    ⟨some ':', 2, 0, 59, fun tm n => { tm with tmMin := n }⟩,
    ⟨some ':', 2, 0, 60, fun tm n => { tm with tmSec := n }⟩]

/-- The number that starts a string and what follows it. -/
def TimeDirective.number (d : TimeDirective) (s : List Char) : Option (ℕ × List Char) :=
  let digits := (s.take d.width).takeWhile Char.isDigit
  let n := digits.foldl (fun n c => 10 * n + (c.toNat - '0'.toNat)) 0
  if digits = [] ∨ n < d.min ∨ d.max < n then none else some (n, s.drop digits.length)

/-- What follows a directive's literal. -/
def TimeDirective.skip (d : TimeDirective) (s : List Char) : Option (List Char) :=
  match d.literal, s with
  | none, s => some s
  | some c, c' :: s => if c = c' then some s else none
  | some _, [] => none

/-- `std::get_time`: at the first directive that does not fit, the rest is left as it is. -/
def getTime : List TimeDirective → List Char → Tm → Tm
  | [], _, tm => tm
  | d :: ds, s, tm =>
    match (d.skip s).bind d.number with
    | none => tm
    | some (n, s') => getTime ds s' (d.set tm n)

/-- `std::chrono::system_clock::from_time_t`: a signed 64-bit count of nanoseconds, with the
arithmetic of two's complement. -/
def fromTimeT (t : ℤ) : Time := (t * second).bmod (2 ^ 64)

/-- `ParseMysqlTime`. -/
def parseMysqlTime (mktime : Tm → ℤ) (str : String) : Time :=
  fromTimeT (mktime (getTime mysqlTimeFormat str.toList ⟨0, 0, 0, 0, 0, 0⟩))

/-! ## Records -/

structure PerformanceRecord where
  serverName : List UInt8
  timestamp : Time
  cpuPercent : ℚ
  loadAvg1 : ℚ
  loadAvg3 : ℚ
  loadAvg15 : ℚ
  memUsedPercent : ℚ
  diskUtilPercent : ℚ
  sendRate : ℚ
  rcvRate : ℚ
  score : ℚ
  cpuPercentRate : ℚ
  memUsedPercentRate : ℚ
  diskUtilPercentRate : ℚ
  loadAvg1Rate : ℚ
  sendRateRate : ℚ
  rcvRateRate : ℚ
  deriving DecidableEq, Repr

structure NetDetailRecord where
  serverName : List UInt8
  netName : List UInt8
  timestamp : Time
  rcvBytesRate : ℚ
  sndBytesRate : ℚ
  rcvPacketsRate : ℚ
  sndPacketsRate : ℚ
  deriving DecidableEq, Repr

structure NetProcessDetailRecord where
  serverName : List UInt8
  pid : ℕ
  procName : List UInt8
  timestamp : Time
  sndBytesRate : ℚ
  rcvBytesRate : ℚ
  totalBytesRate : ℚ
  sharePercent : ℚ
  deriving DecidableEq, Repr

structure DiskDetailRecord where
  serverName : List UInt8
  diskName : List UInt8
  timestamp : Time
  readBytesPerSec : ℚ
  writeBytesPerSec : ℚ
  readIops : ℚ
  writeIops : ℚ
  avgReadLatencyMs : ℚ
  avgWriteLatencyMs : ℚ
  utilPercent : ℚ
  deriving DecidableEq, Repr

structure CpuDetailRecord where
  serverName : List UInt8
  timestamp : Time
  usrPercent : ℚ
  systemPercent : ℚ
  nicePercent : ℚ
  idlePercent : ℚ
  ioWaitPercent : ℚ
  irqPercent : ℚ
  softIrqPercent : ℚ
  deriving DecidableEq, Repr

/-! ## Rows by column name -/

def ServerPerformance.cells (r : ServerPerformance) : NamedCells :=
  [("server_name", .bytes r.serverName), ("cpu_percent", .real r.cpuPercent),
    ("load_avg_1", .real r.loadAvg1), ("load_avg_3", .real r.loadAvg3),
    ("load_avg_15", .real r.loadAvg15), ("mem_used_percent", .real r.memUsedPercent),
    ("disk_util_percent", .real r.diskUtilPercent), ("send_rate", .real r.sendRate),
    ("rcv_rate", .real r.rcvRate), ("score", .real r.score),
    ("cpu_percent_rate", .real r.cpuPercentRate), ("load_avg_1_rate", .real r.loadAvg1Rate),
    ("mem_used_percent_rate", .real r.memUsedPercentRate),
    ("disk_util_percent_rate", .real r.diskUtilPercentRate),
    ("send_rate_rate", .real r.sendRateRate), ("rcv_rate_rate", .real r.rcvRateRate),
    ("sequence", .nat r.sequence), ("timestamp", .time r.timestamp)]

def ServerCpuDetail.cells (r : ServerCpuDetail) : NamedCells :=
  [("server_name", .bytes r.serverName), ("usr_percent", .real r.usrPercent),
    ("system_percent", .real r.systemPercent), ("nice_percent", .real r.nicePercent),
    ("idle_percent", .real r.idlePercent), ("io_wait_percent", .real r.ioWaitPercent),
    ("irq_percent", .real r.irqPercent), ("soft_irq_percent", .real r.softIrqPercent),
    ("sequence", .nat r.sequence), ("timestamp", .time r.timestamp)]

def ServerNetDetail.cells (r : ServerNetDetail) : NamedCells :=
  [("server_name", .bytes r.serverName), ("net_name", .bytes r.netName),
    ("rcv_bytes_rate", .real r.rcvBytesRate), ("rcv_packets_rate", .real r.rcvPacketsRate),
    ("snd_bytes_rate", .real r.sndBytesRate), ("snd_packets_rate", .real r.sndPacketsRate),
    ("sequence", .nat r.sequence), ("timestamp", .time r.timestamp)]

def ServerDiskDetail.cells (r : ServerDiskDetail) : NamedCells :=
  [("server_name", .bytes r.serverName), ("disk_name", .bytes r.diskName),
    ("read_bytes_per_sec", .real r.readBytesPerSec),
    ("write_bytes_per_sec", .real r.writeBytesPerSec), ("read_iops", .real r.readIops),
    ("write_iops", .real r.writeIops), ("avg_read_latency_ms", .real r.avgReadLatencyMs),
    ("avg_write_latency_ms", .real r.avgWriteLatencyMs), ("util_percent", .real r.utilPercent),
    ("sequence", .nat r.sequence), ("timestamp", .time r.timestamp)]

def ServerNetProcessDetail.cells (r : ServerNetProcessDetail) : NamedCells :=
  [("server_name", .bytes r.serverName), ("pid", .nat r.pid), ("proc_name", .bytes r.procName),
    ("snd_bytes_rate", .real r.sndBytesRate), ("rcv_bytes_rate", .real r.rcvBytesRate),
    ("total_bytes_rate", .real r.totalBytesRate), ("share_percent", .real r.sharePercent),
    ("sequence", .nat r.sequence), ("timestamp", .time r.timestamp)]

/-! ## The selected columns and the parsers -/

/-- `kPerformanceSelectColumns`. -/
def kPerformanceSelectColumns : List String :=
  ["server_name", "timestamp", "cpu_percent", "load_avg_1", "load_avg_3", "load_avg_15",
    "mem_used_percent", "disk_util_percent", "send_rate", "rcv_rate", "score",
    "cpu_percent_rate", "mem_used_percent_rate", "disk_util_percent_rate",
    "load_avg_1_rate", "send_rate_rate", "rcv_rate_rate"]

def netDetailSelectColumns : List String :=
  ["server_name", "net_name", "timestamp", "rcv_bytes_rate", "snd_bytes_rate",
    "rcv_packets_rate", "snd_packets_rate"]

def netProcessDetailSelectColumns : List String :=
  ["server_name", "pid", "proc_name", "timestamp", "snd_bytes_rate", "rcv_bytes_rate",
    "total_bytes_rate", "share_percent"]

def diskDetailSelectColumns : List String :=
  ["server_name", "disk_name", "timestamp", "read_bytes_per_sec", "write_bytes_per_sec",
    "read_iops", "write_iops", "avg_read_latency_ms", "avg_write_latency_ms", "util_percent"]

def cpuDetailSelectColumns : List String :=
  ["server_name", "timestamp", "usr_percent", "system_percent", "nice_percent",
    "idle_percent", "io_wait_percent", "irq_percent", "soft_irq_percent"]

section Parsers

/-! The clock is read for a row without a timestamp; it shows `now`. -/

variable (mktime : Tm → ℤ) (now : Time) (row : ResultRow)

/-- `ParsePerformanceRecordRow`. -/
def parsePerformanceRecordRow : PerformanceRecord where
  serverName := row.text 0
  timestamp := ((row.time 1).map (parseMysqlTime mktime)).getD now
  cpuPercent := row.real 2
  loadAvg1 := row.real 3
  loadAvg3 := row.real 4
  loadAvg15 := row.real 5
  memUsedPercent := row.real 6
  diskUtilPercent := row.real 7
  sendRate := row.real 8
  rcvRate := row.real 9
  score := row.real 10
  cpuPercentRate := row.real 11
  memUsedPercentRate := row.real 12
  diskUtilPercentRate := row.real 13
  loadAvg1Rate := row.real 14
  sendRateRate := row.real 15
  rcvRateRate := row.real 16

/-- The loop body of `QueryNetDetail`. -/
def parseNetDetailRow : NetDetailRecord where
  serverName := row.text 0
  netName := row.text 1
  timestamp := ((row.time 2).map (parseMysqlTime mktime)).getD now
  rcvBytesRate := row.real 3
  sndBytesRate := row.real 4
  rcvPacketsRate := row.real 5
  sndPacketsRate := row.real 6

/-- The loop body of `QueryNetProcessDetail`. -/
def parseNetProcessDetailRow : NetProcessDetailRecord where
  serverName := row.text 0
  pid := row.nat 1 % 2 ^ 32
  procName := row.text 2
  timestamp := ((row.time 3).map (parseMysqlTime mktime)).getD now
  sndBytesRate := row.real 4
  rcvBytesRate := row.real 5
  totalBytesRate := row.real 6
  sharePercent := row.real 7

/-- The loop body of `QueryDiskDetail`. -/
def parseDiskDetailRow : DiskDetailRecord where
  serverName := row.text 0
  diskName := row.text 1
  timestamp := ((row.time 2).map (parseMysqlTime mktime)).getD now
  readBytesPerSec := row.real 3
  writeBytesPerSec := row.real 4
  readIops := row.real 5
  writeIops := row.real 6
  avgReadLatencyMs := row.real 7
  avgWriteLatencyMs := row.real 8
  utilPercent := row.real 9

/-- The loop body of `QueryCpuDetail`. -/
def parseCpuDetailRow : CpuDetailRecord where
  serverName := row.text 0
  timestamp := ((row.time 1).map (parseMysqlTime mktime)).getD now
  usrPercent := row.real 2
  systemPercent := row.real 3
  nicePercent := row.real 4
  idlePercent := row.real 5
  ioWaitPercent := row.real 6
  irqPercent := row.real 7
  softIrqPercent := row.real 8

end Parsers

/-! ## Queries -/

structure TimeRange where
  startTime : Time
  endTime : Time
  deriving DecidableEq, Repr

/-- `QueryManager::ValidateTimeRange`. -/
def validateTimeRange (range : TimeRange) : Bool := range.startTime ≤ range.endTime

/-- What the queries rely on outside the program: how the collation compares names, local time and
its inverse, the order of `DATETIME` values, and the clock. -/
structure QueryEnv (γ δ : Type) where
  collate : List UInt8 → γ
  localtime : ℤ → Tm
  mktime : Tm → ℤ
  datetime : String → δ
  now : Time

/-- Which of the MySQL calls behind a query succeed, in the order they are made. -/
structure QueryCalls where
  /-- `mysql_query` with the query. -/
  query : Bool
  /-- `mysql_store_result` of its result. -/
  storeResult : Bool
  /-- `mysql_query` with `SELECT FOUND_ROWS()`. -/
  foundRows : Bool
  /-- `mysql_store_result` of its result. -/
  storeFoundRows : Bool
  deriving DecidableEq, Repr

/-- All calls succeed. -/
def QueryCalls.succeed : QueryCalls := ⟨true, true, true, true⟩

/-- An `int`, with the arithmetic of two's complement. -/
def toInt (n : ℤ) : ℤ := n.bmod (2 ^ 32)

/-- `FetchFoundRows`, when `found` rows were found. -/
def fetchFoundRows (calls : QueryCalls) (found : ℕ) : ℤ :=
  if !calls.foundRows then 0 else if !calls.storeFoundRows then 0 else toInt found

/-- The numbers a query works with if they are given too small. -/
def clampPage (page : ℤ) : ℤ := if page < 1 then 1 else page

/-- The page size, `100` if it is given too small. -/
def clampPageSize (pageSize : ℤ) : ℤ := if pageSize < 1 then 100 else pageSize

/-- What the queries have in common, `sorted` being the rows that match, in the order MySQL gives
them: the records of the page, and what is stored in `*total_count`, if anything. -/
def runQuery {ρ τ : Type} (initialized : Bool) (calls : QueryCalls) (range : TimeRange)
    (page pageSize : ℤ) (sorted : List ρ) (record : ρ → τ) : List τ × Option ℤ :=
  if !initialized then ([], none)
  else if !validateTimeRange range then ([], none)
  else
    let page := clampPage page
    let pageSize := clampPageSize pageSize
    let offset := toInt ((page - 1) * pageSize)
    -- MySQL takes no negative number behind `OFFSET`
    if !calls.query || decide (offset < 0) then ([], none)
    else if !calls.storeResult then ([], none)
    else
      (((sorted.drop offset.toNat).take pageSize.toNat).map record,
        some (fetchFoundRows calls sorted.length))

/-- What tells the queries apart: where a row of the table has the server's name and the time, the
`ORDER BY … DESC` clause, and the record read from a row. -/
structure QuerySpec (ρ τ κ : Type) where
  serverName : ρ → List UInt8
  timestamp : ρ → String
  key : ρ → κ
  record : ρ → τ

section Queries

variable {γ δ : Type} [DecidableEq γ] [LinearOrder δ] (env : QueryEnv γ δ)

/-- The condition behind `WHERE`. `FormatTime` is the same function as `FormatTimestamp`, and the
quoted strings denote what was escaped. -/
def QueryEnv.selects {ρ τ κ : Type} (spec : QuerySpec ρ τ κ) (serverName : String)
    (range : TimeRange) (r : ρ) : Bool :=
  decide (env.collate (spec.serverName r) = env.collate serverName.toUTF8.data.toList) &&
    decide (env.datetime (formatTimestamp env.localtime range.startTime) ≤
      env.datetime (spec.timestamp r)) &&
    decide (env.datetime (spec.timestamp r) ≤
      env.datetime (formatTimestamp env.localtime range.endTime))

/-- The rows that a query is about. -/
def QueryEnv.matchingRows {ρ τ κ : Type} (spec : QuerySpec ρ τ κ) (rows : List ρ)
    (serverName : String) (range : TimeRange) : List ρ :=
  if validateTimeRange range then rows.filter (env.selects spec serverName range) else []

/-- `SELECT SQL_CALC_FOUND_ROWS … FROM server_performance`. -/
def performanceQuery : QuerySpec ServerPerformance PerformanceRecord δ where
  serverName := ServerPerformance.serverName
  timestamp := ServerPerformance.timestamp
  key := fun r => env.datetime r.timestamp
  record := fun r =>
    parsePerformanceRecordRow env.mktime env.now (r.cells.select kPerformanceSelectColumns)

/-- `SELECT SQL_CALC_FOUND_ROWS … FROM server_net_detail`. -/
def netDetailQuery : QuerySpec ServerNetDetail NetDetailRecord δ where
  serverName := ServerNetDetail.serverName
  timestamp := ServerNetDetail.timestamp
  key := fun r => env.datetime r.timestamp
  record := fun r => parseNetDetailRow env.mktime env.now (r.cells.select netDetailSelectColumns)

/-- `SELECT SQL_CALC_FOUND_ROWS … FROM server_net_process_detail`. -/
def netProcessDetailQuery : QuerySpec ServerNetProcessDetail NetProcessDetailRecord
    (Lex (δ × ℚ)) where
  serverName := ServerNetProcessDetail.serverName
  timestamp := ServerNetProcessDetail.timestamp
  key := fun r => toLex (env.datetime r.timestamp, r.totalBytesRate)
  record := fun r =>
    parseNetProcessDetailRow env.mktime env.now (r.cells.select netProcessDetailSelectColumns)

/-- `SELECT SQL_CALC_FOUND_ROWS … FROM server_disk_detail`. -/
def diskDetailQuery : QuerySpec ServerDiskDetail DiskDetailRecord δ where
  serverName := ServerDiskDetail.serverName
  timestamp := ServerDiskDetail.timestamp
  key := fun r => env.datetime r.timestamp
  record := fun r => parseDiskDetailRow env.mktime env.now (r.cells.select diskDetailSelectColumns)

/-- `SELECT SQL_CALC_FOUND_ROWS … FROM server_cpu_detail`. -/
def cpuDetailQuery : QuerySpec ServerCpuDetail CpuDetailRecord δ where
  serverName := ServerCpuDetail.serverName
  timestamp := ServerCpuDetail.timestamp
  key := fun r => env.datetime r.timestamp
  record := fun r => parseCpuDetailRow env.mktime env.now (r.cells.select cpuDetailSelectColumns)

variable (d : Database env.collate) (initialized : Bool) (calls : QueryCalls)
  (serverName : String) (range : TimeRange)

/-- `QueryManager::QueryPerformance`. -/
def queryPerformance (orderBy : List ServerPerformance → List ServerPerformance)
    (page pageSize : ℤ) : List PerformanceRecord × Option ℤ :=
  runQuery initialized calls range page pageSize
    (orderBy (d.performance.rows.filter (env.selects (performanceQuery env) serverName range)))
    (performanceQuery env).record

/-- `QueryManager::QueryNetDetail`. -/
def queryNetDetail (orderBy : List ServerNetDetail → List ServerNetDetail)
    (page pageSize : ℤ) : List NetDetailRecord × Option ℤ :=
  runQuery initialized calls range page pageSize
    (orderBy (d.netDetail.rows.filter (env.selects (netDetailQuery env) serverName range)))
    (netDetailQuery env).record

/-- `QueryManager::QueryNetProcessDetail`. -/
def queryNetProcessDetail
    (orderBy : List ServerNetProcessDetail → List ServerNetProcessDetail)
    (page pageSize : ℤ) : List NetProcessDetailRecord × Option ℤ :=
  runQuery initialized calls range page pageSize
    (orderBy (d.netProcessDetail.rows.filter
      (env.selects (netProcessDetailQuery env) serverName range)))
    (netProcessDetailQuery env).record

/-- `QueryManager::QueryDiskDetail`. -/
def queryDiskDetail (orderBy : List ServerDiskDetail → List ServerDiskDetail)
    (page pageSize : ℤ) : List DiskDetailRecord × Option ℤ :=
  runQuery initialized calls range page pageSize
    (orderBy (d.diskDetail.rows.filter (env.selects (diskDetailQuery env) serverName range)))
    (diskDetailQuery env).record

/-- `QueryManager::QueryCpuDetail`. -/
def queryCpuDetail (orderBy : List ServerCpuDetail → List ServerCpuDetail)
    (page pageSize : ℤ) : List CpuDetailRecord × Option ℤ :=
  runQuery initialized calls range page pageSize
    (orderBy (d.cpuDetail.rows.filter (env.selects (cpuDetailQuery env) serverName range)))
    (cpuDetailQuery env).record

end Queries

/-! ## One page -/

section RunQuery

variable {ρ τ : Type} {range : TimeRange} {pageSize : ℤ} {sorted : List ρ} {record : ρ → τ}

/-- A number that fits into an `int`. -/
lemma toInt_of_nonneg {n : ℤ} (h0 : 0 ≤ n) (h : n < 2 ^ 31) : toInt n = n := by
  unfold toInt
  apply Int.bmod_eq_of_le <;> omega

/-- A query that is not refused, with an offset that fits into an `int`, returns its page. -/
lemma runQuery_of_valid (hrange : validateTimeRange range = true) {k : ℕ} (hsize : 1 ≤ pageSize)
    (hoffset : (k : ℤ) * pageSize < 2 ^ 31) :
    runQuery true .succeed range (k + 1) pageSize sorted record =
      ((page pageSize.toNat k sorted).map record, some (toInt sorted.length)) := by
  have hk : clampPage (k + 1) = k + 1 := if_neg (by omega)
  have hs : clampPageSize pageSize = pageSize := if_neg (by omega)
  have h0 : 0 ≤ (k : ℤ) * pageSize := Int.mul_nonneg (by omega) (by omega)
  have hdrop : ((k : ℤ) * pageSize).toNat = k * pageSize.toNat := by
    rw [Int.toNat_mul (by omega) (by omega), Int.toNat_natCast]
  simp only [runQuery, hrange, hk, hs, add_sub_cancel_right, toInt_of_nonneg h0 hoffset, hdrop,
    QueryCalls.succeed, fetchFoundRows, page]
  simp [h0]

end RunQuery

end Monitor
