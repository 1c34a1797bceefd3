import Mathlib.Algebra.BigOperators.Group.List.Basic
import Mathlib.Data.List.Dedup
import PerfMonitor.Manager.QueryPages
import PerfMonitor.Manager.TimeZones
import PerfMonitor.Table.Latest

set_option relaxedAutoImplicit false
set_option autoImplicit false

/-!
# The samples that the dashboard shows

The dashboard's API (`frontend-simple/simple-api-server.py`) looks up the newest sample of a server
by the greatest timestamp among its rows in the table that it reads. The manager writes timestamps
in local time and in whole seconds, and may write several samples of a host within one second; and
a sample need not have rows in every table.

## Main definitions

* `Monitor.contentAfter` — the tables after any sequence of `WriteToMysql` calls.
* `Monitor.getServers`, `Monitor.getServerNetProcess` — the two endpoints.
* `Monitor.ShowsServersOnce`, `Monitor.ShowsOneSample` — they show one sample per server, the
  newest.
* `Monitor.Origin` — when the sample behind each main row was received.

## Main results

* `Monitor.exists_origin` — every main row comes from a task that was written.
* `Monitor.dashboard_shows_newest_iff` — when the endpoints show one sample per server.
* `Monitor.burst_shown_twice` — two samples within one second are both shown.
-/

namespace Monitor

open Latest

/-! ## The endpoints -/

/-- What the queries rely on outside the program: how the collation compares names, the order of
`DATETIME` values, `TIMESTAMPDIFF(SECOND, …, NOW())`, and `isoformat`. -/
structure ApiEnv (γ δ : Type) where
  collate : List UInt8 → γ
  datetime : String → δ
  secondsSince : String → ℤ
  isoformat : String → String

/-- One of the `servers` of the answer. -/
structure ServerEntry where
  serverName : List UInt8
  cpuPercent : ℚ
  memUsedPercent : ℚ
  diskUtilPercent : ℚ
  loadAvg1 : ℚ
  sendRate : ℚ
  rcvRate : ℚ
  score : ℚ
  timestamp : String
  isOnline : Bool
  deriving DecidableEq, Repr

/-- The `stats` of the answer. -/
structure ServerStats where
  total : ℤ
  online : ℤ
  offline : ℤ
  avgScore : ℚ
  deriving DecidableEq, Repr

structure ServersResponse where
  servers : List ServerEntry
  stats : ServerStats
  deriving DecidableEq, Repr

/-- One of the `processes` of the answer. -/
structure NetProcessEntry where
  pid : ℕ
  procName : List UInt8
  sndBytesRate : ℚ
  rcvBytesRate : ℚ
  totalBytesRate : ℚ
  sharePercent : ℚ
  timestamp : String
  deriving DecidableEq, Repr

structure NetProcessResponse where
  serverName : String
  timestamp : Option String
  totalRate : ℚ
  processes : List NetProcessEntry
  deriving DecidableEq, Repr

/-- A failed request. -/
structure ApiError where
  status : ℕ
  error : String
  deriving DecidableEq, Repr

/-- What becomes of the query behind a request. -/
inductive ApiCall where
  | noConnection
  | exception (text : String)
  | succeeds
  deriving DecidableEq, Repr

/-- The answer to a request, if its query succeeds. -/
def answerRequest {α : Type} (call : ApiCall) (response : α) : Except ApiError α :=
  match call with
  | .noConnection => .error ⟨500, "数据库连接失败"⟩
  | .exception text => .error ⟨500, text⟩
  | .succeeds => .ok response

section Endpoints

variable {γ δ : Type} [DecidableEq γ] [LinearOrder δ] (env : ApiEnv γ δ)

/-- What a row of `server_performance` is grouped by. -/
def ApiEnv.server (r : ServerPerformance) : γ := env.collate r.serverName

/-- The expression `is_online`. -/
def ApiEnv.isOnline (r : ServerPerformance) : Bool := env.secondsSince r.timestamp < 60

/-- The rows that the query of `get_servers` fetches: their name and timestamp are among the names
with their `MAX(timestamp)`. -/
def fetchServers (orderBy : List ServerPerformance → List ServerPerformance)
    (rows : List ServerPerformance) : List ServerPerformance :=
  orderBy (latestPerGroup env.server (fun r => env.datetime r.timestamp) rows)

/-- A fetched row in the answer. -/
def serverEntry (r : ServerPerformance) : ServerEntry where
  serverName := r.serverName
  cpuPercent := r.cpuPercent
  memUsedPercent := r.memUsedPercent
  diskUtilPercent := r.diskUtilPercent
  loadAvg1 := r.loadAvg1
  sendRate := r.sendRate
  rcvRate := r.rcvRate
  score := r.score
  timestamp := env.isoformat r.timestamp
  isOnline := env.isOnline r

/-- `get_servers`. -/
def getServers (call : ApiCall) (orderBy : List ServerPerformance → List ServerPerformance)
    (d : Database env.collate) : Except ApiError ServersResponse :=
  let servers := fetchServers env orderBy d.performance.rows
  let total : ℤ := servers.length
  let online : ℤ := servers.countP env.isOnline
  let avgScore := if total > 0 then (servers.map ServerPerformance.score).sum / total else 0
  answerRequest call
    { servers := servers.map (serverEntry env)
      stats :=
        { total := total, online := online, offline := total - online, avgScore := avgScore } }

/-- The rows of a server in `server_net_process_detail`. -/
def ApiEnv.netProcessRows (serverName : String) (rows : List ServerNetProcessDetail) :
    List ServerNetProcessDetail :=
  rows.filter fun r => env.collate r.serverName = env.collate serverName.toUTF8.data.toList

/-- The rows that the query of `get_server_net_process` fetches: those of the server whose timestamp
is its `MAX(timestamp)`. -/
def fetchNetProcess (orderBy : List ServerNetProcessDetail → List ServerNetProcessDetail)
    (serverName : String) (rows : List ServerNetProcessDetail) : List ServerNetProcessDetail :=
  orderBy (latest (fun r => env.datetime r.timestamp) (env.netProcessRows serverName rows))

def netProcessEntry (r : ServerNetProcessDetail) : NetProcessEntry where
  pid := r.pid
  procName := r.procName
  sndBytesRate := r.sndBytesRate
  rcvBytesRate := r.rcvBytesRate
  totalBytesRate := r.totalBytesRate
  sharePercent := r.sharePercent
  timestamp := env.isoformat r.timestamp

/-- `get_server_net_process`. -/
def getServerNetProcess (call : ApiCall)
    (orderBy : List ServerNetProcessDetail → List ServerNetProcessDetail) (serverName : String)
    (d : Database env.collate) : Except ApiError NetProcessResponse :=
  let records := fetchNetProcess env orderBy serverName d.netProcessDetail.rows
  answerRequest call
    { serverName := serverName
      timestamp := records.getLast?.map fun r => env.isoformat r.timestamp
      totalRate := (records.map ServerNetProcessDetail.totalBytesRate).sum
      processes := records.map (netProcessEntry env) }

end Endpoints

/-! ## What the tables can contain -/

/-- What the manager does on its MySQL connection. -/
inductive MysqlCall where
  /-- `WriteToMysql`, `ok n` telling whether its `n`th call succeeds. -/
  | write (ok : ℕ → Bool) (task : MysqlWriteTask)
  /-- The connection is closed and opened again. -/
  | reconnect

section Content

variable {γ : Type} [DecidableEq γ] (collate : List UInt8 → γ) (localtime : ℤ → Tm)

variable {collate} in
/-- The session after a call. -/
def MysqlCall.run (s : Session (Database collate)) : MysqlCall → Session (Database collate)
  | .write ok task => (writeToMysql localtime ok task s).2
  | .reconnect => s.rollback

/-- The tasks of some calls. -/
def tasksOf (calls : List MysqlCall) : List MysqlWriteTask :=
  calls.filterMap fun
    | .write _ task => some task
    | .reconnect => none

/-- The tables after some calls, starting from empty tables. -/
def contentAfter (calls : List MysqlCall) : Database collate :=
  (calls.foldl (MysqlCall.run localtime) ⟨.empty collate, none⟩).stored

variable {collate}

/-- The main rows are rows of some tasks. -/
def RowsFrom (tasks : List MysqlWriteTask) (d : Database collate) : Prop :=
  ∀ r ∈ d.performance.rows, ∃ task ∈ tasks, r = performanceRow localtime task

/-- When the sample behind each main row was received: at the time in the task that the row is
from. -/
structure Origin (tasks : List MysqlWriteTask) (d : Database collate) where
  performanceTime : ServerPerformance → Time
  performance : ∀ r ∈ d.performance.rows, ∃ task ∈ tasks,
    r = performanceRow localtime task ∧ performanceTime r = task.hostScore.timestamp

variable {localtime} {tasks : List MysqlWriteTask} {d : Database collate}

/-- A statement of a task adds rows of the task only. -/
lemma RowsFrom.insertStatement {task : MysqlWriteTask} (htask : task ∈ tasks)
    {f : Database collate → Database collate} (hf : f ∈ insertStatements localtime task)
    (hd : RowsFrom localtime tasks d) : RowsFrom localtime tasks (f d) := by
  simp only [insertStatements, List.mem_append, List.mem_cons, List.not_mem_nil, or_false,
    List.mem_map] at hf
  rcases hf with (((rfl | rfl) | ⟨net, -, rfl⟩) | ⟨disk, -, rfl⟩) | ⟨proc, -, rfl⟩
  · intro r hr
    rcases KeyedTable.mem_rows_insertIgnore hr with hr | rfl
    · exact hd r hr
    · exact ⟨task, htask, rfl⟩
  -- the other statements leave the main rows alone
  · exact hd
  · exact hd
  · exact hd
  · exact hd

/-- Calls that write some tasks leave rows of these tasks only, in what is committed and in what an
open transaction sees. -/
lemma holds_foldl_run {calls : List MysqlCall} (hcalls : tasksOf calls ⊆ tasks)
    {s : Session (Database collate)} (hs : s.Holds (RowsFrom localtime tasks)) :
    (calls.foldl (MysqlCall.run localtime) s).Holds (RowsFrom localtime tasks) := by
  induction calls generalizing s with
  | nil => exact hs
  | cons call calls ih =>
    cases call with
    | write ok task =>
      have hboth : tasksOf (.write ok task :: calls) = task :: tasksOf calls := rfl
      rw [hboth, List.cons_subset] at hcalls
      refine ih hcalls.2 (hs.transact fun f hf d hd => ?_)
      exact hd.insertStatement hcalls.1 hf
    | reconnect => exact ih hcalls hs.rollback

/-- After some calls every main row is a row of a task that was written. -/
lemma rowsFrom_contentAfter (calls : List MysqlCall) :
    RowsFrom localtime (tasksOf calls) (contentAfter collate localtime calls) := by
  refine (holds_foldl_run (List.Subset.refl _) ⟨?_, ?_⟩).1
  · exact fun r hr => absurd hr List.not_mem_nil
  · exact fun d hd => absurd hd.symm (Option.some_ne_none d)

/-- **Every main row comes from a task that was written**, so the time its sample was received can
be told. -/
theorem exists_origin (calls : List MysqlCall) :
    Nonempty (Origin localtime (tasksOf calls) (contentAfter collate localtime calls)) := by
  classical
  have hfrom : RowsFrom localtime (tasksOf calls) (contentAfter collate localtime calls) :=
    rowsFrom_contentAfter calls
  unfold RowsFrom at hfrom
  choose task htask hrow using hfrom
  exact ⟨{
    performanceTime := fun r => if h : _ then (task r h).hostScore.timestamp else 0
    performance := fun r hr => ⟨task r hr, htask r hr, hrow r hr, dif_pos hr⟩ }⟩

omit [DecidableEq γ] in
/-- The timestamps of main rows are those of their samples. -/
lemma Origin.timestamp_eq (origin : Origin localtime tasks d) :
    ∀ r ∈ d.performance.rows,
      r.timestamp = formatTimestamp localtime (origin.performanceTime r) := by
  intro r hr
  obtain ⟨task, -, hrow, htime⟩ := origin.performance r hr
  rw [htime, hrow]
  rfl

end Content

/-! ## One sample per server -/

section Newest

variable {γ δ : Type} [DecidableEq γ] [LinearOrder δ] (env : ApiEnv γ δ)

/-- `get_servers` shows exactly one row for every server, the newest, and counts each server
once. -/
structure ShowsServersOnce (time : ServerPerformance → Time)
    (rows fetched : List ServerPerformance) (answer : Except ApiError ServersResponse) : Prop where
  one : OnePerGroup env.server time rows fetched
  counted : ∃ response, answer = .ok response ∧
    response.servers = fetched.map (serverEntry env) ∧
    response.stats.total = (rows.map env.server).dedup.length ∧
    response.stats.online = fetched.countP env.isOnline ∧
    response.stats.offline = fetched.countP (fun r => !env.isOnline r) ∧
    response.stats.avgScore =
      (fetched.map ServerPerformance.score).sum / (rows.map env.server).dedup.length

/-- `get_server_net_process` shows the rows of one sample, of those that the server has, and adds up
their rates. -/
structure ShowsOneSample (sequence : ℕ) (rows fetched : List ServerNetProcessDetail)
    (answer : Except ApiError NetProcessResponse) : Prop where
  one : fetched.Perm (rows.filter fun r => r.sequence = sequence)
  total : ∃ response, answer = .ok response ∧
    response.processes = fetched.map (netProcessEntry env) ∧
    response.totalRate = ((rows.filter fun r => r.sequence = sequence).map
      ServerNetProcessDetail.totalBytesRate).sum

/-- A name that a request may use for the server of a row. -/
def ApiEnv.Names (serverName : String) (a : ServerPerformance) : Prop :=
  env.collate serverName.toUTF8.data.toList = env.server a

variable {env} {localtime : ℤ → Tm} {tasks : List MysqlWriteTask} {d : Database env.collate}

/-- The stored timestamps tell the newest sample of every server: its main row has a later one than
every other main row of the server; and it has process rows, which share one timestamp that is later
than those of the process rows of all other samples, unless the server has no process rows at
all. -/
structure Origin.StampsTell (origin : Origin localtime tasks d) : Prop where
  performance : ∀ a, IsNewestOfGroup env.server origin.performanceTime d.performance.rows a →
    ∀ b ∈ d.performance.rows, env.server b = env.server a → b ≠ a →
      env.datetime b.timestamp < env.datetime a.timestamp
  netProcess : ∀ a, IsNewestOfGroup env.server origin.performanceTime d.performance.rows a →
    ∀ serverName, env.Names serverName a →
      env.netProcessRows serverName d.netProcessDetail.rows = [] ∨
        ∃ p ∈ env.netProcessRows serverName d.netProcessDetail.rows, p.sequence = a.sequence ∧
          ∀ b ∈ env.netProcessRows serverName d.netProcessDetail.rows,
            (b.sequence = a.sequence → env.datetime b.timestamp = env.datetime p.timestamp) ∧
              (b.sequence ≠ a.sequence → env.datetime b.timestamp < env.datetime p.timestamp)

omit [DecidableEq γ] [LinearOrder δ] in
/-- Main rows whose samples were received at one time have one timestamp. -/
lemma Origin.datetime_eq (origin : Origin localtime tasks d) :
    ∀ a ∈ d.performance.rows, ∀ b ∈ d.performance.rows,
      origin.performanceTime a = origin.performanceTime b →
        env.datetime a.timestamp = env.datetime b.timestamp := by
  intro a ha b hb htime
  rw [origin.timestamp_eq a ha, origin.timestamp_eq b hb, htime]

lemma getServers_showsOnce_iff (origin : Origin localtime tasks d)
    {orderBy : List ServerPerformance → List ServerPerformance}
    (hsort : ∀ l, ResultOrder ServerPerformance.score l (orderBy l)) :
    ShowsServersOnce env origin.performanceTime d.performance.rows
        (fetchServers env orderBy d.performance.rows) (getServers env .succeeds orderBy d) ↔
      ∀ a, IsNewestOfGroup env.server origin.performanceTime d.performance.rows a →
        ∀ b ∈ d.performance.rows, env.server b = env.server a → b ≠ a →
          env.datetime b.timestamp < env.datetime a.timestamp := by
  have hperm : (fetchServers env orderBy d.performance.rows).Perm
      (latestPerGroup env.server (fun r => env.datetime r.timestamp) d.performance.rows) :=
    (hsort _).1
  rw [← onePerGroup_latestPerGroup_iff (List.Nodup.of_map _ d.performance.nodup_keys)
    origin.datetime_eq]
  constructor
  · exact fun h => h.one.perm hperm
  · intro h
    have hone := h.perm hperm.symm
    have hlength := hone.length_eq
    have hsplit := List.length_eq_countP_add_countP env.isOnline
      (l := fetchServers env orderBy d.performance.rows)
    refine ⟨hone, _, rfl, rfl, congrArg Nat.cast hlength, rfl, ?_, ?_⟩
    · dsimp only
      rw [hsplit]
      simp only [Bool.not_eq_true, Bool.decide_eq_false]
      push_cast
      exact add_sub_cancel_left _ _
    · dsimp only
      rw [← hlength]
      split_ifs with hpos
      · rw [Int.cast_natCast]
      · have hzero : (fetchServers env orderBy d.performance.rows).length = 0 := by omega
        rw [hzero, Nat.cast_zero, div_zero]

lemma getServerNetProcess_showsOne_iff
    {orderBy : List ServerNetProcessDetail → List ServerNetProcessDetail}
    (hsort : ∀ l, ResultOrder ServerNetProcessDetail.totalBytesRate l (orderBy l))
    (sequence : ℕ) (serverName : String) (d : Database env.collate) :
    ShowsOneSample env sequence (env.netProcessRows serverName d.netProcessDetail.rows)
        (fetchNetProcess env orderBy serverName d.netProcessDetail.rows)
        (getServerNetProcess env .succeeds orderBy serverName d) ↔
      env.netProcessRows serverName d.netProcessDetail.rows = [] ∨
        ∃ p ∈ env.netProcessRows serverName d.netProcessDetail.rows, p.sequence = sequence ∧
          ∀ b ∈ env.netProcessRows serverName d.netProcessDetail.rows,
            (b.sequence = sequence → env.datetime b.timestamp = env.datetime p.timestamp) ∧
              (b.sequence ≠ sequence → env.datetime b.timestamp < env.datetime p.timestamp) := by
  rw [← latest_perm_sample_iff (fun r => env.datetime r.timestamp) ServerNetProcessDetail.sequence]
  have hperm : (fetchNetProcess env orderBy serverName d.netProcessDetail.rows).Perm
      (latest (fun r => env.datetime r.timestamp)
        (env.netProcessRows serverName d.netProcessDetail.rows)) := (hsort _).1
  constructor
  · exact fun h => hperm.symm.trans h.one
  · intro h
    have hone := hperm.trans h
    exact ⟨hone, _, rfl, rfl, (hone.map ServerNetProcessDetail.totalBytesRate).sum_eq⟩

/-- **When the dashboard shows one sample per server.** For every sequence of `WriteToMysql` calls,
however they end, and every order MySQL gives equal rows: `get_servers` shows exactly one row for
every server, the newest, and counts each once, and `get_server_net_process` shows for every server
the rows of its newest sample and of no other, if and only if the stored timestamps tell the newest
samples.

**Proof sketch.** Rows of one time have one timestamp, so the main rows with the greatest timestamp
are the newest exactly when no other row of the server has it (`onePerGroup_latestPerGroup_iff`).
The process rows with the greatest timestamp are those of a certain sample exactly when it has some
and no others have their timestamp (`latest_perm_sample_iff`). -/
theorem dashboard_shows_newest_iff (env : ApiEnv γ δ) (localtime : ℤ → Tm) (calls : List MysqlCall)
    (origin : Origin localtime (tasksOf calls) (contentAfter env.collate localtime calls))
    (orderServers : List ServerPerformance → List ServerPerformance)
    (orderProcesses : List ServerNetProcessDetail → List ServerNetProcessDetail)
    (hservers : ∀ l, ResultOrder ServerPerformance.score l (orderServers l))
    (hprocesses : ∀ l, ResultOrder ServerNetProcessDetail.totalBytesRate l (orderProcesses l)) :
    let d := contentAfter env.collate localtime calls
    (ShowsServersOnce env origin.performanceTime d.performance.rows
          (fetchServers env orderServers d.performance.rows)
          (getServers env .succeeds orderServers d) ∧
        ∀ a, IsNewestOfGroup env.server origin.performanceTime d.performance.rows a →
          ∀ serverName, env.Names serverName a →
            ShowsOneSample env a.sequence (env.netProcessRows serverName d.netProcessDetail.rows)
              (fetchNetProcess env orderProcesses serverName d.netProcessDetail.rows)
              (getServerNetProcess env .succeeds orderProcesses serverName d)) ↔
      origin.StampsTell := by
  intro d
  rw [getServers_showsOnce_iff origin hservers]
  constructor
  · rintro ⟨hperformance, hshown⟩
    refine ⟨hperformance, fun a ha serverName hname => ?_⟩
    exact (getServerNetProcess_showsOne_iff hprocesses _ _ d).mp (hshown a ha serverName hname)
  · rintro ⟨hperformance, hprocess⟩
    refine ⟨hperformance, fun a ha serverName hname => ?_⟩
    exact (getServerNetProcess_showsOne_iff hprocesses _ _ d).mpr (hprocess a ha serverName hname)

end Newest

/-! ## A burst -/

/-- Names compared byte by byte and times by their digits, an hour into 1970. -/
def hourEnv : ApiEnv (List UInt8) ℕ where
  collate := id
  datetime := utcEnv.datetime
  secondsSince := fun _ => 3600
  isoformat := id

/-- The sample `sequence` of host `h`, received at `time`, with one process. -/
def burstSample (sequence : ℕ) (time : Time) : MysqlWriteTask where
  hostName := "h"
  hostScore :=
    ⟨{ name := "h", sequence := sequence, processNetInfo := [{ pid := 7 }] }, 0, time⟩
  cpuPercentRate := 0
  loadAvg1Rate := 0
  memUsedPercentRate := 0
  diskUtilPercentRate := 0
  netInRateRate := 0
  netOutRateRate := 0

/-- Two samples received within one second, both written. -/
def burstCalls : List MysqlCall :=
  [.write (fun _ => true) (burstSample 1 200000000),
    .write (fun _ => true) (burstSample 2 700000000)]

/-- Both samples are shown: the one server is counted twice, and its processes are those of two
samples. -/
theorem burst_shown_twice :
    let d := contentAfter hourEnv.collate gmtime burstCalls
    (getServers hourEnv .succeeds id d).map (·.stats.total) = .ok 2 ∧
      (fetchNetProcess hourEnv id "h" d.netProcessDetail.rows).map
        ServerNetProcessDetail.sequence = [1, 2] ∧
      ∀ time, ¬ ShowsServersOnce hourEnv time d.performance.rows
        (fetchServers hourEnv id d.performance.rows) (getServers hourEnv .succeeds id d) := by
  intro d
  refine ⟨by decide +kernel, by decide +kernel, fun time h => ?_⟩
  have htwice : ¬ ((fetchServers hourEnv id d.performance.rows).map hourEnv.server).Nodup := by
    decide +kernel
  exact htwice h.one.nodup

/-- Two samples received in different seconds, both written. -/
def spacedCalls : List MysqlCall :=
  [.write (fun _ => true) (burstSample 1 200000000),
    .write (fun _ => true) (burstSample 2 1200000000)]

/-- When the samples of `spacedCalls` were received. -/
def spacedOrigin : Origin gmtime (tasksOf spacedCalls)
    (contentAfter hourEnv.collate gmtime spacedCalls) where
  performanceTime r := if r.sequence = 1 then 200000000 else 1200000000
  performance := by decide +kernel

/-- Of two samples in different seconds the newer one is shown. -/
theorem dashboard_shows_newer_sample :
    let d := contentAfter hourEnv.collate gmtime spacedCalls
    ∃ orderServers orderProcesses,
      ShowsServersOnce hourEnv spacedOrigin.performanceTime d.performance.rows
          (fetchServers hourEnv orderServers d.performance.rows)
          (getServers hourEnv .succeeds orderServers d) ∧
        ShowsOneSample hourEnv 2 (hourEnv.netProcessRows "h" d.netProcessDetail.rows)
          (fetchNetProcess hourEnv orderProcesses "h" d.netProcessDetail.rows)
          (getServerNetProcess hourEnv .succeeds orderProcesses "h" d) := by
  intro d
  choose orderServers hservers using exists_resultOrder ServerPerformance.score
  choose orderProcesses hprocesses using exists_resultOrder ServerNetProcessDetail.totalBytesRate
  have hrows : d.performance.rows = [performanceRow gmtime (burstSample 1 200000000),
      performanceRow gmtime (burstSample 2 1200000000)] := by decide +kernel
  have hprocessRows : d.netProcessDetail.rows =
      [netProcessRow gmtime (burstSample 1 200000000) { pid := 7 },
        netProcessRow gmtime (burstSample 2 1200000000) { pid := 7 }] := by decide +kernel
  have hnewest : ∀ a, IsNewestOfGroup hourEnv.server spacedOrigin.performanceTime
      d.performance.rows a ↔ a = performanceRow gmtime (burstSample 2 1200000000) := by
    intro a
    have hold : ¬ IsNewestOfGroup hourEnv.server spacedOrigin.performanceTime d.performance.rows
        (performanceRow gmtime (burstSample 1 200000000)) := by
      intro h
      have hle := h.2 (performanceRow gmtime (burstSample 2 1200000000))
        (by rw [hrows]; exact List.mem_of_mem_tail List.mem_cons_self) rfl
      exact absurd hle (by decide +kernel)
    constructor
    · intro ha
      have hmem := ha.1
      rw [hrows, List.mem_cons, List.mem_singleton] at hmem
      exact hmem.resolve_left fun h => hold (h ▸ ha)
    · rintro rfl
      refine ⟨by rw [hrows]; exact List.mem_of_mem_tail List.mem_cons_self, ?_⟩
      rw [hrows]
      decide +kernel
  have htells : spacedOrigin.StampsTell := by
    constructor
    · intro a ha b hb _ hne
      obtain rfl := (hnewest a).mp ha
      have hmem : b ∈ d.performance.rows := hb
      rw [hrows, List.mem_cons, List.mem_singleton] at hmem
      obtain rfl := hmem.resolve_right hne
      decide +kernel
    · intro a ha serverName hname
      obtain rfl := (hnewest a).mp ha
      refine Or.inr ?_
      rw [ApiEnv.netProcessRows, show (contentAfter hourEnv.collate gmtime
        spacedCalls).netProcessDetail.rows = _ from hprocessRows, hname]
      decide +kernel
  have h := (dashboard_shows_newest_iff hourEnv gmtime spacedCalls spacedOrigin orderServers
    orderProcesses hservers hprocesses).mpr htells
  exact ⟨orderServers, orderProcesses, h.1, h.2 _ ((hnewest _).mpr rfl) "h"
    (by unfold ApiEnv.Names; decide +kernel)⟩

end Monitor
