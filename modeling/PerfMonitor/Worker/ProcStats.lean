import Mathlib.Algebra.Order.Field.Basic
import Mathlib.Algebra.Order.Ring.Rat
import Mathlib.Data.List.Sort
import PerfMonitor.Automaton.Run
import PerfMonitor.Container.UnorderedMap
import PerfMonitor.Proto.MonitorInfo

set_option relaxedAutoImplicit false
set_option autoImplicit false

/-!
# Traffic of the processes

`account_proc` (`worker/src/ebpf/net_stats.bpf.c`) adds the bytes of every TCP transfer to the entry
of the current process in a per-CPU hash map; the entry carries the name of the process that
created it. `NetEbpfMonitor::CollectProcessStats` (`worker/src/monitor/net_ebpf_monitor.cpp`) walks
over the map, turns the growth of each entry since its last reading into a rate, and deletes the
entries of processes that are gone.

## Main definitions

* `Monitor.accountProc` — the kernel side.
* `Monitor.ProcStats`, `Monitor.procStats` — processes, transfers and passes of
  `CollectProcessStats` as an event machine. Every reading, liveness probe and deletion of a pass
  is a step of its own.
* `Monitor.ProcReport` — a reported rate, with what was really moved under its process and name.
-/

namespace Monitor

/-! ## The kernel side -/

/-- `struct proc_net_stats`: one slot of an entry. -/
structure ProcNetStats where
  sndBytes : UInt64 := 0
  rcvBytes : UInt64 := 0
  comm : String := ""
  deriving DecidableEq, Repr

/-- Whether bytes are sent or received. -/
inductive Transfer where
  | send
  | receive
  deriving DecidableEq, Repr

/-- The slot with bytes added. -/
def ProcNetStats.add (stats : ProcNetStats) (dir : Transfer) (bytes : UInt64) : ProcNetStats :=
  match dir with
  | .send => { stats with sndBytes := stats.sndBytes + bytes }
  | .receive => { stats with rcvBytes := stats.rcvBytes + bytes }

/-- The entries by `tgid`, each with a slot for every one of `n` CPUs. -/
abbrev ProcNetMap (n : ℕ) := UnorderedMap ℕ (Fin n → ProcNetStats)

/-- The size of `proc_net_map`. -/
def maxProcesses : ℕ := 4096

variable {n : ℕ}

/-- `account_proc` on `cpu`, in a process `tgid` with name `comm`. -/
def accountProc (m : ProcNetMap n) (cpu : Fin n) (tgid : ℕ) (comm : String) (dir : Transfer)
    (bytes : UInt64) : ProcNetMap n :=
  if bytes = 0 then m
  else
    match m.lookup tgid with
    | some slots => m.insert tgid (Function.update slots cpu ((slots cpu).add dir bytes))
    | none =>
      -- with the map full the creation fails, and so does the second lookup
      if m.entries.length ≥ maxProcesses then m
      else
        m.insert tgid
          (Function.update (fun _ => {}) cpu (({ comm := comm } : ProcNetStats).add dir bytes))

/-! ## Reading an entry -/

/-- The loop over the slots of an entry that adds up a counter. -/
def mergeBytes (counter : Fin n → UInt64) : UInt64 :=
  (List.finRange n).foldl (fun sum cpu => sum + counter cpu) 0

/-- The loop over the slots of an entry that takes the first name that is not empty. -/
def mergeName (slots : Fin n → ProcNetStats) : String :=
  (List.finRange n).foldl (fun name cpu =>
    if name = "" ∧ (slots cpu).comm ≠ "" then (slots cpu).comm else name) ""

/-- Bytes moved in each direction. -/
structure Traffic where
  sent : ℕ := 0
  received : ℕ := 0
  deriving DecidableEq, Repr

/-- The traffic with bytes added. -/
def Traffic.add (t : Traffic) (dir : Transfer) (bytes : ℕ) : Traffic :=
  match dir with
  | .send => { t with sent := t.sent + bytes }
  | .receive => { t with received := t.received + bytes }

/-- What is read of an entry, with what processes of each name have moved with this `tgid` by the
time of the reading. The latter is known to nobody; it is there to compare the reading with. -/
structure ProcReading where
  sndBytes : UInt64
  rcvBytes : UInt64
  moved : String → Traffic

/-- `ProcStatCache`. -/
structure ProcStatCache where
  reading : ProcReading
  timestamp : ℚ

/-- A `ProcRate`. -/
structure ProcRate where
  pid : ℕ
  name : String
  sndRate : ℚ
  rcvRate : ℚ
  deriving DecidableEq, Repr

/-- What a rate is sorted by. -/
def ProcRate.total (r : ProcRate) : ℚ := r.sndRate + r.rcvRate

/-- A rate, the time between its two readings, and what processes with its name and `tgid` have
moved in this time. -/
structure MeasuredRate where
  rate : ProcRate
  elapsed : ℚ
  moved : Traffic
  deriving DecidableEq, Repr

/-- The growth of a counter. One that has become smaller counts from zero. -/
def counterDelta (now last : UInt64) : UInt64 := if now ≥ last then now - last else now

/-- The rate of an entry between two readings. -/
def measureRate (pid : ℕ) (name : String) (elapsed : ℚ) (last now : ProcReading) :
    MeasuredRate where
  rate :=
    { pid := pid
      name := name
      sndRate := (counterDelta now.sndBytes last.sndBytes).toNat / 1024 / elapsed
      rcvRate := (counterDelta now.rcvBytes last.rcvBytes).toNat / 1024 / elapsed }
  elapsed := elapsed
  moved :=
    { sent := (now.moved name).sent - (last.moved name).sent
      received := (now.moved name).received - (last.moved name).received }

/-! ## Reporting -/

def kTopProcessCount : ℕ := 10

/-- The message of a rate, `totalRate` being the sum over all rates. -/
def processNetInfo (totalRate : ℚ) (r : ProcRate) : ProcessNetInfo where
  pid := r.pid
  name := r.name
  sendRate := r.sndRate
  rcvRate := r.rcvRate
  totalRate := r.total
  sharePercent := if totalRate > 0 then r.total / totalRate * 100 else 0

/-- A reported rate. -/
structure ProcReport where
  info : ProcessNetInfo
  elapsed : ℚ
  moved : Traffic
  deriving DecidableEq, Repr

/-- The reports of a pass, `sorted` being its rates as they are sorted. -/
def procReports (rates sorted : List MeasuredRate) : List ProcReport :=
  let totalRate := (rates.map fun r => r.rate.total).sum
  (sorted.take kTopProcessCount).map fun r =>
    ⟨processNetInfo totalRate r.rate, r.elapsed, r.moved⟩

/-! ## The machine -/

/-- The local variables of a pass. -/
structure ProcPass where
  now : ℚ
  /-- The keys that the map has had when the walk began. -/
  atStart : List ℕ
  /-- The keys visited so far. -/
  visited : List ℕ := []
  rates : List MeasuredRate := []
  deadPids : List ℕ := []

/-- Where the thread is that runs `CollectProcessStats`. -/
inductive PassPhase where
  | idle
  /-- Walking over the map. -/
  | walking (pass : ProcPass)
  /-- An entry has been read, and its process is about to be probed. -/
  | probing (pass : ProcPass) (tgid : ℕ) (name : String) (reading : ProcReading)
  /-- Deleting the dead entries; then the rates are reported. -/
  | deleting (pass : ProcPass)

/-- The system: its processes, the kernel map and the monitor. -/
structure ProcStats (n : ℕ) where
  /-- The names of the running processes. -/
  processes : UnorderedMap ℕ String := ∅
  procNetMap : ProcNetMap n := ∅
  procCache : UnorderedMap ℕ ProcStatCache := ∅
  phase : PassPhase := .idle
  /-- What processes of each name have moved under each `tgid`. -/
  moved : ℕ → String → Traffic := fun _ _ => {}

inductive ProcAction (n : ℕ) where
  | startProcess (tgid : ℕ) (name : String)
  | exitProcess (tgid : ℕ)
  /-- A running process sends or receives bytes, on `cpu`. -/
  | transfer (cpu : Fin n) (tgid : ℕ) (dir : Transfer) (bytes : UInt64)
  | beginPass (now : ℚ)
  /-- `bpf_map_get_next_key` and the reading of the entry. -/
  | visit (tgid : ℕ)
  /-- `kill(tgid, 0)`, and what the loop does with its result. -/
  | probe
  | endWalk
  | deleteDead
  /-- The rates are sorted, in some order when equal, and reported. -/
  | report (sorted : List MeasuredRate)

namespace ProcStats

/-- What a visit reads of an entry. -/
def readEntry (s : ProcStats n) (tgid : ℕ) (slots : Fin n → ProcNetStats) : ProcReading where
  sndBytes := mergeBytes fun cpu => (slots cpu).sndBytes
  rcvBytes := mergeBytes fun cpu => (slots cpu).rcvBytes
  moved := s.moved tgid

/-- The rest of the loop body once the process is known to live. -/
def visitLive (s : ProcStats n) (pass : ProcPass) (tgid : ℕ) (name : String)
    (reading : ProcReading) : ProcStats n :=
  let name := if name = "" then "unknown" else name
  match s.procCache.lookup tgid with
  | none =>
    { s with
      procCache := s.procCache.insert tgid ⟨reading, pass.now⟩
      phase := .walking pass }
  | some last =>
    let elapsed := pass.now - last.timestamp
    if elapsed ≤ 0 then { s with phase := .walking pass }
    else
      { s with
        procCache := s.procCache.insert tgid ⟨reading, pass.now⟩
        phase := .walking { pass with
          rates := pass.rates ++ [measureRate tgid name elapsed last.reading reading] } }

/-- One action. -/
def step (s : ProcStats n) : ProcAction n → Option (ProcStats n × List ProcReport)
  | .startProcess tgid name =>
    if tgid ∈ s.processes then none
    else some ({ s with processes := s.processes.insert tgid name }, [])
  | .exitProcess tgid =>
    if tgid ∈ s.processes then some ({ s with processes := s.processes.erase tgid }, []) else none
  | .transfer cpu tgid dir bytes =>
    match s.processes.lookup tgid with
    | none => none
    | some name =>
      some ({ s with
        procNetMap := accountProc s.procNetMap cpu tgid name dir bytes
        moved := Function.update s.moved tgid
          (Function.update (s.moved tgid) name ((s.moved tgid name).add dir bytes.toNat)) }, [])
  | .beginPass now =>
    match s.phase with
    | .idle => some ({ s with phase := .walking { now := now, atStart := s.procNetMap.keys } }, [])
    | _ => none
  | .visit tgid =>
    match s.phase, s.procNetMap.lookup tgid with
    | .walking pass, some slots =>
      if tgid ∈ pass.visited then none
      else
        some ({ s with
          phase := .probing { pass with visited := pass.visited ++ [tgid] } tgid (mergeName slots)
            (s.readEntry tgid slots) }, [])
    | _, _ => none
  | .probe =>
    match s.phase with
    | .probing pass tgid name reading =>
      if tgid ∈ s.processes then some (s.visitLive pass tgid name reading, [])
      else
        some ({ s with
          procCache := s.procCache.erase tgid
          phase := .walking { pass with deadPids := pass.deadPids ++ [tgid] } }, [])
    | _ => none
  | .endWalk =>
    match s.phase with
    | .walking pass =>
      -- keys that are inserted during the walk may be missed
      if ∀ tgid ∈ pass.atStart, tgid ∈ pass.visited then
        some ({ s with phase := .deleting pass }, [])
      else none
    | _ => none
  | .deleteDead =>
    match s.phase with
    | .deleting pass =>
      match pass.deadPids with
      | tgid :: rest =>
        some ({ s with
          procNetMap := s.procNetMap.erase tgid
          phase := .deleting { pass with deadPids := rest } }, [])
      | [] => none
    | _ => none
  | .report sorted =>
    match s.phase with
    | .deleting pass =>
      if pass.deadPids = [] ∧ sorted.Perm pass.rates ∧
          sorted.Pairwise (fun a b => a.rate.total ≥ b.rate.total) then
        some ({ s with phase := .idle }, procReports pass.rates sorted)
      else none
    | _ => none

end ProcStats

/-- Processes, transfers and passes as an event machine that shows the reports. -/
def procStats (n : ℕ) : EventMachine (ProcStats n) (ProcAction n) ProcReport where
  step s a := s.step a

end Monitor
