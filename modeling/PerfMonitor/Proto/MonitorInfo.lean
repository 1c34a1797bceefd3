import Mathlib.Data.Rat.Defs
import Mathlib.Tactic.TypeStar

set_option relaxedAutoImplicit false
set_option autoImplicit false

/-!
# The report message

`MonitorInfo` (`proto/monitor_info.proto` and the messages it imports): what a worker sends to the
manager in one `SetMonitorInfo` call. `float` and `double` fields are rationals (exact
arithmetic), `uint64` and `uint32` fields are natural numbers, a message field that may be
absent is an `Option`, a repeated field is a list, and defaults are those of proto3. Fields
that no modelled function reads are left out: the raw counters of `DiskInfo` and the parts of
`MemInfo` that the manager ignores.

## Main definitions

* `Monitor.MonitorInfo` — one report.
-/

namespace Monitor

/-- Identity of the reporting host. -/
structure HostInfo where
  hostname : String := ""
  ipAddress : String := ""
  deriving DecidableEq, Repr, Inhabited

/-- Load averages; the five-minute one is called `load_avg_3` in the source. -/
structure CpuLoad where
  loadAvg1 : ℚ := 0
  loadAvg3 : ℚ := 0
  loadAvg15 : ℚ := 0
  deriving DecidableEq, Repr, Inhabited

/-- CPU time shares in percent. Row `0` of a report is the total over all CPUs. -/
structure CpuStat where
  cpuName : String := ""
  cpuPercent : ℚ := 0
  usrPercent : ℚ := 0
  systemPercent : ℚ := 0
  nicePercent : ℚ := 0
  idlePercent : ℚ := 0
  ioWaitPercent : ℚ := 0
  irqPercent : ℚ := 0
  softIrqPercent : ℚ := 0
  deriving DecidableEq, Repr, Inhabited

structure MemInfo where
  total : ℚ := 0
  free : ℚ := 0
  avail : ℚ := 0
  usedPercent : ℚ := 0
  deriving DecidableEq, Repr, Inhabited

/-- Rates of one network interface. -/
structure NetInfo where
  name : String := ""
  sendRate : ℚ := 0
  rcvRate : ℚ := 0
  sendPacketsRate : ℚ := 0
  rcvPacketsRate : ℚ := 0
  deriving DecidableEq, Repr, Inhabited

/-- Rates of one disk. -/
structure DiskInfo where
  name : String := ""
  readBytesPerSec : ℚ := 0
  writeBytesPerSec : ℚ := 0
  readIops : ℚ := 0
  writeIops : ℚ := 0
  avgReadLatencyMs : ℚ := 0
  avgWriteLatencyMs : ℚ := 0
  utilPercent : ℚ := 0
  deriving DecidableEq, Repr, Inhabited

/-- Network traffic attributed to one process. -/
structure ProcessNetInfo where
  pid : ℕ := 0
  name : String := ""
  sendRate : ℚ := 0
  rcvRate : ℚ := 0
  totalRate : ℚ := 0
  sharePercent : ℚ := 0
  deriving DecidableEq, Repr, Inhabited

/-- One report of a worker. -/
structure MonitorInfo where
  name : String := ""
  hostInfo : Option HostInfo := none
  /-- Idempotency key, increasing at the worker; `0` in reports of old workers. -/
  sequence : ℕ := 0
  cpuLoad : Option CpuLoad := none
  cpuStat : List CpuStat := []
  memInfo : Option MemInfo := none
  netInfo : List NetInfo := []
  diskInfo : List DiskInfo := []
  processNetInfo : List ProcessNetInfo := []
  deriving DecidableEq, Repr, Inhabited

end Monitor
