import Mathlib.Algebra.Order.Field.Basic
import Mathlib.Data.Rat.Defs
import Mathlib.Algebra.Order.Ring.Rat
import Mathlib.Tactic.Linarith
import Mathlib.Tactic.NormNum
import PerfMonitor.Proto.MonitorInfo

set_option relaxedAutoImplicit false
set_option autoImplicit false

/-!
# The health score

`HostManager::CalcScore`: a weighted sum of five terms in `[0, 1]`, scaled to `[0, 100]`, in
exact arithmetic.

## Main definitions

* `Monitor.calcScore` — the score of a report.
* `Monitor.cpuScore`, `memScore`, `loadScore`, `diskScore`, `netRecvScore`, `netSendScore` — the
  clamped terms of the score; `Monitor.weightedScore` — their weighted sum, scaled to percent.
* `Monitor.calcSchedulingWeight` — the scheduling weight of a score.

## Main results

* `Monitor.calcScore_nonneg`, `Monitor.calcScore_le` — the score lies in `[0, 100]`.
* `Monitor.clamp_nonneg`, `clamp_le_one`, `clamp_mono` — the clamp is a monotone map to `[0, 1]`.
* `Monitor.calcScore_eq` — the score is the weighted sum of its terms, clamped once more.
-/

namespace Monitor

/-- The `clamp` of `CalcScore`. -/
def clamp (v : ℚ) : ℚ := if v < 0 then 0 else if v > 1 then 1 else v

lemma clamp_eq (v : ℚ) : clamp v = max 0 (min v 1) := by
  unfold clamp
  split_ifs with h₁ h₂
  · exact (max_eq_left ((min_le_left v 1).trans h₁.le)).symm
  · rw [min_eq_right h₂.le]
    exact (max_eq_right zero_le_one).symm
  · rw [min_eq_left (not_lt.mp h₂)]
    exact (max_eq_right (not_lt.mp h₁)).symm

lemma clamp_nonneg (v : ℚ) : 0 ≤ clamp v := by
  rw [clamp_eq]
  exact le_max_left 0 _

lemma clamp_le_one (v : ℚ) : clamp v ≤ 1 := by
  rw [clamp_eq]
  exact max_le zero_le_one (min_le_right v 1)

lemma clamp_mono {v w : ℚ} (h : v ≤ w) : clamp v ≤ clamp w := by
  rw [clamp_eq, clamp_eq]
  exact max_le_max_left 0 (min_le_min_right 1 h)

/-- The terms of the score grow when the quotient they subtract falls. -/
lemma clamp_one_sub_anti {a b : ℚ} (h : a ≤ b) : clamp (1 - b) ≤ clamp (1 - a) :=
  clamp_mono (sub_le_sub_left h 1)

/-- A term falls when the quantity it divides by a bound grows. -/
lemma clamp_one_sub_div_anti {a b k : ℚ} (hk : 0 ≤ k) (h : a ≤ b) :
    clamp (1 - b / k) ≤ clamp (1 - a / k) :=
  clamp_one_sub_anti (div_le_div_of_nonneg_right h hk)

lemma clamp_one_sub_zero : clamp (1 - 0) = 1 := by
  apply le_antisymm (clamp_le_one _)
  rw [clamp_eq, sub_zero, min_self]
  exact le_max_right 0 1

/-- The number of cores `CalcScore` divides the load by: the rows after the total row, at least
one. -/
def cpuCores (cpuStat : List CpuStat) : ℕ :=
  if cpuStat.length > 0 then (if cpuStat.length - 1 < 1 then 1 else cpuStat.length - 1) else 1

/-- The largest `util_percent`, never below zero. -/
def maxDiskUtil (diskInfo : List DiskInfo) : ℚ :=
  diskInfo.foldl (fun m d => if d.utilPercent > m then d.utilPercent else m) 0

/-- The two loops over the disks find the same maximum. -/
lemma maxDiskUtil_eq (disks : List DiskInfo) :
    maxDiskUtil disks = disks.foldl (fun m d => max m d.utilPercent) 0 := by
  unfold maxDiskUtil
  congr 1
  funext m d
  exact (max_def_lt m d.utilPercent).symm

/-- `HostManager::CalcScore`. The network term reads the first interface only. -/
def calcScore (info : MonitorInfo) : ℚ :=
  let cpuWeight : ℚ := 35 / 100
  let memWeight : ℚ := 30 / 100
  let loadWeight : ℚ := 15 / 100
  let diskWeight : ℚ := 15 / 100
  let netWeight : ℚ := 5 / 100
  let loadCoefficient : ℚ := 3 / 2
  let maxBandwidth : ℚ := 125000000
  let cpuPercent : ℚ := (info.cpuStat.head?.map CpuStat.cpuPercent).getD 0
  let loadAvg1 : ℚ := (info.cpuLoad.map CpuLoad.loadAvg1).getD 0
  let memPercent : ℚ := (info.memInfo.map MemInfo.usedPercent).getD 0
  let netRecvRate : ℚ := (info.netInfo.head?.map NetInfo.rcvRate).getD 0
  let netSendRate : ℚ := (info.netInfo.head?.map NetInfo.sendRate).getD 0
  let diskUtil : ℚ := maxDiskUtil info.diskInfo
  let cpuScore := clamp (1 - cpuPercent / 100)
  let memScore := clamp (1 - memPercent / 100)
  let loadScore := clamp (1 - loadAvg1 / (cpuCores info.cpuStat * loadCoefficient))
  let diskScore := clamp (1 - diskUtil / 100)
  let netRecvScore := clamp (1 - netRecvRate / maxBandwidth)
  let netSendScore := clamp (1 - netSendRate / maxBandwidth)
  let netScore := (netRecvScore + netSendScore) / 2
  let score := (cpuScore * cpuWeight + memScore * memWeight + loadScore * loadWeight +
    diskScore * diskWeight + netScore * netWeight) * 100
  if score < 0 then 0 else if score > 100 then 100 else score

/-! ## The terms of the score -/

/-- `max_bandwidth` of `CalcScore`: 1 Gbit/s in bytes per second. -/
def maxBandwidth : ℚ := 125000000

/-- `cpu_score` of `CalcScore`, from the first CPU row. -/
def cpuScore (info : MonitorInfo) : ℚ :=
  clamp (1 - (info.cpuStat.head?.map CpuStat.cpuPercent).getD 0 / 100)

/-- `mem_score` of `CalcScore`. -/
def memScore (info : MonitorInfo) : ℚ :=
  clamp (1 - (info.memInfo.map MemInfo.usedPercent).getD 0 / 100)

/-- `load_score` of `CalcScore`: the load per core, against `1.5`. -/
def loadScore (info : MonitorInfo) : ℚ :=
  clamp (1 - (info.cpuLoad.map CpuLoad.loadAvg1).getD 0 / (cpuCores info.cpuStat * (3 / 2)))

/-- `disk_score` of `CalcScore`, from the busiest disk. -/
def diskScore (info : MonitorInfo) : ℚ := clamp (1 - maxDiskUtil info.diskInfo / 100)

/-- `net_recv_score` of `CalcScore`, from the first interface. -/
def netRecvScore (info : MonitorInfo) : ℚ :=
  clamp (1 - (info.netInfo.head?.map NetInfo.rcvRate).getD 0 / maxBandwidth)

/-- `net_send_score` of `CalcScore`, from the first interface. -/
def netSendScore (info : MonitorInfo) : ℚ :=
  clamp (1 - (info.netInfo.head?.map NetInfo.sendRate).getD 0 / maxBandwidth)

/-- The score of a report before the last clamp of `CalcScore`. -/
def weightedScore (info : MonitorInfo) : ℚ :=
  (cpuScore info * (35 / 100) + memScore info * (30 / 100) + loadScore info * (15 / 100) +
    diskScore info * (15 / 100) + (netRecvScore info + netSendScore info) / 2 * (5 / 100)) * 100

/-- `CalcScore` is the weighted sum of its terms, clamped to `[0, 100]`. -/
lemma calcScore_eq (info : MonitorInfo) :
    calcScore info = if weightedScore info < 0 then 0
      else if weightedScore info > 100 then 100 else weightedScore info := rfl

lemma calcScore_nonneg (info : MonitorInfo) : 0 ≤ calcScore info := by
  unfold calcScore
  dsimp only
  split_ifs with h₁ h₂
  · exact le_rfl
  · norm_num
  · exact not_lt.mp h₁

lemma calcScore_le (info : MonitorInfo) : calcScore info ≤ 100 := by
  unfold calcScore
  dsimp only
  split_ifs with h₁ h₂
  · norm_num
  · exact le_rfl
  · exact not_lt.mp h₂

/-- `HostManager::CalcSchedulingWeight`. -/
def calcSchedulingWeight (score : ℚ) : ℚ := if score > 0 then score else 0

lemma calcSchedulingWeight_of_nonneg {score : ℚ} (h : 0 ≤ score) :
    calcSchedulingWeight score = score := by
  unfold calcSchedulingWeight
  split_ifs with hpos
  · rfl
  · exact le_antisymm h (not_lt.mp hpos)

/-- A report with no metrics at all scores `100`. -/
example : calcScore {} = 100 := by decide +kernel

end Monitor
