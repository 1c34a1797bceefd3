import Mathlib.Algebra.Order.Field.Basic
import Mathlib.Algebra.Order.Ring.Rat
import Mathlib.Tactic.Linarith
import Mathlib.Tactic.Positivity
import PerfMonitor.Container.UnorderedMap
import PerfMonitor.Proto.MonitorInfo
import PerfMonitor.Worker.CpuStatShared

set_option relaxedAutoImplicit false
set_option autoImplicit false

/-!
# CPU percentages

`CpuStatMonitor::UpdateOnce` (`worker/src/monitor/cpu_stat_monitor.cpp`) turns two readings of the
counters of a CPU into the shares of time that it spent in each state.

## Main definitions

* `Monitor.fillCpuPercentages` — the percentages of a row.
* `Monitor.CpuStatMonitor.updateOnce` — one call, with the rows of the last call by name.
* `Monitor.CpuShare` — the eight percentages, each with the time it is a share of.

## Main results

* `Monitor.CpuShare.percent_fill` — every percentage is a guarded share of the growth of the total.
* `Monitor.percentages_in_range_iff` — when all percentages lie in `[0, 100]`.
* `Monitor.backward_idle_exceeds` — a CPU whose idle counter went back.
-/

namespace Monitor

/-! ## The percentages -/

/-- `TotalTime`, in 64-bit arithmetic. -/
def totalTime (s : ProcCpuStat) : ℕ :=
  (s.counter .user + s.counter .nice + s.counter .system + s.counter .idle + s.counter .iowait +
    s.counter .irq + s.counter .softirq + s.counter .steal) % 2 ^ 64

/-- `BusyTime`, in 64-bit arithmetic. -/
def busyTime (s : ProcCpuStat) : ℕ :=
  (s.counter .user + s.counter .nice + s.counter .system + s.counter .irq + s.counter .softirq +
    s.counter .steal) % 2 ^ 64

/-- `SafePercent`. -/
def safePercent (currentValue previousValue totalDelta : ℕ) : ℚ :=
  if totalDelta = 0 ∨ currentValue < previousValue then 0
  else ((currentValue - previousValue : ℕ) : ℚ) * 100 / totalDelta

/-- `FillCpuPercentages`. -/
def fillCpuPercentages (current previous : ProcCpuStat) (msg : CpuStat) : CpuStat :=
  let currentTotal := totalTime current
  let previousTotal := totalTime previous
  let totalDelta := if currentTotal > previousTotal then currentTotal - previousTotal else 0
  let currentBusy := busyTime current
  let previousBusy := busyTime previous
  { msg with
    cpuPercent :=
      if totalDelta > 0 ∧ currentBusy ≥ previousBusy then
        ((currentBusy - previousBusy : ℕ) : ℚ) * 100 / totalDelta
      else 0
    usrPercent := safePercent (current.counter .user) (previous.counter .user) totalDelta
    systemPercent := safePercent (current.counter .system) (previous.counter .system) totalDelta
    nicePercent := safePercent (current.counter .nice) (previous.counter .nice) totalDelta
    idlePercent := safePercent (current.counter .idle) (previous.counter .idle) totalDelta
    ioWaitPercent := safePercent (current.counter .iowait) (previous.counter .iowait) totalDelta
    irqPercent := safePercent (current.counter .irq) (previous.counter .irq) totalDelta
    softIrqPercent :=
      safePercent (current.counter .softirq) (previous.counter .softirq) totalDelta }

/-- `CpuStatMonitor`: the rows of the last call by name. -/
structure CpuStatMonitor where
  cpuStatMap : UnorderedMap String ProcCpuStat := ∅

/-- The body of the loop of `UpdateOnce`, with the messages added so far. -/
def CpuStatMonitor.addRow (p : CpuStatMonitor × List CpuStat) (current : ProcCpuStat) :
    CpuStatMonitor × List CpuStat :=
  let msg : CpuStat := { cpuName := current.cpuName }
  let msg :=
    match p.1.cpuStatMap.lookup current.cpuName with
    | none => msg
    | some previous => fillCpuPercentages current previous msg
  ({ cpuStatMap := p.1.cpuStatMap.insert current.cpuName current }, p.2 ++ [msg])

/-- `UpdateOnce`, `stats` being what `CopyMappedCpuStats` yields if the region can be mapped and
read. -/
def CpuStatMonitor.updateOnce (m : CpuStatMonitor) (stats : Option (List ProcCpuStat)) :
    CpuStatMonitor × List CpuStat :=
  match stats with
  | none => (m, [])
  | some rows => rows.foldl addRow (m, [])

/-! ## The eight shares -/

/-- The percentages of a row. -/
inductive CpuShare where
  | busy
  | usr
  | system
  | nice
  | idle
  | ioWait
  | irq
  | softIrq
  deriving DecidableEq, Repr

namespace CpuShare

/-- The percentage in a message. -/
def percent (msg : CpuStat) : CpuShare → ℚ
  | busy => msg.cpuPercent
  | usr => msg.usrPercent
  | system => msg.systemPercent
  | nice => msg.nicePercent
  | idle => msg.idlePercent
  | ioWait => msg.ioWaitPercent
  | irq => msg.irqPercent
  | softIrq => msg.softIrqPercent

/-- The time that the percentage is a share of the total of. -/
def time (s : ProcCpuStat) : CpuShare → ℕ
  | busy => s.counter .user + s.counter .nice + s.counter .system + s.counter .irq +
      s.counter .softirq + s.counter .steal
  | usr => s.counter .user
  | system => s.counter .system
  | nice => s.counter .nice
  | idle => s.counter .idle
  | ioWait => s.counter .iowait
  | irq => s.counter .irq
  | softIrq => s.counter .softirq

/-- The rest of the total: the counters that the percentage does not count. -/
def restTime (s : ProcCpuStat) : CpuShare → ℕ
  | busy => s.counter .idle + s.counter .iowait
  | usr => s.counter .nice + s.counter .system + s.counter .idle + s.counter .iowait +
      s.counter .irq + s.counter .softirq + s.counter .steal
  | system => s.counter .user + s.counter .nice + s.counter .idle + s.counter .iowait +
      s.counter .irq + s.counter .softirq + s.counter .steal
  | nice => s.counter .user + s.counter .system + s.counter .idle + s.counter .iowait +
      s.counter .irq + s.counter .softirq + s.counter .steal
  | idle => s.counter .user + s.counter .nice + s.counter .system + s.counter .iowait +
      s.counter .irq + s.counter .softirq + s.counter .steal
  | ioWait => s.counter .user + s.counter .nice + s.counter .system + s.counter .idle +
      s.counter .irq + s.counter .softirq + s.counter .steal
  | irq => s.counter .user + s.counter .nice + s.counter .system + s.counter .idle +
      s.counter .iowait + s.counter .softirq + s.counter .steal
  | softIrq => s.counter .user + s.counter .nice + s.counter .system + s.counter .idle +
      s.counter .iowait + s.counter .irq + s.counter .steal

end CpuShare

/-- The total time of a row without the limit of 64 bits. -/
def ProcCpuStat.total (s : ProcCpuStat) : ℕ :=
  s.counter .user + s.counter .nice + s.counter .system + s.counter .idle + s.counter .iowait +
    s.counter .irq + s.counter .softirq + s.counter .steal

variable {current previous : ProcCpuStat}

lemma totalTime_of_lt {s : ProcCpuStat} (h : s.total < 2 ^ 64) : totalTime s = s.total :=
  Nat.mod_eq_of_lt h

namespace CpuShare

lemma time_add_restTime (share : CpuShare) (s : ProcCpuStat) :
    share.time s + share.restTime s = s.total := by
  cases share <;> simp only [time, restTime, ProcCpuStat.total] <;> omega

lemma time_le_total (share : CpuShare) (s : ProcCpuStat) : share.time s ≤ s.total :=
  Nat.le.intro (share.time_add_restTime s)

/-- Every percentage is a guarded share of the growth of the total. -/
lemma percent_fill (hcurrent : current.total < 2 ^ 64) (hprevious : previous.total < 2 ^ 64)
    (share : CpuShare) (msg : CpuStat) :
    share.percent (fillCpuPercentages current previous msg) =
      safePercent (share.time current) (share.time previous) (current.total - previous.total) := by
  have hdelta : (if totalTime current > totalTime previous then
      totalTime current - totalTime previous else 0) = current.total - previous.total := by
    rw [totalTime_of_lt hcurrent, totalTime_of_lt hprevious]
    split_ifs <;> omega
  have hbusy : ∀ s : ProcCpuStat, s.total < 2 ^ 64 → busyTime s = busy.time s :=
    fun s hs => Nat.mod_eq_of_lt ((busy.time_le_total s).trans_lt hs)
  cases share with
  | busy =>
    simp only [percent, fillCpuPercentages, hdelta, hbusy current hcurrent,
      hbusy previous hprevious, safePercent]
    by_cases h : current.total - previous.total = 0 ∨ busy.time current < busy.time previous
    · rw [if_pos h, if_neg (by omega)]
    · rw [if_neg h, if_pos (by omega)]
  | _ => simp only [percent, fillCpuPercentages, hdelta, time]

end CpuShare

/-! ## The range of the percentages -/

lemma safePercent_nonneg (a b d : ℕ) : 0 ≤ safePercent a b d := by
  unfold safePercent
  split_ifs
  · exact le_rfl
  · positivity

/-- A share is at most `100` when its time has grown by no more than the total. -/
lemma safePercent_le_iff (a b d : ℕ) : safePercent a b d ≤ 100 ↔ d = 0 ∨ a ≤ b + d := by
  unfold safePercent
  by_cases hd : d = 0
  · rw [if_pos (Or.inl hd)]
    exact iff_of_true (by norm_num) (Or.inl hd)
  by_cases hab : a < b
  · rw [if_pos (Or.inr hab)]
    exact iff_of_true (by norm_num) (Or.inr (by omega))
  have hpos : (0 : ℚ) < d := by exact_mod_cast Nat.pos_of_ne_zero hd
  rw [if_neg (by omega), div_le_iff₀ hpos, mul_comm, mul_le_mul_iff_right₀ (by norm_num),
    Nat.cast_le]
  omega

/-- **When the percentages stay in range.** For two readings of a row whose sums do not overflow,
all percentages lie in `[0, 100]` exactly when the total time has not grown, or for each percentage
the counters of the total that it does not count have not fallen in sum. -/
theorem percentages_in_range_iff (hcurrent : current.total < 2 ^ 64)
    (hprevious : previous.total < 2 ^ 64) (msg : CpuStat) :
    (∀ share : CpuShare, 0 ≤ share.percent (fillCpuPercentages current previous msg) ∧
        share.percent (fillCpuPercentages current previous msg) ≤ 100) ↔
      current.total ≤ previous.total ∨
        ∀ share : CpuShare, share.restTime previous ≤ share.restTime current := by
  have hshare : ∀ share : CpuShare,
      (0 ≤ share.percent (fillCpuPercentages current previous msg) ∧
        share.percent (fillCpuPercentages current previous msg) ≤ 100) ↔
      current.total ≤ previous.total ∨ share.restTime previous ≤ share.restTime current := by
    intro share
    rw [share.percent_fill hcurrent hprevious, safePercent_le_iff,
      and_iff_right (safePercent_nonneg _ _ _)]
    have hcurrent' := share.time_add_restTime current
    have hprevious' := share.time_add_restTime previous
    omega
  simp only [hshare]
  exact forall_or_left

/-- A row that knows two states only. -/
def twoStates (user idle : ℕ) : ProcCpuStat where
  cpuName := "cpu0"
  counter
    | .user => user
    | .idle => idle
    | _ => 0

/-- Both counters of a row grow: a third of the time is user time. -/
theorem percentages_in_range_growing :
    0 ≤ CpuShare.percent (fillCpuPercentages (twoStates 50 200) (twoStates 0 100) {}) .usr ∧
      CpuShare.percent (fillCpuPercentages (twoStates 50 200) (twoStates 0 100) {}) .usr ≤ 100 := by
  refine (@percentages_in_range_iff (twoStates 50 200) (twoStates 0 100) (by decide) (by decide)
    {}).mpr (Or.inr ?_) .usr
  intro share
  cases share <;> decide

/-- The idle counter goes back from `100` to `50` while the total grows from `100` to `200`: the
share of user time, and that of busy time, is `150` percent. -/
theorem backward_idle_exceeds :
    (twoStates 150 50).total < 2 ^ 64 ∧ (twoStates 0 100).total < 2 ^ 64 ∧
      (fillCpuPercentages (twoStates 150 50) (twoStates 0 100) {}).usrPercent = 150 ∧
      (fillCpuPercentages (twoStates 150 50) (twoStates 0 100) {}).cpuPercent = 150 := by
  decide +kernel

end Monitor
