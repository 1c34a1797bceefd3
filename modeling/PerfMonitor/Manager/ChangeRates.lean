import Mathlib.Data.List.Chain
import Mathlib.Tactic.Linarith
import PerfMonitor.Manager.History

set_option relaxedAutoImplicit false
set_option autoImplicit false
set_option linter.unusedSectionVars false

/-!
# The stored change rates

Next to six of its metrics, a row of `server_performance` stores how much the metric has changed
since the host's previous report. `OnDataReceived` computes the rates against the sample it has
kept of that report and hands them to `WriteToMysql`, where the two network rates change places:
the relative change of the receive rate is stored as that of the send rate and the other way
around.

## Main definitions

* `Monitor.HostManager.hostTasks` — the tasks of a host's accepted reports, in order.
* `Monitor.RatesDescribeColumns` — each rate column of a row is the relative change of the column
  it is named after.
* `Monitor.SameRelativeChange` — two quantities change by the same factor.

## Main results

* `Monitor.History.run_ratesChained` — the rates of a report are those against the host's previous
  one.
* `Monitor.History.rates_describe_columns_iff` — exactly when all six columns are right.
-/

namespace Monitor

/-! ## What a report is compared with -/

/-- The sample that a task's report leaves for the next one. -/
def perfSample (task : MysqlWriteTask) : PerfSample :=
  PerfSample.ofInfo task.hostScore.info task.hostScore.score

namespace HostManager

/-- The tasks of a host, in the order its reports were accepted. -/
def hostTasks (host : String) (m : HostManager) : List MysqlWriteTask :=
  m.mysqlWriteQueue.filter fun task => task.hostName = host

@[simp] lemma getBestHost_lastPerfSamples (ord : HashOrder) (m : HostManager) :
    (m.getBestHost ord).2.lastPerfSamples = m.lastPerfSamples := by
  obtain ⟨states, h⟩ := m.getBestHost_frame ord
  rw [h]

@[simp] lemma removeStaleHosts_lastPerfSamples (now : Time) (m : HostManager) :
    (m.removeStaleHosts now).lastPerfSamples = m.lastPerfSamples := by
  rw [removeStaleHosts_eq]

/-- A report is skipped, or its task carries the rates against the sample kept of its host and the
sample is replaced. -/
lemma onDataReceived_rates (ord : HashOrder) (m : HostManager) (info : MonitorInfo) (now : Time) :
    m.onDataReceived ord info now = m ∨
      ∃ task, (m.onDataReceived ord info now).mysqlWriteQueue = m.mysqlWriteQueue ++ [task] ∧
        (m.onDataReceived ord info now).lastPerfSamples =
          m.lastPerfSamples.insert task.hostName (perfSample task) ∧
        task.toChangeRates =
          changeRates (perfSample task) (UnorderedMap.get m.lastPerfSamples task.hostName) := by
  by_cases hn : hostName info = ""
  · exact Or.inl (by simp only [onDataReceived, if_pos hn])
  · cases hd : m.checkDuplicate (hostName info) info.sequence with
    | none => exact Or.inl (onDataReceived_duplicate hn hd)
    | some m₁ =>
      obtain ⟨-, rfl⟩ := checkDuplicate_eq_some_iff.mp hd
      rw [onDataReceived_accept hn hd]
      refine Or.inr ⟨writeTask (hostName info) ⟨info, calcScore info, now⟩
        (changeRates (PerfSample.ofInfo info (calcScore info))
          (UnorderedMap.get m.lastPerfSamples (hostName info))), ?_, ?_, rfl⟩
      · simp only [applyReport, enqueueMysqlWrite, getBestHost_mysqlWriteQueue, storeReport,
          replaceSample]
      · simp only [applyReport, enqueueMysqlWrite, getBestHost_lastPerfSamples, storeReport,
          replaceSample]
        rfl

end HostManager

namespace History

variable {sent : ℕ → MonitorInfo} {s : History} {as : List HistoryAction}
  {es : List HistoryEvent}

/-- The sample kept of a host is that of its last task, and the rates of each of its tasks are
those against the task before it. -/
structure RatesChained (m : HostManager) : Prop where
  last : ∀ host, m.lastPerfSamples.lookup host = (m.hostTasks host).getLast?.map perfSample
  chain : ∀ host, (m.hostTasks host).IsChain fun t₁ t₂ =>
    t₂.toChangeRates = changeRates (perfSample t₂) (perfSample t₁)

/-- Only the queue and the samples matter. -/
lemma RatesChained.of_eq {m m' : HostManager} (h : RatesChained m)
    (hqueue : m'.mysqlWriteQueue = m.mysqlWriteQueue)
    (hsamples : m'.lastPerfSamples = m.lastPerfSamples) : RatesChained m' := by
  have htasks : ∀ host, m'.hostTasks host = m.hostTasks host := by
    intro host
    rw [HostManager.hostTasks, hqueue, HostManager.hostTasks]
  refine ⟨fun host => ?_, fun host => ?_⟩
  · rw [hsamples, htasks, h.last]
  · rw [htasks]
    exact h.chain host

/-- A report continues its host's chain and leaves the other hosts'. -/
lemma RatesChained.report {m : HostManager} (h : RatesChained m) (ord : HashOrder)
    (info : MonitorInfo) (now : Time) : RatesChained (m.onDataReceived ord info now) := by
  rcases m.onDataReceived_rates ord info now with hsame | ⟨task, hqueue, hsamples, hrates⟩
  · rwa [hsame]
  · have htasks : ∀ host, (m.onDataReceived ord info now).hostTasks host =
        m.hostTasks host ++ if task.hostName = host then [task] else [] := by
      intro host
      rw [HostManager.hostTasks, hqueue, List.filter_append, List.filter_singleton,
        Bool.cond_decide]
      rfl
    refine ⟨fun host => ?_, fun host => ?_⟩
    · rw [hsamples, htasks, UnorderedMap.lookup_insert_ite]
      by_cases hhost : task.hostName = host
      · rw [if_pos hhost, if_pos hhost.symm, List.getLast?_concat]
        rfl
      · rw [if_neg hhost, if_neg (Ne.symm hhost), List.append_nil, h.last]
    · rw [htasks]
      by_cases hhost : task.hostName = host
      · subst hhost
        rw [if_pos rfl]
        refine List.isChain_append.mpr ⟨h.chain _, .singleton _, ?_⟩
        intro t₁ ht₁ t₂ ht₂
        obtain rfl : task = t₂ := by simpa using ht₂
        have hlookup : m.lastPerfSamples.lookup task.hostName = some (perfSample t₁) := by
          rw [h.last, Option.mem_def.mp ht₁]
          rfl
        rw [hrates, UnorderedMap.get_of_lookup hlookup]
      · rw [if_neg hhost, List.append_nil]
        exact h.chain host

/-- **The rates of a report are those against the host's previous one**, in every history. -/
theorem run_ratesChained (hrun : (history sent).run {} as = some (s, es)) :
    RatesChained s.manager := by
  refine (history sent).run_invariant (I := fun s => RatesChained s.manager) (A := fun _ => True)
    ?_ ⟨fun _ => rfl, fun _ => .nil⟩ (fun _ _ => trivial) hrun
  intro s a s' fs _ h hstep
  obtain ⟨rfl, -⟩ := Prod.ext_iff.mp (Option.some.inj hstep)
  cases a with
  | report id ord now => exact h.report ord (sent id) now
  | cleanup now =>
    exact h.of_eq (HostManager.removeStaleHosts_mysqlWriteQueue _ _)
      (HostManager.removeStaleHosts_lastPerfSamples _ _)
  | query ord =>
    exact h.of_eq (HostManager.getBestHost_mysqlWriteQueue _ _)
      (HostManager.getBestHost_lastPerfSamples _ _)

end History

/-! ## What a rate column should hold -/

/-- The rate is the relative change of a value, or `0` if the value was `0`. -/
def RateOf (rate nowVal lastVal : ℚ) : Prop :=
  rate = if lastVal = 0 then 0 else (nowVal - lastVal) / lastVal

/-- The rate columns of `row₂` are the relative changes, since `row₁`, of the columns they are
named after. -/
structure RatesDescribeColumns (row₁ row₂ : ServerPerformance) : Prop where
  cpuPercent : RateOf row₂.cpuPercentRate row₂.cpuPercent row₁.cpuPercent
  loadAvg1 : RateOf row₂.loadAvg1Rate row₂.loadAvg1 row₁.loadAvg1
  memUsedPercent : RateOf row₂.memUsedPercentRate row₂.memUsedPercent row₁.memUsedPercent
  diskUtilPercent : RateOf row₂.diskUtilPercentRate row₂.diskUtilPercent row₁.diskUtilPercent
  sendRate : RateOf row₂.sendRateRate row₂.sendRate row₁.sendRate
  rcvRate : RateOf row₂.rcvRateRate row₂.rcvRate row₁.rcvRate

/-- The total send rate of a report. -/
def totalSendRate (info : MonitorInfo) : ℚ := (info.netInfo.map NetInfo.sendRate).sum

/-- The total receive rate of a report. -/
def totalRcvRate (info : MonitorInfo) : ℚ := (info.netInfo.map NetInfo.rcvRate).sum

/-- From `x₁` to `x₂` and from `y₁` to `y₂` it is the same relative change: none on either side,
what starts at `0` counting as unchanged, or by the same factor. -/
def SameRelativeChange (x₁ x₂ y₁ y₂ : ℚ) : Prop :=
  (x₁ = 0 ∨ x₂ = x₁) ∧ (y₁ = 0 ∨ y₂ = y₁) ∨ x₁ ≠ 0 ∧ y₁ ≠ 0 ∧ x₂ * y₁ = y₂ * x₁

lemma changeRate_eq_zero_iff {nowVal lastVal : ℚ} :
    changeRate nowVal lastVal = 0 ↔ lastVal = 0 ∨ nowVal = lastVal := by
  unfold changeRate
  split_ifs with hlast
  · simp [hlast]
  · rw [div_eq_zero_iff, sub_eq_zero, or_comm]

lemma changeRate_eq_iff {x₁ x₂ y₁ y₂ : ℚ} :
    changeRate x₂ x₁ = changeRate y₂ y₁ ↔ SameRelativeChange x₁ x₂ y₁ y₂ := by
  by_cases hx : x₁ = 0
  · have hzero : changeRate x₂ x₁ = 0 := changeRate_eq_zero_iff.mpr (Or.inl hx)
    rw [hzero, eq_comm, changeRate_eq_zero_iff]
    simp [SameRelativeChange, hx]
  · by_cases hy : y₁ = 0
    · have hzero : changeRate y₂ y₁ = 0 := changeRate_eq_zero_iff.mpr (Or.inl hy)
      rw [hzero, changeRate_eq_zero_iff]
      simp [SameRelativeChange, hx, hy]
    · have hcross : changeRate x₂ x₁ = changeRate y₂ y₁ ↔ x₂ * y₁ = y₂ * x₁ := by
        rw [changeRate, if_neg hx, changeRate, if_neg hy, div_eq_div_iff hx hy]
        constructor
        · intro h
          linarith
        · intro h
          linarith
      rw [hcross]
      constructor
      · exact fun h => Or.inr ⟨hx, hy, h⟩
      · rintro (⟨hx' | rfl, hy' | rfl⟩ | ⟨-, -, h⟩)
        · exact absurd hx' hx
        · exact absurd hx' hx
        · exact absurd hy' hy
        · exact mul_comm _ _
        · exact h

/-! ## The columns -/

namespace History

variable {sent : ℕ → MonitorInfo} {s : History} {as : List HistoryAction}
  {es : List HistoryEvent}

/-- **When the stored change rates describe their columns.** In every history of reports, cleanup
passes and queries, for every two consecutive accepted reports of a host, the six rate columns of
the second one's row are the relative changes of the columns they are named after exactly when
the total send rate and the total receive rate have changed by the same factor.

**Proof sketch.** The rates of the second task are those against the sample of the first
(`run_ratesChained`), and each metric of a sample is the same quantity as the column. The first
four columns are right; the other two hold each other's rate, so they are right when the two
rates are equal. -/
theorem rates_describe_columns_iff (hrun : (history sent).run {} as = some (s, es))
    {host : String} {earlier later : List MysqlWriteTask} {t₁ t₂ : MysqlWriteTask}
    (hpair : s.manager.hostTasks host = earlier ++ t₁ :: t₂ :: later) (localtime : ℤ → Tm) :
    RatesDescribeColumns (performanceRow localtime t₁) (performanceRow localtime t₂) ↔
      SameRelativeChange
        (totalSendRate t₁.hostScore.info) (totalSendRate t₂.hostScore.info)
        (totalRcvRate t₁.hostScore.info) (totalRcvRate t₂.hostScore.info) := by
  have hchain := (run_ratesChained hrun).chain host
  rw [hpair] at hchain
  have hrates : t₂.toChangeRates = changeRates (perfSample t₂) (perfSample t₁) :=
    (List.isChain_cons_cons.mp (List.isChain_append.mp hchain).2.1).1
  rw [← changeRate_eq_iff]
  constructor
  · intro h
    have hsend := h.sendRate
    simp only [RateOf, performanceRow, hrates] at hsend
    exact hsend.symm
  · intro h
    refine ⟨?_, ?_, ?_, ?_, ?_, ?_⟩
    · simp only [performanceRow, hrates]
      rfl
    · simp only [performanceRow, hrates]
      rfl
    · simp only [performanceRow, hrates]
      rfl
    · simp only [performanceRow, hrates, maxDiskUtil_eq]
      rfl
    · simp only [performanceRow, hrates]
      exact h.symm
    · simp only [performanceRow, hrates]
      exact h

end History

/-! ## A change in one direction -/

/-- Samples of a host with one interface, which receives twice as much from the second one on. -/
def receivingSamples : ℕ → MonitorInfo
  | 0 => { idleInfo "a" 1 with netInfo := [{ name := "e", sendRate := 1, rcvRate := 1 }] }
  | n + 1 => { idleInfo "a" (n + 2) with netInfo := [{ name := "e", sendRate := 1, rcvRate := 2 }] }

/-- The task of the first of these samples. -/
def receivingTask₁ : MysqlWriteTask :=
  HostManager.writeTask "a" ⟨receivingSamples 0, calcScore (receivingSamples 0), 0⟩ {}

/-- The task of the second one: its outgoing rate has not changed, its incoming rate by `1`. -/
def receivingTask₂ : MysqlWriteTask :=
  HostManager.writeTask "a" ⟨receivingSamples 1, calcScore (receivingSamples 1), 0⟩
    { netInRateRate := 1 }

namespace History

/-- Two reports of the host enqueue the two tasks. -/
lemma run_receiving :
    ∃ s es, (history receivingSamples).run {} (reportActions [0, 1]) = some (s, es) ∧
      s.manager.hostTasks "a" = [] ++ receivingTask₁ :: receivingTask₂ :: [] := by
  have hend : ((history receivingSamples).run {} (reportActions [0, 1])).map
      (fun p => p.1.manager.hostTasks "a") = some [receivingTask₁, receivingTask₂] := by
    decide +kernel
  obtain ⟨⟨s, es⟩, hrun, htasks⟩ := Option.map_eq_some_iff.mp hend
  exact ⟨s, es, hrun, htasks⟩

/-- Two reports whose receive rate alone has changed. -/
theorem rates_describe_columns_iff_two_reports :
    ∃ s es, (history receivingSamples).run {} (reportActions [0, 1]) = some (s, es) ∧
      s.manager.hostTasks "a" = [] ++ receivingTask₁ :: receivingTask₂ :: [] ∧
      (RatesDescribeColumns (performanceRow epoch receivingTask₁)
          (performanceRow epoch receivingTask₂) ↔
        SameRelativeChange
          (totalSendRate receivingTask₁.hostScore.info)
          (totalSendRate receivingTask₂.hostScore.info)
          (totalRcvRate receivingTask₁.hostScore.info)
          (totalRcvRate receivingTask₂.hostScore.info)) := by
  obtain ⟨s, es, hrun, hpair⟩ := run_receiving
  exact ⟨s, es, hrun, hpair, rates_describe_columns_iff hrun hpair epoch⟩

/-- **The change of the receive rate is stored as a change of the send rate.** -/
theorem send_rate_rate_is_of_receive :
    ¬ ∀ (sent : ℕ → MonitorInfo) (as : List HistoryAction) (s : History) (es : List HistoryEvent)
      (host : String) (earlier later : List MysqlWriteTask) (t₁ t₂ : MysqlWriteTask)
      (localtime : ℤ → Tm), (history sent).run {} as = some (s, es) →
      s.manager.hostTasks host = earlier ++ t₁ :: t₂ :: later →
      RatesDescribeColumns (performanceRow localtime t₁) (performanceRow localtime t₂) := by
  intro halways
  obtain ⟨s, es, hrun, hpair⟩ := run_receiving
  have hsend := (halways _ _ s es "a" _ _ _ _ epoch hrun hpair).sendRate
  exact absurd hsend (by unfold RateOf; decide +kernel)

end History

end Monitor
