import PerfMonitor.Container.UnorderedMap
import PerfMonitor.Manager.CalcScore

set_option relaxedAutoImplicit false
set_option autoImplicit false

/-!
# The host manager

The memory of `HostManager` and its operations (`manager/src/host_manager.cpp`), each locked
section a function on the whole memory. `OnDataReceived` takes `mtx_` twice and runs unlocked
in between; `onDataReceived` is the composition of its sections when nothing interferes. Walks
over `host_scores_` take the iteration order as an argument.

## Main definitions

* `Monitor.HostManager` — the memory.
* `Monitor.hostName` — the key a report is filed under.
* `Monitor.HostManager.checkDuplicate`, `Monitor.HostManager.replaceSample`,
  `Monitor.HostManager.storeReport`, `Monitor.HostManager.getBestHost`,
  `Monitor.HostManager.enqueueMysqlWrite` — the sections of `OnDataReceived` in order.
* `Monitor.HostManager.onDataReceived` — a report handled without interference.
* `Monitor.HostManager.removeStaleHosts` — one pass of `ProcessLoop`.

## Main results

* `Monitor.HostManager.lookup_removeStaleHosts` — a pass keeps exactly the records that are not
  stale.
-/

namespace Monitor

/-- A reading of `system_clock`, in nanoseconds since the epoch. -/
abbrev Time := ℤ

/-- One second. -/
def second : Time := 1000000000

def kScheduleWeightSmoothing : ℚ := 3 / 10

def kHostExpireWindow : Time := 60 * second

/-- The latest report of a host as the manager keeps it. -/
structure HostScore where
  info : MonitorInfo
  score : ℚ
  timestamp : Time
  deriving DecidableEq, Repr, Inhabited

/-- Smooth weighted round-robin state of a host. -/
structure ScheduleState where
  baseWeight : ℚ := 0
  currentWeight : ℚ := 0
  deriving DecidableEq, Repr, Inhabited

/-- The previous values that change rates are computed against. -/
structure PerfSample where
  cpuPercent : ℚ := 0
  usrPercent : ℚ := 0
  systemPercent : ℚ := 0
  nicePercent : ℚ := 0
  idlePercent : ℚ := 0
  ioWaitPercent : ℚ := 0
  irqPercent : ℚ := 0
  softIrqPercent : ℚ := 0
  stealPercent : ℚ := 0
  guestPercent : ℚ := 0
  guestNicePercent : ℚ := 0
  loadAvg1 : ℚ := 0
  loadAvg3 : ℚ := 0
  loadAvg15 : ℚ := 0
  memUsedPercent : ℚ := 0
  memTotal : ℚ := 0
  memFree : ℚ := 0
  memAvail : ℚ := 0
  diskUtilPercent : ℚ := 0
  netInRate : ℚ := 0
  netOutRate : ℚ := 0
  score : ℚ := 0
  deriving DecidableEq, Repr, Inhabited

/-- The six change rates that `OnDataReceived` hands to the writer. -/
structure ChangeRates where
  cpuPercentRate : ℚ := 0
  loadAvg1Rate : ℚ := 0
  memUsedPercentRate : ℚ := 0
  diskUtilPercentRate : ℚ := 0
  netInRateRate : ℚ := 0
  netOutRateRate : ℚ := 0
  deriving DecidableEq, Repr, Inhabited

/-- One sample waiting to be written to MySQL. -/
structure MysqlWriteTask extends ChangeRates where
  hostName : String
  hostScore : HostScore
  sequence : ℕ := 0
  deriving DecidableEq, Repr, Inhabited

/-- The memory of `HostManager`, with the file-level map `last_perf_samples`. -/
structure HostManager where
  hostScores : UnorderedMap String HostScore := ∅
  scheduleStates : UnorderedMap String ScheduleState := ∅
  lastSequences : UnorderedMap String ℕ := ∅
  lastPerfSamples : UnorderedMap String PerfSample := ∅
  mysqlWriteQueue : List MysqlWriteTask := []

/-- The order of a walk over `host_scores_`. -/
abbrev HashOrder := UnorderedMap.IterOrder String HostScore

/-! ## The identity of a report -/

/-- The host key `OnDataReceived` files a report under; empty if the report names no host. -/
def hostName (info : MonitorInfo) : String :=
  let fromHostInfo := match info.hostInfo with
    | none => ""
    | some h =>
      if h.hostname ≠ "" ∧ h.ipAddress ≠ "" then h.hostname ++ "_" ++ h.ipAddress
      else if h.hostname ≠ "" then h.hostname
      else if h.ipAddress ≠ "" then h.ipAddress
      else ""
  if fromHostInfo = "" then info.name else fromHostInfo

/-! ## Change rates -/

/-- The `rate` lambda of `OnDataReceived`. -/
def changeRate (nowVal lastVal : ℚ) : ℚ :=
  if lastVal = 0 then 0 else (nowVal - lastVal) / lastVal

/-- The sample `curr` that `OnDataReceived` takes from a report and its score. -/
def PerfSample.ofInfo (info : MonitorInfo) (score : ℚ) : PerfSample :=
  let cpu := info.cpuStat.head?.getD {}
  let load := info.cpuLoad.getD {}
  let mem := info.memInfo.getD {}
  { cpuPercent := cpu.cpuPercent
    usrPercent := cpu.usrPercent
    systemPercent := cpu.systemPercent
    nicePercent := cpu.nicePercent
    idlePercent := cpu.idlePercent
    ioWaitPercent := cpu.ioWaitPercent
    irqPercent := cpu.irqPercent
    softIrqPercent := cpu.softIrqPercent
    loadAvg1 := load.loadAvg1
    loadAvg3 := load.loadAvg3
    loadAvg15 := load.loadAvg15
    memUsedPercent := mem.usedPercent
    memTotal := mem.total
    memFree := mem.free
    memAvail := mem.avail
    diskUtilPercent := info.diskInfo.foldl (fun m d => max m d.utilPercent) 0
    netInRate := (info.netInfo.map NetInfo.rcvRate).sum
    netOutRate := (info.netInfo.map NetInfo.sendRate).sum
    score := score }

/-- The rates of `curr` against the previous sample of the host. -/
def changeRates (curr last : PerfSample) : ChangeRates where
  cpuPercentRate := changeRate curr.cpuPercent last.cpuPercent
  loadAvg1Rate := changeRate curr.loadAvg1 last.loadAvg1
  memUsedPercentRate := changeRate curr.memUsedPercent last.memUsedPercent
  diskUtilPercentRate := changeRate curr.diskUtilPercent last.diskUtilPercent
  netInRateRate := changeRate curr.netInRate last.netInRate
  netOutRateRate := changeRate curr.netOutRate last.netOutRate

/-- What a report with scheduling weight `newWeight` makes of the host's schedule state. -/
def ScheduleState.report (st : ScheduleState) (newWeight : ℚ) : ScheduleState :=
  if newWeight ≤ 0 then { baseWeight := 0, currentWeight := 0 }
  else if st.baseWeight ≤ 0 then { st with baseWeight := newWeight }
  else
    { st with
      baseWeight := st.baseWeight * (1 - kScheduleWeightSmoothing) +
        newWeight * kScheduleWeightSmoothing }

namespace HostManager

/-! ## The sections of `OnDataReceived` -/

/-- The duplicate check and the recording of the sequence, under `mtx_`; `none` for a
duplicate. Sequence `0` (an old worker) is neither checked nor recorded. -/
def checkDuplicate (m : HostManager) (host : String) (seq : ℕ) : Option HostManager :=
  if seq > 0 ∧ m.lastSequences.lookup host = some seq then none
  else if seq > 0 then some { m with lastSequences := m.lastSequences.insert host seq }
  else some m

/-- Read the host's previous sample, compute the rates against it and replace it. -/
def replaceSample (m : HostManager) (host : String) (curr : PerfSample) :
    ChangeRates × HostManager :=
  (changeRates curr (UnorderedMap.get m.lastPerfSamples host),
    { m with lastPerfSamples := m.lastPerfSamples.insert host curr })

/-- Store the report and update the host's weight, under `mtx_`. -/
def storeReport (m : HostManager) (host : String) (hostScore : HostScore) : HostManager :=
  { m with
    hostScores := m.hostScores.insert host hostScore
    scheduleStates := m.scheduleStates.insert host
      ((UnorderedMap.get m.scheduleStates host).report (calcSchedulingWeight hostScore.score)) }

/-! ## `GetBestHost` -/

/-- The local variables of the loop of `GetBestHost`, with `schedule_states_`, which the loop
updates in place. `bestCurrentWeight` starts at minus infinity. -/
structure BestHostScan where
  scheduleStates : UnorderedMap String ScheduleState
  totalWeight : ℚ := 0
  bestCurrentWeight : WithBot ℚ := ⊥
  bestHost : String := ""

/-- The body of the loop of `GetBestHost`. -/
def BestHostScan.visit (scan : BestHostScan) (e : Σ _ : String, HostScore) : BestHostScan :=
  let found := UnorderedMap.get scan.scheduleStates e.1
  let state : ScheduleState :=
    if found.baseWeight ≤ 0 then
      { found with baseWeight := calcSchedulingWeight e.2.score }
    else found
  if state.baseWeight ≤ 0 then
    { scan with scheduleStates := scan.scheduleStates.insert e.1 state }
  else
    let raised : ScheduleState :=
      { state with currentWeight := state.currentWeight + state.baseWeight }
    let scan : BestHostScan :=
      { scan with
        scheduleStates := scan.scheduleStates.insert e.1 raised
        totalWeight := scan.totalWeight + raised.baseWeight }
    if scan.bestCurrentWeight < (raised.currentWeight : WithBot ℚ) then
      { scan with bestCurrentWeight := raised.currentWeight, bestHost := e.1 }
    else scan

/-- `SelectHighestScoreHostLocked`. -/
def selectHighestScoreHostLocked (ord : HashOrder) (m : HostManager) : String :=
  ((ord.arrange m.hostScores.entries).foldl
    (fun (best : String × ℚ) e => if e.2.score > best.2 then (e.1, e.2.score) else best)
    ("", -1)).1

/-- `GetBestHost`: the host named, and the memory with the schedule advanced. -/
def getBestHost (ord : HashOrder) (m : HostManager) : String × HostManager :=
  if m.hostScores.entries = [] then ("", m)
  else
    let scan := (ord.arrange m.hostScores.entries).foldl BestHostScan.visit
      { scheduleStates := m.scheduleStates }
    let m' := { m with scheduleStates := scan.scheduleStates }
    if scan.bestHost = "" ∨ scan.totalWeight ≤ 0 then
      (selectHighestScoreHostLocked ord m', m')
    else
      let chosen := UnorderedMap.get scan.scheduleStates scan.bestHost
      (scan.bestHost,
        { m with
          scheduleStates := scan.scheduleStates.insert scan.bestHost
            { chosen with currentWeight := chosen.currentWeight - scan.totalWeight } })

/-! ## A report without interference -/

/-- `EnqueueMysqlWrite`. -/
def enqueueMysqlWrite (m : HostManager) (task : MysqlWriteTask) : HostManager :=
  { m with mysqlWriteQueue := m.mysqlWriteQueue ++ [task] }

/-- The write task of a report stored as `hostScore`. -/
def writeTask (host : String) (hostScore : HostScore) (rates : ChangeRates) : MysqlWriteTask :=
  { rates with hostName := host, hostScore := hostScore, sequence := hostScore.info.sequence }

/-- What an accepted report does after the duplicate check: everything `OnDataReceived` does
from `CalcScore` on. -/
def applyReport (ord : HashOrder) (m : HostManager) (host : String) (info : MonitorInfo)
    (now : Time) : HostManager :=
  let score := calcScore info
  let (rates, m₁) := m.replaceSample host (PerfSample.ofInfo info score)
  let hostScore : HostScore := { info := info, score := score, timestamp := now }
  let m₂ := m₁.storeReport host hostScore
  let (_, m₃) := m₂.getBestHost ord
  m₃.enqueueMysqlWrite (writeTask host hostScore rates)

/-- `OnDataReceived` when no other call interferes. -/
def onDataReceived (ord : HashOrder) (m : HostManager) (info : MonitorInfo) (now : Time) :
    HostManager :=
  let host := hostName info
  if host = "" then m
  else
    match m.checkDuplicate host info.sequence with
    | none => m
    | some m₁ => m₁.applyReport ord host info now

/-! ## Cleanup -/

/-- A record is stale at `now` when its age exceeds the expiry window. -/
def stale (now : Time) (hostScore : HostScore) : Bool :=
  decide (now - hostScore.timestamp > kHostExpireWindow)

/-- One pass of `ProcessLoop`: erase stale hosts while walking `host_scores_`. -/
def removeStaleHosts (now : Time) (m : HostManager) : HostManager :=
  m.hostScores.entries.foldl (fun m e =>
    if stale now e.2 then
      { m with
        scheduleStates := m.scheduleStates.erase e.1
        lastSequences := m.lastSequences.erase e.1
        hostScores := m.hostScores.erase e.1 }
    else m) m

/-- The hosts a pass removes, as its log names them. -/
def staleHosts (now : Time) (m : HostManager) : List String :=
  (m.hostScores.entries.filter fun e => stale now e.2).map Sigma.fst

/-- The host's record is there and stale. -/
def isStale (now : Time) (m : HostManager) (h : String) : Bool :=
  (m.hostScores.lookup h).any (stale now)

/-- The pass erases the same keys from three maps. -/
lemma removeStaleHosts_eq (now : Time) (m : HostManager) :
    m.removeStaleHosts now =
      { m with
        scheduleStates := UnorderedMap.removeIf (fun _ => stale now) m.hostScores.entries
          m.scheduleStates
        lastSequences := UnorderedMap.removeIf (fun _ => stale now) m.hostScores.entries
          m.lastSequences
        hostScores := UnorderedMap.removeIf (fun _ => stale now) m.hostScores.entries
          m.hostScores } := by
  unfold removeStaleHosts
  generalize m.hostScores.entries = l
  induction l generalizing m with
  | nil => rfl
  | cons e l ih =>
    rw [List.foldl_cons, ih]
    by_cases he : stale now e.2 = true <;> simp [he]

lemma isStale_iff {now : Time} {m : HostManager} {h : String} :
    m.isStale now h = true ↔ ∃ r, m.hostScores.lookup h = some r ∧ stale now r = true := by
  simp [isStale, Option.any_eq_true]

lemma mem_staleHosts {now : Time} {m : HostManager} {h : String} :
    h ∈ m.staleHosts now ↔ m.isStale now h = true := by
  simp only [staleHosts, isStale_iff, List.mem_map, List.mem_filter, Sigma.exists,
    UnorderedMap.mem_entries_iff]
  constructor
  · rintro ⟨k, r, hr, rfl⟩
    exact ⟨r, hr⟩
  · rintro ⟨r, hr⟩
    exact ⟨h, r, hr, rfl⟩

/-- Erasing by staleness removes exactly the stale hosts' keys, from any map. -/
private lemma lookup_removeIf_stale {μ : Type} (now : Time) (m : HostManager)
    (x : UnorderedMap String μ) (h : String) :
    (UnorderedMap.removeIf (fun _ => stale now) m.hostScores.entries x).lookup h =
      if m.isStale now h then none else x.lookup h := by
  split_ifs with hs
  · obtain ⟨r, hr, hst⟩ := isStale_iff.mp hs
    exact UnorderedMap.lookup_removeIf_of_mem _ (UnorderedMap.mem_entries_iff.mpr hr) hst
  · apply UnorderedMap.lookup_removeIf_of_not
    intro r hr
    rw [UnorderedMap.mem_entries_iff] at hr
    by_contra hst
    exact hs (isStale_iff.mpr ⟨r, hr, by simpa using hst⟩)

/-- **A pass keeps exactly the records that are not stale.** -/
lemma lookup_removeStaleHosts (now : Time) (m : HostManager) (h : String) :
    (m.removeStaleHosts now).hostScores.lookup h =
      if m.isStale now h then none else m.hostScores.lookup h := by
  rw [removeStaleHosts_eq]; exact lookup_removeIf_stale now m _ h

lemma lookup_scheduleStates_removeStaleHosts (now : Time) (m : HostManager) (h : String) :
    (m.removeStaleHosts now).scheduleStates.lookup h =
      if m.isStale now h then none else m.scheduleStates.lookup h := by
  rw [removeStaleHosts_eq]; exact lookup_removeIf_stale now m _ h

lemma lookup_lastSequences_removeStaleHosts (now : Time) (m : HostManager) (h : String) :
    (m.removeStaleHosts now).lastSequences.lookup h =
      if m.isStale now h then none else m.lastSequences.lookup h := by
  rw [removeStaleHosts_eq]; exact lookup_removeIf_stale now m _ h

/-! ## What the sections leave alone -/

/-- What passing the duplicate check says and does. -/
lemma checkDuplicate_eq_some_iff {m m₁ : HostManager} {host : String} {seq : ℕ} :
    m.checkDuplicate host seq = some m₁ ↔
      (seq > 0 → m.lastSequences.lookup host ≠ some seq) ∧
        m₁ = { m with
          lastSequences := if seq > 0 then m.lastSequences.insert host seq
            else m.lastSequences } := by
  unfold checkDuplicate
  by_cases hseq : seq > 0
  · by_cases hdup : m.lastSequences.lookup host = some seq
    · simp [hseq, hdup]
    · simp [hseq, hdup, eq_comm]
  · simpa [hseq] using eq_comm

lemma checkDuplicate_eq_none_iff {m : HostManager} {host : String} {seq : ℕ} :
    m.checkDuplicate host seq = none ↔
      seq > 0 ∧ m.lastSequences.lookup host = some seq := by
  unfold checkDuplicate
  split_ifs with h₁ h₂ <;> simp_all

/-- `GetBestHost` touches nothing but `schedule_states_`. -/
lemma getBestHost_frame (ord : HashOrder) (m : HostManager) :
    ∃ states, (m.getBestHost ord).2 = { m with scheduleStates := states } := by
  unfold getBestHost
  dsimp only
  split_ifs
  · exact ⟨m.scheduleStates, rfl⟩
  · exact ⟨_, rfl⟩
  · exact ⟨_, rfl⟩

@[simp] lemma getBestHost_hostScores (ord : HashOrder) (m : HostManager) :
    (m.getBestHost ord).2.hostScores = m.hostScores := by
  obtain ⟨states, h⟩ := m.getBestHost_frame ord
  rw [h]

@[simp] lemma getBestHost_lastSequences (ord : HashOrder) (m : HostManager) :
    (m.getBestHost ord).2.lastSequences = m.lastSequences := by
  obtain ⟨states, h⟩ := m.getBestHost_frame ord
  rw [h]

/-- An accepted report stores its record and touches no other host's. -/
lemma lookup_applyReport (ord : HashOrder) (m : HostManager) (host : String) (info : MonitorInfo)
    (now : Time) (h : String) :
    (m.applyReport ord host info now).hostScores.lookup h =
      if h = host then some ⟨info, calcScore info, now⟩ else m.hostScores.lookup h := by
  simp only [applyReport, enqueueMysqlWrite, getBestHost_hostScores, storeReport, replaceSample,
    UnorderedMap.lookup_insert_ite]

@[simp] lemma applyReport_lastSequences (ord : HashOrder) (m : HostManager) (host : String)
    (info : MonitorInfo) (now : Time) :
    (m.applyReport ord host info now).lastSequences = m.lastSequences := by
  simp only [applyReport, enqueueMysqlWrite, getBestHost_lastSequences, storeReport, replaceSample]

/-- A duplicate changes nothing. -/
lemma onDataReceived_duplicate {ord : HashOrder} {m : HostManager} {info : MonitorInfo} {now : Time}
    (hn : hostName info ≠ "") (hd : m.checkDuplicate (hostName info) info.sequence = none) :
    m.onDataReceived ord info now = m := by
  simp only [onDataReceived, if_neg hn, hd]

lemma onDataReceived_accept {ord : HashOrder} {m m₁ : HostManager} {info : MonitorInfo}
    {now : Time} (hn : hostName info ≠ "")
    (hd : m.checkDuplicate (hostName info) info.sequence = some m₁) :
    m.onDataReceived ord info now = m₁.applyReport ord (hostName info) info now := by
  simp only [onDataReceived, if_neg hn, hd]

end HostManager

end Monitor
