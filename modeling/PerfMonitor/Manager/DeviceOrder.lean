import Mathlib.Data.List.Perm.Basic
import Mathlib.Tactic.FieldSimp
import Mathlib.Tactic.Ring
import PerfMonitor.Manager.History
import PerfMonitor.Manager.ScoreMonotone

set_option relaxedAutoImplicit false
set_option autoImplicit false

/-!
# The order of interfaces and disks

A report lists interfaces and disks in an order that means nothing. The change rates and the stored
row add up all interfaces and take the busiest disk, whatever the order. The score takes the
busiest disk too, but of the interfaces it reads the first one only.

## Main definitions

* `Monitor.reorder` — a report with its interfaces and disks listed in another way.
* `Monitor.OrderFree` — no order changes the score, the change rates or the stored row.
* `Monitor.cappedTraffic` — what the score sees of an interface.

## Main results

* `Monitor.orderFree_iff` — the order does not matter exactly when the score sees the same of every
  interface.
* `Monitor.busy_interface_second` — a busy interface counts only if it is listed first.
-/

namespace Monitor

/-- The report with `nets` and `disks` in place of its interfaces and disks. -/
def reorder (info : MonitorInfo) (nets : List NetInfo) (disks : List DiskInfo) : MonitorInfo :=
  { info with netInfo := nets, diskInfo := disks }

/-- Two reports get the same score, and whatever the manager's memory when one of them arrives,
they lead to write tasks with the same change rates and the same main row. -/
structure SameOutcome (a b : MonitorInfo) : Prop where
  score : calcScore a = calcScore b
  written : ∀ (m : HostManager) (ord : HashOrder) (now : Time) (localtime : ℤ → Tm),
    List.Forall₂ (fun t u : MysqlWriteTask => t.toChangeRates = u.toChangeRates ∧
        performanceRow localtime t = performanceRow localtime u)
      (m.onDataReceived ord a now).mysqlWriteQueue (m.onDataReceived ord b now).mysqlWriteQueue

/-- No permutation of its interfaces and disks makes a difference to the report. -/
def OrderFree (info : MonitorInfo) : Prop :=
  ∀ nets disks, nets.Perm info.netInfo → disks.Perm info.diskInfo →
    SameOutcome (reorder info nets disks) info

/-- The rates of an interface in both directions, each between `0` and `max_bandwidth`. -/
def cappedTraffic (nic : NetInfo) : ℚ :=
  max 0 (min nic.rcvRate maxBandwidth) + max 0 (min nic.sendRate maxBandwidth)

/-! ## What the score reads -/

lemma clamp_one_sub_rate (rate : ℚ) :
    clamp (1 - rate / maxBandwidth) = 1 - max 0 (min rate maxBandwidth) / maxBandwidth := by
  have hpos : 0 < maxBandwidth := by norm_num [maxBandwidth]
  unfold clamp
  rcases lt_trichotomy rate maxBandwidth with h | h | h
  · rw [min_eq_left h.le, if_neg (not_lt.mpr (sub_nonneg.mpr ((div_le_one hpos).mpr h.le)))]
    rcases le_or_gt 0 rate with h0 | h0
    · rw [max_eq_right h0, if_neg (not_lt.mpr (sub_le_self 1 (div_nonneg h0 hpos.le)))]
    · rw [max_eq_left h0.le, zero_div, sub_zero, if_pos]
      linarith [div_neg_of_neg_of_pos h0 hpos]
  · rw [h, min_self, max_eq_right hpos.le, div_self hpos.ne']
    norm_num
  · rw [min_eq_right h.le, max_eq_right hpos.le, div_self hpos.ne', if_pos]
    · norm_num
    · exact sub_neg.mpr ((one_lt_div hpos).mpr h)

/-- The network part of the score is the traffic of the first interface. -/
lemma netScores_eq (info : MonitorInfo) :
    netRecvScore info + netSendScore info =
      2 - (info.netInfo.head?.map cappedTraffic).getD 0 / maxBandwidth := by
  have hpos : 0 < maxBandwidth := by norm_num [maxBandwidth]
  unfold netRecvScore netSendScore
  cases info.netInfo.head? with
  | none => norm_num [clamp]
  | some nic =>
    simp only [Option.map_some, Option.getD_some, clamp_one_sub_rate, cappedTraffic]
    ring

lemma foldl_max_perm {disks disks' : List DiskInfo} (h : disks.Perm disks') (m : ℚ) :
    disks.foldl (fun m d => max m d.utilPercent) m =
      disks'.foldl (fun m d => max m d.utilPercent) m :=
  h.foldl_eq' (fun x _ y _ z => max_right_comm z x.utilPercent y.utilPercent) m

/-- The order of the disks never matters to the busiest one. -/
lemma maxDiskUtil_perm {disks disks' : List DiskInfo} (h : disks.Perm disks') :
    maxDiskUtil disks = maxDiskUtil disks' := by
  rw [maxDiskUtil_eq, maxDiskUtil_eq, foldl_max_perm h]

variable {info : MonitorInfo} {nets : List NetInfo} {disks : List DiskInfo}

/-- Reports that differ in the order of their devices have the same score exactly when their first
interfaces carry the same. -/
lemma calcScore_reorder_iff (hdisks : disks.Perm info.diskInfo) :
    calcScore (reorder info nets disks) = calcScore info ↔
      (nets.head?.map cappedTraffic).getD 0 = (info.netInfo.head?.map cappedTraffic).getD 0 := by
  have hdisk : diskScore (reorder info nets disks) = diskScore info := by
    unfold diskScore reorder
    rw [maxDiskUtil_perm hdisks]
  have hleft := netScores_eq (reorder info nets disks)
  have hright := netScores_eq info
  have hpos : 0 < maxBandwidth := by norm_num [maxBandwidth]
  have hcpu : cpuScore (reorder info nets disks) = cpuScore info := rfl
  have hmem : memScore (reorder info nets disks) = memScore info := rfl
  have hload : loadScore (reorder info nets disks) = loadScore info := rfl
  rw [calcScore_eq_weightedScore, calcScore_eq_weightedScore, weightedScore, weightedScore, hdisk,
    hcpu, hmem, hload, hleft, hright]
  constructor
  · intro h
    have hdiv : (nets.head?.map cappedTraffic).getD 0 / maxBandwidth =
        (info.netInfo.head?.map cappedTraffic).getD 0 / maxBandwidth := by
      dsimp only [reorder] at h
      linarith
    exact (div_left_inj' hpos.ne').mp hdiv
  · intro h
    dsimp only [reorder]
    rw [h]

/-! ## What is computed for the row -/

/-- The sample of a report depends on the order of its devices through the score only. -/
lemma ofInfo_reorder (hnets : nets.Perm info.netInfo) (hdisks : disks.Perm info.diskInfo)
    (score : ℚ) : PerfSample.ofInfo (reorder info nets disks) score =
      PerfSample.ofInfo info score := by
  unfold PerfSample.ofInfo reorder
  rw [foldl_max_perm hdisks, (hnets.map NetInfo.rcvRate).sum_eq,
    (hnets.map NetInfo.sendRate).sum_eq]

/-- So does the main row of a task. -/
lemma performanceRow_reorder (hnets : nets.Perm info.netInfo) (hdisks : disks.Perm info.diskInfo)
    (localtime : ℤ → Tm) (host : String) (score : ℚ) (now : Time) (rates : ChangeRates) :
    performanceRow localtime
        (HostManager.writeTask host ⟨reorder info nets disks, score, now⟩ rates) =
      performanceRow localtime (HostManager.writeTask host ⟨info, score, now⟩ rates) := by
  unfold performanceRow HostManager.writeTask reorder
  dsimp only
  rw [maxDiskUtil_perm hdisks, (hnets.map NetInfo.rcvRate).sum_eq,
    (hnets.map NetInfo.sendRate).sum_eq]

/-- What a report enqueues. -/
lemma mysqlWriteQueue_onDataReceived (m : HostManager) (ord : HashOrder) (info : MonitorInfo)
    (now : Time) :
    (m.onDataReceived ord info now).mysqlWriteQueue = m.mysqlWriteQueue ++
      if hostName info = "" ∨ m.checkDuplicate (hostName info) info.sequence = none then []
      else
        [HostManager.writeTask (hostName info) ⟨info, calcScore info, now⟩
          (changeRates (PerfSample.ofInfo info (calcScore info))
            (UnorderedMap.get m.lastPerfSamples (hostName info)))] := by
  by_cases hn : hostName info = ""
  · rw [if_pos (Or.inl hn), HostManager.onDataReceived, if_pos hn, List.append_nil]
  · cases hd : m.checkDuplicate (hostName info) info.sequence with
    | none =>
      rw [if_pos (Or.inr rfl), HostManager.onDataReceived_duplicate hn hd, List.append_nil]
    | some m₁ =>
      rw [if_neg (by simp [hn]), HostManager.onDataReceived_accept hn hd]
      obtain ⟨-, rfl⟩ := HostManager.checkDuplicate_eq_some_iff.mp hd
      simp only [HostManager.applyReport, HostManager.enqueueMysqlWrite,
        HostManager.getBestHost_mysqlWriteQueue, HostManager.storeReport,
        HostManager.replaceSample]

/-- Once the scores agree, so does all that is written. -/
lemma sameOutcome_reorder (hnets : nets.Perm info.netInfo) (hdisks : disks.Perm info.diskInfo)
    (hscore : calcScore (reorder info nets disks) = calcScore info) :
    SameOutcome (reorder info nets disks) info := by
  refine ⟨hscore, fun m ord now localtime => ?_⟩
  have hhost : hostName (reorder info nets disks) = hostName info := rfl
  have hseq : (reorder info nets disks).sequence = info.sequence := rfl
  rw [mysqlWriteQueue_onDataReceived, mysqlWriteQueue_onDataReceived, hscore, hhost, hseq,
    ofInfo_reorder hnets hdisks]
  apply List.rel_append
  · exact List.forall₂_same.mpr fun _ _ => ⟨rfl, rfl⟩
  · split_ifs
    · exact List.Forall₂.nil
    · exact List.Forall₂.cons ⟨rfl, performanceRow_reorder hnets hdisks _ _ _ _ _⟩
        List.Forall₂.nil

/-- **When the order of the devices does not matter.** For every report, no permutation of its
interfaces and disks changes the score, the change rates or the stored main row exactly when the
score sees the same traffic of each interface.

**Proof sketch.** All but the network part of the score is symmetric. That part is the traffic of
the interface listed first, and each of them can be. -/
theorem orderFree_iff (info : MonitorInfo) :
    OrderFree info ↔
      ∀ a ∈ info.netInfo, ∀ b ∈ info.netInfo, cappedTraffic a = cappedTraffic b := by
  constructor
  · intro h a ha b hb
    have hfirst : ∀ nic ∈ info.netInfo,
        cappedTraffic nic = (info.netInfo.head?.map cappedTraffic).getD 0 := by
      intro nic hnic
      have hperm := (List.perm_cons_erase hnic).symm
      exact (calcScore_reorder_iff (List.Perm.refl _)).mp
        (h _ _ hperm (List.Perm.refl info.diskInfo)).score
    rw [hfirst a ha, hfirst b hb]
  · intro h nets disks hnets hdisks
    refine sameOutcome_reorder hnets hdisks ((calcScore_reorder_iff hdisks).mpr ?_)
    cases hhead : nets.head? with
    | none =>
      rw [List.head?_eq_none_iff] at hhead
      rw [hhead] at hnets
      rw [hnets.nil_eq.symm]
      rfl
    | some a =>
      have ha : a ∈ info.netInfo := hnets.mem_iff.mp (List.mem_of_mem_head? hhead)
      cases hhead' : info.netInfo.head? with
      | none =>
        rw [List.head?_eq_none_iff] at hhead'
        rw [hhead'] at ha
        exact absurd ha List.not_mem_nil
      | some b => exact h a ha b (List.mem_of_mem_head? hhead')

/-- Two interfaces, one idle and one at full bandwidth in both directions. -/
def idleAndBusy : List NetInfo :=
  [{ name := "eth0" }, { name := "eth1", sendRate := maxBandwidth, rcvRate := maxBandwidth }]

/-- The busy interface costs five points if it is listed first, and none if it is listed second. -/
theorem busy_interface_second :
    calcScore { netInfo := idleAndBusy } = 100 ∧
      calcScore { netInfo := idleAndBusy.reverse } = 95 ∧
      ¬ OrderFree { netInfo := idleAndBusy } := by
  refine ⟨by decide +kernel, by decide +kernel, fun h => ?_⟩
  have hscore := (h idleAndBusy.reverse [] (List.reverse_perm _) (List.Perm.refl _)).score
  exact absurd hscore (by decide +kernel)

end Monitor
