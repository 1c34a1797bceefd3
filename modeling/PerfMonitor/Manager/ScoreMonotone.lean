import Mathlib.Logic.Relation
import Mathlib.Tactic.GCongr
import Mathlib.Tactic.Positivity
import PerfMonitor.Manager.CalcScore

set_option relaxedAutoImplicit false
set_option autoImplicit false

/-!
# Bounds and monotonicity of the health score

The weighted sum of the five clamped terms lies in `[0, 100]` for every report, so the last clamp
of `HostManager::CalcScore` never acts. A report that differs from another only by one metric
that got worse never scores higher, and neither does a report reached by several such changes.

## Main definitions

* `Monitor.Worsened` — one report differs from another by one metric that got worse.
* `Monitor.TermsLe` — every term of one report is at most that of another.
* `Monitor.NoPressure` — every metric the score reads is zero where the report has it.

## Main results

* `Monitor.weightedScore_nonneg`, `Monitor.weightedScore_le` — the sum lies in `[0, 100]`.
* `Monitor.Worsened.termsLe` — a worse metric raises no term.
* `Monitor.calcScore_bounded_monotone` — bounds, monotonicity and the score of an idle report.
-/

namespace Monitor

/-! ## The last clamp never acts -/

lemma weightedScore_nonneg (info : MonitorInfo) : 0 ≤ weightedScore info := by
  have hcpu : 0 ≤ cpuScore info := clamp_nonneg _
  have hmem : 0 ≤ memScore info := clamp_nonneg _
  have hload : 0 ≤ loadScore info := clamp_nonneg _
  have hdisk : 0 ≤ diskScore info := clamp_nonneg _
  have hrecv : 0 ≤ netRecvScore info := clamp_nonneg _
  have hsend : 0 ≤ netSendScore info := clamp_nonneg _
  unfold weightedScore
  positivity

/-- The weights add up to one, and no term exceeds one. -/
lemma weightedScore_le (info : MonitorInfo) : weightedScore info ≤ 100 := by
  have hcpu : cpuScore info ≤ 1 := clamp_le_one _
  have hmem : memScore info ≤ 1 := clamp_le_one _
  have hload : loadScore info ≤ 1 := clamp_le_one _
  have hdisk : diskScore info ≤ 1 := clamp_le_one _
  have hrecv : netRecvScore info ≤ 1 := clamp_le_one _
  have hsend : netSendScore info ≤ 1 := clamp_le_one _
  unfold weightedScore
  linarith

lemma calcScore_eq_weightedScore (info : MonitorInfo) : calcScore info = weightedScore info := by
  rw [calcScore_eq, if_neg (not_lt.mpr (weightedScore_nonneg info)),
    if_neg (not_lt.mpr (weightedScore_le info))]

/-! ## The order of the terms -/

/-- No term of `b` exceeds that of `a`. -/
structure TermsLe (b a : MonitorInfo) : Prop where
  cpu : cpuScore b ≤ cpuScore a
  mem : memScore b ≤ memScore a
  load : loadScore b ≤ loadScore a
  disk : diskScore b ≤ diskScore a
  netRecv : netRecvScore b ≤ netRecvScore a
  netSend : netSendScore b ≤ netSendScore a

lemma TermsLe.refl (a : MonitorInfo) : TermsLe a a :=
  ⟨le_rfl, le_rfl, le_rfl, le_rfl, le_rfl, le_rfl⟩

/-- The weights are not negative, so the sum follows its terms. -/
lemma TermsLe.weightedScore_le {a b : MonitorInfo} (h : TermsLe b a) :
    weightedScore b ≤ weightedScore a := by
  obtain ⟨hcpu, hmem, hload, hdisk, hrecv, hsend⟩ := h
  unfold weightedScore
  gcongr

/-! ## The busiest disk and the number of cores -/

lemma foldl_max_mono (disks : List DiskInfo) {m m' : ℚ} (h : m ≤ m') :
    disks.foldl (fun m d => max m d.utilPercent) m ≤
      disks.foldl (fun m d => max m d.utilPercent) m' := by
  induction disks generalizing m m' with
  | nil => exact h
  | cons d disks ih =>
    apply ih
    exact max_le_max_right d.utilPercent h

/-- Replacing one disk by a busier one does not lower the maximum. -/
lemma maxDiskUtil_replace_le {pre post : List DiskInfo} {d d' : DiskInfo}
    (h : d.utilPercent ≤ d'.utilPercent) :
    maxDiskUtil (pre ++ d :: post) ≤ maxDiskUtil (pre ++ d' :: post) := by
  simp only [maxDiskUtil_eq, List.foldl_append, List.foldl_cons]
  apply foldl_max_mono
  exact max_le_max_left _ h

/-- One more disk does not lower the maximum, wherever it stands. -/
lemma maxDiskUtil_insert_le (pre post : List DiskInfo) (d : DiskInfo) :
    maxDiskUtil (pre ++ post) ≤ maxDiskUtil (pre ++ d :: post) := by
  simp only [maxDiskUtil_eq, List.foldl_append, List.foldl_cons]
  apply foldl_max_mono
  exact le_max_left _ d.utilPercent

/-- Disks without any utilisation leave the maximum at its start. -/
lemma maxDiskUtil_of_zero {disks : List DiskInfo} (h : ∀ d ∈ disks, d.utilPercent = 0) :
    maxDiskUtil disks = 0 := by
  rw [maxDiskUtil_eq]
  induction disks with
  | nil => rfl
  | cons d disks ih =>
    rw [List.foldl_cons, h d List.mem_cons_self, max_self]
    exact ih fun e he => h e (List.mem_cons_of_mem d he)

lemma cpuCores_pos (cpuStat : List CpuStat) : 0 < cpuCores cpuStat := by
  unfold cpuCores
  split_ifs <;> omega

lemma cpuCores_cons_mono (row row' : CpuStat) {rows rows' : List CpuStat}
    (h : rows'.length ≤ rows.length) : cpuCores (row' :: rows') ≤ cpuCores (row :: rows) := by
  simp only [cpuCores, List.length_cons]
  split_ifs <;> omega

/-- The cores `CalcScore` counts depend on the number of rows only. -/
lemma cpuCores_cons_congr (row row' : CpuStat) (rows : List CpuStat) :
    cpuCores (row' :: rows) = cpuCores (row :: rows) := rfl

/-! ## One metric that got worse -/

/-- The second report differs from the first by one metric that got worse: the `cpu_percent` of
the first CPU row, the memory use, the load, the utilisation of one disk, a disk more, the rates of
the first interface, or fewer rows after the first CPU row under a load that is not negative. A
report without a memory or load message counts as one with the value `0`, as in `CalcScore`. -/
inductive Worsened : MonitorInfo → MonitorInfo → Prop
  | cpuPercent (info : MonitorInfo) (row : CpuStat) (rows : List CpuStat) (p : ℚ) :
      info.cpuStat = row :: rows → row.cpuPercent ≤ p →
      Worsened info { info with cpuStat := { row with cpuPercent := p } :: rows }
  | memInfo (info : MonitorInfo) (mem : MemInfo) :
      (info.memInfo.map MemInfo.usedPercent).getD 0 ≤ mem.usedPercent →
      Worsened info { info with memInfo := some mem }
  | loadAvg1 (info : MonitorInfo) (load : CpuLoad) :
      (info.cpuLoad.map CpuLoad.loadAvg1).getD 0 ≤ load.loadAvg1 →
      Worsened info { info with cpuLoad := some load }
  | diskUtil (info : MonitorInfo) (pre post : List DiskInfo) (disk : DiskInfo) (u : ℚ) :
      info.diskInfo = pre ++ disk :: post → disk.utilPercent ≤ u →
      Worsened info { info with diskInfo := pre ++ { disk with utilPercent := u } :: post }
  | diskMore (info : MonitorInfo) (pre post : List DiskInfo) (disk : DiskInfo) :
      info.diskInfo = pre ++ post →
      Worsened info { info with diskInfo := pre ++ disk :: post }
  | netRate (info : MonitorInfo) (nic : NetInfo) (nics : List NetInfo) (snd rcv : ℚ) :
      info.netInfo = nic :: nics → nic.sendRate ≤ snd → nic.rcvRate ≤ rcv →
      Worsened info { info with netInfo := { nic with sendRate := snd, rcvRate := rcv } :: nics }
  | fewerRows (info : MonitorInfo) (row : CpuStat) (rows rows' : List CpuStat) :
      info.cpuStat = row :: rows → rows'.length ≤ rows.length →
      0 ≤ (info.cpuLoad.map CpuLoad.loadAvg1).getD 0 →
      Worsened info { info with cpuStat := row :: rows' }

/-- A worse metric raises no term.

**Proof sketch.** Each metric is read by one term, except the CPU rows: the first of them gives the
CPU term, their number the cores of the load term. Every other term is the same in both reports. -/
lemma Worsened.termsLe {a b : MonitorInfo} (h : Worsened a b) : TermsLe b a := by
  cases h with
  | cpuPercent row rows p hrows hp =>
    refine { TermsLe.refl a with cpu := ?_, load := ?_ }
    · show clamp (1 - p / 100) ≤ clamp (1 - (a.cpuStat.head?.map CpuStat.cpuPercent).getD 0 / 100)
      rw [hrows]
      exact clamp_one_sub_div_anti (by norm_num) hp
    · apply le_of_eq
      simp only [loadScore, hrows]
      rw [cpuCores_cons_congr row]
  | memInfo mem hmem =>
    refine { TermsLe.refl a with mem := ?_ }
    exact clamp_one_sub_div_anti (by norm_num) hmem
  | loadAvg1 load hload =>
    refine { TermsLe.refl a with load := ?_ }
    exact clamp_one_sub_div_anti (by positivity) hload
  | diskUtil pre post disk u hdisks hu =>
    refine { TermsLe.refl a with disk := ?_ }
    simp only [diskScore, hdisks]
    exact clamp_one_sub_div_anti (by norm_num) (maxDiskUtil_replace_le hu)
  | diskMore pre post disk hdisks =>
    refine { TermsLe.refl a with disk := ?_ }
    simp only [diskScore, hdisks]
    exact clamp_one_sub_div_anti (by norm_num) (maxDiskUtil_insert_le pre post disk)
  | netRate nic nics snd rcv hnics hsnd hrcv =>
    have hband : (0 : ℚ) ≤ maxBandwidth := by norm_num [maxBandwidth]
    refine { TermsLe.refl a with netRecv := ?_, netSend := ?_ }
    · simp only [netRecvScore, hnics, List.head?_cons, Option.map_some, Option.getD_some]
      exact clamp_one_sub_div_anti hband hrcv
    · simp only [netSendScore, hnics, List.head?_cons, Option.map_some, Option.getD_some]
      exact clamp_one_sub_div_anti hband hsnd
  | fewerRows row rows rows' hrows hlen hload =>
    refine { TermsLe.refl a with cpu := ?_, load := ?_ }
    · apply le_of_eq
      simp only [cpuScore, hrows, List.head?_cons]
    · simp only [loadScore, hrows]
      apply clamp_one_sub_anti
      -- fewer rows make the divisor smaller, but it stays positive
      have hpos : (0 : ℚ) < cpuCores (row :: rows') := by exact_mod_cast cpuCores_pos _
      have hcores : (cpuCores (row :: rows') : ℚ) ≤ cpuCores (row :: rows) := by
        exact_mod_cast cpuCores_cons_mono row row hlen
      apply div_le_div_of_nonneg_left hload (by positivity)
      exact mul_le_mul_of_nonneg_right hcores (by norm_num)

/-! ## An idle report -/

/-- Every metric the score reads is zero where the report has it. -/
structure NoPressure (info : MonitorInfo) : Prop where
  cpu : ∀ row ∈ info.cpuStat.head?, row.cpuPercent = 0
  load : ∀ load ∈ info.cpuLoad, load.loadAvg1 = 0
  mem : ∀ mem ∈ info.memInfo, mem.usedPercent = 0
  disk : ∀ disk ∈ info.diskInfo, disk.utilPercent = 0
  net : ∀ nic ∈ info.netInfo.head?, nic.sendRate = 0 ∧ nic.rcvRate = 0

lemma getD_map_zero {α : Type*} {f : α → ℚ} {o : Option α} (h : ∀ x ∈ o, f x = 0) :
    (o.map f).getD 0 = 0 := by
  cases o with
  | none => rfl
  | some x => exact h x rfl

lemma weightedScore_of_noPressure {info : MonitorInfo} (h : NoPressure info) :
    weightedScore info = 100 := by
  have hcpu : cpuScore info = 1 := by
    rw [cpuScore, getD_map_zero h.cpu, zero_div, clamp_one_sub_zero]
  have hmem : memScore info = 1 := by
    rw [memScore, getD_map_zero h.mem, zero_div, clamp_one_sub_zero]
  have hload : loadScore info = 1 := by
    rw [loadScore, getD_map_zero h.load, zero_div, clamp_one_sub_zero]
  have hdisk : diskScore info = 1 := by
    rw [diskScore, maxDiskUtil_of_zero h.disk, zero_div, clamp_one_sub_zero]
  have hrecv : netRecvScore info = 1 := by
    rw [netRecvScore, getD_map_zero fun nic hnic => (h.net nic hnic).2, zero_div,
      clamp_one_sub_zero]
  have hsend : netSendScore info = 1 := by
    rw [netSendScore, getD_map_zero fun nic hnic => (h.net nic hnic).1, zero_div,
      clamp_one_sub_zero]
  rw [weightedScore, hcpu, hmem, hload, hdisk, hrecv, hsend]
  norm_num

/-! ## The score -/

/-- The score lies in `[0, 100]` without the last clamp, never rises when a report gets worse, by
one metric or by several, and is `100` for a report without any pressure. -/
theorem calcScore_bounded_monotone :
    (∀ info, calcScore info = weightedScore info ∧ 0 ≤ weightedScore info ∧
      weightedScore info ≤ 100) ∧
    (∀ a b, Relation.ReflTransGen Worsened a b → calcScore b ≤ calcScore a) ∧
    (∀ info, NoPressure info → calcScore info = 100) := by
  refine ⟨fun info => ⟨calcScore_eq_weightedScore info, weightedScore_nonneg info,
    weightedScore_le info⟩, ?_, ?_⟩
  · intro a b h
    induction h with
    | refl => exact le_rfl
    | tail _ hstep ih =>
      refine le_trans ?_ ih
      rw [calcScore_eq_weightedScore, calcScore_eq_weightedScore]
      exact hstep.termsLe.weightedScore_le
  · intro info h
    rw [calcScore_eq_weightedScore, weightedScore_of_noPressure h]

/-- One busy disk against a report without any metric, which scores `100`. -/
theorem calcScore_busy_disk :
    calcScore { diskInfo := [{ name := "sda", utilPercent := 50 }] } ≤ calcScore {} ∧
      calcScore {} = 100 := by
  have hworse : Worsened {} { diskInfo := [{ name := "sda", utilPercent := 50 }] } :=
    Worsened.diskMore {} [] [] { name := "sda", utilPercent := 50 } rfl
  have hidle : NoPressure {} := by constructor <;> simp
  exact ⟨calcScore_bounded_monotone.2.1 _ _ (Relation.ReflTransGen.single hworse),
    calcScore_bounded_monotone.2.2 _ hidle⟩

end Monitor
