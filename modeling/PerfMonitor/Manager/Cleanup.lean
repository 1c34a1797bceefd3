import PerfMonitor.Manager.ChangeRates
import PerfMonitor.Manager.GetBestHost

set_option relaxedAutoImplicit false
set_option autoImplicit false

/-!
# What a cleanup pass forgets

A pass of `ProcessLoop` erases a stale host from the three maps that `HostManager` owns. The sample
that the change rates of its next report are computed against is kept in `last_perf_samples`, a map
of the file, which no pass touches. A returning host is treated as a new one except for its change
rates, and for these too if the metrics of that sample are all zero.

## Main definitions

* `Monitor.HostManager.forget` — the memory without anything of a host.
* `Monitor.HostManager.CleansUp` — a pass keeps exactly the hosts that are not stale and forgets the
  others for every later report.
* `Monitor.PerfSample.Rateless` — a sample that no change rate can be computed against.
* `Monitor.HostManager.Alike` — two memories that no later call can tell apart.

## Main results

* `Monitor.History.run_alike` — calls on memories that are alike do the same.
* `Monitor.HostManager.cleansUp_iff` — when a pass forgets the hosts it removes.
* `Monitor.HostManager.returning_host_rates` — a host that returns after a pass.
-/

namespace Monitor

namespace HostManager

/-- The memory without anything of the host, as if it had never reported. -/
def forget (host : String) (m : HostManager) : HostManager :=
  { m with
    hostScores := m.hostScores.erase host
    scheduleStates := m.scheduleStates.erase host
    lastSequences := m.lastSequences.erase host
    lastPerfSamples := m.lastPerfSamples.erase host }

/-- The change rates in the write tasks that a report enqueues. -/
def reportedRates (ord : HashOrder) (m : HostManager) (info : MonitorInfo) (now : Time) :
    List ChangeRates :=
  ((m.onDataReceived ord info now).mysqlWriteQueue.drop m.mysqlWriteQueue.length).map
    MysqlWriteTask.toChangeRates

/-- A report is treated alike by two memories: as a duplicate or not, with the same change rates,
and with the same weights of its host. -/
structure SameReport (m m' : HostManager) (ord : HashOrder) (info : MonitorInfo) (now : Time) :
    Prop where
  duplicate : m.checkDuplicate (hostName info) info.sequence = none ↔
    m'.checkDuplicate (hostName info) info.sequence = none
  rates : m.reportedRates ord info now = m'.reportedRates ord info now
  baseWeight : (m.onDataReceived ord info now).baseWeight (hostName info) =
    (m'.onDataReceived ord info now).baseWeight (hostName info)
  currentWeight : (m.onDataReceived ord info now).currentWeight (hostName info) =
    (m'.onDataReceived ord info now).currentWeight (hostName info)

/-- A pass at `now` keeps exactly the hosts whose last report is at most a minute old, with all
their data, and of the hosts it removes, every later report is treated as that of a host that has
never reported, whatever calls come in between. -/
structure CleansUp (m : HostManager) (now : Time) : Prop where
  kept : ∀ h, h ∈ (m.removeStaleHosts now).hostScores ↔
    ∃ r, m.hostScores.lookup h = some r ∧ now - r.timestamp ≤ kHostExpireWindow
  unchanged : ∀ h ∈ (m.removeStaleHosts now).hostScores,
    (m.removeStaleHosts now).hostScores.lookup h = m.hostScores.lookup h ∧
      (m.removeStaleHosts now).scheduleStates.lookup h = m.scheduleStates.lookup h ∧
      (m.removeStaleHosts now).lastSequences.lookup h = m.lastSequences.lookup h ∧
      (m.removeStaleHosts now).lastPerfSamples.lookup h = m.lastPerfSamples.lookup h
  forgotten : ∀ h ∈ m.hostScores, h ∉ (m.removeStaleHosts now).hostScores →
    ∀ (sent : ℕ → MonitorInfo) (as : List HistoryAction) (s s' : History)
      (es es' : List HistoryEvent),
      (history sent).run { manager := m.removeStaleHosts now } as = some (s, es) →
      (history sent).run { manager := (m.removeStaleHosts now).forget h } as = some (s', es') →
      ∀ (ord : HashOrder) (info : MonitorInfo) (later : Time), hostName info = h → h ≠ "" →
        SameReport s.manager s'.manager ord info later

end HostManager

/-- All six metrics that have a change rate are zero. -/
def PerfSample.Rateless (s : PerfSample) : Prop :=
  s.cpuPercent = 0 ∧ s.loadAvg1 = 0 ∧ s.memUsedPercent = 0 ∧ s.diskUtilPercent = 0 ∧
    s.netInRate = 0 ∧ s.netOutRate = 0

/-- Against a sample without metrics nothing changes, as against no sample. -/
lemma changeRates_of_rateless {last : PerfSample} (h : last.Rateless) (curr : PerfSample) :
    changeRates curr last = changeRates curr default := by
  obtain ⟨hcpu, hload, hmem, hdisk, hin, hout⟩ := h
  rw [changeRates, hcpu, hload, hmem, hdisk, hin, hout]
  rfl

/-- A report without metrics shows which metrics were there before. -/
lemma rateless_of_changeRates_eq {curr last : PerfSample} (hcurr : curr.Rateless)
    (h : changeRates curr last = changeRates curr default) : last.Rateless := by
  have hone : ∀ x y : ℚ, x = 0 → changeRate x y = changeRate x 0 → y = 0 := by
    rintro x y rfl hxy
    rw [changeRate_eq_zero_iff.mpr (Or.inl rfl), changeRate_eq_zero_iff] at hxy
    exact hxy.elim id Eq.symm
  obtain ⟨hcpu, hload, hmem, hdisk, hin, hout⟩ := hcurr
  simp only [changeRates, ChangeRates.mk.injEq] at h
  obtain ⟨rcpu, rload, rmem, rdisk, rin, rout⟩ := h
  exact ⟨hone _ _ hcpu rcpu, hone _ _ hload rload, hone _ _ hmem rmem, hone _ _ hdisk rdisk,
    hone _ _ hin rin, hone _ _ hout rout⟩

namespace HostManager

variable {m m' : HostManager} {now : Time} {h : String}

/-! ## Memories that are alike -/

/-- Two memories that differ only in their samples, and in these by nothing that a change rate
shows. -/
def Alike (m m' : HostManager) : Prop :=
  ∃ samples, m' = { m with lastPerfSamples := samples } ∧ ∀ host curr,
    changeRates curr (UnorderedMap.get m.lastPerfSamples host) =
      changeRates curr (UnorderedMap.get samples host)

lemma getBestHost_with_samples (ord : HashOrder) (m : HostManager)
    (samples : UnorderedMap String PerfSample) :
    ({ m with lastPerfSamples := samples }.getBestHost ord).2 =
      { (m.getBestHost ord).2 with lastPerfSamples := samples } := by
  unfold getBestHost
  dsimp only
  split_ifs <;> rfl

lemma Alike.getBestHost (hm : Alike m m') (ord : HashOrder) :
    Alike (m.getBestHost ord).2 (m'.getBestHost ord).2 := by
  obtain ⟨samples, rfl, hrates⟩ := hm
  refine ⟨samples, getBestHost_with_samples ord m samples, ?_⟩
  rwa [getBestHost_lastPerfSamples]

lemma Alike.removeStaleHosts (hm : Alike m m') (now : Time) :
    Alike (m.removeStaleHosts now) (m'.removeStaleHosts now) := by
  obtain ⟨samples, rfl, hrates⟩ := hm
  refine ⟨samples, ?_, ?_⟩
  · rw [removeStaleHosts_eq, removeStaleHosts_eq]
  · rwa [removeStaleHosts_lastPerfSamples]

/-- The duplicate check neither reads nor changes the samples. -/
lemma Alike.checkDuplicate (hm : Alike m m') (host : String) (seq : ℕ) :
    Option.Rel Alike (m.checkDuplicate host seq) (m'.checkDuplicate host seq) := by
  obtain ⟨samples, rfl, hrates⟩ := hm
  unfold HostManager.checkDuplicate
  dsimp only
  split_ifs
  · exact .none
  · exact .some ⟨samples, rfl, hrates⟩
  · exact .some ⟨samples, rfl, hrates⟩

/-- Replacing a host's sample leaves nothing of the old ones to be told apart. -/
lemma Alike.replaceSample (hm : Alike m m') (host : String) (curr : PerfSample) :
    (m.replaceSample host curr).1 = (m'.replaceSample host curr).1 ∧
      Alike (m.replaceSample host curr).2 (m'.replaceSample host curr).2 := by
  obtain ⟨samples, rfl, hrates⟩ := hm
  refine ⟨hrates host curr, samples.insert host curr, rfl, fun k curr' => ?_⟩
  show changeRates curr' (UnorderedMap.get (m.lastPerfSamples.insert host curr) k) =
    changeRates curr' (UnorderedMap.get (samples.insert host curr) k)
  rw [UnorderedMap.get_insert_ite, UnorderedMap.get_insert_ite]
  split_ifs
  · rfl
  · exact hrates k curr'

lemma Alike.storeReport (hm : Alike m m') (host : String) (r : HostScore) :
    Alike (m.storeReport host r) (m'.storeReport host r) := by
  obtain ⟨samples, rfl, hrates⟩ := hm
  exact ⟨samples, rfl, hrates⟩

lemma Alike.enqueueMysqlWrite (hm : Alike m m') (task : MysqlWriteTask) :
    Alike (m.enqueueMysqlWrite task) (m'.enqueueMysqlWrite task) := by
  obtain ⟨samples, rfl, hrates⟩ := hm
  exact ⟨samples, rfl, hrates⟩

/-- A report that is accepted does the same on both sides. -/
lemma Alike.applyReport (hm : Alike m m') (ord : HashOrder) (host : String) (info : MonitorInfo)
    (now : Time) : Alike (m.applyReport ord host info now) (m'.applyReport ord host info now) := by
  obtain ⟨hrates, hreplaced⟩ := hm.replaceSample host (PerfSample.ofInfo info (calcScore info))
  unfold HostManager.applyReport
  dsimp only
  rw [hrates]
  exact ((hreplaced.storeReport host _).getBestHost ord).enqueueMysqlWrite _

lemma Alike.onDataReceived (hm : Alike m m') (ord : HashOrder) (info : MonitorInfo) (now : Time) :
    Alike (m.onDataReceived ord info now) (m'.onDataReceived ord info now) := by
  unfold HostManager.onDataReceived
  dsimp only
  split_ifs
  · exact hm
  · have hcheck := hm.checkDuplicate (hostName info) info.sequence
    generalize m.checkDuplicate (hostName info) info.sequence = c at hcheck ⊢
    generalize m'.checkDuplicate (hostName info) info.sequence = c' at hcheck ⊢
    cases hcheck with
    | none => exact hm
    | some hrel => exact hrel.applyReport ord (hostName info) info now

/-- A report is treated alike. -/
lemma Alike.sameReport (hm : Alike m m') (ord : HashOrder) (info : MonitorInfo) (now : Time) :
    SameReport m m' ord info now := by
  obtain ⟨after, hafter, -⟩ := hm.onDataReceived ord info now
  obtain ⟨samples, rfl, -⟩ := hm
  refine ⟨?_, ?_, ?_, ?_⟩
  · rw [checkDuplicate_eq_none_iff, checkDuplicate_eq_none_iff]
  · rw [reportedRates, reportedRates, hafter]
  · rw [hafter]
    rfl
  · rw [hafter]
    rfl

end HostManager

/-- **Calls on memories that are alike do the same**, in any number and order. -/
lemma History.run_alike {sent : ℕ → MonitorInfo} {m m' : HostManager} (hm : m.Alike m')
    {as : List HistoryAction} {s s' : History} {es es' : List HistoryEvent}
    (hrun : (history sent).run { manager := m } as = some (s, es))
    (hrun' : (history sent).run { manager := m' } as = some (s', es')) :
    s.manager.Alike s'.manager := by
  induction as using List.reverseRecOn generalizing s s' es es' with
  | nil =>
    cases hrun
    cases hrun'
    exact hm
  | append_singleton as a ih =>
    obtain ⟨t, fs, gs, hpre, hlast, -⟩ := (history sent).run_append_iff.mp hrun
    obtain ⟨t', fs', gs', hpre', hlast', -⟩ := (history sent).run_append_iff.mp hrun'
    have halike := ih hpre hpre'
    rw [EventMachine.run_singleton] at hlast hlast'
    obtain ⟨rfl, -⟩ := Prod.ext_iff.mp (Option.some.inj hlast)
    obtain ⟨rfl, -⟩ := Prod.ext_iff.mp (Option.some.inj hlast')
    cases a with
    | report id ord now => exact halike.onDataReceived ord (sent id) now
    | cleanup now => exact halike.removeStaleHosts now
    | query ord => exact halike.getBestHost ord

namespace HostManager

variable {m : HostManager} {now : Time} {h : String}

/-! ## Keeping a host -/

/-- A pass keeps the hosts that are not stale. -/
lemma mem_removeStaleHosts :
    h ∈ (m.removeStaleHosts now).hostScores ↔ h ∈ m.hostScores ∧ m.isStale now h ≠ true := by
  rw [← AList.lookup_isSome, ← AList.lookup_isSome, lookup_removeStaleHosts]
  split_ifs with hstale <;> simp [hstale]

/-- A pass keeps the hosts whose last report is at most a minute old. -/
lemma mem_removeStaleHosts_iff_age :
    h ∈ (m.removeStaleHosts now).hostScores ↔
      ∃ r, m.hostScores.lookup h = some r ∧ now - r.timestamp ≤ kHostExpireWindow := by
  rw [mem_removeStaleHosts, UnorderedMap.mem_iff_lookup]
  constructor
  · rintro ⟨⟨r, hr⟩, hstale⟩
    refine ⟨r, hr, not_lt.mp fun hage => hstale ?_⟩
    exact isStale_iff.mpr ⟨r, hr, decide_eq_true hage⟩
  · rintro ⟨r, hr, hage⟩
    refine ⟨⟨r, hr⟩, fun hstale => ?_⟩
    obtain ⟨r', hr', hold⟩ := isStale_iff.mp hstale
    rw [UnorderedMap.lookup_unique hr' hr] at hold
    exact absurd (of_decide_eq_true hold) (not_lt.mpr hage)

/-- A pass changes nothing of a host that it keeps. -/
lemma lookups_removeStaleHosts (hkept : m.isStale now h ≠ true) :
    (m.removeStaleHosts now).hostScores.lookup h = m.hostScores.lookup h ∧
      (m.removeStaleHosts now).scheduleStates.lookup h = m.scheduleStates.lookup h ∧
      (m.removeStaleHosts now).lastSequences.lookup h = m.lastSequences.lookup h ∧
      (m.removeStaleHosts now).lastPerfSamples.lookup h = m.lastPerfSamples.lookup h := by
  rw [lookup_removeStaleHosts, lookup_scheduleStates_removeStaleHosts,
    lookup_lastSequences_removeStaleHosts, removeStaleHosts_lastPerfSamples, if_neg hkept,
    if_neg hkept, if_neg hkept]
  exact ⟨rfl, rfl, rfl, rfl⟩

/-! ## Forgetting a host -/

/-- Of a stale host a pass leaves nothing but the sample, which is not seen if it has no metrics. -/
lemma alike_forget (hstale : m.isStale now h = true)
    (hsample : (UnorderedMap.get m.lastPerfSamples h).Rateless) :
    (m.removeStaleHosts now).Alike ((m.removeStaleHosts now).forget h) := by
  have hscores : (m.removeStaleHosts now).hostScores.erase h =
      (m.removeStaleHosts now).hostScores :=
    UnorderedMap.erase_of_lookup_none (by rw [lookup_removeStaleHosts, if_pos hstale])
  have hstates : (m.removeStaleHosts now).scheduleStates.erase h =
      (m.removeStaleHosts now).scheduleStates :=
    UnorderedMap.erase_of_lookup_none (by
      rw [lookup_scheduleStates_removeStaleHosts, if_pos hstale])
  have hlast : (m.removeStaleHosts now).lastSequences.erase h =
      (m.removeStaleHosts now).lastSequences :=
    UnorderedMap.erase_of_lookup_none (by
      rw [lookup_lastSequences_removeStaleHosts, if_pos hstale])
  refine ⟨m.lastPerfSamples.erase h, ?_, fun host curr => ?_⟩
  · rw [forget, hscores, hstates, hlast, removeStaleHosts_lastPerfSamples]
  · rw [removeStaleHosts_lastPerfSamples]
    by_cases hhost : host = h
    · subst hhost
      rw [changeRates_of_rateless hsample, UnorderedMap.get, AList.lookup_erase]
      rfl
    · rw [UnorderedMap.get, UnorderedMap.get, UnorderedMap.lookup_erase_ite, if_neg hhost]

/-- What a report of a host without a last sequence enqueues. -/
lemma reportedRates_of_fresh (ord : HashOrder) {info : MonitorInfo} (hname : hostName info ≠ "")
    (hfresh : m.lastSequences.lookup (hostName info) = none) (now : Time) :
    m.reportedRates ord info now = [changeRates (PerfSample.ofInfo info (calcScore info))
      (UnorderedMap.get m.lastPerfSamples (hostName info))] := by
  have hcheck : m.checkDuplicate (hostName info) info.sequence = some { m with
      lastSequences :=
        if info.sequence > 0 then m.lastSequences.insert (hostName info) info.sequence
        else m.lastSequences } := by
    rw [checkDuplicate_eq_some_iff, hfresh]
    exact ⟨fun _ => (Option.some_ne_none _).symm, rfl⟩
  rw [reportedRates, onDataReceived_accept hname hcheck]
  simp only [applyReport, enqueueMysqlWrite, getBestHost_mysqlWriteQueue, storeReport,
    replaceSample, List.drop_left, List.map_singleton]
  rfl

/-- A report without metrics, right after the pass, shows whether a stale host's sample has any. -/
lemma rateless_of_sameReport (hstale : m.isStale now h = true) (hne : h ≠ "")
    (hsame : SameReport (m.removeStaleHosts now) ((m.removeStaleHosts now).forget h) .stored
      { name := h } now) : (UnorderedMap.get m.lastPerfSamples h).Rateless := by
  have hname : hostName ({ name := h } : MonitorInfo) = h := rfl
  have hnamed : hostName ({ name := h } : MonitorInfo) ≠ "" := hne
  have hfresh : (m.removeStaleHosts now).lastSequences.lookup h = none := by
    rw [lookup_lastSequences_removeStaleHosts, if_pos hstale]
  have hforgot : ((m.removeStaleHosts now).forget h).lastSequences.lookup h = none :=
    AList.lookup_erase h _
  have hnone : UnorderedMap.get ((m.removeStaleHosts now).forget h).lastPerfSamples h =
      default := by
    rw [UnorderedMap.get, forget, AList.lookup_erase]
    rfl
  have hrates := hsame.rates
  rw [reportedRates_of_fresh .stored hnamed hfresh, reportedRates_of_fresh .stored hnamed hforgot,
    List.singleton_inj, hname, hnone, removeStaleHosts_lastPerfSamples] at hrates
  exact rateless_of_changeRates_eq ⟨rfl, rfl, rfl, rfl, rfl, rfl⟩ hrates

/-- **When a pass forgets the hosts it removes.** In every state and at any time, a pass keeps
exactly the hosts that are not stale, with all their data, and forgets the others for every later
report exactly when the sample of every host that it removes has no metrics.

**Proof sketch.** Without a stale host's sample the memory after the pass is the one without the
host. If no rate can be computed against the sample, the two stay alike through all later calls
(`History.run_alike`); otherwise a report without metrics right after the pass tells them apart. -/
theorem cleansUp_iff (m : HostManager) (now : Time) :
    m.CleansUp now ↔ ∀ h, m.isStale now h = true → h ≠ "" →
      (UnorderedMap.get m.lastPerfSamples h).Rateless := by
  constructor
  · intro hclean h hstale hne
    obtain ⟨r, hr, -⟩ := isStale_iff.mp hstale
    have hmem : h ∈ m.hostScores := UnorderedMap.mem_iff_lookup.mpr ⟨r, hr⟩
    have hgone : h ∉ (m.removeStaleHosts now).hostScores :=
      fun hkept => (mem_removeStaleHosts.mp hkept).2 hstale
    apply rateless_of_sameReport hstale hne
    exact hclean.forgotten h hmem hgone (fun _ => {}) [] _ _ [] [] rfl rfl .stored { name := h } now
      rfl hne
  · intro hsamples
    refine ⟨fun h => mem_removeStaleHosts_iff_age, fun h hkept => ?_, ?_⟩
    · exact lookups_removeStaleHosts (mem_removeStaleHosts.mp hkept).2
    · intro h hmem hgone sent as s s' es es' hrun hrun' ord info later hname hne
      have hstale : m.isStale now h = true := by
        by_contra hkept
        exact hgone (mem_removeStaleHosts.mpr ⟨hmem, hkept⟩)
      have halike := alike_forget hstale (hsamples h hstale hne)
      exact (History.run_alike halike hrun hrun').sameReport ord info later

/-- A report of host `a` that shows a CPU percentage. -/
def cpuReport (seq : ℕ) (cpuPercent : ℚ) : MonitorInfo :=
  { name := "a", sequence := seq, cpuStat := [{ cpuPercent := cpuPercent }] }

/-- **A host that returns after a pass** is compared with what it was before: silent for `61`
seconds after a report of `50` percent, it reports `100` percent, and its write task has a change
rate of `1`. -/
theorem returning_host_rates :
    ¬(({} : HostManager).onDataReceived .stored (cpuReport 1 50) 0).CleansUp (61 * second) ∧
      ((({} : HostManager).onDataReceived .stored (cpuReport 1 50) 0).removeStaleHosts
          (61 * second)).reportedRates .stored (cpuReport 2 100) (62 * second) =
        [{ cpuPercentRate := 1 }] := by
  refine ⟨fun h => ?_, by decide +kernel⟩
  have hrates := (h.forgotten "a" (by decide +kernel) (by decide +kernel) (fun _ => {}) [] _ _ [] []
    rfl rfl .stored (cpuReport 2 100) (62 * second) rfl (by decide)).rates
  exact absurd hrates (by decide +kernel)

end HostManager

end Monitor
