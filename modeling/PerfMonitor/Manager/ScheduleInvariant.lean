import PerfMonitor.Manager.GetBestHost
import PerfMonitor.Manager.Service

set_option relaxedAutoImplicit false
set_option autoImplicit false

/-!
# The invariant of the scheduling state

Three sections change what `GetBestHost` reads: storing a report, `GetBestHost` itself and a
cleanup pass. Each keeps the memory consistent, in any order and any interleaving, and keeps
every positive weight between two of the scores the host reported since it was last registered
or last reported `0`.

## Main definitions

* `Monitor.Service.ScheduleStep` — what a step can do to the schedule.
* `Monitor.recentScores` — the scores of a host since it was last registered or last reported `0`.
* `Monitor.Bracketed` — every positive weight is between two recent scores.

## Main results

* `Monitor.HostManager.Consistent.storeReport`, `Monitor.HostManager.Consistent.getBestHost`,
  `Monitor.HostManager.Consistent.removeStaleHosts` — the sections keep the memory consistent.
* `Monitor.Service.run_consistent` — so do whole runs.
* `Monitor.Service.schedule_invariant` — the scheduling state in every reachable state.
-/

namespace Monitor

/-! ## Weights under a report -/

/-- A report leaves a state that fits its record, whatever fitted before. -/
lemma HostManager.weightFits_report {r : HostScore} {st : ScheduleState} (h0 : 0 ≤ r.score)
    (h100 : r.score ≤ 100) (hbase : st.baseWeight ≤ 100) :
    WeightFits r (st.report (calcSchedulingWeight r.score)) := by
  rw [calcSchedulingWeight_of_nonneg h0]
  unfold ScheduleState.report kScheduleWeightSmoothing
  refine ⟨h0, h100, ?_, fun hzero => ?_, fun hpos => ?_⟩
  · split_ifs
    · norm_num
    · exact h100
    · dsimp only
      linarith
  · rw [if_pos hzero.le]
  · rw [if_neg (not_le.mpr hpos)]
    split_ifs with hst
    · exact hpos
    · have hold : 0 < st.baseWeight := not_le.mp hst
      dsimp only
      linarith

/-- A smoothed weight lies between the old weight and the new score. -/
lemma ScheduleState.report_baseWeight_mem {st : ScheduleState} {lo hi score : ℚ}
    (hpos : 0 < score) (hold : 0 < st.baseWeight → lo ≤ st.baseWeight ∧ st.baseWeight ≤ hi) :
    (st.baseWeight ≤ 0 ∧ (st.report score).baseWeight = score) ∨
      (0 < st.baseWeight ∧ min lo score ≤ (st.report score).baseWeight ∧
        (st.report score).baseWeight ≤ max hi score) := by
  unfold ScheduleState.report kScheduleWeightSmoothing
  rw [if_neg (not_le.mpr hpos)]
  split_ifs with hst
  · exact Or.inl ⟨hst, rfl⟩
  · obtain ⟨hlo, hhi⟩ := hold (not_le.mp hst)
    refine Or.inr ⟨not_le.mp hst, ?_, ?_⟩
    · dsimp only
      linarith [min_le_left lo score, min_le_right lo score]
    · dsimp only
      linarith [le_max_left hi score, le_max_right hi score]

/-! ## The sections keep the memory consistent -/

namespace HostManager

variable {m m' : HostManager}

lemma Consistent.congr (hm : Consistent m) (hs : m'.hostScores = m.hostScores)
    (hst : m'.scheduleStates = m.scheduleStates) : Consistent m' :=
  ⟨fun h => by rw [hs, hst]; exact hm.fits h, by rw [hs]; exact hm.name_ne⟩

lemma consistent_empty : Consistent {} := ⟨fun _ => .none, AList.notMem_empty ""⟩

/-- No weight is above `100`, not even the default one of an unknown host. -/
lemma Consistent.baseWeight_le (hm : Consistent m) (h : String) : m.baseWeight h ≤ 100 := by
  cases hr : m.hostScores.lookup h with
  | some r => exact (hm.fits_of_lookup hr).base_le
  | none =>
    have hnot : h ∉ m.scheduleStates := by
      rw [hm.mem_iff]; exact AList.lookup_eq_none.mp hr
    rw [baseWeight, UnorderedMap.get, AList.lookup_eq_none.mpr hnot]
    exact (by norm_num : (0 : ℚ) ≤ 100)

/-- Storing a report keeps the memory consistent. -/
lemma Consistent.storeReport (hm : Consistent m) {host : String} {r : HostScore}
    (hname : host ≠ "") (h0 : 0 ≤ r.score) (h100 : r.score ≤ 100) :
    Consistent (m.storeReport host r) := by
  constructor
  · intro h
    simp only [HostManager.storeReport, UnorderedMap.lookup_insert_ite]
    split_ifs with hh
    · subst hh
      exact .some (weightFits_report h0 h100 (hm.baseWeight_le h))
    · exact hm.fits h
  · intro hmem
    rcases (AList.mem_insert _).mp hmem with hempty | hmem
    · exact hname hempty.symm
    · exact hm.name_ne hmem

/-- `GetBestHost` keeps the memory consistent: it moves only credits of hosts of positive
weight. -/
lemma Consistent.getBestHost (hm : Consistent m) (ord : HashOrder) :
    Consistent (m.getBestHost ord).2 := by
  constructor
  · intro h
    rw [getBestHost_hostScores, lookup_getBestHost hm]
    cases hr : m.hostScores.lookup h with
    | none =>
      have hnot : h ∉ m.scheduleStates := by
        rw [hm.mem_iff]; exact AList.lookup_eq_none.mp hr
      rw [AList.lookup_eq_none.mpr hnot]
      exact .none
    | some r =>
      obtain ⟨st, hst, hfit⟩ := hm.states_of_record hr
      rw [hst]
      refine .some ⟨hfit.score_nonneg, hfit.score_le, hfit.base_le, fun hzero => ?_, hfit.pos⟩
      have hnot : h ∉ m.eligible := fun hel =>
        ((hm.baseWeight_pos_iff hr).mp (mem_eligible.mp hel).2).ne' hzero
      have hstz := hfit.zero hzero
      rw [SmoothRoundRobin.settle, if_neg hnot, currentWeight, UnorderedMap.get_of_lookup hst,
        hstz]
  · rw [getBestHost_hostScores]
    exact hm.name_ne

/-- A cleanup pass keeps the memory consistent. -/
lemma Consistent.removeStaleHosts (hm : Consistent m) (now : Time) :
    Consistent (m.removeStaleHosts now) := by
  constructor
  · intro h
    rw [lookup_removeStaleHosts, lookup_scheduleStates_removeStaleHosts]
    split_ifs
    · exact .none
    · exact hm.fits h
  · rw [← AList.lookup_eq_none, lookup_removeStaleHosts]
    split_ifs
    · rfl
    · exact AList.lookup_eq_none.mpr hm.name_ne

lemma getBestHost_baseWeight (hm : Consistent m) (ord : HashOrder) (h : String) :
    (m.getBestHost ord).2.baseWeight h = m.baseWeight h := by
  unfold baseWeight UnorderedMap.get
  rw [lookup_getBestHost hm]
  cases m.scheduleStates.lookup h <;> rfl

end HostManager

/-! ## What a step can do to the schedule -/

/-- Events that tell of the schedule. -/
def ServiceEvent.isSchedule : ServiceEvent → Bool
  | .stored _ _ | .picked _ | .selected _ _ | .removed _ => true
  | _ => false

/-- What a step of the process can do to the maps that `GetBestHost` works on. -/
inductive Service.ScheduleStep (m : HostManager) :
    ServiceAction → HostManager → List ServiceEvent → Prop where
  | keep {a : ServiceAction} {m' : HostManager} {es : List ServiceEvent}
      (hscores : m'.hostScores = m.hostScores) (hstates : m'.scheduleStates = m.scheduleStates)
      (hes : ∀ e ∈ es, e.isSchedule = false) : ScheduleStep m a m' es
  | store (t : ℕ) (r : NamedReport) (now : Time) :
    ScheduleStep m (.store t) (m.storeReport r.host (r.hostScore now))
      [.stored r.host (calcScore r.info)]
  | pick (t : ℕ) (ord : HashOrder) :
    ScheduleStep m (.pick t ord) (m.getBestHost ord).2 [.picked (m.getBestHost ord).1]
  | select (q : ℕ) (ord : HashOrder) {rest : List ServiceEvent}
      (hrest : ∀ e ∈ rest, e.isSchedule = false) :
    ScheduleStep m (.select q ord) (m.getBestHost ord).2
      (.selected q (m.getBestHost ord).1 :: rest)
  | cleanup (now : Time) :
    ScheduleStep m (.cleanup now) (m.removeStaleHosts now) [.removed (m.staleHosts now)]

namespace Service

variable {s s' : Service} {a : ServiceAction} {es : List ServiceEvent}

lemma Step.scheduleStep (h : Step s a s' es) :
    ScheduleStep s.manager a s'.manager es := by
  cases h with
  | store t r now rates ht => exact .store t r now
  | pick t ord task ht => exact .pick t ord
  | selectNone q ord hq hb => exact .select q ord (by simp [ServiceEvent.isSchedule])
  | select q ord hq hb => exact .select q ord (by simp)
  | cleanup now hnow => exact .cleanup now
  | checkAccept t r m ht hd =>
    obtain ⟨-, rfl⟩ := HostManager.checkDuplicate_eq_some_iff.mp hd
    exact .keep rfl rfl (by simp [ServiceEvent.isSchedule])
  | receive | checkUnnamed | checkDuplicate | score | sample | enqueue | respond | tick =>
    exact .keep rfl rfl (by simp [ServiceEvent.isSchedule])

/-- A step keeps the memory consistent. -/
lemma Step.consistent (h : Step s a s' es) (hm : s.manager.Consistent) :
    s'.manager.Consistent := by
  have hstep := h.scheduleStep
  generalize s'.manager = m' at hstep ⊢
  cases hstep with
  | keep hscores hstates hes => exact hm.congr hscores hstates
  | store t r now =>
    exact hm.storeReport r.named (calcScore_nonneg r.info) (calcScore_le r.info)
  | pick t ord => exact hm.getBestHost ord
  | select q ord hrest => exact hm.getBestHost ord
  | cleanup now => exact hm.removeStaleHosts now

/-- The process as it starts, at some clock reading. -/
def start (clock : Time) : Service := { clock := clock }

/-- The memory is consistent in every reachable state. -/
theorem run_consistent {clock : Time} {as : List ServiceAction}
    (hrun : service.run (start clock) as = some (s, es)) : s.manager.Consistent :=
  service.run_invariant (I := fun s => s.manager.Consistent) (A := fun _ => True)
    (fun _ _ _ _ _ hm hstep => (service_step_iff.mp hstep).consistent hm)
    HostManager.consistent_empty (fun _ _ => trivial) hrun

end Service

/-! ## Recent scores -/

/-- The scores of host `h` since it was last registered or last reported `0`, `acc` before the
event. -/
def ServiceEvent.record (h : String) (acc : List ℚ) : ServiceEvent → List ℚ
  | .stored host score => if host = h then (if score = 0 then [] else acc ++ [score]) else acc
  | .removed hosts => if h ∈ hosts then [] else acc
  | _ => acc

/-- The scores that host `h` reported since it was last registered or last reported `0`. -/
def recentScores (h : String) (es : List ServiceEvent) : List ℚ :=
  es.foldl (ServiceEvent.record h) []

lemma recentScores_append_singleton (h : String) (es : List ServiceEvent) (e : ServiceEvent) :
    recentScores h (es ++ [e]) = e.record h (recentScores h es) := by
  simp [recentScores]

/-- Events that do not tell of the schedule leave the recent scores. -/
lemma recentScores_append_of_quiet {h : String} {es fs : List ServiceEvent}
    (hfs : ∀ e ∈ fs, e.isSchedule = false) :
    recentScores h (es ++ fs) = recentScores h es := by
  have hfold : ∀ acc, fs.foldl (ServiceEvent.record h) acc = acc := by
    induction fs with
    | nil => exact fun _ => rfl
    | cons e fs ih =>
      intro acc
      have he : e.record h acc = acc := by
        have hquiet := hfs e List.mem_cons_self
        cases e <;> first | rfl | simp [ServiceEvent.isSchedule] at hquiet
      rw [List.foldl_cons, he]
      exact ih (fun e' he' => hfs e' (List.mem_cons_of_mem e he')) acc
  rw [recentScores, List.foldl_append, hfold]
  rfl

/-- Every positive weight lies between two recent scores of its host. -/
def Bracketed (m : HostManager) (es : List ServiceEvent) : Prop :=
  ∀ h, 0 < m.baseWeight h →
    ∃ lo ∈ recentScores h es, ∃ hi ∈ recentScores h es,
      lo ≤ m.baseWeight h ∧ m.baseWeight h ≤ hi

namespace Service

variable {s s' : Service} {a : ServiceAction} {es fs : List ServiceEvent}

/-- A stored report keeps every weight between recent scores.

**Proof sketch.** Only the host's own weight and scores change. A zero score clears both. A
positive one either starts the weight, and then it is that score itself, or moves the weight
towards itself. -/
lemma bracketed_storeReport {m : HostManager} {r : HostScore} {host : String}
    (h0 : 0 ≤ r.score) (hb : Bracketed m es) :
    Bracketed (m.storeReport host r) (es ++ [.stored host r.score]) := by
  intro h hpos
  have hweight : (m.storeReport host r).baseWeight h =
      if h = host then
        ((UnorderedMap.get m.scheduleStates host).report r.score).baseWeight
      else m.baseWeight h := by
    unfold HostManager.baseWeight HostManager.storeReport
    rw [calcSchedulingWeight_of_nonneg h0, UnorderedMap.get_insert_ite]
    split_ifs <;> rfl
  rw [hweight] at hpos ⊢
  rw [recentScores_append_singleton]
  unfold ServiceEvent.record
  by_cases hh : h = host
  · subst hh
    rw [if_pos rfl] at hpos
    simp only [if_true]
    rcases h0.lt_or_eq with hs | hs
    · rw [if_neg hs.ne']
      by_cases hold : 0 < m.baseWeight h
      · obtain ⟨lo, hlo, hi, hhi, hle, hge⟩ := hb h hold
        rcases ScheduleState.report_baseWeight_mem hs (fun _ => ⟨hle, hge⟩) with
          ⟨hnot, -⟩ | ⟨-, hmin, hmax⟩
        · exact absurd hold (not_lt.mpr hnot)
        · refine ⟨min lo r.score, ?_, max hi r.score, ?_, hmin, hmax⟩
          · rcases min_choice lo r.score with hc | hc <;> rw [hc] <;> simp [hlo]
          · rcases max_choice hi r.score with hc | hc <;> rw [hc] <;> simp [hhi]
      · rcases @ScheduleState.report_baseWeight_mem _ 0 0 _ hs
            (fun hpos' => absurd hpos' hold) with ⟨-, heq⟩ | ⟨hpos', -, -⟩
        · exact ⟨r.score, by simp, r.score, by simp, heq.ge, heq.le⟩
        · exact absurd hpos' hold
    · exfalso
      rw [ScheduleState.report, if_pos hs.symm.le] at hpos
      exact lt_irrefl _ hpos
  · rw [if_neg hh] at hpos
    simp only [if_neg hh, if_neg (Ne.symm hh)]
    exact hb h hpos

/-- A step keeps every positive weight between recent scores. -/
lemma Step.bracketed (h : Step s a s' fs) (hm : s.manager.Consistent)
    (hb : Bracketed s.manager es) : Bracketed s'.manager (es ++ fs) := by
  have hchoice : ∀ ord, Bracketed (s.manager.getBestHost ord).2 es := by
    intro ord h hpos
    rw [HostManager.getBestHost_baseWeight hm] at hpos ⊢
    exact hb h hpos
  have hstep := h.scheduleStep
  generalize s'.manager = m' at hstep ⊢
  cases hstep with
  | keep hscores hstates hes =>
    intro h hpos
    rw [HostManager.baseWeight_congr hstates] at hpos ⊢
    rw [recentScores_append_of_quiet hes]
    exact hb h hpos
  | store t r now => exact bracketed_storeReport (calcScore_nonneg r.info) hb
  | pick t ord =>
    intro h hpos
    rw [recentScores_append_singleton]
    exact hchoice ord h hpos
  | select q ord hrest =>
    intro h hpos
    rw [List.append_cons, recentScores_append_of_quiet hrest, recentScores_append_singleton]
    exact hchoice ord h hpos
  | cleanup now =>
    intro h hpos
    rw [recentScores_append_singleton]
    unfold ServiceEvent.record
    simp only [HostManager.mem_staleHosts]
    unfold HostManager.baseWeight UnorderedMap.get at hpos ⊢
    rw [HostManager.lookup_scheduleStates_removeStaleHosts] at hpos ⊢
    split_ifs at hpos ⊢ with hstale
    · exact absurd hpos (lt_irrefl _)
    · exact hb h hpos

/-- In every reachable state each positive weight lies between two recent scores. -/
lemma run_bracketed {clock : Time} {as : List ServiceAction}
    (hrun : service.run (start clock) as = some (s, es)) : Bracketed s.manager es := by
  refine service.run_induction (P := fun _ t es => Bracketed t.manager es) ?_ ?_ hrun
  · intro h hpos
    exact absurd hpos (lt_irrefl _)
  · intro as t es a u fs has ih ha
    exact (service_step_iff.mp ha).bracketed (run_consistent has) ih

/-! ## The scheduling state of reachable states -/

/-- A host of positive score is preferred to every host of score `0`. -/
lemma getBestHost_score_pos {m : HostManager} (hm : m.Consistent) (ord : HashOrder)
    {h : String} {r : HostScore} (hr : m.hostScores.lookup h = some r) (hpos : 0 < r.score)
    {r' : HostScore} (hr' : m.hostScores.lookup (m.getBestHost ord).1 = some r') :
    0 < r'.score := by
  have hel : h ∈ m.eligible :=
    HostManager.mem_eligible.mpr
      ⟨UnorderedMap.mem_iff_lookup.mpr ⟨r, hr⟩, (hm.baseWeight_pos_iff hr).mpr hpos⟩
  have hchoice := HostManager.getBestHost_isChoice hm ord ⟨h, hel⟩
  exact (hm.baseWeight_pos_iff hr').mp (HostManager.mem_eligible.mp hchoice.mem).2

/-- The scheduling state as it should be, `es` being the events so far. -/
structure ScheduleInvariant (m : HostManager) (es : List ServiceEvent) : Prop where
  /-- The two maps have the same keys. -/
  same_keys : ∀ h, h ∈ m.scheduleStates ↔ h ∈ m.hostScores
  /-- A weight is `0` exactly when the host's latest score is. -/
  weight_zero : ∀ h r, m.hostScores.lookup h = some r → (m.baseWeight h = 0 ↔ r.score = 0)
  /-- A host of latest score `0` has no credit. -/
  credit_zero : ∀ h r, m.hostScores.lookup h = some r → r.score = 0 → m.currentWeight h = 0
  /-- Any other weight lies between two recent scores of the host. -/
  weight_mem : ∀ h r, m.hostScores.lookup h = some r → r.score ≠ 0 →
    ∃ lo ∈ recentScores h es, ∃ hi ∈ recentScores h es,
      lo ≤ m.baseWeight h ∧ m.baseWeight h ≤ hi
  /-- `GetBestHost` answers `""` exactly when there is no host. -/
  names_none : ∀ ord, (m.getBestHost ord).1 = "" ↔ ∀ h, h ∉ m.hostScores
  /-- Otherwise it names a registered host. -/
  names_host : ∀ ord, (∃ h, h ∈ m.hostScores) → (m.getBestHost ord).1 ∈ m.hostScores
  /-- No host of latest score `0` is named while the latest score of another is positive. -/
  names_scoring : ∀ ord h r, m.hostScores.lookup h = some r → 0 < r.score →
    ∀ r', m.hostScores.lookup (m.getBestHost ord).1 = some r' → r'.score ≠ 0

/-- **The invariant of the scheduling state** holds in every state that any interleaving of
reports, `GetBestHost` calls and cleanup passes reaches.

**Proof sketch.** The memory is consistent (`run_consistent`) and its weights bracketed
(`run_bracketed`). Consistency ties every weight to the latest score, and makes each
`GetBestHost` a round over the hosts of positive weight. -/
theorem schedule_invariant {clock : Time} {as : List ServiceAction}
    (hrun : service.run (start clock) as = some (s, es)) : ScheduleInvariant s.manager es := by
  have hm := run_consistent hrun
  have hzero : ∀ h r, s.manager.hostScores.lookup h = some r → r.score = 0 →
      UnorderedMap.get s.manager.scheduleStates h = { baseWeight := 0, currentWeight := 0 } :=
    fun h r hr => (hm.fits_of_lookup hr).zero
  have hpos : ∀ h r, s.manager.hostScores.lookup h = some r → r.score ≠ 0 →
      0 < s.manager.baseWeight h := fun h r hr hs =>
    (hm.baseWeight_pos_iff hr).mpr
      (lt_of_le_of_ne (hm.fits_of_lookup hr).score_nonneg (Ne.symm hs))
  refine ⟨fun h => hm.mem_iff, fun h r hr => ⟨fun hb => ?_, fun hs => ?_⟩,
    fun h r hr hs => ?_, fun h r hr hs => run_bracketed hrun h (hpos h r hr hs),
    fun ord => ?_, fun ord hne => ?_, fun ord h r hr hs r' hr' => ?_⟩
  · by_contra hs
    exact (hpos h r hr hs).ne' hb
  · rw [HostManager.baseWeight, hzero h r hr hs]
  · rw [HostManager.currentWeight, hzero h r hr hs]
  · rw [HostManager.getBestHost_eq_empty_iff hm, Finset.eq_empty_iff_forall_notMem]
    simp only [HostManager.mem_hosts]
  · obtain ⟨h, hh⟩ := hne
    exact HostManager.getBestHost_mem_hosts hm ord ⟨h, HostManager.mem_hosts.mpr hh⟩
  · exact (getBestHost_score_pos hm ord hr hs hr').ne'

/-- A run in which one host reports once. -/
lemma run_one_report :
    service.run (start 0) (reportActions 0 (idleInfo "a" 1) .stored) =
      some ({ start 0 with
          manager := ({} : HostManager).onDataReceived .stored (idleInfo "a" 1) 0 },
        [.accepted "a" 1, .stored "a" (calcScore (idleInfo "a" 1)), .picked "a"]) := by
  have hrun := @run_reportActions (start 0) 0 ⟨idleInfo "a" 1, by decide⟩ .stored
    { lastSequences := AList.insert "a" 1 ∅ } (AList.notMem_empty 0) rfl
  have hpick : ((storedManager { lastSequences := AList.insert "a" 1 ∅ }
      ⟨idleInfo "a" 1, by decide⟩ (start 0).clock).getBestHost .stored).1 = "a" := by
    decide +kernel
  rwa [hpick] at hrun

/-- A report that scores `0`. -/
def saturatedInfo (host : String) (seq : ℕ) : MonitorInfo :=
  { name := host
    sequence := seq
    cpuLoad := some { loadAvg1 := 1000 }
    cpuStat := [{ cpuPercent := 100 }]
    memInfo := some { usedPercent := 100 }
    netInfo := [{ rcvRate := 125000000, sendRate := 125000000 }]
    diskInfo := [{ utilPercent := 100 }] }

/-- Hosts `"a"` and `"b"` report at the same time, `"b"` again after `61` s and better; a pass
removes `"a"`; then `"c"` reports with score `0`, and its own call names a host. -/
def mixedActions : List ServiceAction :=
  [.receive 0 (idleInfo "a" 1), .receive 1 (busyInfo "b" 1), .check 0, .check 1, .score 1,
    .score 0, .sample 0, .sample 1, .store 1, .pick 1 .stored, .store 0, .select 0 .stored,
    .pick 0 .stored, .enqueue 1, .enqueue 0, .tick 61000000000] ++
    reportActions 0 (idleInfo "b" 2) .stored ++
    [.cleanup (61 * second), .receive 0 (saturatedInfo "c" 1), .check 0, .select 1 .stored,
      .score 0, .sample 0, .store 0, .pick 0 .stored]

/-- Two hosts are left, one whose weight lies between its two scores and one of score `0`. -/
theorem schedule_invariant_mixed : ∃ s es,
    service.run (start 0) mixedActions = some (s, es) ∧ s.manager.hosts = {"b", "c"} ∧
      recentScores "b" es = [50, 100] ∧ s.manager.baseWeight "b" = 65 ∧
      s.manager.baseWeight "c" = 0 ∧ ScheduleInvariant s.manager es := by
  have hend : (service.run (start 0) mixedActions).map (fun p => (p.1.manager.hosts,
      recentScores "b" p.2, p.1.manager.baseWeight "b", p.1.manager.baseWeight "c")) =
      some ({"b", "c"}, [50, 100], 65, 0) := by
    decide +kernel
  obtain ⟨⟨s, es⟩, hrun, hs⟩ := Option.map_eq_some_iff.mp hend
  simp only [Prod.mk.injEq] at hs
  obtain ⟨hhosts, hscores, hb, hc⟩ := hs
  exact ⟨s, es, hrun, hhosts, hscores, hb, hc, schedule_invariant hrun⟩

end Service

end Monitor
