import PerfMonitor.Counter.Growth
import PerfMonitor.Worker.CpuRows

set_option relaxedAutoImplicit false
set_option autoImplicit false

/-!
# CPU reports while the kernel refreshes

`CpuStatMonitor::UpdateOnce` (`worker/src/monitor/cpu_stat_monitor.cpp`) against
`collect_all_cpu_stats` (`kernel/cpu_stat_module/cpu_stat_collector.c`), load by load and store by
store: the mapping of the device, the attempts to copy the region, the rows of a copy that was
accepted, and the second look at the region after a failure, on which `UpdateOnce` unmaps it. A
report is made of a whole refresh, the newest one at that moment, so that the percentages account
for the time that the kernel has counted.

## Main definitions

* `Monitor.LiveCpu`, `Monitor.liveCpu` — the two parties as an event machine.
* `Monitor.CollectCall.snapshot`, `Monitor.CollectCall.row` — what a refresh leaves in the region.
* `Monitor.cpuSampling` — calls of `UpdateOnce` each on one whole refresh.
* `Monitor.LiveCpu.samples` — the reports of a run, each with the newest refresh at that moment.
* `Monitor.SteadyCounters` — the kernel's counters do not fall.

## Main results

* `Monitor.LiveCpu.reports_atomic` — the reports are those of calls on the newest refreshes.
* `Monitor.LiveCpu.percentages_account` — what the percentages add up to.
-/

namespace Monitor

/-! ## Calls on whole refreshes -/

section Refreshes

variable {maxCpus : ℕ}

/-- A region as a refresh leaves it, all else being zero. -/
def CollectCall.snapshot (maxCpus : ℕ) (c : CollectCall) : SharedWord maxCpus → ℕ :=
  write (collectAllCpuStats maxCpus c) zeroedRegion

/-- The row of a CPU, from the counters of the kernel. -/
def CollectCall.row (c : CollectCall) (cpu : ℕ) : ProcCpuStat where
  cpuName := "cpu" ++ toString cpu
  counter := (c.cpustat cpu).value

lemma CollectCall.stored_snapshot (c : CollectCall) : c.Stored maxCpus (c.snapshot maxCpus) :=
  stored_collectAllCpuStats c zeroedRegion

variable {c : CollectCall} {a b : SharedWord maxCpus → ℕ}

lemma CollectCall.Stored.cpusOf_eq (h : c.Stored maxCpus a) :
    cpusOf a = firstCpus maxCpus (c.cpuCount maxCpus) :=
  congrArg (firstCpus maxCpus) h.2.1

lemma CollectCall.Stored.rowOf_eq (h : c.Stored maxCpus a) {cpu : Fin maxCpus}
    (hcpu : cpu ∈ firstCpus maxCpus (c.cpuCount maxCpus)) : rowOf a cpu = c.row cpu := by
  have hcounter : (rowOf a cpu).counter = (c.cpustat cpu).value :=
    funext fun field => h.2.2 cpu (mem_firstCpus.mp hcpu) field
  exact congrArg (ProcCpuStat.mk _) hcounter

/-- The rows are made of what a refresh stores. -/
lemma CollectCall.Stored.buildCpuStats_eq (ha : c.Stored maxCpus a) (hb : c.Stored maxCpus b) :
    buildCpuStatsFromSnapshot a = buildCpuStatsFromSnapshot b := by
  have hvalid : isSharedRegionValid a = isSharedRegionValid b := by
    rw [isSharedRegionValid, isSharedRegionValid, ha.1, hb.1, ha.2.1, hb.2.1]
  have hrows : (cpusOf a).map (rowOf a) = (cpusOf b).map (rowOf b) := by
    rw [ha.cpusOf_eq, hb.cpusOf_eq]
    exact List.map_congr_left fun cpu hcpu => (ha.rowOf_eq hcpu).trans (hb.rowOf_eq hcpu).symm
  cases h : isSharedRegionValid b with
  | false =>
    rw [buildCpuStatsFromSnapshot, buildCpuStatsFromSnapshot, hvalid, h]
    rfl
  | true =>
    rw [buildCpuStatsFromSnapshot_eq a (hvalid.trans h), buildCpuStatsFromSnapshot_eq b h,
      totalRow, totalRow, hrows]

end Refreshes

/-- Calls of `UpdateOnce`, each on one whole refresh, which it reports with the rows. -/
def cpuSampling (maxCpus : ℕ) :
    EventMachine CpuStatMonitor CollectCall (CollectCall × List CpuStat) where
  step m c := (buildCpuStatsFromSnapshot (c.snapshot maxCpus)).map fun rows =>
    ((m.updateOnce (some rows)).1, [(c, (m.updateOnce (some rows)).2)])

/-! ## The two parties -/

/-- Where `UpdateOnce` stands. -/
inductive CpuStatPhase where
  | idle
  /-- In `CopyMappedCpuStats`. -/
  | copying
  /-- In `IsSharedRegionValid` on the mapped region, before its first load. -/
  | checkingVersion
  | checkingCount
  | checkingLimit
  deriving DecidableEq, Repr

/-- The region with the kernel's and the monitor's place in it, and the monitor. The device is open
exactly while it is mapped. -/
structure LiveCpu (maxCpus : ℕ) where
  lock : Seqlock.State (SharedWord maxCpus) ℕ CollectCall
  monitor : CpuStatMonitor := {}
  mapped : Bool := false
  phase : CpuStatPhase := .idle

inductive LiveCpuAction (maxCpus : ℕ) where
  /-- A load or store of the kernel or of `CopyMappedCpuStats`. -/
  | memory (a : Seqlock.Action (SharedWord maxCpus) ℕ CollectCall)
  /-- `UpdateOnce` is called; `open` and `mmap` succeed if they are tried. -/
  | updateOnce (opens : Bool)
  /-- The next load of `IsSharedRegionValid` on the mapped region. -/
  | check
  | stop

inductive LiveCpuEvent where
  /-- `collect_all_cpu_stats` has ended. -/
  | refreshed (c : CollectCall)
  /-- `UpdateOnce` has added these rows. -/
  | reported (msgs : List CpuStat)
  /-- `UpdateOnce` has added none. -/
  | failed

namespace LiveCpu

variable {maxCpus : ℕ}

/-- The end of a refresh. -/
def refreshEvents (lock : Seqlock.State (SharedWord maxCpus) ℕ CollectCall) :
    Seqlock.Action (SharedWord maxCpus) ℕ CollectCall → List LiveCpuEvent
  | .markEven =>
    match lock.writer with
    | .storing c _ _ => [.refreshed c]
    | _ => []
  | _ => []

/-- What `UpdateOnce` does with what `CopyMappedCpuStats` has returned, if it has. -/
def conclude (s : LiveCpu maxCpus) :
    List (Seqlock.Event (SharedWord maxCpus) ℕ (List ProcCpuStat)) →
      LiveCpu maxCpus × List LiveCpuEvent
  | [] => (s, [])
  | .returned none :: _ => ({ s with phase := .checkingVersion }, [])
  | .returned (some (_, rows)) :: _ =>
    ({ s with monitor := (s.monitor.updateOnce (some rows)).1, phase := .idle },
      [.reported (s.monitor.updateOnce (some rows)).2])

/-- `UpdateOnce` returns; if the region was found invalid, after `Stop`. -/
def giveUp (s : LiveCpu maxCpus) (valid : Bool) : LiveCpu maxCpus × List LiveCpuEvent :=
  ({ s with mapped := valid, phase := .idle }, [.failed])

/-- One load or store, or what surrounds them. -/
def step (s : LiveCpu maxCpus) :
    LiveCpuAction maxCpus → Option (LiveCpu maxCpus × List LiveCpuEvent)
  | .memory .call => none
  | .memory a => ((cpuStatLock maxCpus).step s.lock a).map fun (lock, es) =>
    let (s', fs) := { s with lock := lock }.conclude es
    (s', refreshEvents s.lock a ++ fs)
  | .updateOnce opens =>
    if s.phase ≠ .idle then none
    else if s.mapped || opens then
      ((cpuStatLock maxCpus).step s.lock .call).map fun (lock, es) =>
        { s with lock := lock, mapped := true, phase := .copying }.conclude es
    else some (s, [.failed])
  | .check =>
    match s.phase with
    | .checkingVersion =>
      if s.lock.region.words .version ≠ cpuStatSharedVersion then some (s.giveUp false)
      else some ({ s with phase := .checkingCount }, [])
    | .checkingCount =>
      if s.lock.region.words .cpuCount = 0 then some (s.giveUp false)
      else some ({ s with phase := .checkingLimit }, [])
    | .checkingLimit => some (s.giveUp (decide (s.lock.region.words .cpuCount ≤ maxCpus)))
    | _ => none
  | .stop => if s.phase = .idle then some ({ s with mapped := false }, []) else none

/-- The zeroed region, not mapped, and a new monitor. -/
def start : LiveCpu maxCpus where
  lock := Seqlock.start zeroedRegion

end LiveCpu

/-- The kernel and the monitor as an event machine. -/
def liveCpu (maxCpus : ℕ) :
    EventMachine (LiveCpu maxCpus) (LiveCpuAction maxCpus) LiveCpuEvent where
  step := LiveCpu.step

namespace LiveCpu

variable {maxCpus : ℕ} {s s' : LiveCpu maxCpus} {a : LiveCpuAction maxCpus}
  {as : List (LiveCpuAction maxCpus)} {es fs : List LiveCpuEvent}

/-! ## Reports and refreshes -/

/-- The refreshes that have ended. -/
def refreshes (es : List LiveCpuEvent) : List CollectCall :=
  es.filterMap fun
    | .refreshed c => some c
    | _ => none

/-- The rows that have been reported. -/
def reports (es : List LiveCpuEvent) : List (List CpuStat) :=
  es.filterMap fun
    | .reported msgs => some msgs
    | _ => none

/-- The newest refresh, and the reports so far with those they were made at. -/
def observe (p : Option CollectCall × List (CollectCall × List CpuStat)) :
    LiveCpuEvent → Option CollectCall × List (CollectCall × List CpuStat)
  | .refreshed c => (some c, p.2)
  | .reported msgs => (p.1, p.2 ++ p.1.toList.map fun c => (c, msgs))
  | .failed => p

/-- The reports, each with the newest refresh that had ended when it was made. -/
def samples (es : List LiveCpuEvent) : List (CollectCall × List CpuStat) :=
  (es.foldl observe (none, [])).2

/-- The newest refresh. -/
def newest (es : List LiveCpuEvent) : Option CollectCall := (es.foldl observe (none, [])).1

lemma refreshes_append : refreshes (es ++ fs) = refreshes es ++ refreshes fs :=
  List.filterMap_append

lemma reports_append : reports (es ++ fs) = reports es ++ reports fs := List.filterMap_append

section Concat

variable (es : List LiveCpuEvent) (c : CollectCall) (msgs : List CpuStat)

@[simp] lemma newest_refreshed : newest (es ++ [.refreshed c]) = some c := by
  rw [newest, List.foldl_concat]
  rfl

@[simp] lemma newest_reported : newest (es ++ [.reported msgs]) = newest es := by
  rw [newest, List.foldl_concat]
  rfl

@[simp] lemma newest_failed : newest (es ++ [.failed]) = newest es := by
  rw [newest, List.foldl_concat]
  rfl

@[simp] lemma samples_refreshed : samples (es ++ [.refreshed c]) = samples es := by
  rw [samples, List.foldl_concat]
  rfl

lemma samples_reported : samples (es ++ [.reported msgs]) =
    samples es ++ (newest es).toList.map fun c => (c, msgs) := by
  rw [samples, List.foldl_concat]
  rfl

@[simp] lemma samples_failed : samples (es ++ [.failed]) = samples es := by
  rw [samples, List.foldl_concat]
  rfl

end Concat

/-! ## Reports are made of whole refreshes -/

/-- What a run so far says about its reports. -/
structure Sound (s : LiveCpu maxCpus) (es : List LiveCpuEvent) : Prop where
  lock : (cpuStatLock maxCpus).Invariant zeroedRegion s.lock
  newest_eq : newest es = s.lock.history.head?
  run : (cpuSampling maxCpus).run {} ((samples es).map Prod.fst) = some (s.monitor, samples es)
  reports_eq : (samples es).map Prod.snd = reports es

variable {lock : Seqlock.State (SharedWord maxCpus) ℕ CollectCall}
  {b : Seqlock.Action (SharedWord maxCpus) ℕ CollectCall}
  {les : List (Seqlock.Event (SharedWord maxCpus) ℕ (List ProcCpuStat))}

lemma Sound.of_monitor (h : Sound s es) (mapped : Bool) (phase : CpuStatPhase) :
    Sound { s with mapped := mapped, phase := phase } es :=
  ⟨h.lock, h.newest_eq, h.run, h.reports_eq⟩

/-- A call that adds no rows. -/
lemma Sound.failed (h : Sound s es) : Sound s (es ++ [.failed]) where
  lock := h.lock
  newest_eq := by rw [newest_failed, h.newest_eq]
  run := by
    rw [samples_failed]
    exact h.run
  reports_eq := by
    rw [samples_failed, reports_append]
    exact h.reports_eq.trans (List.append_nil _).symm

/-- A load or store is the end of a refresh, or leaves the refreshes as they are. -/
lemma refreshEvents_cases (hstep : (cpuStatLock maxCpus).step s.lock b = some (lock, les)) :
    (refreshEvents s.lock b = [] ∧ lock.history.head? = s.lock.history.head?) ∨
      ∃ c, refreshEvents s.lock b = [.refreshed c] ∧ lock.history.head? = some c := by
  cases Seqlock.step_cases hstep with
  | @markEven c q hw =>
    refine Or.inr ⟨c, ?_, rfl⟩
    simp only [refreshEvents, hw]
  | odd => exact Or.inl ⟨rfl, congrArg List.head? (Seqlock.history_retry _ _)⟩
  | loadAfter => exact Or.inl ⟨rfl, congrArg List.head? (Seqlock.history_conclude _ _ _ _)⟩
  | _ => exact Or.inl ⟨rfl, rfl⟩

/-- The memory after a load or store. -/
lemma Sound.memory (h : Sound s es)
    (hstep : (cpuStatLock maxCpus).step s.lock b = some (lock, les)) :
    Sound { s with lock := lock } (es ++ refreshEvents s.lock b) := by
  have hlock := Seqlock.invariant_step h.lock hstep
  rcases refreshEvents_cases hstep with ⟨hnone, hhead⟩ | ⟨c, hone, hhead⟩
  · rw [hnone, List.append_nil]
    exact ⟨hlock, h.newest_eq.trans hhead.symm, h.run, h.reports_eq⟩
  · rw [hone]
    refine ⟨hlock, (newest_refreshed es c).trans hhead.symm, ?_, ?_⟩
    · rw [samples_refreshed]
      exact h.run
    · rw [samples_refreshed, reports_append]
      exact h.reports_eq.trans (List.append_nil _).symm

/-- The rows that `CopyMappedCpuStats` returns are those of the newest refresh. -/
lemma rows_of_returned (hinv : (cpuStatLock maxCpus).Invariant zeroedRegion s.lock)
    (hfew : s.lock.updates < 2 ^ 31)
    (hstep : (cpuStatLock maxCpus).step s.lock b = some (lock, les))
    {snapshot : SharedWord maxCpus → ℕ} {rows : List ProcCpuStat}
    (hret : Seqlock.Event.returned (some (snapshot, rows)) ∈ les) :
    ∃ c, lock.history.head? = some c ∧
      buildCpuStatsFromSnapshot (c.snapshot maxCpus) = some rows := by
  obtain ⟨haccept, hsettled⟩ := hinv.settled_copy hfew hstep hret
  replace haccept : buildCpuStatsFromSnapshot snapshot = some rows := haccept
  rw [Seqlock.history_of_returned hstep hret]
  unfold Seqlock.Settled at hsettled
  cases hhistory : s.lock.history with
  | nil =>
    rw [hhistory] at hsettled
    rw [hsettled, buildCpuStatsFromSnapshot_zeroedRegion] at haccept
    cases haccept
  | cons c history =>
    rw [hhistory] at hsettled
    obtain ⟨base, rfl⟩ := hsettled
    have hstored : c.Stored maxCpus (write (collectAllCpuStats maxCpus c) base) :=
      stored_collectAllCpuStats c base
    exact ⟨c, rfl, (c.stored_snapshot.buildCpuStats_eq hstored).trans haccept⟩

/-- Rows of the newest refresh are reported. -/
lemma Sound.reported (h : Sound s es) {c : CollectCall} {rows : List ProcCpuStat}
    (hhead : s.lock.history.head? = some c)
    (hrows : buildCpuStatsFromSnapshot (c.snapshot maxCpus) = some rows) (phase : CpuStatPhase) :
    Sound { s with monitor := (s.monitor.updateOnce (some rows)).1, phase := phase }
      (es ++ [.reported (s.monitor.updateOnce (some rows)).2]) := by
  have hsamples : samples (es ++ [.reported (s.monitor.updateOnce (some rows)).2]) =
      samples es ++ [(c, (s.monitor.updateOnce (some rows)).2)] := by
    rw [samples_reported, h.newest_eq, hhead]
    rfl
  have hcall : (cpuSampling maxCpus).step s.monitor c =
      some ((s.monitor.updateOnce (some rows)).1,
        [(c, (s.monitor.updateOnce (some rows)).2)]) := by
    simp only [cpuSampling, hrows, Option.map_some]
  refine ⟨h.lock, (newest_reported es _).trans h.newest_eq, ?_, ?_⟩
  · rw [hsamples, List.map_append]
    exact (cpuSampling maxCpus).run_append h.run
      (((cpuSampling maxCpus).run_singleton _ _).trans hcall)
  · rw [hsamples, reports_append, List.map_append, h.reports_eq]
    rfl

lemma step_memory (hb : b ≠ .call) :
    s.step (.memory b) = ((cpuStatLock maxCpus).step s.lock b).map fun (lock, les) =>
      ((conclude { s with lock := lock } les).1,
        refreshEvents s.lock b ++ (conclude { s with lock := lock } les).2) := by
  cases b with
  | call => exact absurd rfl hb
  | _ => rfl

/-- A step makes one access to the region, or the monitor goes on without one. -/
lemma step_cases (hstep : s.step a = some (s', fs)) :
    (∃ b lock les mapped phase, (cpuStatLock maxCpus).step s.lock b = some (lock, les) ∧
      s' = (conclude { s with lock := lock, mapped := mapped, phase := phase } les).1 ∧
      fs = refreshEvents s.lock b ++
        (conclude { s with lock := lock, mapped := mapped, phase := phase } les).2) ∨
    ∃ mapped phase, s' = { s with mapped := mapped, phase := phase } ∧
      (fs = [] ∨ fs = [.failed]) := by
  cases a with
  | memory b =>
    by_cases hb : b = .call
    · rw [hb] at hstep
      cases hstep
    · rw [step_memory hb] at hstep
      obtain ⟨⟨lock, les⟩, hlock, heq⟩ := Option.map_eq_some_iff.mp hstep
      cases heq
      exact Or.inl ⟨b, lock, les, s.mapped, s.phase, hlock, rfl, rfl⟩
  | updateOnce opens =>
    change (if s.phase ≠ .idle then none else if s.mapped || opens then _ else _) = _ at hstep
    split_ifs at hstep
    · obtain ⟨⟨lock, les⟩, hlock, heq⟩ := Option.map_eq_some_iff.mp hstep
      obtain ⟨rfl, rfl⟩ := Prod.ext_iff.mp heq
      exact Or.inl ⟨.call, lock, les, true, .copying, hlock, rfl, rfl⟩
    · cases hstep
      exact Or.inr ⟨s.mapped, s.phase, rfl, Or.inr rfl⟩
  | check =>
    simp only [LiveCpu.step] at hstep
    split at hstep
    · split_ifs at hstep
      · cases hstep
        exact Or.inr ⟨false, .idle, rfl, Or.inr rfl⟩
      · cases hstep
        exact Or.inr ⟨s.mapped, .checkingCount, rfl, Or.inl rfl⟩
    · split_ifs at hstep
      · cases hstep
        exact Or.inr ⟨false, .idle, rfl, Or.inr rfl⟩
      · cases hstep
        exact Or.inr ⟨s.mapped, .checkingLimit, rfl, Or.inl rfl⟩
    · cases hstep
      exact Or.inr ⟨_, .idle, rfl, Or.inr rfl⟩
    · cases hstep
  | stop =>
    simp only [LiveCpu.step] at hstep
    split_ifs at hstep
    cases hstep
    exact Or.inr ⟨false, s.phase, rfl, Or.inl rfl⟩

@[simp] lemma lock_conclude (s : LiveCpu maxCpus)
    (les : List (Seqlock.Event (SharedWord maxCpus) ℕ (List ProcCpuStat))) :
    (s.conclude les).1.lock = s.lock := by
  match les with
  | [] => rfl
  | .returned none :: _ => rfl
  | .returned (some _) :: _ => rfl

/-- **The step.** A load or store of either party, and what the monitor does around it. -/
lemma Sound.step (h : Sound s es) (hfew : s.lock.updates < 2 ^ 31)
    (hstep : s.step a = some (s', fs)) : Sound s' (es ++ fs) := by
  rcases step_cases hstep with ⟨b, lock, les, mapped, phase, hb, rfl, rfl⟩ |
    ⟨mapped, phase, rfl, rfl | rfl⟩
  · have hmemory := (h.memory hb).of_monitor mapped phase
    rw [← List.append_assoc]
    match les with
    | [] =>
      rw [conclude, List.append_nil]
      exact hmemory
    | .returned none :: _ =>
      rw [conclude, List.append_nil]
      exact hmemory.of_monitor mapped .checkingVersion
    | .returned (some (snapshot, rows)) :: _ =>
      obtain ⟨c, hhead, hrows⟩ := rows_of_returned h.lock hfew hb List.mem_cons_self
      exact hmemory.reported hhead hrows .idle
  · rw [List.append_nil]
    exact h.of_monitor mapped phase
  · exact (h.of_monitor mapped phase).failed

/-- A run in which fewer than `2 ^ 31` refreshes end during any one attempt. -/
lemma run_sound (hrun : (liveCpu maxCpus).run start as = some (s, es))
    (hfew : (liveCpu maxCpus).Throughout (fun u => u.lock.updates < 2 ^ 31) start as) :
    Sound s es := by
  refine (liveCpu maxCpus).run_induction (P := fun as s es =>
    (liveCpu maxCpus).Throughout (fun u => u.lock.updates < 2 ^ 31) start as → Sound s es)
    ?_ ?_ hrun hfew
  · exact fun _ => ⟨Seqlock.invariant_start, rfl, rfl, rfl⟩
  · intro as s es a s' fs has ih hstep hthroughout
    have hbefore := hthroughout.of_append
    exact (ih hbefore).step (hbefore.last has) hstep

/-- **Reports are made of whole refreshes.** The kernel refreshes the region while `UpdateOnce`
maps, copies, checks and unmaps it, load by load and store by store, with fewer than `2 ^ 31`
refreshes ending during any one attempt. The reports are those of calls each on a whole refresh, the
newest one that had ended at that moment, one after the other on the rows that the calls have
stored.

**Proof sketch.** An accepted copy is settled (`Seqlock.Invariant.settled_copy`), and what it is the
result of is the newest refresh, since no refresh ends between the two loads of the sequence number.
The rows depend on nothing but what the refresh has stored. -/
theorem reports_atomic (hrun : (liveCpu maxCpus).run start as = some (s, es))
    (hfew : (liveCpu maxCpus).Throughout (fun u => u.lock.updates < 2 ^ 31) start as) :
    (samples es).map Prod.snd = reports es ∧
      (cpuSampling maxCpus).run {} ((samples es).map Prod.fst) = some (s.monitor, samples es) :=
  ⟨(run_sound hrun hfew).reports_eq, (run_sound hrun hfew).run⟩

/-! ## What the percentages account for -/

/-- Reports are made at refreshes, and in the order of these. -/
lemma samples_ordered {R : CollectCall → CollectCall → Prop} (h : (refreshes es).Pairwise R) :
    (∀ c ∈ (samples es).map Prod.fst ++ (newest es).toList, c ∈ refreshes es) ∧
      ((samples es).map Prod.fst ++ (newest es).toList).Pairwise fun c c' => c = c' ∨ R c c' := by
  induction es using List.reverseRecOn with
  | nil => exact ⟨by simp [samples, newest], List.Pairwise.nil⟩
  | append_singleton es e ih =>
    rw [refreshes_append] at h ⊢
    obtain ⟨hbefore, -, hnew⟩ := List.pairwise_append.mp h
    obtain ⟨hmem, hordered⟩ := ih hbefore
    cases e with
    | refreshed c =>
      rw [samples_refreshed, newest_refreshed]
      have hold : ∀ x ∈ (samples es).map Prod.fst, x ∈ refreshes es :=
        fun x hx => hmem x (List.mem_append_left _ hx)
      refine ⟨fun x hx => ?_, List.pairwise_append.mpr
        ⟨(List.pairwise_append.mp hordered).1, List.pairwise_singleton _ _, fun x hx y hy => ?_⟩⟩
      · rcases List.mem_append.mp hx with hx | hx
        · exact List.mem_append_left _ (hold x hx)
        · exact List.mem_append_right _ hx
      · exact Or.inr (hnew x (hold x hx) y hy)
    | reported msgs =>
      rw [samples_reported, newest_reported]
      cases hnewest : newest es with
      | none =>
        rw [hnewest] at hmem hordered
        have hlist : samples es ++ (none : Option CollectCall).toList.map (fun c => (c, msgs)) =
            samples es := List.append_nil _
        rw [hlist]
        exact ⟨fun x hx => List.mem_append_left _ (hmem x hx), hordered⟩
      | some c =>
        rw [hnewest] at hmem hordered
        have hlist : (samples es ++ (some c).toList.map fun c => (c, msgs)).map Prod.fst =
            (samples es).map Prod.fst ++ (some c).toList := by simp
        rw [hlist]
        refine ⟨fun x hx => List.mem_append_left _ ?_, List.pairwise_append.mpr
          ⟨hordered, List.pairwise_singleton _ _, fun x hx y hy => ?_⟩⟩
        · rcases List.mem_append.mp hx with hx | hx
          · exact hmem x hx
          · exact hmem x (List.mem_append_right _ hx)
        · obtain rfl := List.mem_singleton.mp hy
          rcases List.mem_append.mp hx with hx | hx
          · exact (List.pairwise_append.mp hordered).2.2 x hx y hy
          · exact Or.inl (List.mem_singleton.mp hx)
    | failed =>
      rw [samples_failed, newest_failed]
      exact ⟨fun x hx => List.mem_append_left _ (hmem x hx), hordered⟩

end LiveCpu

section Accounting

variable {maxCpus n : ℕ}

/-- The kernel counts for `n` CPUs, no counter that counts as time falls from a refresh to a later
one, and the sums do not overflow. -/
structure SteadyCounters (maxCpus n : ℕ) (cs : List CollectCall) : Prop where
  count : ∀ c ∈ cs, c.cpuCount maxCpus = n
  grows : cs.Pairwise fun c c' => ∀ cpu < n, RowGrows (c.row cpu) (c'.row cpu)
  noOverflow : ∀ c ∈ cs,
    ((firstCpus maxCpus n).map fun cpu : Fin maxCpus => (c.row cpu).total).sum < 2 ^ 64

/-- The message of the first row, `0`, or of a CPU, by its number plus `1`. -/
def messageAt (msgs : List CpuStat) (i : ℕ) : CpuStat := msgs.getD i {}

lemma getD_map_firstCpus {α : Type} (f : Fin maxCpus → α) (d : α) {cpu : Fin maxCpus}
    (hcpu : cpu.val < n) : ((firstCpus maxCpus n).map f).getD cpu.val d = f cpu := by
  simp [firstCpus, List.getD_eq_getElem?_getD, hcpu]

/-- A call on a refresh after a call on another. -/
def CallFollows (maxCpus : ℕ) (p q : CollectCall × List CpuStat) : Prop :=
  ∃ m : CpuStatMonitor, q.2 = ((m.updateOnce (buildCpuStatsFromSnapshot
    (p.1.snapshot maxCpus))).1.updateOnce (buildCpuStatsFromSnapshot (q.1.snapshot maxCpus))).2

/-- The calls are on valid regions, and each but the first follows another. -/
lemma cpuSampling_run {m m' : CpuStatMonitor} {cs : List CollectCall}
    {ps : List (CollectCall × List CpuStat)}
    (hrun : (cpuSampling maxCpus).run m cs = some (m', ps)) :
    (∀ p ∈ ps, isSharedRegionValid (p.1.snapshot maxCpus) = true) ∧
      ps.IsChain (CallFollows maxCpus) ∧ ∀ p ∈ ps.head?,
        p.2 = (m.updateOnce (buildCpuStatsFromSnapshot (p.1.snapshot maxCpus))).2 := by
  induction cs generalizing m ps with
  | nil =>
    cases hrun
    exact ⟨fun p hp => absurd hp List.not_mem_nil, .nil, fun p hp => by cases hp⟩
  | cons c cs ih =>
    obtain ⟨m₁, ps₁, ps₂, hstep, hrest, rfl⟩ := (cpuSampling maxCpus).run_cons_iff.mp hrun
    obtain ⟨rows, hrows, heq⟩ := Option.map_eq_some_iff.mp hstep
    obtain ⟨rfl, rfl⟩ := Prod.ext_iff.mp heq
    obtain ⟨hvalid, hchain, hhead⟩ := ih hrest
    refine ⟨fun p hp => ?_, ?_, fun p hp => ?_⟩
    · rcases List.mem_cons.mp hp with rfl | hp
      · by_contra hinvalid
        rw [buildCpuStatsFromSnapshot, if_neg hinvalid] at hrows
        cases hrows
      · exact hvalid p hp
    · refine List.isChain_cons.mpr ⟨fun q hq => ⟨m, ?_⟩, hchain⟩
      rw [hhead q hq, hrows]
    · cases hp
      rw [hrows]

variable {cs : List CollectCall} {c c' : CollectCall}

lemma SteadyCounters.countersGrow (h : SteadyCounters maxCpus n cs) (hc : c ∈ cs) (hc' : c' ∈ cs)
    (hordered : c = c' ∨ ∀ cpu < n, RowGrows (c.row cpu) (c'.row cpu))
    (hvalid : isSharedRegionValid (c.snapshot maxCpus) = true)
    (hvalid' : isSharedRegionValid (c'.snapshot maxCpus) = true) :
    CountersGrow (c.snapshot maxCpus) (c'.snapshot maxCpus) := by
  have hcpus : cpusOf (c'.snapshot maxCpus) = firstCpus maxCpus n := by
    rw [c'.stored_snapshot.cpusOf_eq, h.count c' hc']
  have hrow : ∀ x ∈ cs, ∀ cpu ∈ firstCpus maxCpus n, rowOf (x.snapshot maxCpus) cpu = x.row cpu :=
    fun x hx cpu hcpu => x.stored_snapshot.rowOf_eq (by rwa [h.count x hx])
  refine ⟨hvalid, hvalid', ?_, fun cpu hcpu => ?_, ?_⟩
  · rw [c.stored_snapshot.2.1, c'.stored_snapshot.2.1, h.count c hc, h.count c' hc']
  · rw [hcpus] at hcpu
    rw [hrow c hc cpu hcpu, hrow c' hc' cpu hcpu]
    rcases hordered with rfl | hgrows
    · exact fun _ _ => le_rfl
    · exact hgrows cpu (mem_firstCpus.mp hcpu)
  · have hsum := h.noOverflow c' hc'
    rw [NoOverflow, hcpus]
    rwa [List.map_congr_left fun cpu hcpu => congrArg ProcCpuStat.total (hrow c' hc' cpu hcpu)]

/-- The time of a share on one CPU. -/
def cpuTime (share : CpuShare) (cpu : ℕ) (c : CollectCall) : ℚ := share.time (c.row cpu)

/-- The total time of one CPU. -/
def cpuTotal (cpu : ℕ) (c : CollectCall) : ℚ := (c.row cpu).total

/-- The time of a share on all CPUs. -/
def allTime (maxCpus n : ℕ) (share : CpuShare) (c : CollectCall) : ℚ :=
  ((firstCpus maxCpus n).map fun cpu : Fin maxCpus => share.time (c.row cpu)).sum

/-- The total time of all CPUs. -/
def allTotal (maxCpus n : ℕ) (c : CollectCall) : ℚ :=
  ((firstCpus maxCpus n).map fun cpu : Fin maxCpus => (c.row cpu).total).sum

variable {p q : CollectCall × List CpuStat}

/-- A call that follows another, while no counter falls. -/
structure CallGrows (maxCpus n : ℕ) (p q : CollectCall × List CpuStat) : Prop where
  follows : CallFollows maxCpus p q
  grows : CountersGrow (p.1.snapshot maxCpus) (q.1.snapshot maxCpus)
  countFst : p.1.cpuCount maxCpus = n
  countSnd : q.1.cpuCount maxCpus = n

/-- A percentage of the report of the second call, times the growth of its row's total, is the
growth of its own time, for each CPU and for all. -/
lemma CallGrows.percent_mul (h : CallGrows maxCpus n p q) (share : CpuShare) :
    (∀ cpu : Fin maxCpus, cpu.val < n →
      (cpuTotal cpu q.1 - cpuTotal cpu p.1) * share.percent (messageAt q.2 (cpu + 1)) =
        cpuTime share cpu q.1 * 100 - cpuTime share cpu p.1 * 100) ∧
    (allTotal maxCpus n q.1 - allTotal maxCpus n p.1) * share.percent (messageAt q.2 0) =
      allTime maxCpus n share q.1 * 100 - allTime maxCpus n share p.1 * 100 := by
  obtain ⟨⟨m, hmsgs⟩, hgrow, hp, hq⟩ := h
  rw [hgrow.updateOnce_rows] at hmsgs
  have hcpus : ∀ x : CollectCall, x.cpuCount maxCpus = n →
      cpusOf (x.snapshot maxCpus) = firstCpus maxCpus n := by
    intro x hx
    rw [x.stored_snapshot.cpusOf_eq, hx]
  have hrow : ∀ x : CollectCall, x.cpuCount maxCpus = n → ∀ cpu ∈ firstCpus maxCpus n,
      rowOf (x.snapshot maxCpus) cpu = x.row cpu :=
    fun x hx cpu hcpu => x.stored_snapshot.rowOf_eq (by rwa [hx])
  constructor
  · intro cpu hcpu
    have hmem : cpu ∈ firstCpus maxCpus n := mem_firstCpus.mpr hcpu
    have hmessage : messageAt q.2 (cpu + 1) = rowMessage (q.1.row cpu) (some (p.1.row cpu)) := by
      rw [hmsgs, messageAt, List.getD_cons_succ, hcpus q.1 hq, getD_map_firstCpus _ _ hcpu,
        hrow p.1 hp cpu hmem, hrow q.1 hq cpu hmem]
    have hmem' : cpu ∈ cpusOf (q.1.snapshot maxCpus) := by rwa [hcpus q.1 hq]
    have hmul := (hgrow.grows cpu hmem').percent_mul (hgrow.total_rowOf_lt hmem') share
      { cpuName := (q.1.row cpu).cpuName }
    rw [hrow p.1 hp cpu hmem, hrow q.1 hq cpu hmem] at hmul
    rw [hmessage]
    exact hmul.trans (sub_mul _ _ _)
  · have hmessage : messageAt q.2 0 = rowMessage (totalRow (q.1.snapshot maxCpus))
        (some (totalRow (p.1.snapshot maxCpus))) := by
      rw [hmsgs]
      rfl
    have htotal : ∀ x : CollectCall, x.cpuCount maxCpus = n → NoOverflow (x.snapshot maxCpus) →
        ((totalRow (x.snapshot maxCpus)).total : ℚ) = allTotal maxCpus n x ∧
          (share.time (totalRow (x.snapshot maxCpus)) : ℚ) = allTime maxCpus n share x := by
      intro x hx hover
      rw [total_totalRow hover, time_totalRow hover, hcpus x hx,
        List.map_congr_left fun cpu hcpu => congrArg ProcCpuStat.total (hrow x hx cpu hcpu),
        List.map_congr_left fun cpu hcpu => congrArg share.time (hrow x hx cpu hcpu)]
      exact ⟨rfl, rfl⟩
    have hmul := hgrow.grows_totalRow.percent_mul hgrow.total_totalRow_lt share
      { cpuName := (totalRow (q.1.snapshot maxCpus)).cpuName }
    obtain ⟨hqTotal, hqTime⟩ := htotal q.1 hq hgrow.noOverflow
    obtain ⟨hpTotal, hpTime⟩ := htotal p.1 hp hgrow.noOverflow_fst
    rw [hqTotal, hpTotal, hqTime, hpTime] at hmul
    rw [hmessage]
    exact hmul.trans (sub_mul _ _ _)

namespace LiveCpu

variable {s : LiveCpu maxCpus} {as : List (LiveCpuAction maxCpus)} {es : List LiveCpuEvent}

/-- Each report of a run but the first is that of a call on the refresh behind the one before. -/
lemma samples_follow (hrun : (liveCpu maxCpus).run start as = some (s, es))
    (hfew : (liveCpu maxCpus).Throughout (fun u => u.lock.updates < 2 ^ 31) start as)
    (hsteady : SteadyCounters maxCpus n (refreshes es)) :
    (samples es).IsChain (CallGrows maxCpus n) := by
  obtain ⟨hvalid, hchain, -⟩ := cpuSampling_run (run_sound hrun hfew).run
  obtain ⟨hmem, hordered⟩ := samples_ordered hsteady.grows
  have hold : ∀ p ∈ samples es, p.1 ∈ refreshes es := fun p hp =>
    hmem p.1 (List.mem_append_left _ (List.mem_map_of_mem hp))
  have hgrows := (List.pairwise_map.mp (List.pairwise_append.mp hordered).1).isChain
  rw [List.isChain_iff_forall_rel_of_append_cons_cons] at hchain hgrows ⊢
  intro p q before after hsplit
  have hp : p ∈ samples es := by simp [hsplit]
  have hq : q ∈ samples es := by simp [hsplit]
  exact ⟨hchain hsplit, hsteady.countersGrow (hold p hp) (hold q hq) (hgrows hsplit)
    (hvalid p hp) (hvalid q hq), hsteady.count _ (hold p hp), hsteady.count _ (hold q hq)⟩

/-- **What the percentages account for.** The kernel refreshes the region while `UpdateOnce` reads
it, its counters do not fall and their sums do not overflow. For each of the eight percentages, on
each CPU and in the row of all CPUs: what has been reported, each time the growth of the total time
since the report before, adds up to `100` times the growth of its own time, as the kernel has
counted it, from the refresh behind the first report to the one behind the last.

**Proof sketch.** The reports are those of calls on whole refreshes (`run_sound`), which come in
order (`samples_ordered`). Between two of them no counter has fallen, so that a percentage times the
growth of the total is the growth of its time (`CallGrows.percent_mul`), and the growths
telescope. -/
theorem percentages_account (hrun : (liveCpu maxCpus).run start as = some (s, es))
    (hfew : (liveCpu maxCpus).Throughout (fun u => u.lock.updates < 2 ^ 31) start as)
    (hsteady : SteadyCounters maxCpus n (refreshes es)) {first last : CollectCall × List CpuStat}
    (hfirst : (samples es).head? = some first) (hlast : (samples es).getLast? = some last)
    (share : CpuShare) :
    (∀ cpu : Fin maxCpus, cpu.val < n →
      Counter.sumSteps (fun p q => (cpuTotal cpu q.1 - cpuTotal cpu p.1) *
          share.percent (messageAt q.2 (cpu + 1))) (samples es) =
        cpuTime share cpu last.1 * 100 - cpuTime share cpu first.1 * 100) ∧
    Counter.sumSteps (fun p q => (allTotal maxCpus n q.1 - allTotal maxCpus n p.1) *
        share.percent (messageAt q.2 0)) (samples es) =
      allTime maxCpus n share last.1 * 100 - allTime maxCpus n share first.1 * 100 := by
  have hchain := samples_follow hrun hfew hsteady
  constructor
  · intro cpu hcpu
    have hstep : (samples es).IsChain fun p q =>
        (cpuTotal cpu q.1 - cpuTotal cpu p.1) * share.percent (messageAt q.2 (cpu + 1)) =
          cpuTime share cpu q.1 * 100 - cpuTime share cpu p.1 * 100 :=
      hchain.imp fun p q h => (h.percent_mul share).1 cpu hcpu
    exact (Counter.sumSteps_congr hstep).trans
      (Counter.sumSteps_sub (fun p : CollectCall × List CpuStat => cpuTime share cpu p.1 * 100)
        hfirst hlast)
  · have hstep : (samples es).IsChain fun p q =>
        (allTotal maxCpus n q.1 - allTotal maxCpus n p.1) * share.percent (messageAt q.2 0) =
          allTime maxCpus n share q.1 * 100 - allTime maxCpus n share p.1 * 100 :=
      hchain.imp fun p q h => (h.percent_mul share).2
    exact (Counter.sumSteps_congr hstep).trans
      (Counter.sumSteps_sub (fun p : CollectCall × List CpuStat =>
        allTime maxCpus n share p.1 * 100) hfirst hlast)

end LiveCpu

end Accounting

/-! ## A refresh in the middle of a call -/

namespace LiveCpu

/-- A run of fewer than `2 ^ 31` actions ends fewer refreshes. -/
lemma throughout_updates_lt {maxCpus : ℕ} {as : List (LiveCpuAction maxCpus)}
    (h : as.length < 2 ^ 31) :
    (liveCpu maxCpus).Throughout (fun u => u.lock.updates < 2 ^ 31) start as := by
  rintro before after s es rfl hrun
  have hlength : s.lock.history.length ≤ before.length := by
    refine (liveCpu maxCpus).run_induction
      (P := fun as s _ => s.lock.history.length ≤ as.length) le_rfl ?_ hrun
    intro as s es a s' fs _ ih hstep
    rw [List.length_append, List.length_singleton]
    rcases step_cases hstep with ⟨b, lock, les, mapped, phase, hb, rfl, -⟩ | ⟨mapped, phase, rfl, -⟩
    · have hone := Seqlock.length_history_step hb
      rw [lock_conclude]
      exact hone.trans (Nat.succ_le_succ ih)
    · exact ih.trans (Nat.le_succ _)
  have hle : s.lock.updates ≤ s.lock.history.length := by
    unfold Seqlock.State.updates
    split
    · exact Nat.sub_le ..
    · exact Nat.zero_le _
  rw [List.length_append] at h
  omega

/-- What a refresh finds on a machine with one CPU. -/
def oneCpuAt (user idle : ℕ) : CollectCall where
  numPossibleCpus := 1
  ktimeNs := 0
  cpustat := fun _ => ⟨fun field => if field = .user then user else 0, idle, 0⟩

/-- All stores of a refresh but the first, and its end. -/
def stores : List (LiveCpuAction 1) :=
  List.replicate 23 (.memory .storeWord) ++ [.memory .markEven]

/-- The loads of an attempt. -/
def loads : List (LiveCpuAction 1) :=
  (cpuStatLock 1).layout.map (fun a => .memory (.loadWord a)) ++
    [.memory .loadSeq, .memory .loadAfter]

/-- A refresh and a call, and a second refresh that the first attempt of the second call meets. -/
def overtaken : List (LiveCpuAction 1) :=
  [.memory (.begin (oneCpuAt 10 10)), .memory .markOdd] ++ stores ++
    [.updateOnce true, .memory (.loadBefore fun _ => 0)] ++ loads ++
    [.memory (.begin (oneCpuAt 40 80)), .memory .markOdd, .updateOnce true,
      .memory (.loadBefore fun _ => 0)] ++ stores ++ [.memory (.loadBefore fun _ => 0)] ++ loads

/-- The second report is that of a call on the second refresh. -/
theorem reports_atomic_overtaken : ∃ s es,
    (liveCpu 1).run start overtaken = some (s, es) ∧
      (reports es).map (List.map CpuStat.idlePercent) = [[0, 0], [70, 70]] ∧
      (samples es).map Prod.snd = reports es ∧
      (cpuSampling 1).run {} ((samples es).map Prod.fst) = some (s.monitor, samples es) := by
  have hend : ((liveCpu 1).run start overtaken).map
      (fun p => (reports p.2).map (List.map CpuStat.idlePercent)) = some [[0, 0], [70, 70]] := by
    decide +kernel
  obtain ⟨⟨s, es⟩, hrun, hreports⟩ := Option.map_eq_some_iff.mp hend
  have hfew := throughout_updates_lt (show overtaken.length < 2 ^ 31 by decide +kernel)
  exact ⟨s, es, hrun, hreports, reports_atomic hrun hfew⟩

/-- Of the time between the two refreshes, `70` percent were idle. -/
theorem percentages_account_overtaken : ∃ s es first last,
    (liveCpu 1).run start overtaken = some (s, es) ∧
      (samples es).head? = some first ∧ (samples es).getLast? = some last ∧
      cpuTotal 0 last.1 - cpuTotal 0 first.1 = 100 ∧
      Counter.sumSteps (fun p q => (allTotal 1 1 q.1 - allTotal 1 1 p.1) *
          CpuShare.idle.percent (messageAt q.2 0)) (samples es) =
        allTime 1 1 .idle last.1 * 100 - allTime 1 1 .idle first.1 * 100 := by
  have hend : ((liveCpu 1).run start overtaken).map
      (fun p : LiveCpu 1 × List LiveCpuEvent => ((samples p.2).map fun x => cpuTotal 0 x.1,
        decide ((∀ c ∈ refreshes p.2, c.cpuCount 1 = 1 ∧
            ((firstCpus 1 1).map fun cpu : Fin 1 => (c.row cpu).total).sum < 2 ^ 64) ∧
          (refreshes p.2).Pairwise fun c c' =>
            ∀ field ∈ CpuField.all, (c.row 0).counter field ≤ (c'.row 0).counter field))) =
      some ([20, 120], true) := by
    decide +kernel
  obtain ⟨⟨s, es⟩, hrun, hvalues⟩ := Option.map_eq_some_iff.mp hend
  obtain ⟨htotals, hsteady⟩ := Prod.ext_iff.mp hvalues
  obtain ⟨hcounts, hgrows⟩ := of_decide_eq_true hsteady
  obtain ⟨first, rest, hsamples, hfirst, hrest⟩ := List.map_eq_cons_iff.mp htotals
  obtain ⟨last, rest, rfl, hlast, hnil⟩ := List.map_eq_cons_iff.mp hrest
  obtain rfl := List.map_eq_nil_iff.mp hnil
  have hsteadyCounters : SteadyCounters 1 1 (refreshes es) :=
    ⟨fun c hc => (hcounts c hc).1, hgrows.imp fun h cpu hcpu field _ => by
      obtain rfl : cpu = 0 := by omega
      exact h field field.mem_all, fun c hc => (hcounts c hc).2⟩
  have hhead : (samples es).head? = some first := by rw [hsamples]; rfl
  have hgetLast : (samples es).getLast? = some last := by rw [hsamples]; rfl
  have hfew := throughout_updates_lt (show overtaken.length < 2 ^ 31 by decide +kernel)
  refine ⟨s, es, first, last, hrun, hhead, hgetLast, ?_,
    (percentages_account hrun hfew hsteadyCounters hhead hgetLast .idle).2⟩
  rw [hfirst, hlast]
  norm_num

end LiveCpu

end Monitor
