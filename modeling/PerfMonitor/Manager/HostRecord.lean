import PerfMonitor.Manager.ScheduleInvariant

set_option relaxedAutoImplicit false
set_option autoImplicit false

/-!
# The record of a host and its last sequence

`OnDataReceived` records the sequence in one locked section and the report in another. Between
the two another report of the host may record its own sequence, or a cleanup pass may forget the
host. The record and `last_sequences_` agree again in every quiet state if each report, when it
is stored, still is the last one that passed the duplicate check.

## Main definitions

* `Monitor.Service.RecordsAgree` — every stored sequence is the last one recorded.
* `Monitor.Service.StoresLatest` — a report is stored while its sequence is the last one recorded.

## Main results

* `Monitor.Service.run_followed` — a record that lags behind has a successor in progress.
* `Monitor.Service.quiet_recordsAgree` — the records agree in every state without a report in
  progress.
-/

namespace Monitor

/-- The report of a call that has passed the duplicate check and has not stored it yet. -/
def ReportState.unstored : ReportState → Option NamedReport
  | .checked r => some r
  | .scored r _ => some r
  | .sampled r _ _ => some r
  | _ => none

namespace Service

variable {s s' : Service} {a : ServiceAction} {as : List ServiceAction}
  {es : List ServiceEvent} {clock : Time}

/-- Every host whose stored report has a sequence has it as its last sequence. -/
def RecordsAgree (m : HostManager) : Prop :=
  ∀ h r, m.hostScores.lookup h = some r → r.info.sequence ≠ 0 →
    m.lastSequences.lookup h = some r.info.sequence

/-- When a report with a sequence is stored, that sequence is still the last one recorded for
the host. -/
def StoresLatest (s : Service) : ServiceAction → Prop
  | .store t => ∀ r now rates, s.reports.lookup t = some (.sampled r now rates) →
      r.info.sequence ≠ 0 → s.manager.lastSequences.lookup r.host = some r.info.sequence
  | _ => True

instance : ∀ s a, Decidable (StoresLatest s a)
  | s, .store t =>
    match ht : s.reports.lookup t with
    | some (.sampled r now rates) =>
      decidable_of_iff (r.info.sequence ≠ 0 →
          s.manager.lastSequences.lookup r.host = some r.info.sequence) <| by
        simp only [StoresLatest, ht, Option.some.injEq, ReportState.sampled.injEq]
        exact ⟨fun h _ _ _ heq => heq.1 ▸ h, fun h => h r now rates ⟨rfl, rfl, rfl⟩⟩
    | none | some (.received _) | some (.checked _) | some (.scored _ _) | some (.stored _)
    | some (.picked _) => isTrue fun r now rates hr => by simp [ht] at hr
  | _, .receive .. | _, .check _ | _, .score _ | _, .sample _ | _, .pick .. | _, .enqueue _
  | _, .select .. | _, .respond _ | _, .cleanup _ | _, .tick _ => isTrue trivial

/-! ## Reports in progress -/

/-- Some call in progress has passed the duplicate check with report `r` and not stored it. -/
def Unstored (reports : UnorderedMap ℕ ReportState) (r : NamedReport) : Prop :=
  ∃ t st, reports.lookup t = some st ∧ st.unstored = some r

variable {reports : UnorderedMap ℕ ReportState} {r : NamedReport} {t : ℕ} {old st : ReportState}

/-- A report stays in progress while its call moves on without storing it. -/
lemma Unstored.insert (h : Unstored reports r)
    (hkeep : ∀ old, reports.lookup t = some old → old.unstored = some r → st.unstored = some r) :
    Unstored (reports.insert t st) r := by
  obtain ⟨i, old, hi, hold⟩ := h
  by_cases hit : i = t
  · exact ⟨t, st, AList.lookup_insert _, hkeep old (hit ▸ hi) hold⟩
  · exact ⟨i, old, by rw [UnorderedMap.lookup_insert_ite, if_neg hit, hi], hold⟩

/-- The same when it is known how far the call was. -/
lemma Unstored.advance (h : Unstored reports r) (ht : reports.lookup t = some old)
    (hkeep : old.unstored = some r → st.unstored = some r) : Unstored (reports.insert t st) r := by
  refine h.insert fun old' hold' hun => ?_
  obtain rfl := UnorderedMap.lookup_unique ht hold'
  exact hkeep hun

/-- A report stays in progress when a call ends that has not passed the check with it or has
stored it. -/
lemma Unstored.erase (h : Unstored reports r) (ht : reports.lookup t = some old)
    (hother : old.unstored ≠ some r) : Unstored (reports.erase t) r := by
  obtain ⟨i, old', hi, hun⟩ := h
  have hit : i ≠ t := by
    rintro rfl
    obtain rfl := UnorderedMap.lookup_unique ht hi
    exact hother hun
  exact ⟨i, old', by rw [UnorderedMap.lookup_erase_ite, if_neg hit, hi], hun⟩

/-! ## The invariant -/

/-- A record that does not agree with the last sequence is followed by a report in progress that
does. -/
def Followed (s : Service) : Prop :=
  ∀ h r, s.manager.hostScores.lookup h = some r → r.info.sequence ≠ 0 →
    s.manager.lastSequences.lookup h = some r.info.sequence ∨
    ∃ r', Unstored s.reports r' ∧ r'.host = h ∧
      s.manager.lastSequences.lookup h = some r'.info.sequence

/-- A step that touches neither map keeps the invariant if no report in progress is lost. -/
lemma Followed.frame (h : Followed s) (hscores : s'.manager.hostScores = s.manager.hostScores)
    (hlast : s'.manager.lastSequences = s.manager.lastSequences)
    (hkeep : ∀ r, Unstored s.reports r → Unstored s'.reports r) : Followed s' := by
  intro host rec hrec hseq
  rw [hscores] at hrec
  rw [hlast]
  rcases h host rec hrec hseq with hagree | ⟨r, hr, hhost, hagree⟩
  · exact Or.inl hagree
  · exact Or.inr ⟨r, hkeep r hr, hhost, hagree⟩

/-- **A step that stores only the latest report keeps the invariant.**

**Proof sketch.** A report that passes the check becomes the successor of its host's record. A
report that is stored agrees, by the condition, and is no other host's successor. A cleanup pass
forgets a host's record and last sequence together. Nothing else touches either map. -/
lemma Step.followed (hstep : Step s a s' es) (h : Followed s) (hlatest : StoresLatest s a) :
    Followed s' := by
  cases hstep with
  | receive t info ht =>
    refine h.frame rfl rfl fun r hr => hr.insert fun old hold _ => ?_
    exact absurd (UnorderedMap.mem_iff_lookup.mpr ⟨old, hold⟩) ht
  | checkUnnamed t info ht hn =>
    exact h.frame rfl rfl fun r hr => hr.erase ht (by simp [ReportState.unstored])
  | checkDuplicate t r' ht hd =>
    exact h.frame rfl rfl fun r hr => hr.erase ht (by simp [ReportState.unstored])
  | checkAccept t r m ht hd =>
    obtain ⟨-, rfl⟩ := HostManager.checkDuplicate_eq_some_iff.mp hd
    intro host rec hrec hseq
    have hkeep : ∀ r', Unstored s.reports r' → Unstored (s.reports.insert t (.checked r)) r' :=
      fun r' hr' => hr'.advance ht (by simp [ReportState.unstored])
    dsimp only at hrec ⊢
    by_cases hnew : r.info.sequence > 0 ∧ host = r.host
    · refine Or.inr ⟨r, ⟨t, .checked r, AList.lookup_insert _, rfl⟩, hnew.2.symm, ?_⟩
      rw [if_pos hnew.1, hnew.2]
      exact AList.lookup_insert _
    · have hlast : (if r.info.sequence > 0 then
            s.manager.lastSequences.insert r.host r.info.sequence
          else s.manager.lastSequences).lookup host = s.manager.lastSequences.lookup host := by
        split_ifs with hpos
        · rw [UnorderedMap.lookup_insert_ite, if_neg fun heq => hnew ⟨hpos, heq⟩]
        · rfl
      rw [hlast]
      rcases h host rec hrec hseq with hagree | ⟨r', hr', hhost, hagree⟩
      · exact Or.inl hagree
      · exact Or.inr ⟨r', hkeep r' hr', hhost, hagree⟩
  | score t r ht => exact h.frame rfl rfl fun r' hr' => hr'.advance ht id
  | sample t r now ht => exact h.frame rfl rfl fun r' hr' => hr'.advance ht id
  | store t r now rates ht =>
    intro host rec hrec hseq
    dsimp only [HostManager.storeReport] at hrec ⊢
    rw [UnorderedMap.lookup_insert_ite] at hrec
    split_ifs at hrec with hhost
    · cases hrec
      rw [hhost]
      exact Or.inl (hlatest r now rates ht hseq)
    · rcases h host rec hrec hseq with hagree | ⟨r', hr', hhost', hagree⟩
      · exact Or.inl hagree
      · refine Or.inr ⟨r', hr'.advance ht fun hun => ?_, hhost', hagree⟩
        obtain rfl : r = r' := Option.some.inj hun
        exact absurd hhost'.symm hhost
  | pick t ord task ht =>
    exact h.frame (HostManager.getBestHost_hostScores _ _)
      (HostManager.getBestHost_lastSequences _ _) fun r' hr' =>
        hr'.advance ht (by simp [ReportState.unstored])
  | enqueue t task ht =>
    exact h.frame rfl rfl fun r' hr' => hr'.erase ht (by simp [ReportState.unstored])
  | selectNone q ord hq hb =>
    exact h.frame (HostManager.getBestHost_hostScores _ _)
      (HostManager.getBestHost_lastSequences _ _) fun _ hr => hr
  | select q ord hq hb =>
    exact h.frame (HostManager.getBestHost_hostScores _ _)
      (HostManager.getBestHost_lastSequences _ _) fun _ hr => hr
  | respond | tick => exact h.frame rfl rfl fun _ hr => hr
  | cleanup now hnow =>
    intro host rec hrec hseq
    dsimp only at hrec ⊢
    rw [HostManager.lookup_removeStaleHosts] at hrec
    rw [HostManager.lookup_lastSequences_removeStaleHosts]
    split_ifs at hrec ⊢ with hstale
    exact h host rec hrec hseq

/-- In a run that stores only the latest reports, every record that lags behind has a successor
in progress. -/
lemma run_followed (hrun : service.run (start clock) as = some (s, es))
    (hlatest : service.Meets StoresLatest (start clock) as) : Followed s := by
  refine service.run_invariant_of_meets (C := StoresLatest) (I := Followed) ?_ ?_ hlatest hrun
  · exact fun _ _ _ _ hC hI hstep => (service_step_iff.mp hstep).followed hI hC
  · intro h r hr
    cases hr

/-- **The records agree in every quiet state** of a run in which each report is stored while its
sequence is the last one recorded for its host. -/
theorem quiet_recordsAgree (hrun : service.run (start clock) as = some (s, es))
    (hlatest : service.Meets StoresLatest (start clock) as) (hquiet : ∀ t, t ∉ s.reports) :
    RecordsAgree s.manager := by
  intro h r hr hseq
  rcases run_followed hrun hlatest h r hr hseq with hagree | ⟨r', ⟨t, st, ht, -⟩, -⟩
  · exact hagree
  · exact absurd (UnorderedMap.mem_iff_lookup.mpr ⟨st, ht⟩) (hquiet t)

/-- Without entries no call is in progress. -/
lemma forall_notMem_of_isEmpty (h : reports.entries.isEmpty = true) : ∀ t, t ∉ reports := by
  intro t ht
  have hkeys : t ∈ reports.keys := ht
  simp [AList.keys, List.isEmpty_iff.mp h] at hkeys

/-- Two reports of host `"a"` and one of `"b"` overlap; the second of `"a"` passes the check after
the first is stored, while its call is still in progress. -/
def overlappingActions : List ServiceAction :=
  [.receive 0 (idleInfo "a" 1), .receive 1 (idleInfo "a" 2), .check 0, .receive 2 (busyInfo "b" 1),
    .check 2, .score 0, .sample 0, .score 2, .store 0, .check 1, .sample 2, .pick 0 .stored,
    .store 2, .score 1, .sample 1, .pick 2 .stored, .store 1, .enqueue 0, .pick 1 .stored,
    .enqueue 1, .enqueue 2]

/-- Overlapping reports, each stored while its sequence is the last one recorded. -/
theorem quiet_recordsAgree_overlapping : ∃ s es,
    service.run (start 0) overlappingActions = some (s, es) ∧
      s.manager.hostScores.lookup "a" = some ⟨idleInfo "a" 2, 100, 0⟩ ∧
      s.manager.hostScores.lookup "b" = some ⟨busyInfo "b" 1, 50, 0⟩ ∧
      RecordsAgree s.manager := by
  have hend : (service.run (start 0) overlappingActions).map (fun p =>
      (p.1.reports.entries.isEmpty, p.1.manager.hostScores.lookup "a",
        p.1.manager.hostScores.lookup "b")) =
      some (true, some ⟨idleInfo "a" 2, 100, 0⟩, some ⟨busyInfo "b" 1, 50, 0⟩) := by
    decide +kernel
  obtain ⟨⟨s, es⟩, hrun, hs⟩ := Option.map_eq_some_iff.mp hend
  simp only [Prod.mk.injEq] at hs
  obtain ⟨hempty, ha, hb⟩ := hs
  exact ⟨s, es, hrun, ha, hb,
    quiet_recordsAgree hrun (by decide +kernel) (forall_notMem_of_isEmpty hempty)⟩

/-! ## Two overlapping reports -/

/-- Two reports of one host pass the check in one order and are stored in the other. -/
def crossingActions : List ServiceAction :=
  [.receive 0 (idleInfo "a" 1), .check 0, .receive 1 (idleInfo "a" 2), .check 1,
    .score 1, .sample 1, .store 1, .score 0, .sample 0, .store 0,
    .pick 0 .stored, .enqueue 0, .pick 1 .stored, .enqueue 1]

/-- **Two overlapping reports can leave a record that disagrees**: the record holds the first
sequence and `last_sequences_` the second, with no report in progress. -/
theorem crossing_reports_disagree :
    ¬ ∀ (clock : Time) (as : List ServiceAction) (s : Service) (es : List ServiceEvent),
      service.run (start clock) as = some (s, es) → (∀ t, t ∉ s.reports) →
      RecordsAgree s.manager := by
  intro halways
  have hend : (service.run (start 0) crossingActions).map (fun p =>
      (p.1.reports.entries.isEmpty, p.1.manager.hostScores.lookup "a",
        p.1.manager.lastSequences.lookup "a")) =
      some (true, some ⟨idleInfo "a" 1, 100, 0⟩, some 2) := by decide +kernel
  obtain ⟨⟨s, es⟩, hrun, hs⟩ := Option.map_eq_some_iff.mp hend
  simp only [Prod.mk.injEq] at hs
  obtain ⟨hempty, hrecord, hlast⟩ := hs
  have hagree := halways 0 crossingActions s es hrun (forall_notMem_of_isEmpty hempty) "a" _ hrecord
    (by decide)
  rw [hlast] at hagree
  exact absurd hagree (by decide)

end Service

end Monitor
