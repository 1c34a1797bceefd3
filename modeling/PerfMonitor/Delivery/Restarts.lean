import PerfMonitor.Manager.History
import PerfMonitor.Worker.MetricCollector

set_option relaxedAutoImplicit false
set_option autoImplicit false
set_option linter.unusedSectionVars false

/-!
# First deliveries across restarts

The manager recognises a duplicate by the last sequence of its host, the table by server name and
sequence. Both know only what was delivered, so a host whose samples never repeat a sequence keeps
clear of them: the first time that a sample reaches the manager, nothing there has its key. Retries,
reordering, cleanup passes, other hosts and restarts of either side do not matter.

## Main definitions

* `Monitor.hostKey` — the host of a report, as the unique key compares names.
* `Monitor.SamplesOfHost` — the samples of one host among all samples, no other host having its key.
* `Monitor.History.Known` — all that the manager remembers was delivered.

## Main results

* `Monitor.History.run_known` — so it is in every history.
* `Monitor.restarted_samples_kept` — no first delivery is a duplicate or loses its row.
-/

namespace Monitor

/-- What `uk_host_seq` compares of the host of a report. -/
def hostKey {γ : Type} [DecidableEq γ] (collate : List UInt8 → γ) (info : MonitorInfo) : γ :=
  (hostSeqKey collate (hostName info) info.sequence).1

/-- Of all samples, the first ones are those of one host, and no other host has its key. -/
structure SamplesOfHost {κ : Type} (key : MonitorInfo → κ) (samples : List MonitorInfo)
    (sent : ℕ → MonitorInfo) : Prop where
  own : ∀ i x, samples[i]? = some x → sent i = x
  others : ∀ i, samples.length ≤ i → ∀ x ∈ samples, key (sent i) ≠ key x

namespace SamplesOfHost

variable {κ : Type} {key : MonitorInfo → κ} {samples : List MonitorInfo} {sent : ℕ → MonitorInfo}

lemma sent_mem (h : SamplesOfHost key samples sent) {i : ℕ} (hi : i < samples.length) :
    sent i ∈ samples := by
  rw [h.own i _ (List.getElem?_eq_getElem hi)]
  exact List.getElem_mem hi

/-- Another sample with the key of a sample of the host has a different sequence. -/
lemma sequence_ne (h : SamplesOfHost key samples sent)
    (hsorted : samples.Pairwise fun x y => x.sequence < y.sequence) {i j : ℕ}
    (hi : i < samples.length) (hij : j ≠ i) (hkey : key (sent j) = key (sent i)) :
    (sent j).sequence ≠ (sent i).sequence := by
  by_cases hj : j < samples.length
  · rw [h.own i _ (List.getElem?_eq_getElem hi), h.own j _ (List.getElem?_eq_getElem hj)]
    rw [List.pairwise_iff_getElem] at hsorted
    rcases Nat.lt_or_gt_of_ne hij with hlt | hgt
    · exact (hsorted j i hj hi hlt).ne
    · exact (hsorted i j hi hj hgt).ne'
  · exact absurd hkey (h.others j (Nat.le_of_not_lt hj) (sent i) (h.sent_mem hi))

end SamplesOfHost

/-! ## What the manager knows -/

namespace History

variable {sent : ℕ → MonitorInfo} {s s' : History} {as : List HistoryAction}
  {es fs : List HistoryEvent}

/-- All last sequences and all tasks are those of samples that were delivered. -/
structure Known (sent : ℕ → MonitorInfo) (s : History) : Prop where
  last : ∀ host seq, s.manager.lastSequences.lookup host = some seq →
    ∃ j ∈ s.delivered, hostName (sent j) = host ∧ (sent j).sequence = seq
  queue : ∀ task ∈ s.manager.mysqlWriteQueue,
    ∃ j ∈ s.delivered, task.hostName = hostName (sent j) ∧ task.hostScore.info = sent j

/-- What was delivered stays delivered. -/
lemma mem_delivered_step (sent : ℕ → MonitorInfo) (s : History) (a : HistoryAction) {j : ℕ}
    (hj : j ∈ s.delivered) : j ∈ (s.step sent a).1.delivered := by
  cases a with
  | report id ord now => exact List.mem_append_left _ hj
  | cleanup now => exact hj
  | query ord => exact hj

lemma Known.step (h : Known sent s) (a : HistoryAction) : Known sent (s.step sent a).1 := by
  have hold : ∀ {p : ℕ → Prop}, (∃ j ∈ s.delivered, p j) →
      ∃ j ∈ (s.step sent a).1.delivered, p j :=
    fun ⟨j, hj, hp⟩ => ⟨j, mem_delivered_step sent s a hj, hp⟩
  rcases @step_cases sent s a with hskip | ⟨id, task, henq⟩
  · refine ⟨fun host seq hseq => hold (h.last host seq (hskip.last host seq hseq)), ?_⟩
    intro task htask
    rw [hskip.queue] at htask
    exact hold (h.queue task htask)
  · have hid : id ∈ (s.step sent a).1.delivered := by
      rw [henq.delivered]
      exact List.mem_append_right _ (List.mem_singleton_self id)
    constructor
    · intro host seq hseq
      rcases henq.last host seq hseq with hlast | ⟨rfl, rfl⟩
      · exact hold (h.last host seq hlast)
      · exact ⟨id, hid, rfl, rfl⟩
    · intro task' htask'
      rw [henq.queue] at htask'
      rcases List.mem_append.mp htask' with hmem | hmem
      · exact hold (h.queue task' hmem)
      · rw [List.mem_singleton.mp hmem]
        exact ⟨id, hid, henq.host, henq.info⟩

lemma mem_delivered_of_run (hrun : (history sent).run s as = some (s', es)) {j : ℕ}
    (hj : j ∈ s.delivered) : j ∈ s'.delivered := by
  refine (history sent).run_induction (P := fun _ t _ => j ∈ t.delivered) hj ?_ hrun
  intro as t es a u fs _ ih hstep
  obtain ⟨rfl, -⟩ := Prod.ext_iff.mp (Option.some.inj hstep)
  exact mem_delivered_step sent t a ih

/-- **All that a manager remembers was delivered** to it, in every history. -/
theorem run_known {earlier : List ℕ}
    (hrun : (history sent).run { delivered := earlier } as = some (s, es)) : Known sent s := by
  refine (history sent).run_induction (P := fun _ t _ => Known sent t) ⟨?_, ?_⟩ ?_ hrun
  · intro host seq hseq
    cases hseq
  · intro task htask
    cases htask
  · intro as t es a u fs _ ih hstep
    obtain ⟨rfl, -⟩ := Prod.ext_iff.mp (Option.some.inj hstep)
    exact ih.step a

end History

/-! ## First deliveries -/

section FirstDelivery

variable {γ : Type} [DecidableEq γ] {collate : List UInt8 → γ} {localtime : ℤ → Tm}
  {c : Option MetricCollector} {actions : List CollectorAction} {samples : List MonitorInfo}
  {sent : ℕ → MonitorInfo} {earlier : List ℕ} {s : History} {as : List HistoryAction}
  {es : List HistoryEvent}

/-- A sample that was not delivered is not the last one of its host. -/
lemma History.Known.last_ne (hknown : s.Known sent) (hsent : SamplesOfHost hostName samples sent)
    (hsorted : samples.Pairwise fun x y => x.sequence < y.sequence) {i : ℕ}
    (hi : i < samples.length) (hfirst : i ∉ s.delivered) :
    s.manager.lastSequences.lookup (hostName (sent i)) ≠ some (sent i).sequence := by
  intro hlast
  obtain ⟨j, hj, hname, hseq⟩ := hknown.last _ _ hlast
  exact hsent.sequence_ne hsorted hi (fun h => hfirst (h ▸ hj)) hname hseq

/-- No row of a delivered sample has the key of a sample that was not delivered. -/
lemma SamplesOfHost.hostSeqKey_ne (hkeys : SamplesOfHost (hostKey collate) samples sent)
    (hsorted : samples.Pairwise fun x y => x.sequence < y.sequence) {i j : ℕ}
    (hi : i < samples.length) (hfirst : i ∉ s.delivered) (hj : j ∈ s.delivered) :
    hostSeqKey collate (hostName (sent j)) (sent j).sequence ≠
      hostSeqKey collate (hostName (sent i)) (sent i).sequence := by
  intro h
  obtain ⟨hname, hseq⟩ := Prod.ext_iff.mp h
  exact hkeys.sequence_ne hsorted hi (fun h => hfirst (h ▸ hj)) hname hseq

/-- **First deliveries are kept.** Over all processes of a host whose wall clock does not step back
and advances by a millisecond after every sample, the sequences increase. So in every history of a
manager, started when the samples `earlier` had been delivered, a sample of the host that is
delivered for the first time is no duplicate if no other host has its name. If no other host has
its name as the unique key compares names, and the table held rows of delivered samples and of
other hosts only when the manager was started, the task of the sample inserts a row, whichever of
the tasks before it were committed.

**Proof sketch.** The manager's memory and its queue know only samples that were delivered
(`History.run_known`), and none of these has both the name and the sequence of the new one
(`SamplesOfHost.sequence_ne`). -/
theorem restarted_samples_kept (hhost : metricCollector.run none actions = some (c, samples))
    (hpaced : actions.IsChain CollectorAction.Paced)
    (hsent : SamplesOfHost hostName samples sent)
    (hrun : (history sent).run { delivered := earlier } as = some (s, es)) :
    (samples.Pairwise fun x y => x.sequence < y.sequence) ∧
      ∀ i < samples.length, i ∉ s.delivered →
        s.manager.checkDuplicate (hostName (sent i)) (sent i).sequence ≠ none ∧
          ∀ before : KeyedTable ServerPerformance fun r => (collate r.serverName, r.sequence),
            SamplesOfHost (hostKey collate) samples sent →
            (∀ key ∈ before.keys, (∀ x ∈ samples, key.1 ≠ hostKey collate x) ∨
              ∃ j ∈ earlier, key = hostSeqKey collate (hostName (sent j)) (sent j).sequence) →
            ∀ ord now, hostName (sent i) ≠ "" →
              ∃ task, (s.manager.onDataReceived ord (sent i) now).mysqlWriteQueue =
                  s.manager.mysqlWriteQueue ++ [task] ∧ task.hostScore.info = sent i ∧
                ∀ written : List MysqlWriteTask, written.Sublist s.manager.mysqlWriteQueue →
                  ((before.insertAll (written.map (performanceRow localtime))).insertIgnore
                      (performanceRow localtime task)).rows =
                    (before.insertAll (written.map (performanceRow localtime))).rows ++
                      [performanceRow localtime task] := by
  have hsorted := MetricCollector.run_increasing hhost hpaced
  have hknown := History.run_known hrun
  refine ⟨hsorted, fun i hi hfirst => ?_⟩
  have hlast := hknown.last_ne hsent hsorted hi hfirst
  constructor
  · intro hduplicate
    exact hlast (HostManager.checkDuplicate_eq_none_iff.mp hduplicate).2
  intro before hkeys hbefore ord now hnamed
  rcases s.manager.onDataReceived_cases ord (sent i) now with
    ⟨-, hunnamed | hsame⟩ | ⟨-, rates, hqueue, -⟩
  · exact absurd hunnamed hnamed
  · exact absurd hsame hlast
  refine ⟨_, hqueue, rfl, fun written hwritten => ?_⟩
  apply KeyedTable.rows_insertIgnore_of_notMem
  intro hmem
  -- A key that is taken is that of a row from before, or that of a task written since.
  rcases KeyedTable.mem_keys_insertAll.mp hmem with hold | hnew
  · rcases hbefore _ hold with hforeign | ⟨j, hj, hkey⟩
    · exact hforeign (sent i) (hkeys.sent_mem hi) rfl
    · have hdelivered : j ∈ s.delivered := History.mem_delivered_of_run hrun hj
      exact hkeys.hostSeqKey_ne hsorted hi hfirst hdelivered hkey.symm
  · rw [List.map_map] at hnew
    obtain ⟨task, htask, hkey⟩ := List.mem_map.mp hnew
    obtain ⟨j, hj, hname, hinfo⟩ := hknown.queue task (hwritten.subset htask)
    refine hkeys.hostSeqKey_ne hsorted hi hfirst hj ?_
    have htaskKey : historyKey collate task =
        hostSeqKey collate (hostName (sent i)) (sent i).sequence := hkey
    rwa [historyKey, hname, hinfo] at htaskKey

end FirstDelivery

/-- A process that takes one sample, and the one that follows it a millisecond later. -/
def twoProcesses : List CollectorAction :=
  [.construct 0 (some "a"), .collectAll 0 {}, .construct 1000000 (some "a"), .collectAll 1000000 {}]

/-- The samples of the two processes of host `a`, and those of host `b`. -/
def samplesOfTwo : ℕ → MonitorInfo
  | 0 => { name := "a", sequence := 1 }
  | 1 => { name := "a", sequence := 2 }
  | _ => { name := "b", sequence := 2 }

/-- The sample of the second process is no duplicate when only that of the first was delivered. -/
theorem restarted_samples_kept_two :
    ∃ p, (history samplesOfTwo).run {} [.report 0 .stored 0] = some p ∧
      p.1.manager.checkDuplicate "a" 2 ≠ none := by
  obtain ⟨⟨s, es⟩, hrun⟩ : ∃ p, (history samplesOfTwo).run {} [.report 0 .stored 0] = some p :=
    ⟨_, rfl⟩
  have hdelivered : s.delivered = [0] := by
    cases hrun
    rfl
  have hhost : metricCollector.run none twoProcesses =
      some (some ⟨"a", 2⟩, [samplesOfTwo 0, samplesOfTwo 1]) := by decide +kernel
  have hpaced : twoProcesses.IsChain CollectorAction.Paced := by
    have hgap : (0 : ClockReading).val + 1000000 ≤ (1000000 : ClockReading).val := by decide
    simp only [twoProcesses, List.isChain_cons_cons, List.isChain_singleton, and_true]
    exact ⟨Nat.le_refl 0, hgap, Nat.le_refl _⟩
  have hsent : SamplesOfHost hostName [samplesOfTwo 0, samplesOfTwo 1] samplesOfTwo := by
    constructor
    · rintro (_ | _ | i) x hx <;> cases hx <;> rfl
    · rintro (_ | _ | i) hi x hx
      · cases hi
      · cases hi
        contradiction
      · have hb : hostName (samplesOfTwo (i + 1 + 1)) = "b" := rfl
        rw [hb]
        simp only [List.mem_cons, List.not_mem_nil, or_false] at hx
        rcases hx with rfl | rfl <;> decide
  have hkept := (@restarted_samples_kept (List UInt8) _ id epoch _ _ _ _ [] s _ es hhost hpaced
    hsent hrun).2 1 (by decide) (by rw [hdelivered]; decide)
  exact ⟨(s, es), hrun, hkept.1⟩

end Monitor
