import PerfMonitor.Manager.MysqlWriteLoop

set_option relaxedAutoImplicit false
set_option autoImplicit false
set_option linter.unusedSectionVars false

/-!
# The history of a host

Two layers decide what a duplicate is. `OnDataReceived` compares a sequence with the last one of
the host and lets sequence `0` through; the unique key `uk_host_seq` of `server_performance`
compares server name and sequence with every row. A redelivered sample that passes the first is
ignored by the second, and so is a different sample with a key that is taken.

## Main definitions

* `Monitor.History`, `Monitor.history` — reports handled one after the other, with cleanup passes
  and queries in between. Samples are numbered, and a report of a number that was delivered before
  is a redelivery.
* `Monitor.historyKey` — the key of a task's main row.
* `Monitor.OwnRows` — every accepted report that is not a redelivery has its row.
* `Monitor.History.Skips`, `Monitor.History.Enqueues` — what a call can do.

## Main results

* `Monitor.History.run_keysTaken` — the key of every delivered sample is the key of a task.
* `Monitor.History.own_rows_iff` — exactly when every such report has its own row.
-/

namespace Monitor

/-! ## What a report enqueues -/

namespace HostManager

@[simp] lemma getBestHost_mysqlWriteQueue (ord : HashOrder) (m : HostManager) :
    (m.getBestHost ord).2.mysqlWriteQueue = m.mysqlWriteQueue := by
  obtain ⟨states, h⟩ := m.getBestHost_frame ord
  rw [h]

@[simp] lemma removeStaleHosts_mysqlWriteQueue (now : Time) (m : HostManager) :
    (m.removeStaleHosts now).mysqlWriteQueue = m.mysqlWriteQueue := by
  rw [removeStaleHosts_eq]

/-- An accepted report enqueues its task. -/
lemma applyReport_mysqlWriteQueue (ord : HashOrder) (m : HostManager) (host : String)
    (info : MonitorInfo) (now : Time) :
    ∃ rates, (m.applyReport ord host info now).mysqlWriteQueue =
      m.mysqlWriteQueue ++ [writeTask host ⟨info, calcScore info, now⟩ rates] := by
  simp only [applyReport, enqueueMysqlWrite, getBestHost_mysqlWriteQueue, storeReport,
    replaceSample]
  exact ⟨_, rfl⟩

/-- A report changes nothing, naming no host or repeating its host's last sequence, or it is
recorded and enqueued. -/
lemma onDataReceived_cases (ord : HashOrder) (m : HostManager) (info : MonitorInfo) (now : Time) :
    (m.onDataReceived ord info now = m ∧ (hostName info = "" ∨
        m.lastSequences.lookup (hostName info) = some info.sequence)) ∨
      hostName info ≠ "" ∧ ∃ rates,
        (m.onDataReceived ord info now).mysqlWriteQueue = m.mysqlWriteQueue ++
          [writeTask (hostName info) ⟨info, calcScore info, now⟩ rates] ∧
        (m.onDataReceived ord info now).lastSequences =
          if info.sequence > 0 then m.lastSequences.insert (hostName info) info.sequence
          else m.lastSequences := by
  by_cases hn : hostName info = ""
  · exact Or.inl ⟨by simp only [onDataReceived, if_pos hn], Or.inl hn⟩
  · cases hd : m.checkDuplicate (hostName info) info.sequence with
    | none =>
      exact Or.inl ⟨onDataReceived_duplicate hn hd, Or.inr (checkDuplicate_eq_none_iff.mp hd).2⟩
    | some m₁ =>
      obtain ⟨-, rfl⟩ := checkDuplicate_eq_some_iff.mp hd
      rw [onDataReceived_accept hn hd]
      obtain ⟨rates, hqueue⟩ := applyReport_mysqlWriteQueue ord { m with
        lastSequences := if info.sequence > 0 then
            m.lastSequences.insert (hostName info) info.sequence
          else m.lastSequences } (hostName info) info now
      exact Or.inr ⟨hn, rates, hqueue, applyReport_lastSequences _ _ _ _ _⟩

end HostManager

/-! ## Histories -/

/-- The manager's memory and the samples delivered so far. -/
structure History where
  manager : HostManager := {}
  delivered : List ℕ := []

inductive HistoryAction where
  /-- Sample `id` is reported, for the first time or again. -/
  | report (id : ℕ) (ord : HashOrder) (now : Time)
  | cleanup (now : Time)
  | query (ord : HashOrder)

/-- A task was enqueued for a sample's first delivery, or for a redelivery. -/
inductive HistoryEvent where
  | original (task : MysqlWriteTask)
  | redelivery (task : MysqlWriteTask)

/-- The tasks of accepted reports that are not redeliveries. -/
def originalTasks (es : List HistoryEvent) : List MysqlWriteTask :=
  es.filterMap fun
    | .original task => some task
    | _ => none

lemma originalTasks_append (es fs : List HistoryEvent) :
    originalTasks (es ++ fs) = originalTasks es ++ originalTasks fs :=
  List.filterMap_append

namespace History

/-- One call; sample `id` is the message `sent id`. -/
def step (sent : ℕ → MonitorInfo) (s : History) : HistoryAction → History × List HistoryEvent
  | .report id ord now =>
    let m := s.manager.onDataReceived ord (sent id) now
    let enqueued := m.mysqlWriteQueue.drop s.manager.mysqlWriteQueue.length
    ({ manager := m, delivered := s.delivered ++ [id] },
      if id ∈ s.delivered then enqueued.map .redelivery else enqueued.map .original)
  | .cleanup now => ({ s with manager := s.manager.removeStaleHosts now }, [])
  | .query ord => ({ s with manager := (s.manager.getBestHost ord).2 }, [])

end History

/-- The calls on the manager as an event machine. -/
def history (sent : ℕ → MonitorInfo) : EventMachine History HistoryAction HistoryEvent where
  step s a := some (s.step sent a)

section Keys

variable {γ : Type} [DecidableEq γ] (collate : List UInt8 → γ)

/-- The value of `uk_host_seq` for a sequence of a host. -/
def hostSeqKey (host : String) (seq : ℕ) : γ × ℕ := (collate (boundBytes 255 host), seq)

/-- The value of `uk_host_seq` for a task. -/
def historyKey (task : MysqlWriteTask) : γ × ℕ :=
  hostSeqKey collate task.hostName task.hostScore.info.sequence

/-- In a history from `before` to `after`, the main table has gained a row of its own for every
accepted report that is not a redelivery, with the values of the report. -/
def OwnRows {collate : List UInt8 → γ} (localtime : ℤ → Tm) (es : List HistoryEvent)
    (before after : Database collate) : Prop :=
  (before.performance.rows ++ (originalTasks es).map (performanceRow localtime)).Subperm
    after.performance.rows

namespace History

variable {collate} {sent : ℕ → MonitorInfo} {s s' : History} {as : List HistoryAction}
  {es fs : List HistoryEvent} {localtime : ℤ → Tm}

/-! ## What a call can do -/

/-- A call that enqueues nothing. The sample it delivers, if any, names no host or repeats the
host's last sequence. -/
structure Skips (sent : ℕ → MonitorInfo) (s s' : History) (fs : List HistoryEvent) : Prop where
  queue : s'.manager.mysqlWriteQueue = s.manager.mysqlWriteQueue
  original : originalTasks fs = []
  last : ∀ host seq, s'.manager.lastSequences.lookup host = some seq →
    s.manager.lastSequences.lookup host = some seq
  delivered : ∀ id ∈ s'.delivered, id ∈ s.delivered ∨ hostName (sent id) = "" ∨
    s.manager.lastSequences.lookup (hostName (sent id)) = some (sent id).sequence

/-- A call that enqueues the task of sample `id`. -/
structure Enqueues (sent : ℕ → MonitorInfo) (s s' : History) (fs : List HistoryEvent) (id : ℕ)
    (task : MysqlWriteTask) : Prop where
  named : hostName (sent id) ≠ ""
  host : task.hostName = hostName (sent id)
  info : task.hostScore.info = sent id
  queue : s'.manager.mysqlWriteQueue = s.manager.mysqlWriteQueue ++ [task]
  original : originalTasks fs = if id ∈ s.delivered then [] else [task]
  last : ∀ host seq, s'.manager.lastSequences.lookup host = some seq →
    s.manager.lastSequences.lookup host = some seq ∨
      host = hostName (sent id) ∧ seq = (sent id).sequence
  delivered : s'.delivered = s.delivered ++ [id]

/-- A call enqueues nothing, or the task of one sample. -/
lemma step_cases (s : History) (a : HistoryAction) :
    Skips sent s (s.step sent a).1 (s.step sent a).2 ∨
      ∃ id task, Enqueues sent s (s.step sent a).1 (s.step sent a).2 id task := by
  cases a with
  | report id ord now =>
    rcases s.manager.onDataReceived_cases ord (sent id) now with
      ⟨hsame, hskip⟩ | ⟨hnamed, rates, hqueue, hlast⟩
    · refine Or.inl ⟨?_, ?_, fun host seq hseq => ?_, fun i hi => ?_⟩
      · rw [History.step, hsame]
      · dsimp only [History.step]
        rw [hsame, List.drop_length, List.map_nil, List.map_nil, ite_self]
        rfl
      · rwa [History.step, hsame] at hseq
      · rcases List.mem_append.mp hi with hi | hi
        · exact Or.inl hi
        · exact Or.inr (List.mem_singleton.mp hi ▸ hskip)
    · refine Or.inr ⟨id, _, hnamed, rfl, rfl, hqueue, ?_, fun host seq hseq => ?_, rfl⟩
      · dsimp only [History.step]
        rw [hqueue, List.drop_left]
        split_ifs <;> rfl
      · dsimp only [History.step] at hseq
        rw [hlast] at hseq
        split_ifs at hseq with hpos
        · rw [UnorderedMap.lookup_insert_ite] at hseq
          split_ifs at hseq with hhost
          · exact Or.inr ⟨hhost, (Option.some.inj hseq).symm⟩
          · exact Or.inl hseq
        · exact Or.inl hseq
  | cleanup now =>
    refine Or.inl ⟨HostManager.removeStaleHosts_mysqlWriteQueue _ _, rfl, fun host seq hseq => ?_,
      fun _ hi => Or.inl hi⟩
    dsimp only [History.step] at hseq
    rw [HostManager.lookup_lastSequences_removeStaleHosts] at hseq
    split_ifs at hseq
    exact hseq
  | query ord =>
    refine Or.inl ⟨HostManager.getBestHost_mysqlWriteQueue _ _, rfl, fun host seq hseq => ?_,
      fun _ hi => Or.inl hi⟩
    rwa [History.step, HostManager.getBestHost_lastSequences] at hseq

/-! ## The invariants -/

/-- The key of every last sequence and of every delivered sample is the key of a task. -/
structure KeysTaken (collate : List UInt8 → γ) (sent : ℕ → MonitorInfo) (s : History) : Prop where
  last : ∀ host seq, s.manager.lastSequences.lookup host = some seq →
    hostSeqKey collate host seq ∈ s.manager.mysqlWriteQueue.map (historyKey collate)
  delivered : ∀ id ∈ s.delivered, hostName (sent id) ≠ "" →
    hostSeqKey collate (hostName (sent id)) (sent id).sequence ∈
      s.manager.mysqlWriteQueue.map (historyKey collate)

/-- A sample that is skipped has a key that is taken. -/
lemma KeysTaken.skip (h : KeysTaken collate sent s) (hskip : Skips sent s s' fs) :
    KeysTaken collate sent s' := by
  refine ⟨fun host seq hseq => ?_, fun id hid hn => ?_⟩
  · rw [hskip.queue]
    exact h.last host seq (hskip.last host seq hseq)
  · rw [hskip.queue]
    rcases hskip.delivered id hid with hold | hunnamed | hlast
    · exact h.delivered id hold hn
    · exact absurd hunnamed hn
    · exact h.last _ _ hlast

/-- A sample that is enqueued takes its key. -/
lemma KeysTaken.enqueue {id : ℕ} {task : MysqlWriteTask} (h : KeysTaken collate sent s)
    (henq : Enqueues sent s s' fs id task) : KeysTaken collate sent s' := by
  have hnew : hostSeqKey collate (hostName (sent id)) (sent id).sequence ∈
      s'.manager.mysqlWriteQueue.map (historyKey collate) := by
    rw [henq.queue, List.map_append, ← henq.host, ← henq.info]
    exact List.mem_append_right _ List.mem_cons_self
  have hold : ∀ k ∈ s.manager.mysqlWriteQueue.map (historyKey collate),
      k ∈ s'.manager.mysqlWriteQueue.map (historyKey collate) := by
    intro k hk
    rw [henq.queue, List.map_append]
    exact List.mem_append_left _ hk
  refine ⟨fun host seq hseq => ?_, fun i hi hn => ?_⟩
  · rcases henq.last host seq hseq with hlast | ⟨rfl, rfl⟩
    · exact hold _ (h.last host seq hlast)
    · exact hnew
  · rw [henq.delivered] at hi
    rcases List.mem_append.mp hi with hi | hi
    · exact hold _ (h.delivered i hi hn)
    · rw [List.mem_singleton.mp hi]
      exact hnew

/-- The tasks of redeliveries add no rows: writing all tasks leaves the same table as writing those
of the first deliveries. -/
def RedeliveriesIgnored (collate : List UInt8 → γ) (localtime : ℤ → Tm) (s : History)
    (es : List HistoryEvent) : Prop :=
  ∀ t : KeyedTable ServerPerformance fun r => (collate r.serverName, r.sequence),
    t.insertAll (s.manager.mysqlWriteQueue.map (performanceRow localtime)) =
      t.insertAll ((originalTasks es).map (performanceRow localtime))

lemma RedeliveriesIgnored.skip (h : RedeliveriesIgnored collate localtime s es)
    (hskip : Skips sent s s' fs) : RedeliveriesIgnored collate localtime s' (es ++ fs) := by
  intro t
  rw [originalTasks_append, hskip.queue, hskip.original, List.append_nil, h t]

/-- The key of a redelivery's task is taken, so its row is ignored. -/
lemma RedeliveriesIgnored.enqueue {id : ℕ} {task : MysqlWriteTask}
    (h : RedeliveriesIgnored collate localtime s es) (hkeys : KeysTaken collate sent s)
    (henq : Enqueues sent s s' fs id task) :
    RedeliveriesIgnored collate localtime s' (es ++ fs) := by
  intro t
  rw [originalTasks_append, henq.queue, henq.original, List.map_append, List.map_singleton]
  split_ifs with hid
  · have hkey : historyKey collate task ∈ s.manager.mysqlWriteQueue.map (historyKey collate) := by
      rw [historyKey, henq.host, henq.info]
      exact hkeys.delivered id hid henq.named
    rw [List.append_nil, ← h t]
    refine KeyedTable.insertAll_concat_of_mem ?_
    rw [List.map_map]
    exact hkey
  · rw [List.map_append, List.map_singleton, KeyedTable.insertAll_append,
      KeyedTable.insertAll_append, h t]

/-- In every history the keys stay taken and redeliveries add no rows. -/
lemma run_keysTaken (hrun : (history sent).run {} as = some (s, es)) :
    KeysTaken collate sent s ∧ RedeliveriesIgnored collate localtime s es := by
  refine (history sent).run_induction (P := fun _ s es =>
    KeysTaken collate sent s ∧ RedeliveriesIgnored collate localtime s es) ⟨⟨?_, ?_⟩, ?_⟩ ?_ hrun
  · exact fun host seq hseq => by cases hseq
  · exact fun id hid => absurd hid List.not_mem_nil
  · exact fun t => rfl
  · intro as s es a s' fs _ ⟨hkeys, hignored⟩ hstep
    obtain ⟨rfl, rfl⟩ := Prod.ext_iff.mp (Option.some.inj hstep)
    rcases @step_cases sent s a with hskip | ⟨id, task, henq⟩
    · exact ⟨hkeys.skip hskip, hignored.skip hskip⟩
    · exact ⟨hkeys.enqueue henq, hignored.enqueue hkeys henq⟩

/-- **When every sample gets its own row.** In every history of reports, cleanup passes and queries
whose tasks are all written successfully, every accepted report that is not a redelivery has a
row of its own with its values exactly when these reports and the rows that were there before
have pairwise distinct server names and sequences, as the collation compares names.

**Proof sketch.** Redeliveries add no rows (`run_keysTaken`), so the table holds what the tasks of
the first deliveries insert; these all get in when no key is repeated
(`KeyedTable.subperm_insertAll_iff`). -/
theorem own_rows_iff {before after : Session (Database collate)}
    (hrun : (history sent).run {} as = some (s, es)) (hbefore : before.working = none)
    (hwrite : WrittenAll localtime s.manager.mysqlWriteQueue before after) :
    OwnRows localtime es before.stored after.stored ↔
      (before.stored.performance.keys ++ (originalTasks es).map (historyKey collate)).Nodup := by
  obtain ⟨-, hignored⟩ := @run_keysTaken _ _ collate sent s as es localtime hrun
  rw [OwnRows, (performance_writtenAll hwrite hbefore).1, hignored,
    KeyedTable.subperm_insertAll_iff, List.map_map]
  rfl

end History

end Keys

/-! ## Reports without a sequence -/

/-- An old worker's samples: all have sequence `0`, and all but the first show a load. -/
def oldWorkerSamples : ℕ → MonitorInfo
  | 0 => idleInfo "a" 0
  | _ => { idleInfo "a" 0 with cpuLoad := some { loadAvg1 := 1 } }

/-- Each sample is reported once. -/
def reportActions (ids : List ℕ) : List HistoryAction :=
  ids.map fun id => .report id .stored 0

namespace History

/-- Any tasks can be written successfully. -/
lemma exists_writtenAll {γ : Type} [DecidableEq γ] {collate : List UInt8 → γ}
    {localtime : ℤ → Tm} (tasks : List MysqlWriteTask) (before : Session (Database collate)) :
    ∃ after, WrittenAll localtime tasks before after := by
  induction tasks generalizing before with
  | nil => exact ⟨before, .nil before⟩
  | cons task tasks ih =>
    have hok : (writeToMysql localtime (fun _ => true) task before).1 = true :=
      writeToMysql_eq_true_iff.mpr fun _ _ => rfl
    obtain ⟨after, hrest⟩ := ih (writeToMysql localtime (fun _ => true) task before).2
    exact ⟨after, .cons (Prod.ext hok rfl) hrest⟩

/-- Two samples of host `"a"` with sequences `1` and `2`, and one of `"b"`. -/
def numberedSamples : ℕ → MonitorInfo
  | 0 => idleInfo "a" 1
  | 1 => idleInfo "a" 2
  | _ => busyInfo "b" 1

/-- Three samples are reported, the second one twice in a row and the first one again at the end:
the check catches the one redelivery and accepts the other, and every sample has its own row. -/
theorem own_rows_iff_redelivered : ∃ s es after,
    (history numberedSamples).run {} (reportActions [0, 1, 1, 2, 0]) = some (s, es) ∧
      WrittenAll epoch s.manager.mysqlWriteQueue ⟨.empty id, none⟩ after ∧
      s.manager.mysqlWriteQueue.map (fun task => (task.hostName, task.hostScore.info.sequence)) =
        [("a", 1), ("a", 2), ("b", 1), ("a", 1)] ∧
      (originalTasks es).map (fun task => (task.hostName, task.hostScore.info.sequence)) =
        [("a", 1), ("a", 2), ("b", 1)] ∧
      OwnRows epoch es (.empty id) after.stored := by
  have hend : ((history numberedSamples).run {} (reportActions [0, 1, 1, 2, 0])).map (fun p =>
      (p.1.manager.mysqlWriteQueue.map fun task => (task.hostName, task.hostScore.info.sequence),
        (originalTasks p.2).map fun task => (task.hostName, task.hostScore.info.sequence),
        (originalTasks p.2).map (historyKey id))) =
      some ([("a", 1), ("a", 2), ("b", 1), ("a", 1)], [("a", 1), ("a", 2), ("b", 1)],
        [([97], 1), ([97], 2), ([98], 1)]) := by
    decide +kernel
  obtain ⟨⟨s, es⟩, hrun, hs⟩ := Option.map_eq_some_iff.mp hend
  simp only [Prod.mk.injEq] at hs
  obtain ⟨hqueue, horiginal, hkeys⟩ := hs
  obtain ⟨after, hwrite⟩ := @exists_writtenAll _ _ id epoch s.manager.mysqlWriteQueue
    ⟨.empty id, none⟩
  refine ⟨s, es, after, hrun, hwrite, hqueue, horiginal, (own_rows_iff hrun rfl hwrite).mpr ?_⟩
  rw [hkeys]
  decide

/-- **Samples without a sequence share one row**: two different samples of an old worker are both
accepted and both writes return true, but the second leaves no row. -/
theorem old_worker_shares_row :
    ¬ ∀ (sent : ℕ → MonitorInfo) (as : List HistoryAction) (s : History) (es : List HistoryEvent)
      (localtime : ℤ → Tm) (before after : Session (Database (id : List UInt8 → List UInt8))),
      (history sent).run {} as = some (s, es) → before.working = none →
      WrittenAll localtime s.manager.mysqlWriteQueue before after →
      OwnRows localtime es before.stored after.stored := by
  intro halways
  have hend : ((history oldWorkerSamples).run {} (reportActions [0, 1])).map
      (fun p => (originalTasks p.2).map (historyKey id)) = some [([97], 0), ([97], 0)] := by
    decide +kernel
  obtain ⟨⟨s, es⟩, hrun, hkeys⟩ := Option.map_eq_some_iff.mp hend
  obtain ⟨after, hwrite⟩ := @exists_writtenAll _ _ id epoch s.manager.mysqlWriteQueue
    ⟨.empty id, none⟩
  have hown := halways oldWorkerSamples _ s es epoch _ after hrun rfl hwrite
  have hnodup := KeyedTable.nodup_of_subperm hown
  rw [List.map_append, List.map_map] at hnodup
  have hdistinct : ((originalTasks es).map (historyKey id)).Nodup := hnodup.of_append_right
  dsimp only at hkeys
  rw [hkeys] at hdistinct
  exact absurd hdistinct (by decide)

end History

end Monitor
