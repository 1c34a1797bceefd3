import PerfMonitor.Automaton.Run
import PerfMonitor.Manager.QueryPages
import PerfMonitor.Table.Expiry

set_option relaxedAutoImplicit false
set_option autoImplicit false

/-!
# The daily cleanup of the tables

The event `evt_cleanup_old_records` (`manager/sql/init_server_performance.sql`). Once a day it goes
through the five tables, and in each of them deletes rows older than seven days, a thousand at a
time, until a statement deletes none. Samples are written between its statements, the clock goes on,
and an instance that takes longer than a day runs beside the next one. Which rows a statement
deletes is up to MySQL.

## Main definitions

* `Monitor.HistoryTable` — the tables, in the order of the event's loops.
* `Monitor.retention` — instances of the event, the writer and the clock.
* `Monitor.Retention.Calm` — the clock does not go back, and no sample is written whose main row is
  there already.

## Main results

* `Monitor.Retention.run_keeps` — what is deleted is old, and a detail row without its main row is
  old.
* `Monitor.Retention.instance_clears` — what an instance leaves behind.
* `Monitor.Retention.instance_length` — how many statements an instance takes.
-/

namespace Monitor

/-! ## The tables -/

/-- The five tables. -/
inductive HistoryTable where
  | performance
  | cpuDetail
  | netDetail
  | diskDetail
  | netProcessDetail
  deriving DecidableEq, Repr

namespace HistoryTable

/-- The rows of a table. -/
def Row : HistoryTable → Type
  | performance => ServerPerformance
  | cpuDetail => ServerCpuDetail
  | netDetail => ServerNetDetail
  | diskDetail => ServerDiskDetail
  | netProcessDetail => ServerNetProcessDetail

instance (T : HistoryTable) : DecidableEq T.Row :=
  match T with
  | performance => inferInstanceAs (DecidableEq ServerPerformance)
  | cpuDetail => inferInstanceAs (DecidableEq ServerCpuDetail)
  | netDetail => inferInstanceAs (DecidableEq ServerNetDetail)
  | diskDetail => inferInstanceAs (DecidableEq ServerDiskDetail)
  | netProcessDetail => inferInstanceAs (DecidableEq ServerNetProcessDetail)

def timestamp : {T : HistoryTable} → T.Row → String
  | performance => ServerPerformance.timestamp
  | cpuDetail => ServerCpuDetail.timestamp
  | netDetail => ServerNetDetail.timestamp
  | diskDetail => ServerDiskDetail.timestamp
  | netProcessDetail => ServerNetProcessDetail.timestamp

def serverName : {T : HistoryTable} → T.Row → List UInt8
  | performance => ServerPerformance.serverName
  | cpuDetail => ServerCpuDetail.serverName
  | netDetail => ServerNetDetail.serverName
  | diskDetail => ServerDiskDetail.serverName
  | netProcessDetail => ServerNetProcessDetail.serverName

def sequence : {T : HistoryTable} → T.Row → ℕ
  | performance => ServerPerformance.sequence
  | cpuDetail => ServerCpuDetail.sequence
  | netDetail => ServerNetDetail.sequence
  | diskDetail => ServerDiskDetail.sequence
  | netProcessDetail => ServerNetProcessDetail.sequence

/-- The loop after the one over a table: `cleanup_perf`, `cleanup_cpu`, `cleanup_net`,
`cleanup_disk`, `cleanup_proc`. -/
def next : HistoryTable → Option HistoryTable
  | performance => some cpuDetail
  | cpuDetail => some netDetail
  | netDetail => some diskDetail
  | diskDetail => some netProcessDetail
  | netProcessDetail => none

/-- The loops from one on. -/
def following : HistoryTable → List HistoryTable
  | performance => [performance, cpuDetail, netDetail, diskDetail, netProcessDetail]
  | cpuDetail => [cpuDetail, netDetail, diskDetail, netProcessDetail]
  | netDetail => [netDetail, diskDetail, netProcessDetail]
  | diskDetail => [diskDetail, netProcessDetail]
  | netProcessDetail => [netProcessDetail]

end HistoryTable

section Tables

variable {γ : Type} {collate : List UInt8 → γ}

/-- The rows of a table in the database. -/
def Database.rows (d : Database collate) : (T : HistoryTable) → List T.Row
  | .performance => d.performance.rows
  | .cpuDetail => d.cpuDetail.rows
  | .netDetail => d.netDetail.rows
  | .diskDetail => d.diskDetail.rows
  | .netProcessDetail => d.netProcessDetail.rows

/-- The database without some rows of a table. -/
def Database.delete (d : Database collate) : (T : HistoryTable) → List T.Row → Database collate
  | .performance, victims => { d with performance := d.performance.delete victims }
  | .cpuDetail, victims => { d with cpuDetail := d.cpuDetail.delete victims }
  | .netDetail, victims => { d with netDetail := d.netDetail.delete victims }
  | .diskDetail, victims => { d with diskDetail := d.diskDetail.delete victims }
  | .netProcessDetail, victims =>
    { d with netProcessDetail := d.netProcessDetail.delete victims }

/-- Two rows are of one sample of one server. -/
def SameSample (collate : List UInt8 → γ) {T U : HistoryTable} (r : T.Row) (r' : U.Row) : Prop :=
  collate (HistoryTable.serverName r) = collate (HistoryTable.serverName r') ∧
    HistoryTable.sequence r = HistoryTable.sequence r'

end Tables

/-! ## The machine -/

section Machine

variable {γ δ : Type} [DecidableEq γ] [LinearOrder δ] (env : QueryEnv γ δ) (θ : Type)
  [DecidableEq θ]

/-- The database, the time seven days ago, and the loop each instance of the event is in. -/
structure Retention where
  database : Database env.collate
  cutoff : δ
  loop : θ → Option HistoryTable

inductive RetentionAction where
  /-- The transaction of a sample is committed. -/
  | write (task : MysqlWriteTask)
  /-- The clock shows another time; seven days before it is `cutoff`. -/
  | tick (cutoff : δ)
  /-- The event is scheduled. -/
  | start (t : θ)
  /-- The `DELETE` of the loop that an instance is in, and the rows it deletes. -/
  | delete (t : θ) (T : HistoryTable) (victims : List T.Row)
  /-- An instance is ended by an error. -/
  | abort (t : θ)

variable {θ}

/-- The row is older than seven days. -/
def Retention.expired (s : Retention env θ) {T : HistoryTable} (r : T.Row) : Bool :=
  decide (env.datetime (HistoryTable.timestamp r) < s.cutoff)

/-- An action, if it is enabled. -/
def Retention.step (s : Retention env θ) :
    RetentionAction (δ := δ) θ → Option (Retention env θ × List Empty)
  | .write task => some ({ s with database := s.database.insertTask env.localtime task }, [])
  | .tick cutoff => some ({ s with cutoff := cutoff }, [])
  | .start t =>
    if s.loop t = none then
      some ({ s with loop := Function.update s.loop t (some .performance) }, [])
    else none
  | .delete t T victims =>
    if s.loop t = some T ∧ IsBatch s.expired 1000 (s.database.rows T) victims then
      -- `ROW_COUNT()` is the number of rows deleted
      if victims.length = 0 then
        some ({ s with loop := Function.update s.loop t T.next }, [])
      else some ({ s with database := s.database.delete T victims }, [])
    else none
  | .abort t => some ({ s with loop := Function.update s.loop t none }, [])

/-- The event, the writer and the clock. -/
def retention : EventMachine (Retention env θ) (RetentionAction (δ := δ) θ) Empty where
  step := Retention.step env

end Machine

/-! ## One step -/

section Rows

variable {γ : Type} {collate : List UInt8 → γ} {d : Database collate} {T : HistoryTable} {r : T.Row}

lemma mem_rows_delete {victims : List T.Row} :
    r ∈ (d.delete T victims).rows T ↔ r ∈ d.rows T ∧ r ∉ victims := by
  cases T <;> exact KeyedTable.mem_rows_delete

lemma rows_delete_of_ne {U : HistoryTable} {victims : List U.Row} (h : T ≠ U) :
    (d.delete U victims).rows T = d.rows T := by
  cases T <;> cases U <;> first
    | rfl
    | exact absurd rfl h

lemma rows_delete (victims : List T.Row) :
    (d.delete T victims).rows T = (d.rows T).filter (· ∉ victims) := by
  cases T <;> rfl

lemma nodup_rows (d : Database collate) (T : HistoryTable) : (d.rows T).Nodup := by
  cases T <;> exact KeyedTable.nodup_rows _

lemma mem_rows_of_mem_delete {U : HistoryTable} {victims : List U.Row}
    (h : r ∈ (d.delete U victims).rows T) : r ∈ d.rows T := by
  by_cases hTU : T = U
  · subst hTU
    exact (mem_rows_delete.mp h).1
  · rwa [rows_delete_of_ne hTU] at h

variable [DecidableEq γ] {localtime : ℤ → Tm} {task : MysqlWriteTask}

/-- Writing a sample deletes nothing. -/
lemma mem_rows_insertTask_of_mem (h : r ∈ d.rows T) :
    r ∈ (d.insertTask localtime task).rows T := by
  cases T with
  | performance | cpuDetail => exact KeyedTable.mem_rows_insertIgnore_of_mem h
  | netDetail | diskDetail | netProcessDetail => exact KeyedTable.mem_rows_insertAll_of_mem h

/-- The rows of a sample have the server, the sequence number and the time of its main row. -/
lemma mem_rows_insertTask (h : r ∈ (d.insertTask localtime task).rows T) :
    r ∈ d.rows T ∨ SameSample collate (U := .performance) r (performanceRow localtime task) ∧
      HistoryTable.timestamp r = (performanceRow localtime task).timestamp := by
  cases T with
  | performance | cpuDetail =>
    rcases KeyedTable.mem_rows_insertIgnore h with h | rfl
    · exact Or.inl h
    · exact Or.inr ⟨⟨rfl, rfl⟩, rfl⟩
  | netDetail | diskDetail | netProcessDetail =>
    rcases KeyedTable.mem_rows_insertAll h with h | h
    · exact Or.inl h
    · obtain ⟨item, -, rfl⟩ := List.mem_map.mp h
      exact Or.inr ⟨⟨rfl, rfl⟩, rfl⟩

end Rows

section Expired

variable {γ δ : Type} [LinearOrder δ] {env : QueryEnv γ δ} {θ : Type} {s : Retention env θ}
  {T : HistoryTable} {r : T.Row}

namespace Retention

lemma expired_iff : s.expired env r = true ↔
    env.datetime (HistoryTable.timestamp r) < s.cutoff := decide_eq_true_iff

/-- A batch takes expired rows only. -/
lemma mem_rows_of_batch {U : HistoryTable} {victims : List U.Row}
    (hbatch : IsBatch (s.expired env) 1000 (s.database.rows U) victims)
    (hr : r ∈ s.database.rows T) (hyoung : ¬ s.expired env r) :
    r ∈ (s.database.delete U victims).rows T := by
  by_cases h : T = U
  · subst h
    exact mem_rows_delete.mpr ⟨hr, fun hmem => hyoung (hbatch.mem r hmem).2⟩
  · rwa [rows_delete_of_ne h]

end Retention

end Expired

section Runs

variable {γ δ : Type} [DecidableEq γ] [LinearOrder δ] {env : QueryEnv γ δ} {θ : Type}
  [DecidableEq θ]

namespace Retention

variable {s s' : Retention env θ} {a : RetentionAction (δ := δ) θ} {es : List Empty}

/-- What a step can do. -/
lemma step_cases (h : (retention env).step s a = some (s', es)) :
    (∃ task, a = .write task ∧
      s' = { s with database := s.database.insertTask env.localtime task }) ∨
    (∃ cutoff, a = .tick cutoff ∧ s' = { s with cutoff := cutoff }) ∨
    (∃ t, a = .start t ∧ s.loop t = none ∧
      s' = { s with loop := Function.update s.loop t (some .performance) }) ∨
    (∃ t T, a = .delete t T [] ∧ s.loop t = some T ∧ (s.database.rows T).countP s.expired = 0 ∧
      s' = { s with loop := Function.update s.loop t T.next }) ∨
    (∃ t T victims, a = .delete t T victims ∧ s.loop t = some T ∧ victims ≠ [] ∧
      IsBatch s.expired 1000 (s.database.rows T) victims ∧
      s' = { s with database := s.database.delete T victims }) ∨
    (∃ t, a = .abort t ∧ s' = { s with loop := Function.update s.loop t none }) := by
  change s.step env a = _ at h
  cases a with
  | write task =>
    cases h
    exact Or.inl ⟨task, rfl, rfl⟩
  | tick cutoff =>
    cases h
    exact Or.inr (Or.inl ⟨cutoff, rfl, rfl⟩)
  | start t =>
    simp only [step] at h
    split_ifs at h with hloop
    cases h
    exact Or.inr (Or.inr (Or.inl ⟨t, rfl, hloop, rfl⟩))
  | delete t T victims =>
    simp only [step] at h
    split_ifs at h with hbatch hempty
    · cases h
      obtain rfl := List.length_eq_zero_iff.mp hempty
      have hnone := (hbatch.2.eq_nil_iff (by omega)).mp rfl
      exact Or.inr (Or.inr (Or.inr (Or.inl ⟨t, T, rfl, hbatch.1, hnone, rfl⟩)))
    · cases h
      have hne : victims ≠ [] := fun hnil => hempty (List.length_eq_zero_iff.mpr hnil)
      exact Or.inr (Or.inr (Or.inr (Or.inr (Or.inl
        ⟨t, T, victims, rfl, hbatch.1, hne, hbatch.2, rfl⟩))))
  | abort t =>
    cases h
    exact Or.inr (Or.inr (Or.inr (Or.inr (Or.inr ⟨t, rfl, rfl⟩))))

/-! ## Old rows only -/

/-- The clock does not go back, and no sample is written whose main row is there already. -/
def Calm (s : Retention env θ) : RetentionAction (δ := δ) θ → Prop
  | .write task => ∀ r ∈ s.database.rows .performance,
    ¬ SameSample env.collate (T := .performance) (U := .performance) r
      (performanceRow env.localtime task)
  | .tick cutoff => s.cutoff ≤ cutoff
  | _ => True

variable {T : HistoryTable} {r : T.Row}

/-- A step deletes expired rows only. -/
lemma mem_rows_step (h : (retention env).step s a = some (s', es)) (hr : r ∈ s.database.rows T)
    (hyoung : ¬ s.expired env r) : r ∈ s'.database.rows T := by
  rcases step_cases h with ⟨task, -, rfl⟩ | ⟨c, -, rfl⟩ | ⟨t, -, -, rfl⟩ | ⟨t, U, -, -, -, rfl⟩ |
    ⟨t, U, victims, -, -, -, hbatch, rfl⟩ | ⟨t, -, rfl⟩
  · exact mem_rows_insertTask_of_mem hr
  · exact hr
  · exact hr
  · exact hr
  · exact mem_rows_of_batch hbatch hr hyoung
  · exact hr

lemma cutoff_le_step (hcalm : s.Calm a) (h : (retention env).step s a = some (s', es)) :
    s.cutoff ≤ s'.cutoff := by
  rcases step_cases h with ⟨task, -, rfl⟩ | ⟨c, rfl, rfl⟩ | ⟨t, -, -, rfl⟩ |
    ⟨t, U, -, -, -, rfl⟩ | ⟨t, U, victims, -, -, -, -, rfl⟩ | ⟨t, -, rfl⟩
  · exact le_rfl
  · exact hcalm
  all_goals exact le_rfl

/-- Every row that is not expired has its main row, which is not older. -/
def Complete (s : Retention env θ) : Prop :=
  ∀ (T : HistoryTable) (r : T.Row), r ∈ s.database.rows T → ¬ s.expired env r →
    ∃ m ∈ s.database.rows .performance, SameSample env.collate (U := .performance) r m ∧
      env.datetime (HistoryTable.timestamp r) ≤ env.datetime m.timestamp

/-- **The step.** A main row that is deleted is expired, and so is what is not younger. -/
lemma complete_step (hcalm : s.Calm a) (hcomplete : s.Complete)
    (h : (retention env).step s a = some (s', es)) : s'.Complete := by
  intro T r hr hyoung
  rcases step_cases h with ⟨task, rfl, rfl⟩ | ⟨c, rfl, rfl⟩ | ⟨t, -, -, rfl⟩ |
    ⟨t, U, -, -, -, rfl⟩ | ⟨t, U, victims, -, -, -, hbatch, rfl⟩ | ⟨t, -, rfl⟩
  · rcases mem_rows_insertTask hr with hr | ⟨hsame, htime⟩
    · obtain ⟨m, hm, hrm⟩ := hcomplete T r hr hyoung
      exact ⟨m, mem_rows_insertTask_of_mem (T := .performance) hm, hrm⟩
    · refine ⟨performanceRow env.localtime task, ?_, hsame, by rw [htime]⟩
      have hfresh := KeyedTable.rows_insertIgnore_of_fresh
        (t := s.database.performance) (r := performanceRow env.localtime task)
        fun r' hr' hkey => hcalm r' hr' (Prod.mk.inj hkey)
      show _ ∈ (s.database.performance.insertIgnore _).rows
      rw [hfresh]
      exact List.mem_append_right _ (List.mem_singleton.mpr rfl)
  · refine hcomplete T r hr fun hold => hyoung ?_
    exact expired_iff.mpr ((expired_iff.mp hold).trans_le hcalm)
  · exact hcomplete T r hr hyoung
  · exact hcomplete T r hr hyoung
  · obtain ⟨m, hm, hsame, hle⟩ := hcomplete T r (mem_rows_of_mem_delete hr) hyoung
    refine ⟨m, ?_, hsame, hle⟩
    refine mem_rows_of_batch (T := .performance) hbatch hm fun hold => hyoung ?_
    exact expired_iff.mpr (hle.trans_lt (expired_iff.mp hold))
  · exact hcomplete T r hr hyoung

variable {as : List (RetentionAction (δ := δ) θ)} {start : Retention env θ}

lemma cutoff_le_run (hcalm : (retention env).Meets Calm s as)
    (hrun : (retention env).run s as = some (s', es)) : s.cutoff ≤ s'.cutoff := by
  refine (retention env).run_induction
    (P := fun as s' _ => (retention env).Meets Calm s as → s.cutoff ≤ s'.cutoff)
    (fun _ => le_rfl) ?_ hrun hcalm
  intro as u es a v fs has ih ha hC
  exact (ih hC.of_append).trans (cutoff_le_step (hC.last has) ha)

/-- A row that is not expired at the end of a run has not been deleted in it. -/
lemma mem_rows_run (hcalm : (retention env).Meets Calm s as)
    (hrun : (retention env).run s as = some (s', es)) (hr : r ∈ s.database.rows T)
    (hyoung : ¬ s'.expired env r) : r ∈ s'.database.rows T := by
  have hrow : (retention env).Meets Calm s as → ¬ s'.expired env r →
      r ∈ s'.database.rows T := by
    refine (retention env).run_induction (P := fun as s' _ => (retention env).Meets Calm s as →
      ¬ s'.expired env r → r ∈ s'.database.rows T) (fun _ _ => hr) ?_ hrun
    intro as u es a v fs has ih ha hC hv
    have hle := cutoff_le_step (hC.last has) ha
    have hu : ¬ u.expired env r := fun hold =>
      hv (expired_iff.mpr ((expired_iff.mp hold).trans_le hle))
    exact mem_rows_step ha (ih hC.of_append hu) hu
  exact hrow hcalm hyoung

/-- **The event deletes old rows only, and whole samples.** As long as the clock does not go back
and no sample is written whose main row is there already, however many instances of the event run
beside each other and the writer: a row that was ever in a table and is not older than seven days
now is still there; and a row of a detail table that is not older than seven days has its main row.

**Proof sketch.** The cutoff only grows. A main row is not older than the details of its sample, so
when it is deleted these are old themselves. -/
theorem run_keeps (hempty : ∀ T, start.database.rows T = [])
    (hcalm : (retention env).Meets Calm start as)
    (hrun : (retention env).run start as = some (s, es)) :
    (∀ pre post u fs, as = pre ++ post → (retention env).run start pre = some (u, fs) →
        ∀ (T : HistoryTable) (r : T.Row), r ∈ u.database.rows T → ¬ s.expired env r →
          r ∈ s.database.rows T) ∧
      ∀ (T : HistoryTable) (r : T.Row), r ∈ s.database.rows T → ¬ s.expired env r →
        ∃ m ∈ s.database.rows .performance, SameSample env.collate (U := .performance) r m := by
  refine ⟨?_, ?_⟩
  · rintro pre post u fs rfl hpre T r hr hyoung
    obtain ⟨u', fs', gs, hpre', hpost, -⟩ := (retention env).run_append_iff.mp hrun
    rw [hpre] at hpre'
    cases hpre'
    refine mem_rows_run ?_ hpost hr hyoung
    rintro pre' b post' v gs rfl hv
    exact hcalm (pre ++ pre') b post' v (fs ++ gs) (by simp) ((retention env).run_append hpre hv)
  · have hcomplete : s.Complete := by
      refine (retention env).run_invariant_of_meets (C := Calm)
        (fun s a t es hC hI ha => complete_step hC hI ha) ?_ hcalm hrun
      intro T r hr
      rw [hempty T] at hr
      cases hr
    intro T r hr hyoung
    obtain ⟨m, hm, hsame, -⟩ := hcomplete T r hr hyoung
    exact ⟨m, hm, hsame⟩

/-! ## What an instance leaves behind -/

/-- The loops an instance still has before it. -/
def remaining : Option HistoryTable → List HistoryTable
  | none => []
  | some T => T.following

/-- The clock does not go back, no sample is older than seven days when it is written, and instance
`t` is not ended by an error. -/
def Prompt (t : θ) (s : Retention env θ) : RetentionAction (δ := δ) θ → Prop
  | .write task => s.cutoff ≤ env.datetime (performanceRow env.localtime task).timestamp
  | .tick cutoff => s.cutoff ≤ cutoff
  | .abort u => u ≠ t
  | _ => True

/-- The tables that an instance has left have no row older than `c`. -/
structure Cleared (c : δ) (t : θ) (s : Retention env θ) : Prop where
  cutoff_le : c ≤ s.cutoff
  le_datetime : ∀ (T : HistoryTable) (r : T.Row), T ∉ remaining (s.loop t) →
    r ∈ s.database.rows T → c ≤ env.datetime (HistoryTable.timestamp r)

lemma mem_remaining_next {T U : HistoryTable} (h : U ∈ T.following) (hne : U ≠ T) :
    U ∈ remaining T.next := by
  cases T <;> cases U <;> simp_all [HistoryTable.following, HistoryTable.next, remaining]

lemma remaining_start (T : HistoryTable) : T ∈ remaining (some .performance) := by
  cases T <;> simp [remaining, HistoryTable.following]

/-- **The step.** An instance leaves a table when it finds no old row in it. -/
lemma cleared_step {c : δ} {t : θ} (hprompt : s.Prompt t a) (hcleared : s.Cleared c t)
    (h : (retention env).step s a = some (s', es)) : s'.Cleared c t := by
  rcases step_cases h with ⟨task, rfl, rfl⟩ | ⟨c', rfl, rfl⟩ | ⟨u, -, hu, rfl⟩ |
    ⟨u, U, -, hu, hnone, rfl⟩ | ⟨u, U, victims, -, -, -, hbatch, rfl⟩ | ⟨u, rfl, rfl⟩
  · refine ⟨hcleared.cutoff_le, fun T r hT hr => ?_⟩
    rcases mem_rows_insertTask hr with hr | ⟨-, htime⟩
    · exact hcleared.le_datetime T r hT hr
    · rw [htime]
      exact hcleared.cutoff_le.trans hprompt
  · exact ⟨hcleared.cutoff_le.trans hprompt, hcleared.le_datetime⟩
  · refine ⟨hcleared.cutoff_le, fun T r hT hr => ?_⟩
    by_cases htu : t = u
    · subst htu
      simp only [Function.update_self] at hT
      exact absurd (remaining_start T) hT
    · simp only [Function.update_of_ne htu] at hT
      exact hcleared.le_datetime T r hT hr
  · refine ⟨hcleared.cutoff_le, fun T r hT hr => ?_⟩
    by_cases htu : t = u
    · subst htu
      simp only [Function.update_self] at hT
      by_cases hTU : T = U
      · subst hTU
        have hyoung := List.countP_eq_zero.mp hnone r hr
        exact hcleared.cutoff_le.trans (not_lt.mp fun hlt => hyoung (expired_iff.mpr hlt))
      · refine hcleared.le_datetime T r (fun hmem => hT ?_) hr
        rw [hu] at hmem
        exact mem_remaining_next hmem hTU
    · simp only [Function.update_of_ne htu] at hT
      exact hcleared.le_datetime T r hT hr
  · exact ⟨hcleared.cutoff_le, fun T r hT hr =>
      hcleared.le_datetime T r hT (mem_rows_of_mem_delete hr)⟩
  · refine ⟨hcleared.cutoff_le, fun T r hT hr => ?_⟩
    simp only [Function.update_of_ne (Ne.symm hprompt)] at hT
    exact hcleared.le_datetime T r hT hr

/-- The tables that an instance leaves are cleared of what was old when it began. -/
lemma cleared_run {t : θ} (hbegin : start.loop t = some .performance)
    (hprompt : (retention env).Meets (Prompt t) start as)
    (hrun : (retention env).run start as = some (s, es)) : s.Cleared start.cutoff t := by
  refine (retention env).run_invariant_of_meets (C := Prompt t)
    (fun s a t' es hC hI ha => cleared_step hC hI ha) ⟨le_rfl, fun T r hT => ?_⟩ hprompt hrun
  rw [hbegin] at hT
  exact absurd (remaining_start T) hT

omit [DecidableEq γ] [DecidableEq θ] in
/-- An instance at its end has left all tables. -/
lemma Cleared.not_lt {c : δ} {t : θ} (h : s.Cleared c t) (hend : s.loop t = none)
    {T : HistoryTable} {r : T.Row} (hr : r ∈ s.database.rows T) :
    ¬ env.datetime (HistoryTable.timestamp r) < c :=
  (h.le_datetime T r (by rw [hend]; exact List.not_mem_nil) hr).not_gt

/-- **What an instance leaves behind.** When an instance of the event comes to its end, no table has
a row that was older than seven days when it began, whatever was written and deleted meanwhile, as
long as the clock did not go back and no sample was older than seven days when it was written. -/
theorem instance_clears {t : θ} (hbegin : start.loop t = some .performance)
    (hprompt : (retention env).Meets (Prompt t) start as)
    (hrun : (retention env).run start as = some (s, es)) (hend : s.loop t = none)
    (T : HistoryTable) (r : T.Row) (hr : r ∈ s.database.rows T) : ¬ start.expired env r :=
  fun hold => (cleared_run hbegin hprompt hrun).not_lt hend hr (expired_iff.mp hold)

/-! ## How long an instance takes -/

/-- The action is a statement of instance `t`. -/
def IsStatement (t : θ) (a : RetentionAction (δ := δ) θ) : Prop :=
  ∃ T victims, a = .delete t T victims

/-- Conditions that statements of the event meet. -/
lemma meets_of_isStatement {t : θ} {C : Retention env θ → RetentionAction (δ := δ) θ → Prop}
    (hC : ∀ s T victims, C s (.delete t T victims)) (has : ∀ a ∈ as, IsStatement t a) :
    (retention env).Meets C s as := by
  refine EventMachine.meets_of_forall fun a ha u => ?_
  obtain ⟨T, victims, rfl⟩ := has a ha
  exact hC u T victims

/-- The statements that an instance still has to execute, if nothing else happens. -/
def statementsLeft (t : θ) (s : Retention env θ) : ℕ :=
  ((remaining (s.loop t)).map fun T =>
    statements 1000 ((s.database.rows T).countP (s.expired env))).sum

lemma remaining_eq_cons (T : HistoryTable) : remaining (some T) = T :: remaining T.next := by
  cases T <;> rfl

lemma notMem_remaining_next (T : HistoryTable) : T ∉ remaining T.next := by
  cases T <;> decide

/-- **The step.** Each statement leaves one less. -/
lemma statementsLeft_step {t : θ} (ha : IsStatement t a)
    (h : (retention env).step s a = some (s', es)) :
    s'.statementsLeft t + 1 = s.statementsLeft t := by
  obtain ⟨T, victims, rfl⟩ := ha
  rcases step_cases h with ⟨_, ha, -⟩ | ⟨_, ha, -⟩ | ⟨_, ha, -⟩ | ⟨u, U, ha, hu, hnone, rfl⟩ |
    ⟨u, U, _, ha, hu, hne, hbatch, rfl⟩ | ⟨_, ha, -⟩
  · cases ha
  · cases ha
  · cases ha
  · cases ha
    have hthis : statements 1000 ((s.database.rows T).countP (s.expired env)) = 1 := by
      rw [hnone, statements_zero (by omega)]
    unfold statementsLeft
    simp only [Function.update_self]
    rw [hu, remaining_eq_cons, List.map_cons, List.sum_cons, hthis, add_comm]
    rfl
  · cases ha
    have hcount : 0 < (s.database.rows T).countP (s.expired env) := by
      by_contra hzero
      exact hne ((hbatch.eq_nil_iff (by omega)).mpr (by omega))
    have hleft : ((s.database.delete T victims).rows T).countP (s.expired env) =
        (s.database.rows T).countP (s.expired env) -
          min 1000 ((s.database.rows T).countP (s.expired env)) := by
      rw [rows_delete, hbatch.countP_filter (nodup_rows _ _), hbatch.length_eq]
    have hother : ∀ U ∈ remaining T.next,
        statements 1000 (((s.database.delete T victims).rows U).countP (s.expired env)) =
          statements 1000 ((s.database.rows U).countP (s.expired env)) := by
      intro U hU
      rw [rows_delete_of_ne]
      rintro rfl
      exact notMem_remaining_next U hU
    have hone := statements_delete (n := 1000) (by omega) hcount
    unfold statementsLeft
    simp only [hu, remaining_eq_cons, List.map_cons, List.sum_cons]
    rw [← hone, ← List.map_congr_left hother, ← hleft]
    exact Nat.add_right_comm _ _ 1
  · cases ha

/-- An instance is never stuck. -/
lemma exists_statement {t : θ} {T : HistoryTable} (hloop : s.loop t = some T) :
    ∃ victims s', (retention env).step s (.delete t T victims) = some (s', []) := by
  obtain ⟨victims, hbatch⟩ := exists_isBatch (s.expired env) 1000 (nodup_rows s.database T)
  refine ⟨victims, ?_⟩
  show ∃ s', s.step env (.delete t T victims) = some (s', [])
  simp only [step, hloop, hbatch, and_self, if_true]
  split_ifs
  · exact ⟨_, rfl⟩
  · exact ⟨_, rfl⟩

omit [DecidableEq γ] [DecidableEq θ] in
/-- Nothing is left to an instance at its end, and only then. -/
lemma statementsLeft_eq_zero_iff {t : θ} : s.statementsLeft t = 0 ↔ s.loop t = none := by
  unfold statementsLeft
  cases s.loop t with
  | none => exact ⟨fun _ => rfl, fun _ => rfl⟩
  | some T =>
    rw [remaining_eq_cons, List.map_cons, List.sum_cons, statements]
    exact ⟨fun h => by omega, fun h => by cases h⟩

/-- From any state, an instance that runs alone can come to its end. -/
lemma exists_end (t : θ) (s : Retention env θ) : ∃ as s', (∀ a ∈ as, IsStatement t a) ∧
    (retention env).run s as = some (s', []) ∧ s'.loop t = none := by
  induction hn : s.statementsLeft t generalizing s with
  | zero => exact ⟨[], s, by simp, rfl, statementsLeft_eq_zero_iff.mp hn⟩
  | succ n ih =>
    cases hloop : s.loop t with
    | none => exact ⟨[], s, by simp, rfl, hloop⟩
    | some T =>
      obtain ⟨victims, u, hstep⟩ := exists_statement hloop
      have hleft := statementsLeft_step ⟨T, victims, rfl⟩ hstep
      obtain ⟨as, s', has, hrun, hend⟩ := ih u (by omega)
      refine ⟨.delete t T victims :: as, s', ?_, (retention env).run_cons hstep hrun, hend⟩
      intro a ha
      rcases List.mem_cons.mp ha with rfl | ha
      · exact ⟨T, victims, rfl⟩
      · exact has a ha

/-- What the statements of one instance do to the rows and to what is left of it. -/
lemma statements_run {t : θ} (has : ∀ a ∈ as, IsStatement t a)
    (hrun : (retention env).run s as = some (s', es)) :
    s'.statementsLeft t + as.length = s.statementsLeft t ∧ s'.cutoff = s.cutoff ∧
      ∀ (T : HistoryTable) (r : T.Row), r ∈ s'.database.rows T → r ∈ s.database.rows T := by
  refine (retention env).run_induction (P := fun as s' _ => (∀ a ∈ as, IsStatement t a) →
    s'.statementsLeft t + as.length = s.statementsLeft t ∧ s'.cutoff = s.cutoff ∧
      ∀ (T : HistoryTable) (r : T.Row), r ∈ s'.database.rows T → r ∈ s.database.rows T)
    (fun _ => ⟨rfl, rfl, fun _ _ h => h⟩) ?_ hrun has
  intro as u es a v fs hu ih ha has
  obtain ⟨hleft, hcutoff, hrows⟩ := ih fun b hb => has b (List.mem_append_left _ hb)
  have hstatement := has a (List.mem_append_right _ (List.mem_singleton.mpr rfl))
  have hone := statementsLeft_step hstatement ha
  obtain ⟨T, victims, rfl⟩ := hstatement
  refine ⟨by simp only [List.length_append, List.length_singleton]; omega, ?_, ?_⟩
  · rcases step_cases ha with ⟨_, ha, -⟩ | ⟨_, ha, -⟩ | ⟨_, ha, -⟩ | ⟨_, _, _, -, -, rfl⟩ |
      ⟨_, _, _, _, -, -, -, rfl⟩ | ⟨_, ha, -⟩
    · cases ha
    · cases ha
    · cases ha
    · exact hcutoff
    · exact hcutoff
    · cases ha
  · intro U r hr
    rcases step_cases ha with ⟨_, ha, -⟩ | ⟨_, ha, -⟩ | ⟨_, ha, -⟩ | ⟨_, _, _, -, -, rfl⟩ |
      ⟨_, _, _, _, -, -, -, rfl⟩ | ⟨_, ha, -⟩
    · cases ha
    · cases ha
    · cases ha
    · exact hrows U r hr
    · exact hrows U r (mem_rows_of_mem_delete hr)
    · cases ha

/-- **How long an instance takes.** An instance of the event runs alone, and the clock stands still.
Whatever rows MySQL picks, it comes to its end: it takes no more than one statement for each
thousand old rows of a table, rounded up, and one more for each table; it is at its end when it has
taken that many, and can go on until then; and in the end it has deleted the old rows and no others.

**Proof sketch.** Each statement leaves one less to execute, also the one that finds nothing, since
the instance then goes on to the next table. -/
theorem instance_length {t : θ} (hbegin : s.loop t = some .performance)
    (has : ∀ a ∈ as, IsStatement t a) (hrun : (retention env).run s as = some (s', es)) :
    let total := ((HistoryTable.following .performance).map fun T =>
      statements 1000 ((s.database.rows T).countP (s.expired env))).sum
    as.length ≤ total ∧ (s'.loop t = none ↔ as.length = total) ∧
      (s'.loop t ≠ none →
        ∃ T victims s'', (retention env).step s' (.delete t T victims) = some (s'', [])) ∧
      (s'.loop t = none → ∀ (T : HistoryTable) (r : T.Row),
        r ∈ s'.database.rows T ↔ r ∈ s.database.rows T ∧ ¬ s.expired env r) := by
  intro total
  obtain ⟨hleft, hcutoff, hrows⟩ := statements_run has hrun
  have htotal : s.statementsLeft t = total := by
    rw [statementsLeft, hbegin]
    rfl
  have hcalm : (retention env).Meets Calm s as := meets_of_isStatement (fun _ _ _ => trivial) has
  have hprompt : (retention env).Meets (Prompt t) s as :=
    meets_of_isStatement (fun _ _ _ => trivial) has
  refine ⟨by omega, ?_, fun hloop => ?_,
    fun hend T r => ⟨fun hr => ⟨hrows T r hr, ?_⟩, fun hr => ?_⟩⟩
  · rw [← statementsLeft_eq_zero_iff]
    omega
  · obtain ⟨T, hT⟩ := Option.ne_none_iff_exists'.mp hloop
    exact ⟨T, exists_statement hT⟩
  · exact fun hold => (cleared_run hbegin hprompt hrun).not_lt hend hr (expired_iff.mp hold)
  · refine mem_rows_run hcalm hrun hr.1 ?_
    rw [expired_iff, hcutoff, ← expired_iff]
    exact hr.2

/-! ## A sample that grows old -/

/-- A manager with empty tables and no instance of the event. -/
def fresh : Retention utcEnv Unit := ⟨.empty _, 0, fun _ => none⟩

/-- The sample of two interfaces has been written, and an instance of the event may run. -/
def written (cutoff : ℕ) (loop : Unit → Option HistoryTable) : Retention utcEnv Unit :=
  ⟨(Database.empty utcEnv.collate).insertTask utcEnv.localtime twoInterfaces, cutoff, loop⟩

/-- A sample is written, grows old, and an instance of the event begins and comes to its end. -/
theorem run_keeps_aged : ∃ as s,
    (retention utcEnv).run fresh
        (.write twoInterfaces :: .tick (10 ^ 20) :: .start () :: as) = some (s, []) ∧
      s.loop () = none ∧
      ∀ (T : HistoryTable) (r : T.Row), r ∈ s.database.rows T → ¬ s.expired utcEnv r →
        ∃ m ∈ s.database.rows .performance, SameSample id (U := .performance) r m := by
  let begun := written (10 ^ 20) (Function.update (fun _ => none) () (some .performance))
  obtain ⟨as, s, has, hrun, hend⟩ := exists_end () begun
  have hstart : (retention utcEnv).step (written (10 ^ 20) fun _ => none) (.start ()) =
      some (begun, []) := rfl
  have htick : (retention utcEnv).step (written 0 fun _ => none) (.tick (10 ^ 20)) =
      some (written (10 ^ 20) fun _ => none, []) := rfl
  have hwrite : (retention utcEnv).step fresh (.write twoInterfaces) =
      some (written 0 fun _ => none, []) := rfl
  have hlate := (retention utcEnv).run_cons htick ((retention utcEnv).run_cons hstart hrun)
  have hall := (retention utcEnv).run_cons hwrite hlate
  refine ⟨as, s, hall, hend, (run_keeps ?_ ?_ hall).2⟩
  · intro T
    cases T <;> rfl
  · refine EventMachine.meets_cons (fun r hr => by cases hr) fun t es h1 => ?_
    refine EventMachine.meets_cons ?_ fun u fs h2 => ?_
    · cases h1
      exact Nat.zero_le _
    · exact EventMachine.meets_cons trivial fun v gs h3 =>
        meets_of_isStatement (fun _ _ _ => trivial) has

/-- An instance that begins when the sample is old leaves nothing of it. -/
theorem instance_clears_aged :
    let begun := written (10 ^ 20) fun _ => some .performance
    ∃ as s, (retention utcEnv).run begun as = some (s, []) ∧ s.loop () = none ∧
      ∀ (T : HistoryTable) (r : T.Row), r ∈ s.database.rows T → ¬ begun.expired utcEnv r := by
  obtain ⟨as, s, has, hrun, hend⟩ := exists_end () (written (10 ^ 20) fun _ => some .performance)
  exact ⟨as, s, hrun, hend, instance_clears rfl
    (meets_of_isStatement (fun _ _ _ => trivial) has) hrun hend⟩

/-- It takes eight statements. -/
theorem instance_length_aged : ∃ as s,
    (retention utcEnv).run (written (10 ^ 20) fun _ => some .performance) as = some (s, []) ∧
      s.loop () = none ∧ as.length = 8 ∧
      ∀ (T : HistoryTable) (r : T.Row), r ∉ s.database.rows T := by
  let begun := written (10 ^ 20) fun _ => some .performance
  have hbegin : begun.loop () = some .performance := rfl
  have hold : ∀ (T : HistoryTable) (r : T.Row), r ∈ begun.database.rows T →
      begun.expired utcEnv r = true := by
    intro T
    cases T <;> exact List.forall_mem_iff_forall_getElem.mpr (by decide +kernel)
  obtain ⟨as, s, has, hrun, hend⟩ := exists_end () begun
  obtain ⟨-, hlength, -, hrows⟩ := instance_length hbegin has hrun
  refine ⟨as, s, hrun, hend, (hlength.mp hend).trans (by decide +kernel), fun T r hr => ?_⟩
  obtain ⟨hmem, hyoung⟩ := (hrows hend T r).mp hr
  exact hyoung (hold T r hmem)

end Retention

end Runs

end Monitor
