import Mathlib.Tactic.Ring
import PerfMonitor.Average.Weighted
import PerfMonitor.Worker.CpuStatMonitor

set_option relaxedAutoImplicit false
set_option autoImplicit false

/-!
# The rows of a CPU report

`BuildCpuStatsFromSnapshot` puts a row for the sum of all CPUs in front of their own rows, and
`UpdateOnce` computes the percentages of every row against the row of the same name in the last
snapshot. As long as no counter falls, the percentages of the first row are the means of those of
the CPUs, each weighted with the time that has passed on it.

## Main definitions

* `Monitor.totalRow`, `Monitor.rowOf` — the rows of a snapshot.
* `Monitor.rowMessage` — the message of a row.
* `Monitor.NoOverflow`, `Monitor.CountersGrow` — no sum overflows; no counter has fallen.

## Main results

* `Monitor.CpuStatMonitor.updateOnce_messages`, `lookup_updateOnce` — what a call reports and
  stores.
* `Monitor.counter_totalRow` — the first row holds the sums of the counters.
* `Monitor.updateOnce_rows` — the rows of the second of two snapshots.
* `Monitor.cpu_rows_consistent` — what holds between their percentages.
-/

namespace Monitor

variable {maxCpus : ℕ}

/-! ## What a call reports and stores -/

/-- The message of a row, `previous` being the stored row of the same name. -/
def rowMessage (current : ProcCpuStat) (previous : Option ProcCpuStat) : CpuStat :=
  match previous with
  | none => { cpuName := current.cpuName }
  | some previous => fillCpuPercentages current previous { cpuName := current.cpuName }

namespace CpuStatMonitor

lemma lookup_addRow (p : CpuStatMonitor × List CpuStat) (row : ProcCpuStat) (name : String) :
    (addRow p row).1.cpuStatMap.lookup name =
      if name = row.cpuName then some row else p.1.cpuStatMap.lookup name :=
  UnorderedMap.lookup_insert_ite _ _ _ _

lemma messages_addRow (p : CpuStatMonitor × List CpuStat) (row : ProcCpuStat) :
    (addRow p row).2 = p.2 ++ [rowMessage row (p.1.cpuStatMap.lookup row.cpuName)] := by
  unfold addRow rowMessage
  cases p.1.cpuStatMap.lookup row.cpuName <;> rfl

lemma lookup_addRow_of_ne (p : CpuStatMonitor × List CpuStat) (row : ProcCpuStat) (name : String)
    (h : row.cpuName ≠ name) :
    (addRow p row).1.cpuStatMap.lookup name = p.1.cpuStatMap.lookup name := by
  rw [lookup_addRow, if_neg (Ne.symm h)]

variable (m : CpuStatMonitor) {rows : List ProcCpuStat}

/-- With distinct names every row is compared with what was stored before the call. -/
lemma updateOnce_messages (hnames : (rows.map ProcCpuStat.cpuName).Nodup) :
    (m.updateOnce (some rows)).2 =
      rows.map fun row => rowMessage row (m.cpuStatMap.lookup row.cpuName) := by
  have hout := UnorderedMap.foldl_out ProcCpuStat.cpuName
    (fun (p : CpuStatMonitor × List CpuStat) name => p.1.cpuStatMap.lookup name) Prod.snd
    (fun row previous => [rowMessage row previous]) lookup_addRow_of_ne messages_addRow hnames
    (m, [])
  rw [updateOnce, hout, List.nil_append, List.map_eq_flatMap]

/-- After the call each row is stored under its name. -/
lemma lookup_updateOnce (hnames : (rows.map ProcCpuStat.cpuName).Nodup) {row : ProcCpuStat}
    (hrow : row ∈ rows) :
    (m.updateOnce (some rows)).1.cpuStatMap.lookup row.cpuName = some row :=
  UnorderedMap.foldl_look_of_mem ProcCpuStat.cpuName
    (fun (p : CpuStatMonitor × List CpuStat) name => p.1.cpuStatMap.lookup name) some
    lookup_addRow_of_ne (fun p row => by rw [lookup_addRow, if_pos rfl]) hnames hrow (m, [])

end CpuStatMonitor

/-! ## The rows of a snapshot -/

variable (snapshot : SharedWord maxCpus → ℕ)

/-- The CPUs of a snapshot. -/
def cpusOf : List (Fin maxCpus) := firstCpus maxCpus (snapshot .cpuCount)

/-- The row of one CPU. -/
def rowOf (cpu : Fin maxCpus) : ProcCpuStat := buildSnapshotFromSharedRaw snapshot cpu

/-- The row for the sum of all CPUs. -/
def totalRow : ProcCpuStat :=
  ((cpusOf snapshot).map (rowOf snapshot)).foldl accumulateCpuStat ⟨"cpu", fun _ => 0⟩

lemma buildCpuStatsFromSnapshot_eq (h : isSharedRegionValid snapshot = true) :
    buildCpuStatsFromSnapshot snapshot =
      some (totalRow snapshot :: (cpusOf snapshot).map (rowOf snapshot)) :=
  if_pos h

lemma cpuName_foldl_accumulate (rows : List ProcCpuStat) (row : ProcCpuStat) :
    (rows.foldl accumulateCpuStat row).cpuName = row.cpuName := by
  induction rows generalizing row with
  | nil => rfl
  | cons r rows ih => exact ih (accumulateCpuStat row r)

lemma cpuName_totalRow : (totalRow snapshot).cpuName = "cpu" := cpuName_foldl_accumulate _ _

lemma cpuName_rowOf (cpu : Fin maxCpus) :
    (rowOf snapshot cpu).cpuName = "cpu" ++ toString cpu.val := rfl

lemma nodup_cpusOf : (cpusOf snapshot).Nodup :=
  (List.nodup_finRange maxCpus).sublist (List.take_sublist _ _)

lemma length_cpusOf (h : isSharedRegionValid snapshot = true) :
    (cpusOf snapshot).length = snapshot .cpuCount := by
  have hle : snapshot .cpuCount ≤ maxCpus := by
    simp only [isSharedRegionValid, Bool.and_eq_true, decide_eq_true_iff] at h
    exact h.2
  rw [cpusOf, firstCpus, List.length_take, List.length_finRange, Nat.min_eq_left hle]

lemma cpuName_injective {i j : Fin maxCpus}
    (h : (rowOf snapshot i).cpuName = (rowOf snapshot j).cpuName) : i = j := by
  rw [cpuName_rowOf, cpuName_rowOf, String.append_right_inj, Nat.toString_eq_repr,
    Nat.toString_eq_repr] at h
  have hdigits : Nat.toDigits 10 i.val = Nat.toDigits 10 j.val := by
    rw [← Nat.toList_repr, ← Nat.toList_repr, h]
  apply Fin.ext
  rw [← @Nat.ofDigitChars_toDigits 10 i.val (by decide) (by decide), hdigits,
    Nat.ofDigitChars_toDigits (by decide) (by decide)]

/-- The rows of a snapshot have distinct names. -/
lemma nodup_cpuName_rows :
    ((totalRow snapshot :: (cpusOf snapshot).map (rowOf snapshot)).map
      ProcCpuStat.cpuName).Nodup := by
  rw [List.map_cons, List.map_map, List.nodup_cons]
  constructor
  · intro hmem
    obtain ⟨cpu, -, hcpu⟩ := List.mem_map.mp hmem
    have hempty : "cpu" ++ toString cpu.val = "cpu" ++ "" := hcpu.trans (cpuName_totalRow snapshot)
    rw [String.append_right_inj, Nat.toString_eq_repr] at hempty
    exact Nat.repr_ne_empty hempty
  · exact (nodup_cpusOf snapshot).map_on fun i _ j _ h => cpuName_injective snapshot h

/-! ## Sums over the CPUs -/

/-- The total times of all CPUs add up to less than `2 ^ 64`, so that no sum overflows. -/
def NoOverflow : Prop := ((cpusOf snapshot).map fun cpu => (rowOf snapshot cpu).total).sum < 2 ^ 64

/-- The fields that count as time; the guest fields are part of `user` and `nice`. -/
def CpuField.Timed (field : CpuField) : Prop := field ≠ .guest ∧ field ≠ .guestNice

lemma counter_le_total (row : ProcCpuStat) {field : CpuField} (h : field.Timed) :
    row.counter field ≤ row.total := by
  unfold ProcCpuStat.total
  cases field with
  | guest => exact absurd rfl h.1
  | guestNice => exact absurd rfl h.2
  | _ => omega

/-- Accumulating rows adds their counters up, in 64-bit arithmetic. -/
lemma counter_foldl_accumulate (field : CpuField) (rows : List ProcCpuStat) (row : ProcCpuStat) :
    (rows.foldl accumulateCpuStat row).counter field % 2 ^ 64 =
      (row.counter field + (rows.map fun r => r.counter field).sum) % 2 ^ 64 := by
  induction rows generalizing row with
  | nil => simp
  | cons r rows ih =>
    rw [List.foldl_cons, ih, List.map_cons, List.sum_cons, ← Nat.add_assoc]
    show ((row.counter field + r.counter field) % 2 ^ 64 + _) % 2 ^ 64 = _
    rw [Nat.mod_add_mod]

lemma counter_foldl_lt (field : CpuField) (rows : List ProcCpuStat) {row : ProcCpuStat}
    (h : row.counter field < 2 ^ 64) :
    (rows.foldl accumulateCpuStat row).counter field < 2 ^ 64 := by
  induction rows generalizing row with
  | nil => exact h
  | cons r rows ih =>
    apply ih
    exact Nat.mod_lt _ (by norm_num)

variable {snapshot}

/-- The first row holds the sums of the counters. -/
lemma counter_totalRow (h : NoOverflow snapshot) {field : CpuField} (hfield : field.Timed) :
    (totalRow snapshot).counter field =
      ((cpusOf snapshot).map fun cpu => (rowOf snapshot cpu).counter field).sum := by
  have hle : ((cpusOf snapshot).map fun cpu => (rowOf snapshot cpu).counter field).sum ≤
      ((cpusOf snapshot).map fun cpu => (rowOf snapshot cpu).total).sum :=
    List.sum_le_sum fun cpu _ => counter_le_total _ hfield
  have hmod := counter_foldl_accumulate field ((cpusOf snapshot).map (rowOf snapshot))
    ⟨"cpu", fun _ => 0⟩
  rw [Nat.mod_eq_of_lt (counter_foldl_lt field _ (by norm_num)), List.map_map] at hmod
  refine hmod.trans ?_
  show (0 + _) % 2 ^ 64 = _
  rw [Nat.zero_add]
  exact Nat.mod_eq_of_lt (hle.trans_lt h)

/-- The time of a share in the first row is the sum of its times on the CPUs. -/
lemma time_totalRow (h : NoOverflow snapshot) (share : CpuShare) :
    share.time (totalRow snapshot) =
      ((cpusOf snapshot).map fun cpu => share.time (rowOf snapshot cpu)).sum := by
  cases share <;>
    simp only [CpuShare.time, List.sum_map_add] <;>
    repeat rw [counter_totalRow h (by constructor <;> decide)]

lemma total_totalRow (h : NoOverflow snapshot) :
    (totalRow snapshot).total =
      ((cpusOf snapshot).map fun cpu => (rowOf snapshot cpu).total).sum := by
  simp only [ProcCpuStat.total, List.sum_map_add]
  repeat rw [counter_totalRow h (by constructor <;> decide)]

/-! ## Rows whose counters grow -/

/-- No counter of a row that counts as time has fallen. -/
def RowGrows (previous current : ProcCpuStat) : Prop :=
  ∀ field : CpuField, field.Timed → previous.counter field ≤ current.counter field

section RowGrows

variable {previous current : ProcCpuStat} (h : RowGrows previous current)
include h

/-- The time of a share and the rest of the total have not fallen. -/
lemma RowGrows.time_le (share : CpuShare) :
    share.time previous ≤ share.time current ∧
      share.restTime previous ≤ share.restTime current := by
  have huser := h .user (by constructor <;> decide)
  have hnice := h .nice (by constructor <;> decide)
  have hsystem := h .system (by constructor <;> decide)
  have hidle := h .idle (by constructor <;> decide)
  have hiowait := h .iowait (by constructor <;> decide)
  have hirq := h .irq (by constructor <;> decide)
  have hsoftirq := h .softirq (by constructor <;> decide)
  have hsteal := h .steal (by constructor <;> decide)
  cases share <;> simp only [CpuShare.time, CpuShare.restTime] <;> omega

lemma RowGrows.total_le : previous.total ≤ current.total := by
  obtain ⟨htime, hrest⟩ := h.time_le .busy
  rw [← CpuShare.busy.time_add_restTime, ← CpuShare.busy.time_add_restTime]
  exact Nat.add_le_add htime hrest

/-- A percentage times the growth of the total is the growth of its own time. -/
lemma RowGrows.percent_mul (hcurrent : current.total < 2 ^ 64) (share : CpuShare) (msg : CpuStat) :
    ((current.total : ℚ) - previous.total) *
        share.percent (fillCpuPercentages current previous msg) =
      ((share.time current : ℚ) - share.time previous) * 100 := by
  obtain ⟨htime, hrest⟩ := h.time_le share
  have htotal := h.total_le
  rw [share.percent_fill hcurrent (htotal.trans_lt hcurrent), safePercent]
  rcases htotal.eq_or_lt with heq | hlt
  · -- no time has passed, so none in any state
    have hsum := share.time_add_restTime previous
    have hsum' := share.time_add_restTime current
    have hsame : share.time current = share.time previous := by omega
    rw [heq, sub_self, zero_mul, hsame, sub_self, zero_mul]
  · have hpos : (0 : ℚ) < (current.total : ℚ) - previous.total := by
      rw [sub_pos]
      exact_mod_cast hlt
    rw [if_neg (by omega), Nat.cast_sub htime, Nat.cast_sub hlt.le, mul_div_cancel₀ _ hpos.ne']

/-- Busy time, idle time and I/O wait make up the total. -/
lemma RowGrows.percent_sum (hcurrent : current.total < 2 ^ 64)
    (hgrown : previous.total < current.total) (msg : CpuStat) :
    (fillCpuPercentages current previous msg).cpuPercent +
        (fillCpuPercentages current previous msg).idlePercent +
        (fillCpuPercentages current previous msg).ioWaitPercent = 100 := by
  have hbusy := h.percent_mul hcurrent .busy msg
  have hidle := h.percent_mul hcurrent .idle msg
  have hwait := h.percent_mul hcurrent .ioWait msg
  have hsum := CpuShare.busy.time_add_restTime previous
  have hsum' := CpuShare.busy.time_add_restTime current
  have hpos : (0 : ℚ) < (current.total : ℚ) - previous.total := by
    rw [sub_pos]
    exact_mod_cast hgrown
  apply mul_left_cancel₀ hpos.ne'
  simp only [CpuShare.percent] at hbusy hidle hwait
  rw [mul_add, mul_add, hbusy, hidle, hwait, ← hsum, ← hsum']
  simp only [CpuShare.restTime, CpuShare.time, Nat.cast_add]
  ring

end RowGrows

/-! ## Two snapshots -/

variable {a b : SharedWord maxCpus → ℕ}

/-- Two valid snapshots of as many CPUs, no counter of which has fallen and no sum of which
overflows. -/
structure CountersGrow (a b : SharedWord maxCpus → ℕ) : Prop where
  validFst : isSharedRegionValid a = true
  validSnd : isSharedRegionValid b = true
  sameCount : a .cpuCount = b .cpuCount
  grows : ∀ cpu ∈ cpusOf b, RowGrows (rowOf a cpu) (rowOf b cpu)
  noOverflow : NoOverflow b

/-- A difference of sums, term by term. -/
lemma cast_sum_sub (cpus : List (Fin maxCpus)) (f g : Fin maxCpus → ℕ) :
    ((cpus.map f).sum : ℚ) - (cpus.map g).sum =
      (cpus.map fun cpu => (f cpu : ℚ) - g cpu).sum := by
  induction cpus with
  | nil => exact sub_self 0
  | cons cpu cpus ih =>
    simp only [List.map_cons, List.sum_cons, Nat.cast_add]
    rw [← ih, add_sub_add_comm]

namespace CountersGrow

variable (h : CountersGrow a b)
include h

lemma cpusOf_eq : cpusOf a = cpusOf b := by rw [cpusOf, cpusOf, h.sameCount]

/-- The sums of the first snapshot do not overflow either. -/
lemma noOverflow_fst : NoOverflow a := by
  refine lt_of_le_of_lt ?_ h.noOverflow
  rw [h.cpusOf_eq]
  exact List.sum_le_sum fun cpu hcpu => (h.grows cpu hcpu).total_le

/-- The first row grows with the others. -/
lemma grows_totalRow : RowGrows (totalRow a) (totalRow b) := by
  intro field hfield
  rw [counter_totalRow h.noOverflow_fst hfield, counter_totalRow h.noOverflow hfield, h.cpusOf_eq]
  exact List.sum_le_sum fun cpu hcpu => h.grows cpu hcpu field hfield

lemma total_totalRow_lt : (totalRow b).total < 2 ^ 64 := by
  rw [total_totalRow h.noOverflow]
  exact h.noOverflow

lemma total_rowOf_lt {cpu : Fin maxCpus} (hcpu : cpu ∈ cpusOf b) :
    (rowOf b cpu).total < 2 ^ 64 :=
  (List.single_le_sum (fun _ _ => Nat.zero_le _) _ (List.mem_map_of_mem hcpu)).trans_lt
    h.noOverflow

/-- The messages of the second of two calls: each row against the row of the same name. -/
lemma updateOnce_rows (m : CpuStatMonitor) :
    ((m.updateOnce (buildCpuStatsFromSnapshot a)).1.updateOnce (buildCpuStatsFromSnapshot b)).2 =
      rowMessage (totalRow b) (some (totalRow a)) ::
        (cpusOf b).map fun cpu => rowMessage (rowOf b cpu) (some (rowOf a cpu)) := by
  rw [buildCpuStatsFromSnapshot_eq a h.validFst, buildCpuStatsFromSnapshot_eq b h.validSnd,
    CpuStatMonitor.updateOnce_messages _ (nodup_cpuName_rows b), List.map_cons, List.map_map]
  have hstored := fun row hrow =>
    @CpuStatMonitor.lookup_updateOnce m _ (nodup_cpuName_rows a) row hrow
  congr 1
  · rw [cpuName_totalRow b, ← cpuName_totalRow a, hstored _ List.mem_cons_self]
  · apply List.map_congr_left
    intro cpu hcpu
    rw [← h.cpusOf_eq] at hcpu
    exact congrArg (rowMessage (rowOf b cpu))
      (hstored _ (List.mem_cons_of_mem _ (List.mem_map_of_mem hcpu)))

/-- The growths of the CPUs' times add up to that of the first row. -/
lemma sum_growth :
    ((cpusOf b).map fun cpu => ((rowOf b cpu).total : ℚ) - (rowOf a cpu).total).sum =
      ((totalRow b).total : ℚ) - (totalRow a).total := by
  rw [total_totalRow h.noOverflow, total_totalRow h.noOverflow_fst, h.cpusOf_eq, cast_sum_sub]

/-- The percentages of the first row are the weighted means of those of the CPUs. -/
lemma percent_totalRow (hgrown : (totalRow a).total < (totalRow b).total) (share : CpuShare) :
    share.percent (rowMessage (totalRow b) (some (totalRow a))) =
      Average.weighted (fun cpu => ((rowOf b cpu).total : ℚ) - (rowOf a cpu).total)
        (fun cpu => share.percent (rowMessage (rowOf b cpu) (some (rowOf a cpu))))
        (cpusOf b) := by
  have hmul := h.grows_totalRow.percent_mul h.total_totalRow_lt share
    { cpuName := (totalRow b).cpuName }
  have hpos : (0 : ℚ) < ((totalRow b).total : ℚ) - (totalRow a).total := by
    rw [sub_pos]
    exact_mod_cast hgrown
  have hproducts : ((cpusOf b).map fun cpu =>
      (((rowOf b cpu).total : ℚ) - (rowOf a cpu).total) *
        share.percent (rowMessage (rowOf b cpu) (some (rowOf a cpu)))).sum =
      ((share.time (totalRow b) : ℚ) - share.time (totalRow a)) * 100 := by
    rw [time_totalRow h.noOverflow, time_totalRow h.noOverflow_fst, h.cpusOf_eq,
      cast_sum_sub, ← List.sum_map_mul_right]
    apply congrArg List.sum
    apply List.map_congr_left
    intro cpu hcpu
    exact (h.grows cpu hcpu).percent_mul (h.total_rowOf_lt hcpu) share _
  rw [Average.weighted, h.sum_growth, hproducts, ← hmul, mul_div_cancel_left₀ _ hpos.ne']
  rfl

end CountersGrow

/-! ## The report -/

/-- The sum of the percentages of a row that show where its time went. -/
def percentSum (msg : CpuStat) : ℚ := msg.cpuPercent + msg.idlePercent + msg.ioWaitPercent

/-- **The rows are consistent.** Two snapshots are processed one after the other, whatever the
monitor has stored before. The message has a row for the sum of all CPUs and, behind it, one for
each CPU. In every row whose time has grown, busy time, idle time and I/O wait make up `100`
percent. If the time of the first row has grown, its percentages are the means of those of the CPUs,
weighted with the growth of their times, and lie between those of two CPUs whose time has grown.

**Proof sketch.** Names are distinct, so each row is compared with that of the same name in the
first snapshot. A percentage times the growth of its row's total is the growth of its own time
(`RowGrows.percent_mul`), and times add up over the CPUs (`time_totalRow`). -/
theorem cpu_rows_consistent (h : CountersGrow a b) (m : CpuStatMonitor) :
    ∃ (total : CpuStat) (cpus : Fin maxCpus → CpuStat),
      ((m.updateOnce (buildCpuStatsFromSnapshot a)).1.updateOnce
        (buildCpuStatsFromSnapshot b)).2 = total :: (cpusOf b).map cpus ∧
      (cpusOf b).length = b .cpuCount ∧
      total.cpuName = "cpu" ∧ (∀ cpu, (cpus cpu).cpuName = "cpu" ++ toString cpu.val) ∧
      ((totalRow a).total < (totalRow b).total → percentSum total = 100) ∧
      (∀ cpu ∈ cpusOf b, (rowOf a cpu).total < (rowOf b cpu).total →
        percentSum (cpus cpu) = 100) ∧
      ((totalRow a).total < (totalRow b).total → ∀ share : CpuShare,
        share.percent total =
            Average.weighted (fun cpu => ((rowOf b cpu).total : ℚ) - (rowOf a cpu).total)
              (fun cpu => share.percent (cpus cpu)) (cpusOf b) ∧
          (∃ cpu ∈ cpusOf b, (rowOf a cpu).total < (rowOf b cpu).total ∧
            share.percent (cpus cpu) ≤ share.percent total) ∧
          ∃ cpu ∈ cpusOf b, (rowOf a cpu).total < (rowOf b cpu).total ∧
            share.percent total ≤ share.percent (cpus cpu)) := by
  refine ⟨rowMessage (totalRow b) (some (totalRow a)),
    fun cpu => rowMessage (rowOf b cpu) (some (rowOf a cpu)), h.updateOnce_rows m,
    length_cpusOf b h.validSnd, cpuName_totalRow b, fun cpu => cpuName_rowOf b cpu,
    fun hgrown => h.grows_totalRow.percent_sum h.total_totalRow_lt hgrown _,
    fun cpu hcpu hgrown => (h.grows cpu hcpu).percent_sum (h.total_rowOf_lt hcpu) hgrown _,
    fun hgrown share => ?_⟩
  have hmean := h.percent_totalRow hgrown share
  have hnonneg : ∀ cpu ∈ cpusOf b, (0 : ℚ) ≤ ((rowOf b cpu).total : ℚ) - (rowOf a cpu).total := by
    intro cpu hcpu
    rw [sub_nonneg]
    exact_mod_cast (h.grows cpu hcpu).total_le
  have hpos : 0 < ((cpusOf b).map fun cpu =>
      ((rowOf b cpu).total : ℚ) - (rowOf a cpu).total).sum := by
    rw [h.sum_growth, sub_pos]
    exact_mod_cast hgrown
  obtain ⟨i, hi, hwi, hlow⟩ := Average.exists_le_weighted
    (v := fun cpu => share.percent (rowMessage (rowOf b cpu) (some (rowOf a cpu)))) hnonneg hpos
  obtain ⟨j, hj, hwj, hhigh⟩ := Average.exists_weighted_le
    (v := fun cpu => share.percent (rowMessage (rowOf b cpu) (some (rowOf a cpu)))) hnonneg hpos
  rw [sub_pos, Nat.cast_lt] at hwi hwj
  exact ⟨hmean, ⟨i, hi, hwi, hmean ▸ hlow⟩, ⟨j, hj, hwj, hmean ▸ hhigh⟩⟩

/-- A snapshot of two CPUs that are idle or in user mode. -/
def twoCpus (user idle : ℕ) : SharedWord 2 → ℕ
  | .version => cpuStatSharedVersion
  | .cpuCount => 2
  | .counter 0 .user => user
  | .counter 1 .idle => idle
  | _ => 0

lemma countersGrow_twoCpus : CountersGrow (twoCpus 10 10) (twoCpus 40 110) where
  validFst := rfl
  validSnd := rfl
  sameCount := rfl
  grows cpu _ field _ := by
    obtain rfl | rfl : cpu = 0 ∨ cpu = 1 := by omega
    · cases field <;> decide
    · cases field <;> decide
  noOverflow := by
    unfold NoOverflow
    decide

/-- One CPU was busy for `30` units of time and the other one idle for `100`. -/
theorem cpu_rows_consistent_two :
    ∃ (total : CpuStat) (cpus : Fin 2 → CpuStat),
      ((CpuStatMonitor.updateOnce {} (buildCpuStatsFromSnapshot (twoCpus 10 10))).1.updateOnce
        (buildCpuStatsFromSnapshot (twoCpus 40 110))).2 =
          total :: (cpusOf (twoCpus 40 110)).map cpus ∧
      percentSum total = 100 ∧
      ∃ cpu ∈ cpusOf (twoCpus 40 110), total.idlePercent ≤ (cpus cpu).idlePercent := by
  obtain ⟨total, cpus, hmsgs, -, -, -, hsum, -, hmean⟩ :=
    cpu_rows_consistent countersGrow_twoCpus {}
  have hgrown : (totalRow (twoCpus 10 10)).total < (totalRow (twoCpus 40 110)).total := by
    decide
  obtain ⟨-, -, cpu, hcpu, -, hle⟩ := hmean hgrown .idle
  exact ⟨total, cpus, hmsgs, hsum hgrown, cpu, hcpu, hle⟩

end Monitor
