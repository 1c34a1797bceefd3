import PerfMonitor.Counter.Rounding
import PerfMonitor.Worker.CpuRows

set_option relaxedAutoImplicit false
set_option autoImplicit false

/-!
# The unit of the exported CPU times

`collect_cpu_stat_raw` (`kernel/cpu_stat_module/cpu_stat_collector.c`) is to store all times of a
CPU in microseconds. The kernel counts eight of them, and the other two where nothing better is
known, in nanoseconds; `cpu_time_units_to_us` divides these by `1000` or, without
`CONFIG_VIRT_CPU_ACCOUNTING_GEN`, takes them for a number of jiffies.

## Main definitions

* `Monitor.KernelBuild`, `Monitor.KernelCounters` — the settings and the counters of a kernel.
* `Monitor.cpuTimeUnitsToUs`, `Monitor.KernelCounters.sample` — the conversion of a counter and of
  all that is sampled of a CPU.
* `Monitor.exportedRow` — what the worker reads of a CPU after it was sampled.
* `Monitor.InMicroseconds` — what two exported rows should say of the counters.

## Main results

* `Monitor.inMicroseconds_iff` — when they do.
* `Monitor.exported_microseconds_iff_setting` — the setting decides whether they do for all
  counters.
* `Monitor.busy_share_near` — the share of busy time is right up to six microseconds.
-/

namespace Monitor

/-! ## The counters of the kernel -/

/-- The settings of the kernel that the conversion depends on. -/
structure KernelBuild where
  /-- `CONFIG_VIRT_CPU_ACCOUNTING_GEN`. -/
  virtCpuAccountingGen : Bool
  /-- `HZ`, the number of jiffies in a second. -/
  hz : ℕ
  hz_pos : 0 < hz

/-- What the kernel has counted for one CPU. -/
structure KernelCounters where
  /-- `kcpustat_field`, in nanoseconds. -/
  cpustat : CpuField → ℕ
  /-- `get_cpu_idle_time_us`, in microseconds unless it is `notAvailable`. -/
  idleTimeUs : ℕ
  /-- `get_cpu_iowait_time_us`, in microseconds unless it is `notAvailable`. -/
  iowaitTimeUs : ℕ
  cpustat_lt : ∀ field, cpustat field < 2 ^ 64
  idleTimeUs_le : idleTimeUs ≤ notAvailable
  iowaitTimeUs_le : iowaitTimeUs ≤ notAvailable

/-- `NSEC_PER_USEC`. -/
def nsecPerUsec : ℕ := 1000

/-- `USEC_PER_SEC`. -/
def usecPerSec : ℕ := 1000000

/-- `jiffies_to_usecs`. The product is a 64-bit number, the result one of 32 bits. -/
def jiffiesToUsecs (hz jiffies : ℕ) : ℕ :=
  jiffies * (usecPerSec / Nat.gcd hz usecPerSec) % 2 ^ 64 / (hz / Nat.gcd hz usecPerSec) % 2 ^ 32

lemma jiffiesToUsecs_lt (hz jiffies : ℕ) : jiffiesToUsecs hz jiffies < 2 ^ 32 :=
  Nat.mod_lt _ (by decide)

/-- The result of the conversion where a jiffy is a whole number of microseconds. -/
lemma jiffiesToUsecs_of_dvd {hz : ℕ} (hdvd : hz ∣ usecPerSec) (jiffies : ℕ) :
    jiffiesToUsecs hz jiffies = jiffies * (usecPerSec / hz) % 2 ^ 32 := by
  have hhz : 0 < hz := Nat.pos_of_dvd_of_pos hdvd (by decide)
  rw [jiffiesToUsecs, Nat.gcd_eq_left hdvd, Nat.div_self hhz, Nat.div_one]
  exact Nat.mod_mod_of_dvd _ (by decide)

/-- `cpu_time_units_to_us`. -/
def cpuTimeUnitsToUs (build : KernelBuild) (value : ℕ) : ℕ :=
  if build.virtCpuAccountingGen then value / nsecPerUsec else jiffiesToUsecs build.hz value

namespace KernelCounters

/-- `read_cpustat_us`. -/
def readCpustatUs (build : KernelBuild) (k : KernelCounters) (field : CpuField) : ℕ :=
  cpuTimeUnitsToUs build (k.cpustat field)

/-- What `collect_cpu_stat_raw` reads of a CPU. -/
def sample (build : KernelBuild) (k : KernelCounters) : KernelCpuStat where
  cpustat := k.readCpustatUs build
  idleTimeUs := k.idleTimeUs
  iowaitTimeUs := k.iowaitTimeUs

/-- The time that the kernel has counted for a field, in nanoseconds. -/
def timeNs (k : KernelCounters) : CpuField → ℕ
  | .idle => if k.idleTimeUs = notAvailable then k.cpustat .idle else k.idleTimeUs * nsecPerUsec
  | .iowait =>
    if k.iowaitTimeUs = notAvailable then k.cpustat .iowait else k.iowaitTimeUs * nsecPerUsec
  | field => k.cpustat field

/-- The fields that `read_cpustat_us` is called for. -/
def ReadsCpustat (k : KernelCounters) : CpuField → Prop
  | .idle => k.idleTimeUs = notAvailable
  | .iowait => k.iowaitTimeUs = notAvailable
  | _ => True

/-- The row that says what the kernel has counted, in whole multiples of a unit. -/
def row (k : KernelCounters) (unit : ℕ) : ProcCpuStat where
  cpuName := "cpu"
  counter := fun field => k.timeNs field / unit

variable {k k' : KernelCounters} {build : KernelBuild} {field : CpuField}

lemma value_of_reads (h : k.ReadsCpustat field) :
    (k.sample build).value field = cpuTimeUnitsToUs build (k.cpustat field) ∧
      k.timeNs field = k.cpustat field := by
  cases field with
  | idle => exact ⟨if_pos h, if_pos h⟩
  | iowait => exact ⟨if_pos h, if_pos h⟩
  | _ => exact ⟨rfl, rfl⟩

lemma value_of_not_reads (h : ¬ k.ReadsCpustat field) :
    (k.sample build).value field = k.timeNs field / nsecPerUsec := by
  have hunit : 0 < nsecPerUsec := by decide
  cases field with
  | idle =>
    have htime : k.timeNs .idle = k.idleTimeUs * nsecPerUsec := if_neg h
    rw [htime, Nat.mul_div_cancel _ hunit]
    exact if_neg h
  | iowait =>
    have htime : k.timeNs .iowait = k.iowaitTimeUs * nsecPerUsec := if_neg h
    rw [htime, Nat.mul_div_cancel _ hunit]
    exact if_neg h
  | _ => exact absurd trivial h

/-- The setting is on, or each counter `v` that is read happens to give the same number when it is
taken for nanoseconds, `v / 1000`, and when it is taken for jiffies. That is `v * 1000000 / HZ`,
with the fraction in lowest terms, the product cut to 64 bits and the result to 32. -/
def Converted (build : KernelBuild) (k : KernelCounters) : Prop :=
  build.virtCpuAccountingGen = true ∨ ∀ field, k.ReadsCpustat field →
    k.cpustat field * (1000000 / Nat.gcd build.hz 1000000) % 2 ^ 64 /
      (build.hz / Nat.gcd build.hz 1000000) % 2 ^ 32 = k.cpustat field / 1000

/-- A counter in nanoseconds that is converted rightly though it is taken for jiffies is zero, or
its number of microseconds fits in 32 bits and the one computed does not. -/
lemma range_of_jiffiesToUsecs_eq {hz value : ℕ} (hdvd : hz ∣ usecPerSec)
    (h : jiffiesToUsecs hz value = value / nsecPerUsec) :
    value = 0 ∨ value < 2 ^ 32 * nsecPerUsec ∧ 2 ^ 32 ≤ value * (usecPerSec / hz) := by
  have hfits : value / nsecPerUsec < 2 ^ 32 := h ▸ jiffiesToUsecs_lt hz value
  have hlt : value < 2 ^ 32 * nsecPerUsec := (Nat.div_lt_iff_lt_mul (by decide)).mp hfits
  by_cases hsmall : value * (usecPerSec / hz) < 2 ^ 32
  · left
    rw [jiffiesToUsecs_of_dvd hdvd, Nat.mod_eq_of_lt hsmall] at h
    have hunit : 0 < usecPerSec / hz :=
      Nat.div_pos (Nat.le_of_dvd (by decide) hdvd) (Nat.pos_of_dvd_of_pos hdvd (by decide))
    have hle : value ≤ value / nsecPerUsec := h ▸ Nat.le_mul_of_pos_right value hunit
    rw [nsecPerUsec] at hle
    omega
  · exact Or.inr ⟨hlt, by omega⟩

/-- All fields that a sample stores are in microseconds exactly when the conversion of each counter
it reads is right. -/
lemma value_sample_iff :
    (∀ field, (k.sample build).value field = k.timeNs field / nsecPerUsec) ↔ k.Converted build := by
  constructor
  · intro h
    cases hsetting : build.virtCpuAccountingGen with
    | true => exact Or.inl hsetting
    | false =>
      refine Or.inr fun field hreads => ?_
      obtain ⟨hvalue, htime⟩ := @value_of_reads k build field hreads
      show jiffiesToUsecs build.hz (k.cpustat field) = k.cpustat field / nsecPerUsec
      rw [← htime, ← h field, hvalue, htime, cpuTimeUnitsToUs, hsetting, if_neg (by decide)]
  · intro h field
    by_cases hreads : k.ReadsCpustat field
    · obtain ⟨hvalue, htime⟩ := @value_of_reads k build field hreads
      rw [hvalue, htime, cpuTimeUnitsToUs]
      split_ifs with hsetting
      · rfl
      · exact (h.resolve_left hsetting) field hreads
    · exact value_of_not_reads hreads

end KernelCounters

/-! ## What is exported -/

variable {maxCpus : ℕ}

/-- What the worker reads of a CPU after `collect_cpu_stat_raw` has stored its times. -/
def exportedRow (build : KernelBuild) (k : KernelCounters) (cpu : Fin maxCpus)
    (words : SharedWord maxCpus → ℕ) : ProcCpuStat :=
  buildSnapshotFromSharedRaw (write (collectCpuStatRaw (k.sample build) cpu) words) cpu

@[simp] lemma counter_exportedRow (build : KernelBuild) (k : KernelCounters) (cpu : Fin maxCpus)
    (words : SharedWord maxCpus → ℕ) (field : CpuField) :
    (exportedRow build k cpu words).counter field = (k.sample build).value field :=
  write_collectCpuStatRaw (k.sample build) cpu field words

/-- The growth of the busy time and of the total time between two rows. -/
def busyGrowth (row row' : ProcCpuStat) : ℕ := CpuShare.busy.time row' - CpuShare.busy.time row

@[inherit_doc busyGrowth]
def totalGrowth (row row' : ProcCpuStat) : ℕ := row'.total - row.total

/-- The share of busy time is that of the counters in microseconds: `TotalTime` and `BusyTime` grow
by as much, and the percentage is off by at most six microseconds of the total. -/
structure BusyShareRight (k k' : KernelCounters) (row row' : ProcCpuStat) : Prop where
  total : totalTime row' - totalTime row = totalGrowth (k.row nsecPerUsec) (k'.row nsecPerUsec)
  busy : busyTime row' - busyTime row = busyGrowth (k.row nsecPerUsec) (k'.row nsecPerUsec)
  near : ∀ msg : CpuStat,
    |(fillCpuPercentages row' row msg).cpuPercent / 100 -
        (busyGrowth (k.row 1) (k'.row 1) : ℚ) / totalGrowth (k.row 1) (k'.row 1)| *
      totalGrowth (k.row nsecPerUsec) (k'.row nsecPerUsec) ≤ 6

/-- What two exported rows of a CPU should say of the counters they were made of. -/
structure InMicroseconds (k k' : KernelCounters) (row row' : ProcCpuStat) : Prop where
  previous : ∀ field, row.counter field = k.timeNs field / nsecPerUsec
  current : ∀ field, row'.counter field = k'.timeNs field / nsecPerUsec
  mono : ∀ field, k.timeNs field ≤ k'.timeNs field → row.counter field ≤ row'.counter field
  share : (∀ field, k.timeNs field ≤ k'.timeNs field) → BusyShareRight k k' row row'

/-! ## The share of busy time -/

section Share

variable {k k' : KernelCounters} {row row' : ProcCpuStat}

/-- The percentage of busy time is a quotient of growths. -/
lemma cpuPercent_div (row row' : ProcCpuStat) (msg : CpuStat) :
    (fillCpuPercentages row' row msg).cpuPercent / 100 =
      ((busyTime row' - busyTime row : ℕ) : ℚ) / (totalTime row' - totalTime row : ℕ) := by
  have hdelta : (if totalTime row' > totalTime row then totalTime row' - totalTime row else 0) =
      totalTime row' - totalTime row := by
    split_ifs <;> omega
  simp only [fillCpuPercentages, hdelta]
  split_ifs with h
  · rw [mul_div_right_comm, mul_div_assoc, div_self (by norm_num), mul_one]
  · rcases not_and_or.mp h with htotal | hbusy
    · have hzero : totalTime row' - totalTime row = 0 := by omega
      rw [hzero, Nat.cast_zero, div_zero, zero_div]
    · have hzero : busyTime row' - busyTime row = 0 := by omega
      rw [hzero, Nat.cast_zero, zero_div, zero_div]

/-- The counters that make up the busy time. -/
def busyFields : List CpuField := [.user, .nice, .system, .irq, .softirq, .steal]

/-- The counters that make up the rest of the total. -/
def restFields : List CpuField := [.idle, .iowait]

lemma busy_time_row (k : KernelCounters) (unit : ℕ) :
    CpuShare.busy.time (k.row unit) = (busyFields.map fun f => k.timeNs f / unit).sum := by
  simp [CpuShare.time, KernelCounters.row, busyFields, Nat.add_assoc]

lemma busy_restTime_row (k : KernelCounters) (unit : ℕ) :
    CpuShare.busy.restTime (k.row unit) = (restFields.map fun f => k.timeNs f / unit).sum := by
  simp [CpuShare.restTime, KernelCounters.row, restFields]

lemma rowGrows_row (hgrow : ∀ field, k.timeNs field ≤ k'.timeNs field) (unit : ℕ) :
    RowGrows (k.row unit) (k'.row unit) := fun field _ => Nat.div_le_div_right (hgrow field)

/-- The growth of at most six counters, in microseconds and in nanoseconds. -/
lemma abs_growth_row_le (time : ProcCpuStat → ℕ) (fields : List CpuField)
    (htime : ∀ (k : KernelCounters) (unit : ℕ),
      time (k.row unit) = (fields.map fun f => k.timeNs f / unit).sum)
    (hlength : fields.length ≤ 6)
    (hle : ∀ unit, time (k.row unit) ≤ time (k'.row unit)) :
    |(nsecPerUsec : ℚ) * (time (k'.row nsecPerUsec) - time (k.row nsecPerUsec) : ℕ) -
      (time (k'.row 1) - time (k.row 1) : ℕ)| ≤ 6 * nsecPerUsec := by
  have hnear := Counter.abs_growth_sum_div_le (K := ℚ) (u := nsecPerUsec) (by decide) k.timeNs
    k'.timeNs fields
  have hns : ∀ k : KernelCounters, time (k.row 1) = (fields.map k.timeNs).sum := fun k => by
    simp only [htime, Nat.div_one]
  rw [Nat.cast_sub (hle _), Nat.cast_sub (hle _), hns, hns, htime, htime]
  refine hnear.trans (mul_le_mul_of_nonneg_right ?_ (Nat.cast_nonneg _))
  exact_mod_cast hlength

lemma totalTime_row (hrow : ∀ field, row.counter field = k.timeNs field / nsecPerUsec) :
    totalTime row = (k.row nsecPerUsec).total % 2 ^ 64 := by
  simp only [totalTime, hrow]
  rfl

/-- The busy time does not overflow: in microseconds, a thousandth of the counters is left. -/
lemma busyTime_row (hrow : ∀ field, row.counter field = k.timeNs field / nsecPerUsec) :
    busyTime row = CpuShare.busy.time (k.row nsecPerUsec) := by
  have htime : ∀ field : CpuField, field ≠ .idle → field ≠ .iowait →
      k.timeNs field / nsecPerUsec < 2 ^ 60 := by
    intro field hidle hiowait
    have hlt := k.cpustat_lt field
    have hns : k.timeNs field = k.cpustat field := by
      cases field with
      | idle => exact absurd rfl hidle
      | iowait => exact absurd rfl hiowait
      | _ => rfl
    rw [hns, nsecPerUsec]
    omega
  have huser := htime .user (by decide) (by decide)
  have hnice := htime .nice (by decide) (by decide)
  have hsystem := htime .system (by decide) (by decide)
  have hirq := htime .irq (by decide) (by decide)
  have hsoftirq := htime .softirq (by decide) (by decide)
  have hsteal := htime .steal (by decide) (by decide)
  simp only [busyTime, hrow, CpuShare.time, KernelCounters.row]
  exact Nat.mod_eq_of_lt (by omega)

/-- **The busy share is right up to rounding.** When the rows hold the counters in microseconds, no
counter has fallen and the sums of the two rows lie in one stretch of `2 ^ 64` microseconds.

**Proof sketch.** The sum of the six counters of the busy time never overflows, so both growths are
those of the counters in microseconds. Each of the eight counters is rounded down, which is off by
less than a unit; the busy time is made of six of them and the rest of two. -/
theorem busy_share_near (hrow : ∀ field, row.counter field = k.timeNs field / nsecPerUsec)
    (hrow' : ∀ field, row'.counter field = k'.timeNs field / nsecPerUsec)
    (hgrow : ∀ field, k.timeNs field ≤ k'.timeNs field)
    (hstretch : (k.row nsecPerUsec).total / 2 ^ 64 = (k'.row nsecPerUsec).total / 2 ^ 64) :
    BusyShareRight k k' row row' := by
  have hgrows := rowGrows_row hgrow
  have htotal : totalTime row' - totalTime row =
      totalGrowth (k.row nsecPerUsec) (k'.row nsecPerUsec) := by
    have hle := (hgrows nsecPerUsec).total_le
    rw [totalTime_row hrow, totalTime_row hrow', totalGrowth]
    omega
  have hbusy : busyTime row' - busyTime row =
      busyGrowth (k.row nsecPerUsec) (k'.row nsecPerUsec) := by
    rw [busyTime_row hrow, busyTime_row hrow', busyGrowth]
  refine ⟨htotal, hbusy, fun msg => ?_⟩
  have hsplit : ∀ unit, totalGrowth (k.row unit) (k'.row unit) =
      busyGrowth (k.row unit) (k'.row unit) +
        (CpuShare.busy.restTime (k'.row unit) - CpuShare.busy.restTime (k.row unit)) := by
    intro unit
    obtain ⟨htime, hrest⟩ := (hgrows unit).time_le .busy
    rw [totalGrowth, busyGrowth, ← CpuShare.busy.time_add_restTime,
      ← CpuShare.busy.time_add_restTime]
    omega
  have hX := abs_growth_row_le (fun r => CpuShare.busy.time r) busyFields busy_time_row
    (by decide) fun unit => ((hgrows unit).time_le .busy).1
  have hY := abs_growth_row_le (fun r => CpuShare.busy.restTime r) restFields busy_restTime_row
    (by decide) fun unit => ((hgrows unit).time_le .busy).2
  rw [cpuPercent_div, htotal, hbusy, hsplit, hsplit, Nat.cast_add, Nat.cast_add]
  exact Counter.abs_share_sub_le (by norm_num [nsecPerUsec]) (Nat.cast_nonneg _)
    (Nat.cast_nonneg _) (by positivity) hX hY

end Share

/-! ## When the rows are in microseconds -/

/-- **When the exported times are in microseconds.** For two samples of a CPU, the rows that the
worker reads are the kernel's counters in microseconds, fall only where these do and yield the share
of busy time up to rounding exactly when both samples are converted rightly and, unless a counter
has fallen, their sums lie in one stretch of `2 ^ 64` microseconds. -/
theorem inMicroseconds_iff (build : KernelBuild) (k k' : KernelCounters) (cpu : Fin maxCpus)
    (words words' : SharedWord maxCpus → ℕ) :
    InMicroseconds k k' (exportedRow build k cpu words) (exportedRow build k' cpu words') ↔
      k.Converted build ∧ k'.Converted build ∧
        ((∀ field, k.timeNs field ≤ k'.timeNs field) →
          (k.row nsecPerUsec).total / 2 ^ 64 = (k'.row nsecPerUsec).total / 2 ^ 64) := by
  simp only [← KernelCounters.value_sample_iff]
  constructor
  · intro h
    have hrow : ∀ field, (k.sample build).value field = k.timeNs field / nsecPerUsec :=
      fun field => (counter_exportedRow build k cpu words field).symm.trans (h.previous field)
    have hrow' : ∀ field, (k'.sample build).value field = k'.timeNs field / nsecPerUsec :=
      fun field => (counter_exportedRow build k' cpu words' field).symm.trans (h.current field)
    refine ⟨hrow, hrow', fun hgrow => ?_⟩
    -- a total that passes a multiple of the width grows by too little
    have hle := (rowGrows_row hgrow nsecPerUsec).total_le
    have htotal := (h.share hgrow).total
    rw [totalTime_row h.previous, totalTime_row h.current, totalGrowth] at htotal
    omega
  · rintro ⟨hrow, hrow', hstretch⟩
    have hprevious : ∀ field,
        (exportedRow build k cpu words).counter field = k.timeNs field / nsecPerUsec :=
      fun field => (counter_exportedRow build k cpu words field).trans (hrow field)
    have hcurrent : ∀ field,
        (exportedRow build k' cpu words').counter field = k'.timeNs field / nsecPerUsec :=
      fun field => (counter_exportedRow build k' cpu words' field).trans (hrow' field)
    refine ⟨hprevious, hcurrent, fun field hle => ?_, fun hgrow => ?_⟩
    · rw [hprevious, hcurrent]
      exact Nat.div_le_div_right hle
    · exact busy_share_near hprevious hcurrent hgrow (hstretch hgrow)

/-- A CPU that has been in user mode and idle for some seconds each, its idle time known in
microseconds. -/
def KernelCounters.seconds (user idle : ℕ) (huser : user < 2 ^ 32) (hidle : idle < 2 ^ 32) :
    KernelCounters where
  cpustat := fun field => if field = .user then user * 1000000000 else 0
  idleTimeUs := idle * usecPerSec
  iowaitTimeUs := 0
  cpustat_lt := fun field => by split_ifs <;> omega
  idleTimeUs_le := by
    unfold notAvailable usecPerSec
    omega
  iowaitTimeUs_le := Nat.zero_le _

/-- `HZ` is `250` and the setting is off. A CPU has been in user mode for three seconds, then four;
its idle time, which the kernel gives in microseconds, grows from three seconds to nine. The user
time is exported as `4156` and then `1246` seconds, and no busy time is reported of the seventh that
there was. -/
theorem user_time_falls :
    let build : KernelBuild := ⟨false, 250, by decide⟩
    let k := KernelCounters.seconds 3 3 (by decide) (by decide)
    let k' := KernelCounters.seconds 4 9 (by decide) (by decide)
    let row := exportedRow build k (0 : Fin 256) zeroedRegion
    let row' := exportedRow build k' (0 : Fin 256) zeroedRegion
    (∀ field, k.timeNs field ≤ k'.timeNs field) ∧
      k.timeNs .user / nsecPerUsec = 3000000 ∧ row.counter .user = 4156342272 ∧
      k'.timeNs .user / nsecPerUsec = 4000000 ∧ row'.counter .user = 1246822400 ∧
      (busyGrowth (k.row 1) (k'.row 1) : ℚ) / totalGrowth (k.row 1) (k'.row 1) = 1 / 7 ∧
      (fillCpuPercentages row' row {}).cpuPercent = 0 ∧ ¬ InMicroseconds k k' row row' := by
  intro build k k' row row'
  have huser : row.counter .user = 4156342272 := by
    rw [counter_exportedRow]
    decide +kernel
  have huser' : row'.counter .user = 1246822400 := by
    rw [counter_exportedRow]
    decide +kernel
  refine ⟨fun field => ?_, by decide +kernel, huser, by decide +kernel, huser', by decide +kernel,
    by decide +kernel, fun h => ?_⟩
  · cases field <;> decide +kernel
  · have hright := h.previous .user
    rw [huser] at hright
    exact absurd hright (by decide +kernel)

/-- The setting decides whether the rows are in microseconds for all counters. -/
theorem exported_microseconds_iff_setting (build : KernelBuild) (cpu : Fin maxCpus)
    (words : SharedWord maxCpus → ℕ) :
    (∀ (k : KernelCounters) (field : CpuField),
        (exportedRow build k cpu words).counter field = k.timeNs field / nsecPerUsec) ↔
      build.virtCpuAccountingGen = true := by
  constructor
  · intro h
    -- a counter whose microseconds do not fit in 32 bits
    let k : KernelCounters :=
      { cpustat := fun _ => 2 ^ 32 * nsecPerUsec
        idleTimeUs := 0
        iowaitTimeUs := 0
        cpustat_lt := fun _ => by decide
        idleTimeUs_le := by decide
        iowaitTimeUs_le := by decide }
    have hconverted : k.Converted build := KernelCounters.value_sample_iff.mp fun field =>
      (counter_exportedRow build k cpu words field).symm.trans (h k field)
    refine hconverted.resolve_right fun hread => ?_
    have hlt := jiffiesToUsecs_lt build.hz (k.cpustat .user)
    have hfull : k.cpustat .user / nsecPerUsec = 2 ^ 32 := Nat.mul_div_cancel _ (by decide)
    have huser : jiffiesToUsecs build.hz (k.cpustat .user) = k.cpustat .user / nsecPerUsec :=
      hread .user trivial
    rw [huser, hfull] at hlt
    exact lt_irrefl _ hlt
  · intro hsetting k field
    rw [counter_exportedRow]
    exact KernelCounters.value_sample_iff.mpr (Or.inl hsetting) field

end Monitor
