import Mathlib.Algebra.Group.Nat.Defs
import PerfMonitor.Memory.Seqlock

set_option relaxedAutoImplicit false
set_option autoImplicit false

/-!
# The shared CPU snapshot

`collect_all_cpu_stats` (`kernel/cpu_stat_module/cpu_stat_collector.c`) refreshes the CPU times in
a region that is mapped into user space (`shared/cpu_stat_shared.h`), and `CopyMappedCpuStats`
(`worker/src/monitor/cpu_stat_monitor.cpp`) reads them. Nothing but the sequence word of the
region coordinates the two.

Every load and store of a word is one step; `memcpy` loads the words in any order. The number of
CPUs the region has room for, `CPU_STAT_MAX_CPUS`, is a parameter.

## Main definitions

* `Monitor.SharedWord` — the words of `cpu_stat_shared_region`, `seq` apart.
* `Monitor.CollectCall`, `Monitor.collectAllCpuStats` — one refresh and its stores.
* `Monitor.buildCpuStatsFromSnapshot` — the check and the conversion of a copied region.
* `Monitor.cpuStatLock` — the two functions as a sequence lock.

## Main results

* `Monitor.copyMappedCpuStats_of_one_call` — an accepted snapshot was stored by one refresh.
-/

namespace Monitor

/-! ## The region -/

/-- The fields of `cpu_stat_shared_raw`. -/
inductive CpuField where
  | user
  | nice
  | system
  | idle
  | iowait
  | irq
  | softirq
  | steal
  | guest
  | guestNice
  deriving DecidableEq, Repr

/-- All fields, in the order of the structure. -/
def CpuField.all : List CpuField :=
  [.user, .nice, .system, .idle, .iowait, .irq, .softirq, .steal, .guest, .guestNice]

lemma CpuField.mem_all (f : CpuField) : f ∈ CpuField.all := by
  cases f <;> decide

/-- The words of `cpu_stat_shared_region`, `seq` apart. -/
inductive SharedWord (maxCpus : ℕ) where
  | version
  | cpuCount
  | reserved
  | sampleNs
  | counter (cpu : Fin maxCpus) (field : CpuField)
  deriving DecidableEq, Repr

/-- `CPU_STAT_SHARED_VERSION`. -/
def cpuStatSharedVersion : ℕ := 1

variable {maxCpus : ℕ}

/-- `cpus[0]`, `cpus[1]`, … up to the given number, as the loops over them run. -/
def firstCpus (maxCpus count : ℕ) : List (Fin maxCpus) := (List.finRange maxCpus).take count

lemma mem_firstCpus {count : ℕ} {cpu : Fin maxCpus} :
    cpu ∈ firstCpus maxCpus count ↔ cpu.val < count := by
  simp only [firstCpus, List.mem_take_iff_getElem, List.length_finRange]
  constructor
  · rintro ⟨i, hi, hget⟩
    simp only [← hget, List.getElem_finRange, Fin.val_cast]
    omega
  · intro h
    exact ⟨cpu, by omega, by simp⟩

/-! ## The kernel side -/

/-- What the kernel knows of one CPU when it is sampled, in microseconds. -/
structure KernelCpuStat where
  /-- `read_cpustat_us` of each field. -/
  cpustat : CpuField → ℕ
  /-- `get_cpu_idle_time_us`. -/
  idleTimeUs : ℕ
  /-- `get_cpu_iowait_time_us`. -/
  iowaitTimeUs : ℕ

/-- `(u64)-1`, by which the two special readings say that they are not available. -/
def notAvailable : ℕ := 2 ^ 64 - 1

/-- The value stored in a field. -/
def KernelCpuStat.value (k : KernelCpuStat) : CpuField → ℕ
  | .idle => if k.idleTimeUs = notAvailable then k.cpustat .idle else k.idleTimeUs
  | .iowait => if k.iowaitTimeUs = notAvailable then k.cpustat .iowait else k.iowaitTimeUs
  | field => k.cpustat field

/-- The order in which `collect_cpu_stat_raw` stores the fields. -/
def storeOrder : List CpuField :=
  [.user, .nice, .system, .irq, .softirq, .steal, .guest, .guestNice, .idle, .iowait]

/-- The stores of `collect_cpu_stat_raw`: `memset`, then field by field. -/
def collectCpuStatRaw (k : KernelCpuStat) (cpu : Fin maxCpus) : List (SharedWord maxCpus × ℕ) :=
  (CpuField.all.map fun field => (.counter cpu field, 0)) ++
    storeOrder.map fun field => (.counter cpu field, k.value field)

/-- What one call of `collect_all_cpu_stats` finds. -/
structure CollectCall where
  numPossibleCpus : ℕ
  ktimeNs : ℕ
  cpustat : ℕ → KernelCpuStat

/-- `min_t(u32, num_possible_cpus(), CPU_STAT_MAX_CPUS)`. -/
def CollectCall.cpuCount (maxCpus : ℕ) (c : CollectCall) : ℕ := min c.numPossibleCpus maxCpus

/-- The stores of `collect_all_cpu_stats` between those to `seq`. -/
def collectAllCpuStats (maxCpus : ℕ) (c : CollectCall) : List (SharedWord maxCpus × ℕ) :=
  [(.version, cpuStatSharedVersion), (.cpuCount, c.cpuCount maxCpus), (.sampleNs, c.ktimeNs)] ++
    (firstCpus maxCpus (c.cpuCount maxCpus)).flatMap fun cpu =>
      collectCpuStatRaw (c.cpustat cpu.val) cpu

/-! ## The user side -/

/-- `ProcCpuStat`, with its counters as a function of the field. -/
structure ProcCpuStat where
  cpuName : String
  counter : CpuField → ℕ

/-- `IsSharedRegionValid`. -/
def isSharedRegionValid (region : SharedWord maxCpus → ℕ) : Bool :=
  region .version == cpuStatSharedVersion && region .cpuCount != 0 &&
    region .cpuCount ≤ maxCpus

/-- `BuildSnapshotFromSharedRaw`. -/
def buildSnapshotFromSharedRaw (region : SharedWord maxCpus → ℕ) (cpu : Fin maxCpus) :
    ProcCpuStat where
  cpuName := "cpu" ++ toString cpu.val
  counter := fun field => region (.counter cpu field)

/-- `AccumulateCpuStat`: the counters are 64-bit numbers. -/
def accumulateCpuStat (total current : ProcCpuStat) : ProcCpuStat :=
  { total with counter := fun field => (total.counter field + current.counter field) % 2 ^ 64 }

/-- `BuildCpuStatsFromSnapshot`: a row per CPU behind one for their sum. -/
def buildCpuStatsFromSnapshot (snapshot : SharedWord maxCpus → ℕ) : Option (List ProcCpuStat) :=
  if isSharedRegionValid snapshot then
    let rows := (firstCpus maxCpus (snapshot .cpuCount)).map (buildSnapshotFromSharedRaw snapshot)
    some (rows.foldl accumulateCpuStat ⟨"cpu", fun _ => 0⟩ :: rows)
  else none

/-! ## The protocol -/

/-- `kSharedRegionReadRetryTimes`. -/
def kSharedRegionReadRetryTimes : ℕ := 5

/-- `collect_all_cpu_stats` against `CopyMappedCpuStats`, with `seq` a 32-bit word. -/
def cpuStatLock (maxCpus : ℕ) :
    Seqlock (SharedWord maxCpus) ℕ CollectCall (List ProcCpuStat) where
  half := 2 ^ 31
  retries := kSharedRegionReadRetryTimes
  layout := [.version, .cpuCount, .reserved, .sampleNs] ++
    (List.finRange maxCpus).flatMap fun cpu => CpuField.all.map (.counter cpu)
  body := collectAllCpuStats maxCpus
  accept := buildCpuStatsFromSnapshot
  mem_layout := by
    intro a
    cases a with
    | counter cpu field =>
      refine List.mem_append_right _ (List.mem_flatMap.mpr ⟨cpu, List.mem_finRange cpu, ?_⟩)
      exact List.mem_map.mpr ⟨field, field.mem_all, rfl⟩
    | _ => simp

/-- The region after `memset` at module load. -/
def zeroedRegion : SharedWord maxCpus → ℕ := fun _ => 0

/-! ## What a refresh leaves in the region -/

/-- The stores for one CPU go to its own counters. -/
lemma collectCpuStatRaw_fst {k : KernelCpuStat} {cpu : Fin maxCpus} {p : SharedWord maxCpus × ℕ}
    (hp : p ∈ collectCpuStatRaw k cpu) : ∃ field, p.1 = .counter cpu field := by
  rcases List.mem_append.mp hp with hp | hp
  · obtain ⟨field, -, rfl⟩ := List.mem_map.mp hp
    exact ⟨field, rfl⟩
  · obtain ⟨field, -, rfl⟩ := List.mem_map.mp hp
    exact ⟨field, rfl⟩

/-- After the stores for a CPU its counters have the values sampled. -/
lemma write_collectCpuStatRaw (k : KernelCpuStat) (cpu : Fin maxCpus) (field : CpuField)
    (words : SharedWord maxCpus → ℕ) :
    write (collectCpuStatRaw k cpu) words (.counter cpu field) = k.value field := by
  rw [collectCpuStatRaw, write_append]
  have hword : Function.Injective (SharedWord.counter cpu) := fun f g h => by
    simpa using h
  have hfield : field ∈ storeOrder := by cases field <;> decide
  exact write_map hword k.value hfield _

/-- The words of the head of the region that a refresh stores to. -/
lemma write_collectAllCpuStats_head (c : CollectCall) (words : SharedWord maxCpus → ℕ)
    {a : SharedWord maxCpus} (ha : ∀ cpu field, a ≠ .counter cpu field) :
    write (collectAllCpuStats maxCpus c) words a =
      write [(.version, cpuStatSharedVersion), (.cpuCount, c.cpuCount maxCpus),
        (.sampleNs, c.ktimeNs)] words a := by
  rw [collectAllCpuStats, write_append]
  refine write_of_notMem (fun p hp hpa => ?_) _
  obtain ⟨cpu, -, hp⟩ := List.mem_flatMap.mp hp
  obtain ⟨field, hword⟩ := collectCpuStatRaw_fst hp
  exact ha cpu field (hpa ▸ hword)

/-- The counters of the CPUs a refresh goes through. -/
lemma write_collectAllCpuStats_counter (c : CollectCall) (words : SharedWord maxCpus → ℕ)
    {cpu : Fin maxCpus} (hcpu : cpu.val < c.cpuCount maxCpus) (field : CpuField) :
    write (collectAllCpuStats maxCpus c) words (.counter cpu field) =
      (c.cpustat cpu).value field := by
  rw [collectAllCpuStats, write_append]
  refine write_flatMap (mem_firstCpus.mpr hcpu) (fun other _ hne p hp hword => ?_) (fun w => ?_) _
  · -- the stores for another CPU go elsewhere
    obtain ⟨field', hp⟩ := collectCpuStatRaw_fst hp
    rw [hp] at hword
    exact hne (SharedWord.counter.inj hword).1
  · exact write_collectCpuStatRaw _ cpu field w

/-- What a refresh stores and a snapshot's rows are made of: the version, the number of CPUs and
the counters of these CPUs. -/
def CollectCall.Stored (maxCpus : ℕ) (c : CollectCall) (region : SharedWord maxCpus → ℕ) : Prop :=
  region .version = cpuStatSharedVersion ∧ region .cpuCount = c.cpuCount maxCpus ∧
    ∀ cpu : Fin maxCpus, cpu.val < c.cpuCount maxCpus →
      ∀ field, region (.counter cpu field) = (c.cpustat cpu).value field

/-- A refresh stores what it found, whatever was in the region. -/
lemma stored_collectAllCpuStats (c : CollectCall) (words : SharedWord maxCpus → ℕ) :
    c.Stored maxCpus (write (collectAllCpuStats maxCpus c) words) := by
  refine ⟨?_, ?_, fun cpu hcpu field => write_collectAllCpuStats_counter c words hcpu field⟩
  · rw [write_collectAllCpuStats_head c words fun _ _ => by simp]
    simp [Function.update]
  · rw [write_collectAllCpuStats_head c words fun _ _ => by simp]
    simp [Function.update]

/-- The region is not valid before the first refresh. -/
lemma buildCpuStatsFromSnapshot_zeroedRegion :
    buildCpuStatsFromSnapshot (zeroedRegion : SharedWord maxCpus → ℕ) = none := rfl

/-! ## No torn snapshot -/

/-- **No torn snapshot.** In a run of refreshes and reads of the region, interleaved in any order
and from the zeroed region on, let fewer than `2 ^ 31` refreshes end during any one attempt. When
`CopyMappedCpuStats` returns `true`, there is one call of `collect_all_cpu_stats`, which has ended
by then, that stored all that the rows are made of. -/
theorem copyMappedCpuStats_of_one_call (maxCpus : ℕ)
    {actions : List (Seqlock.Action (SharedWord maxCpus) ℕ CollectCall)}
    {s t : Seqlock.State (SharedWord maxCpus) ℕ CollectCall}
    {a : Seqlock.Action (SharedWord maxCpus) ℕ CollectCall}
    {es fs : List (Seqlock.Event (SharedWord maxCpus) ℕ (List ProcCpuStat))}
    {snapshot : SharedWord maxCpus → ℕ} {stats : List ProcCpuStat}
    (hrun : (cpuStatLock maxCpus).machine.run (Seqlock.start zeroedRegion) actions = some (s, es))
    (hfew : (cpuStatLock maxCpus).machine.Throughout (fun u => u.updates < 2 ^ 31)
      (Seqlock.start zeroedRegion) actions)
    (hstep : (cpuStatLock maxCpus).step s a = some (t, fs))
    (hret : Seqlock.Event.returned (some (snapshot, stats)) ∈ fs) :
    ∃ c ∈ s.history, c.Stored maxCpus snapshot ∧
      buildCpuStatsFromSnapshot snapshot = some stats := by
  obtain ⟨haccept, hsettled⟩ := Seqlock.settled_of_returned hrun (hfew.last hrun) hstep hret
  replace haccept : buildCpuStatsFromSnapshot snapshot = some stats := haccept
  unfold Seqlock.Settled at hsettled
  cases hhistory : s.history with
  | nil =>
    -- the zeroed region fails the version check
    rw [hhistory] at hsettled
    rw [hsettled, buildCpuStatsFromSnapshot_zeroedRegion] at haccept
    cases haccept
  | cons c history =>
    rw [hhistory] at hsettled
    obtain ⟨base, rfl⟩ := hsettled
    exact ⟨c, List.mem_cons_self, stored_collectAllCpuStats c base, haccept⟩

/-- A refresh of one CPU overtakes the first attempt; the second one copies the words in reverse
order. -/
theorem copyMappedCpuStats_of_one_call_second_attempt :
    let c : CollectCall :=
      { numPossibleCpus := 1, ktimeNs := 9, cpustat := fun _ => ⟨fun _ => 7, notAvailable, 3⟩ }
    let actions : List (Seqlock.Action (SharedWord 1) ℕ CollectCall) :=
      [.begin c, .markOdd, .call, .loadBefore fun _ => 5] ++
        List.replicate 23 .storeWord ++ [.markEven, .loadBefore fun _ => 5] ++
        (cpuStatLock 1).layout.reverse.map .loadWord ++ [.loadSeq]
    ∃ s es t fs snapshot stats,
      (cpuStatLock 1).machine.run (Seqlock.start zeroedRegion) actions = some (s, es) ∧
        (cpuStatLock 1).step s .loadAfter = some (t, fs) ∧
        Seqlock.Event.returned (some (snapshot, stats)) ∈ fs ∧
        ∃ c ∈ s.history, c.Stored 1 snapshot ∧
          buildCpuStatsFromSnapshot snapshot = some stats := by
  intro c actions
  have hend : (((cpuStatLock 1).machine.run (Seqlock.start zeroedRegion) actions).bind fun p =>
      ((cpuStatLock 1).step p.1 .loadAfter).bind fun q => q.2.head?.bind fun e =>
        match e with
        | .returned r => r.map fun x => x.2.map fun row => row.counter .iowait) =
        some [3, 3] := by
    decide +kernel
  obtain ⟨⟨s, es⟩, hrun, hend⟩ := Option.bind_eq_some_iff.mp hend
  obtain ⟨⟨t, fs⟩, hstep, hend⟩ := Option.bind_eq_some_iff.mp hend
  obtain ⟨⟨r⟩, hhead, hend⟩ := Option.bind_eq_some_iff.mp hend
  obtain ⟨⟨snapshot, stats⟩, rfl, -⟩ := Option.map_eq_some_iff.mp hend
  have hret : Seqlock.Event.returned (some (snapshot, stats)) ∈ fs := List.mem_of_mem_head? hhead
  have hfew : (cpuStatLock 1).machine.Throughout (fun u => u.updates < 2 ^ 31)
      (Seqlock.start zeroedRegion) actions :=
    Seqlock.throughout_updates_lt (L := cpuStatLock 1) (by decide +kernel)
  exact ⟨s, es, t, fs, snapshot, stats, hrun, hstep, hret,
    copyMappedCpuStats_of_one_call 1 hrun hfew hstep hret⟩

end Monitor
