import PerfMonitor.Manager.QueryManager

set_option relaxedAutoImplicit false
set_option autoImplicit false

/-!
# The pages of a historical query

The queries of `manager/src/query_manager.cpp` sort by time, in whole seconds, and the one for
processes by their rate as well; nothing sorts the rows that agree on this. Each page is cut out of
a result of its own.

## Main definitions

* `Monitor.PagesPartition` — put together, the pages of a query hold every matching row once.
* `Monitor.utcEnv`, `Monitor.twoInterfaces` — a database with one sample of two interfaces.
* `Monitor.minuteEnv`, `Monitor.threeSeconds` — a database with samples of three seconds.

## Main results

* `Monitor.query_pages_partition_iff` — when the pages of the four queries do that.
-/

namespace Monitor

/-- Whatever order MySQL picks for the rows of each page, as long as it descends in the `key`, the
records of pages `1`, `2`, … up to the last one are those of the matching rows, each once. `query`
is the query with the order and the page left open. -/
def PagesPartition {ρ τ κ : Type} [LinearOrder κ] (key : ρ → κ) (record : ρ → τ)
    (matching : List ρ) (pageSize : ℤ)
    (query : (List ρ → List ρ) → ℤ → List τ × Option ℤ) : Prop :=
  ∀ orderBy : ℕ → List ρ → List ρ, (∀ k l, ResultOrder key l (orderBy k l)) →
    ((List.range (pageCount matching.length pageSize.toNat)).flatMap
      fun k => (query (orderBy k) (k + 1)).1).Perm (matching.map record)

/-- The offsets of pages `1`, `2`, … up to the last one fit into an `int`. -/
def OffsetsFit (total : ℕ) (pageSize : ℤ) : Prop :=
  ∀ k < pageCount total pageSize.toNat, (k : ℤ) * pageSize < 2 ^ 31

instance (total : ℕ) (pageSize : ℤ) : Decidable (OffsetsFit total pageSize) :=
  inferInstanceAs (Decidable (∀ k < _, _))

section PagesPartition

variable {γ δ : Type} [DecidableEq γ] [LinearOrder δ] {env : QueryEnv γ δ}

/-- **Pages of one query.** They hold every matching row once exactly when no boundary between two
pages separates rows that agree on the `ORDER BY` clause and have different records.

**Proof sketch.** Page `k + 1` is window `k` of the sorted matching rows, so the pages put together
are the windows put together, and any result order of the matching rows is the order of some way
to sort. -/
lemma pagesPartition_iff {ρ τ κ : Type} [LinearOrder κ] (spec : QuerySpec ρ τ κ) (rows : List ρ)
    (serverName : String) (range : TimeRange) {pageSize : ℤ} (hsize : 1 ≤ pageSize)
    (hfit : OffsetsFit (env.matchingRows spec rows serverName range).length pageSize) :
    PagesPartition spec.key spec.record (env.matchingRows spec rows serverName range) pageSize
        (fun orderBy page => runQuery true .succeed range page pageSize
          (orderBy (rows.filter (env.selects spec serverName range))) spec.record) ↔
      ¬ CutsTie spec.key spec.record (env.matchingRows spec rows serverName range)
        pageSize.toNat := by
  cases hrange : validateTimeRange range with
  | false =>
    -- an empty range has no pages and no rows
    have hnone : env.matchingRows spec rows serverName range = [] := by
      simp [QueryEnv.matchingRows, hrange]
    have hpages : pageCount 0 pageSize.toNat = 0 := by
      rw [pageCount, Nat.div_eq_of_lt]
      omega
    rw [hnone]
    refine ⟨fun _ htie => ?_, fun _ orderBy _ => ?_⟩
    · obtain ⟨a, ha, -⟩ := htie
      exact List.not_mem_nil ha
    · simp [hpages]
  | true =>
    have hrows : env.matchingRows spec rows serverName range =
        rows.filter (env.selects spec serverName range) := by
      simp [QueryEnv.matchingRows, hrange]
    rw [hrows] at hfit ⊢
    set matching := rows.filter (env.selects spec serverName range)
    have hconcat : ∀ orderBy : ℕ → List ρ → List ρ,
        ((List.range (pageCount matching.length pageSize.toNat)).flatMap fun k : ℕ =>
            (runQuery true .succeed range (k + 1) pageSize (orderBy k matching) spec.record).1) =
          (pages pageSize.toNat (pageCount matching.length pageSize.toNat)
            fun k => orderBy k matching).map spec.record := by
      intro orderBy
      rw [pages, List.map_flatMap]
      refine List.flatMap_congr fun k hk => ?_
      rw [runQuery_of_valid hrange hsize (hfit k (List.mem_range.mp hk))]
    rw [← pages_perm_iff (Int.lt_toNat.mpr hsize)]
    constructor
    · intro hpart results hresults
      choose sort hsort heq using fun k => (hresults k).exists_sort
      have hperm := hpart sort hsort
      rw [hconcat] at hperm
      simpa only [heq] using hperm
    · intro hall orderBy hsort
      rw [hconcat]
      exact hall _ fun k => hsort k matching

/-- **Pages of the four queries.** For any content of the tables, any server, any range and any
page size whose offsets fit into an `int`: the pages of a query hold every matching row once, in
whatever order MySQL returns rows that agree on the `ORDER BY` clause, if and only if no boundary
between two pages separates such rows with different records. -/
theorem query_pages_partition_iff (env : QueryEnv γ δ) (d : Database env.collate)
    (serverName : String) (range : TimeRange) {pageSize : ℤ} (hsize : 1 ≤ pageSize) :
    (let spec := performanceQuery env
      let matching := env.matchingRows spec d.performance.rows serverName range
      OffsetsFit matching.length pageSize →
        (PagesPartition spec.key spec.record matching pageSize
            (fun orderBy page =>
              queryPerformance env d true .succeed serverName range orderBy page pageSize) ↔
          ¬ CutsTie spec.key spec.record matching pageSize.toNat)) ∧
    (let spec := netDetailQuery env
      let matching := env.matchingRows spec d.netDetail.rows serverName range
      OffsetsFit matching.length pageSize →
        (PagesPartition spec.key spec.record matching pageSize
            (fun orderBy page =>
              queryNetDetail env d true .succeed serverName range orderBy page pageSize) ↔
          ¬ CutsTie spec.key spec.record matching pageSize.toNat)) ∧
    (let spec := netProcessDetailQuery env
      let matching := env.matchingRows spec d.netProcessDetail.rows serverName range
      OffsetsFit matching.length pageSize →
        (PagesPartition spec.key spec.record matching pageSize
            (fun orderBy page =>
              queryNetProcessDetail env d true .succeed serverName range orderBy page pageSize) ↔
          ¬ CutsTie spec.key spec.record matching pageSize.toNat)) ∧
    (let spec := diskDetailQuery env
      let matching := env.matchingRows spec d.diskDetail.rows serverName range
      OffsetsFit matching.length pageSize →
        (PagesPartition spec.key spec.record matching pageSize
            (fun orderBy page =>
              queryDiskDetail env d true .succeed serverName range orderBy page pageSize) ↔
          ¬ CutsTie spec.key spec.record matching pageSize.toNat)) :=
  ⟨fun hfit => pagesPartition_iff (performanceQuery env) d.performance.rows _ _ hsize hfit,
    fun hfit => pagesPartition_iff (netDetailQuery env) d.netDetail.rows _ _ hsize hfit,
    fun hfit => pagesPartition_iff (netProcessDetailQuery env) d.netProcessDetail.rows _ _ hsize
      hfit,
    fun hfit => pagesPartition_iff (diskDetailQuery env) d.diskDetail.rows _ _ hsize hfit⟩

end PagesPartition

/-! ## One sample of two interfaces -/

/-- A manager at the start of 1970 in UTC, with names compared byte by byte and times by their
digits. -/
def utcEnv : QueryEnv (List UInt8) ℕ where
  collate := id
  localtime := fun _ => ⟨70, 0, 1, 0, 0, 0⟩
  mktime := fun _ => 0
  datetime := fun s =>
    (s.toList.filter Char.isDigit).foldl (fun n c => 10 * n + (c.toNat - '0'.toNat)) 0
  now := 0

/-- A sample of a host with two network interfaces. -/
def twoInterfaces : MysqlWriteTask where
  hostName := "h"
  hostScore :=
    ⟨{ name := "h", sequence := 1, netInfo := [{ name := "eth0" }, { name := "eth1" }] }, 0, 0⟩
  cpuPercentRate := 0
  loadAvg1Rate := 0
  memUsedPercentRate := 0
  diskUtilPercentRate := 0
  netInRateRate := 0
  netOutRateRate := 0

/-- The tables after the sample is written to empty ones. -/
def twoInterfacesWritten : Bool × Session (Database utcEnv.collate) :=
  writeToMysql utcEnv.localtime (fun _ => true) twoInterfaces ⟨.empty _, none⟩

/-- The rows of its two interfaces. -/
def twoInterfaceRows : List ServerNetDetail :=
  [netRow utcEnv.localtime twoInterfaces { name := "eth0" },
    netRow utcEnv.localtime twoInterfaces { name := "eth1" }]

lemma matchingRows_twoInterfaces :
    utcEnv.matchingRows (netDetailQuery utcEnv) twoInterfacesWritten.2.stored.netDetail.rows "h"
      ⟨0, 0⟩ = twoInterfaceRows := by
  decide +kernel

/-- With one row a page, MySQL may return the interface of the first page again on the second. -/
theorem queryNetDetail_pages_not_partition :
    twoInterfacesWritten.1 = true ∧
      let d := twoInterfacesWritten.2.stored
      let spec := netDetailQuery utcEnv
      let matching := utcEnv.matchingRows spec d.netDetail.rows "h" ⟨0, 0⟩
      OffsetsFit matching.length 1 ∧
        ¬ PagesPartition spec.key spec.record matching 1 fun orderBy page =>
          queryNetDetail utcEnv d true .succeed "h" ⟨0, 0⟩ orderBy page 1 := by
  have hfit : OffsetsFit (utcEnv.matchingRows (netDetailQuery utcEnv)
      twoInterfacesWritten.2.stored.netDetail.rows "h" ⟨0, 0⟩).length 1 := by
    rw [matchingRows_twoInterfaces]
    intro k hk
    have hcount : pageCount twoInterfaceRows.length (Int.toNat 1) = 2 := rfl
    omega
  refine ⟨by decide +kernel, hfit, fun hpart => ?_⟩
  refine (pagesPartition_iff (netDetailQuery utcEnv) _ "h" ⟨0, 0⟩ le_rfl hfit).mp hpart ?_
  rw [matchingRows_twoInterfaces]
  refine ⟨_, List.mem_cons_self, _, List.mem_cons_of_mem _ List.mem_cons_self, ?_⟩
  refine ⟨rfl, by decide +kernel, 1, ?_⟩
  decide +kernel

/-! ## Samples of three seconds -/

/-- A manager in the first minute of 1970 in UTC. -/
def minuteEnv : QueryEnv (List UInt8) ℕ :=
  { utcEnv with
    localtime := fun t => ⟨70, 0, 1, 0, 0, t.toNat⟩
    mktime := fun tm => tm.tmSec }

/-- A sample taken in second `k`, of two interfaces, two processes and two disks. -/
def sampleOfSecond (k : ℕ) : MysqlWriteTask where
  hostName := "h"
  hostScore :=
    ⟨{ name := "h"
       sequence := k + 1
       netInfo := [{ name := "eth0" }, { name := "eth1" }]
       processNetInfo := [{ pid := 1, rcvRate := 10 }, { pid := 2, rcvRate := 20 }]
       diskInfo := [{ name := "sda" }, { name := "sdb" }] }, 0, k * second⟩
  cpuPercentRate := 0
  loadAvg1Rate := 0
  memUsedPercentRate := 0
  diskUtilPercentRate := 0
  netInRateRate := 0
  netOutRateRate := 0

/-- The tables after the samples of three seconds are written to empty ones. -/
def threeSeconds : Database minuteEnv.collate :=
  ([0, 1, 2].map sampleOfSecond).foldl (fun d task => d.insertTask minuteEnv.localtime task)
    (.empty _)

/-- The times of the three samples. -/
def threeSecondsRange : TimeRange := ⟨0, 2 * second⟩

/-- With two rows a page no page boundary falls into a second, so the pages of all four queries,
three of them for the six interfaces, partition the rows. -/
theorem query_pages_partition_iff_three_seconds :
    let env := minuteEnv
    let d := threeSeconds
    let range := threeSecondsRange
    let nets := env.matchingRows (netDetailQuery env) d.netDetail.rows "h" range
    pageCount nets.length (Int.toNat 2) = 3 ∧
      PagesPartition (performanceQuery env).key (performanceQuery env).record
        (env.matchingRows (performanceQuery env) d.performance.rows "h" range) 2
        (fun orderBy page => queryPerformance env d true .succeed "h" range orderBy page 2) ∧
      PagesPartition (netDetailQuery env).key (netDetailQuery env).record nets 2
        (fun orderBy page => queryNetDetail env d true .succeed "h" range orderBy page 2) ∧
      PagesPartition (netProcessDetailQuery env).key (netProcessDetailQuery env).record
        (env.matchingRows (netProcessDetailQuery env) d.netProcessDetail.rows "h" range) 2
        (fun orderBy page => queryNetProcessDetail env d true .succeed "h" range orderBy page 2) ∧
      PagesPartition (diskDetailQuery env).key (diskDetailQuery env).record
        (env.matchingRows (diskDetailQuery env) d.diskDetail.rows "h" range) 2
        (fun orderBy page => queryDiskDetail env d true .succeed "h" range orderBy page 2) := by
  obtain ⟨hperf, hnet, hproc, hdisk⟩ := query_pages_partition_iff minuteEnv threeSeconds "h"
    threeSecondsRange (show (1 : ℤ) ≤ 2 by decide)
  exact ⟨by decide +kernel, (hperf (by decide +kernel)).mpr (by decide +kernel),
    (hnet (by decide +kernel)).mpr (by decide +kernel),
    (hproc (by decide +kernel)).mpr (by decide +kernel),
    (hdisk (by decide +kernel)).mpr (by decide +kernel)⟩

end Monitor
