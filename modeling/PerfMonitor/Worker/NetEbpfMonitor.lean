import PerfMonitor.Worker.NetStats
import PerfMonitor.Worker.ProcStats

set_option relaxedAutoImplicit false
set_option autoImplicit false

/-!
# The network monitor

`NetEbpfMonitor` (`worker/src/monitor/net_ebpf_monitor.cpp`): a call of `UpdateOnce` walks over the
counters of the interfaces and, in `CollectProcessStats`, over those of the processes, remembers
what it has read with the time of the call, and turns the growth since the last reading into
rates. The maps are read while nothing else changes them; what a pass meets when processes
transfer, start and exit in between is the subject of the machine `Monitor.procStats`.

## Main definitions

* `Monitor.NetEbpfCaches` — the caches of the monitor.
* `Monitor.NetSampling` — what one call of `UpdateOnce` meets outside the monitor.
* `Monitor.NetEbpfCaches.updateOnce`, `Monitor.NetEbpfCaches.collectProcessStats` — the calls,
  with what they report.
* `Monitor.netEbpfMonitor` — the calls of `UpdateOnce` as an event machine.

## Main results

* `Monitor.NetEbpfCaches.netSamples_updateOnce`, `Monitor.NetEbpfCaches.lookup_cache_updateOnce` —
  what a call does for one interface.
* `Monitor.NetEbpfCaches.procSamples_updateOnce`,
  `Monitor.NetEbpfCaches.lookup_procCache_updateOnce` — what a call does for one process.
-/

namespace Monitor

variable {n : ℕ}

namespace NetEbpfCaches

/-- The last reading of an interface. -/
structure NetStatCache where
  stats : NetStats
  timestamp : ℚ
  deriving DecidableEq, Repr

/-- The last reading of a process. -/
structure ProcStatCache where
  sndBytes : UInt64
  rcvBytes : UInt64
  timestamp : ℚ
  deriving DecidableEq, Repr

end NetEbpfCaches

/-- The fields of `NetEbpfMonitor` that `UpdateOnce` uses. -/
structure NetEbpfCaches where
  loaded : Bool := true
  mapFd : ℤ := 3
  procMapFd : ℤ := 4
  cache : UnorderedMap UInt32 NetEbpfCaches.NetStatCache := ∅
  ifnameCache : UnorderedMap UInt32 String := ∅
  procCache : UnorderedMap ℕ NetEbpfCaches.ProcStatCache := ∅

/-! ## What a call meets -/

/-- An entry of `proc_net_map`, and whether its process is alive. -/
structure ProcEntry (n : ℕ) where
  /-- The copies of the CPUs; `none` where the lookup fails. -/
  slots : Option (Fin n → ProcNetStats)
  /-- `kill(tgid, 0)` does not fail with `ESRCH`. -/
  alive : Bool

/-- The contents of the maps and the answers of the system during one call of `UpdateOnce`. -/
structure NetSampling (n : ℕ) where
  /-- `steady_clock::now()` in `UpdateOnce`. -/
  now : ℚ
  /-- `net_stats_map`, with `none` where the lookup fails. -/
  netStatsMap : UnorderedMap UInt32 (Option (Fin n → NetStats))
  /-- `if_indextoname`, with `""` where it fails. -/
  ifIndexToName : UInt32 → String
  /-- `/sys/class/net/<name>/device` exists. -/
  hasDevice : String → Bool
  /-- `steady_clock::now()` in `CollectProcessStats`. -/
  procNow : ℚ
  /-- `proc_net_map`. -/
  procNetMap : UnorderedMap ℕ (ProcEntry n)

/-- `std::sort` with the comparison of `CollectProcessStats`. Rates with equal totals may come in
any order. -/
structure RateSort where
  sort : List ProcRate → List ProcRate
  perm : ∀ rates, (sort rates).Perm rates
  sorted : ∀ rates, (sort rates).Pairwise fun a b => a.total ≥ b.total

/-- A sort that keeps the order of equal totals. -/
def RateSort.stable : RateSort where
  sort rates := rates.insertionSort fun a b => a.total ≥ b.total
  perm rates := List.perm_insertionSort _ rates
  sorted rates := by
    have htotal : Std.Total fun a b : ProcRate => a.total ≥ b.total :=
      ⟨fun a b => le_total b.total a.total⟩
    have htrans : IsTrans ProcRate fun a b => a.total ≥ b.total :=
      ⟨fun _ _ _ hab hbc => hbc.trans hab⟩
    exact List.pairwise_insertionSort _ rates

/-! ## What a call reports -/

/-- A reading of an interface that a call has put into the cache, with its message. -/
structure NetSample where
  ifindex : UInt32
  stats : NetStats
  timestamp : ℚ
  info : NetInfo
  deriving DecidableEq, Repr

/-- A reading of a process that a call has put into the cache, with its rate if it has one. -/
structure ProcSample where
  tgid : ℕ
  sndBytes : UInt64
  rcvBytes : UInt64
  timestamp : ℚ
  rate : Option ProcRate
  deriving DecidableEq, Repr

/-- What a call of `UpdateOnce` samples, reports and deletes. -/
structure NetUpdate where
  netSamples : List NetSample := []
  procSamples : List ProcSample := []
  processNetInfo : List ProcessNetInfo := []
  /-- The entries of `proc_net_map` that are deleted. -/
  deadPids : List ℕ := []
  deriving DecidableEq, Repr

/-- The messages that a call adds to the report. -/
def NetUpdate.addTo (u : NetUpdate) (info : MonitorInfo) : MonitorInfo :=
  { info with
    netInfo := info.netInfo ++ u.netSamples.map NetSample.info
    processNetInfo := info.processNetInfo ++ u.processNetInfo }

namespace NetEbpfCaches

/-- `LookupPerCpuValue`; its buffer is empty when there are no CPUs. -/
def lookupPerCpuValue {α : Type} (fd : ℤ) (value : Option (Fin n → α)) : Option (Fin n → α) :=
  if fd < 0 ∨ n = 0 then none else value

/-- `GetIfName`: the name, and the cache of names afterwards. -/
def getIfName (ifIndexToName : UInt32 → String) (ifnameCache : UnorderedMap UInt32 String)
    (ifindex : UInt32) : String × UnorderedMap UInt32 String :=
  match ifnameCache.lookup ifindex with
  | some name => (name, ifnameCache)
  | none =>
    if ifIndexToName ifindex = "" then ("", ifnameCache)
    else (ifIndexToName ifindex, ifnameCache.insert ifindex (ifIndexToName ifindex))

/-- `IsPhysicalInterface`. -/
def isPhysicalInterface (hasDevice : String → Bool) (ifname : String) : Bool :=
  ifname ≠ "lo" && hasDevice ifname

/-! ## The interfaces -/

/-- The message of an interface, `last` being its entry in the cache. -/
def netInfo (ifname : String) (now : ℚ) (stats : NetStats) (last : Option NetStatCache) :
    NetInfo :=
  match last with
  | none => { name := ifname }
  | some last =>
    let elapsed := now - last.timestamp
    if elapsed > 0 then
      { name := ifname
        rcvRate := (counterDelta stats.rcvBytes last.stats.rcvBytes).toNat / 1024 / elapsed
        sendRate := (counterDelta stats.sndBytes last.stats.sndBytes).toNat / 1024 / elapsed
        rcvPacketsRate := (counterDelta stats.rcvPackets last.stats.rcvPackets).toNat / elapsed
        sendPacketsRate := (counterDelta stats.sndPackets last.stats.sndPackets).toNat / elapsed }
    else { name := ifname }

/-- The variables of the walk over the interfaces. -/
structure NetWalk where
  cache : UnorderedMap UInt32 NetStatCache
  ifnameCache : UnorderedMap UInt32 String
  samples : List NetSample := []

/-- The body of the loop over the interfaces. -/
def visitInterface (mapFd : ℤ) (call : NetSampling n) (w : NetWalk)
    (e : Σ _ : UInt32, Option (Fin n → NetStats)) : NetWalk :=
  match lookupPerCpuValue mapFd e.2 with
  | none => w
  | some slots =>
    let stats := mergeSlots slots
    let named := getIfName call.ifIndexToName w.ifnameCache e.1
    if named.1 = "" ∨ isPhysicalInterface call.hasDevice named.1 = false then
      { w with ifnameCache := named.2 }
    else
      { cache := w.cache.insert e.1 ⟨stats, call.now⟩
        ifnameCache := named.2
        samples := w.samples ++
          [⟨e.1, stats, call.now, netInfo named.1 call.now stats (w.cache.lookup e.1)⟩] }

/-! ## The processes -/

/-- The `ProcRate` of a process between two readings. -/
def procRate (pid : ℕ) (name : String) (elapsed : ℚ) (sndBytes rcvBytes : UInt64)
    (last : ProcStatCache) : ProcRate where
  pid := pid
  name := name
  sndRate := (counterDelta sndBytes last.sndBytes).toNat / 1024 / elapsed
  rcvRate := (counterDelta rcvBytes last.rcvBytes).toNat / 1024 / elapsed

/-- The variables of the walk over the processes. -/
structure ProcWalk where
  cache : UnorderedMap ℕ ProcStatCache
  allRates : List ProcRate := []
  deadPids : List ℕ := []
  totalRate : ℚ := 0
  samples : List ProcSample := []

/-- The body of the loop over the processes. -/
def visitProcess (procMapFd : ℤ) (now : ℚ) (w : ProcWalk) (e : Σ _ : ℕ, ProcEntry n) : ProcWalk :=
  match lookupPerCpuValue procMapFd e.2.slots with
  | none => w
  | some slots =>
    let sndBytes := mergeBytes fun cpu => (slots cpu).sndBytes
    let rcvBytes := mergeBytes fun cpu => (slots cpu).rcvBytes
    if e.2.alive = false then
      { w with deadPids := w.deadPids ++ [e.1], cache := w.cache.erase e.1 }
    else
      let name := if mergeName slots = "" then "unknown" else mergeName slots
      match w.cache.lookup e.1 with
      | none =>
        { w with
          cache := w.cache.insert e.1 ⟨sndBytes, rcvBytes, now⟩
          samples := w.samples ++ [⟨e.1, sndBytes, rcvBytes, now, none⟩] }
      | some last =>
        let elapsed := now - last.timestamp
        if elapsed ≤ 0 then w
        else
          let rate := procRate e.1 name elapsed sndBytes rcvBytes last
          { w with
            totalRate := w.totalRate + (rate.sndRate + rate.rcvRate)
            allRates := w.allRates ++ [rate]
            cache := w.cache.insert e.1 ⟨sndBytes, rcvBytes, now⟩
            samples := w.samples ++ [⟨e.1, sndBytes, rcvBytes, now, some rate⟩] }

/-- The walk over the processes. -/
def walkProcesses (m : NetEbpfCaches) (now : ℚ) (procNetMap : UnorderedMap ℕ (ProcEntry n)) :
    ProcWalk :=
  procNetMap.entries.foldl (visitProcess m.procMapFd now) { cache := m.procCache }

/-- `CollectProcessStats`: the monitor afterwards, and what is sampled, reported and deleted. -/
def collectProcessStats (std : RateSort) (m : NetEbpfCaches) (now : ℚ)
    (procNetMap : UnorderedMap ℕ (ProcEntry n)) : NetEbpfCaches × NetUpdate :=
  if m.procMapFd < 0 ∨ n = 0 then (m, {})
  else
    let w := m.walkProcesses now procNetMap
    ({ m with procCache := w.cache },
      { procSamples := w.samples
        processNetInfo :=
          ((std.sort w.allRates).take kTopProcessCount).map (processNetInfo w.totalRate)
        deadPids := w.deadPids })

/-- The walk over the interfaces. -/
def walkInterfaces (m : NetEbpfCaches) (call : NetSampling n) : NetWalk :=
  call.netStatsMap.entries.foldl (visitInterface m.mapFd call)
    { cache := m.cache, ifnameCache := m.ifnameCache }

/-- `UpdateOnce`: the monitor afterwards, and what is sampled, reported and deleted. -/
def updateOnce (std : RateSort) (m : NetEbpfCaches) (call : NetSampling n) :
    NetEbpfCaches × NetUpdate :=
  if m.loaded = false ∨ m.mapFd < 0 then (m, {})
  else
    let w := m.walkInterfaces call
    let p := collectProcessStats std { m with cache := w.cache, ifnameCache := w.ifnameCache }
      call.procNow call.procNetMap
    (p.1, { p.2 with netSamples := w.samples })

/-! ## What a call does for one interface -/

/-- The name and the merged counters of an interface when it is sampled: its lookup succeeds, its
name is known or can be resolved, and it is physical. -/
def sampleInterface (mapFd : ℤ) (call : NetSampling n) (cachedName : Option String)
    (ifindex : UInt32) (value : Option (Fin n → NetStats)) : Option (String × NetStats) :=
  (lookupPerCpuValue mapFd value).bind fun slots =>
    let ifname := cachedName.getD (call.ifIndexToName ifindex)
    if ifname = "" ∨ isPhysicalInterface call.hasDevice ifname = false then none
    else some (ifname, mergeSlots slots)

lemma getIfName_fst (f : UInt32 → String) (names : UnorderedMap UInt32 String) (i : UInt32) :
    (getIfName f names i).1 = (names.lookup i).getD (f i) := by
  unfold getIfName
  cases names.lookup i with
  | some name => rfl
  | none =>
    split_ifs with h
    · exact h.symm
    · rfl

lemma lookup_getIfName_of_ne (f : UInt32 → String) (names : UnorderedMap UInt32 String)
    {i k : UInt32} (h : k ≠ i) : (getIfName f names i).2.lookup k = names.lookup k := by
  unfold getIfName
  cases names.lookup i with
  | some name => rfl
  | none =>
    split_ifs
    · rfl
    · exact AList.lookup_insert_ne h

/-- What a name lookup leaves in the cache under its own index depends on that index only. -/
lemma lookup_getIfName_congr (f : UInt32 → String) {names names' : UnorderedMap UInt32 String}
    {i : UInt32} (h : names.lookup i = names'.lookup i) :
    (getIfName f names i).2.lookup i = (getIfName f names' i).2.lookup i := by
  unfold getIfName
  rw [← h]
  cases hi : names.lookup i with
  | some name => exact h
  | none =>
    dsimp only
    split_ifs
    · exact h
    · rw [AList.lookup_insert, AList.lookup_insert]

/-- The part of the walk that belongs to one interface. -/
def NetWalk.view (k : UInt32) (w : NetWalk) :
    Option NetStatCache × Option String × List NetSample :=
  (w.cache.lookup k, w.ifnameCache.lookup k, w.samples.filter fun s => s.ifindex = k)

variable (mapFd : ℤ) (call : NetSampling n)

/-- The body of the loop in terms of `sampleInterface`. -/
lemma visitInterface_eq (w : NetWalk) (k : UInt32) (value : Option (Fin n → NetStats)) :
    (sampleInterface mapFd call (w.ifnameCache.lookup k) k value = none ∧
      (visitInterface mapFd call w ⟨k, value⟩).cache = w.cache ∧
      (visitInterface mapFd call w ⟨k, value⟩).samples = w.samples) ∨
    ∃ ifname stats,
      sampleInterface mapFd call (w.ifnameCache.lookup k) k value = some (ifname, stats) ∧
      (visitInterface mapFd call w ⟨k, value⟩).cache = w.cache.insert k ⟨stats, call.now⟩ ∧
      (visitInterface mapFd call w ⟨k, value⟩).samples =
        w.samples ++ [⟨k, stats, call.now, netInfo ifname call.now stats (w.cache.lookup k)⟩] := by
  unfold sampleInterface visitInterface
  cases lookupPerCpuValue mapFd value with
  | none => exact Or.inl ⟨rfl, rfl, rfl⟩
  | some slots =>
    simp only [Option.bind_some, getIfName_fst]
    split_ifs with h
    · exact Or.inl ⟨rfl, rfl, rfl⟩
    · exact Or.inr ⟨_, _, rfl, rfl, rfl⟩

lemma lookup_ifnameCache_visitInterface (w : NetWalk) (k : UInt32)
    (e : Σ _ : UInt32, Option (Fin n → NetStats)) :
    (visitInterface mapFd call w e).ifnameCache.lookup k =
      if (lookupPerCpuValue mapFd e.2).isSome then
        (getIfName call.ifIndexToName w.ifnameCache e.1).2.lookup k
      else w.ifnameCache.lookup k := by
  unfold visitInterface
  cases lookupPerCpuValue mapFd e.2 with
  | none => rfl
  | some slots =>
    simp only [Option.isSome_some, if_true]
    split_ifs <;> rfl

/-- An interface's part of the walk changes at its own entry only. -/
lemma view_visitInterface_of_ne {k : UInt32} (w : NetWalk)
    (e : Σ _ : UInt32, Option (Fin n → NetStats)) (h : e.1 ≠ k) :
    (visitInterface mapFd call w e).view k = w.view k := by
  obtain ⟨i, value⟩ := e
  have hnames : (visitInterface mapFd call w ⟨i, value⟩).ifnameCache.lookup k =
      w.ifnameCache.lookup k := by
    rw [lookup_ifnameCache_visitInterface, lookup_getIfName_of_ne _ _ (Ne.symm h), ite_self]
  unfold NetWalk.view
  rw [hnames]
  rcases visitInterface_eq mapFd call w i value with
    ⟨-, hcache, hsamples⟩ | ⟨ifname, stats, -, hcache, hsamples⟩
  · rw [hcache, hsamples]
  · have hother : ([⟨i, stats, call.now, netInfo ifname call.now stats (w.cache.lookup i)⟩] :
        List NetSample).filter (fun s => s.ifindex = k) = [] := by
      rw [List.filter_singleton, decide_eq_false h]
      rfl
    rw [hcache, hsamples, AList.lookup_insert_ne (Ne.symm h), List.filter_append, hother,
      List.append_nil]

/-- An interface's part of the walk at its own entry. -/
lemma view_visitInterface_self (w : NetWalk) (k : UInt32) (value : Option (Fin n → NetStats)) :
    ((visitInterface mapFd call w ⟨k, value⟩).view k).1 =
      (match sampleInterface mapFd call (w.ifnameCache.lookup k) k value with
        | none => w.cache.lookup k
        | some p => some ⟨p.2, call.now⟩) ∧
    ((visitInterface mapFd call w ⟨k, value⟩).view k).2.2 =
      (w.samples.filter fun s => s.ifindex = k) ++
        ((sampleInterface mapFd call (w.ifnameCache.lookup k) k value).toList.map fun p =>
          ⟨k, p.2, call.now, netInfo p.1 call.now p.2 (w.cache.lookup k)⟩) := by
  unfold NetWalk.view
  rcases visitInterface_eq mapFd call w k value with
    ⟨hnone, hcache, hsamples⟩ | ⟨ifname, stats, hsome, hcache, hsamples⟩
  · rw [hnone, hcache, hsamples]
    exact ⟨rfl, (List.append_nil _).symm⟩
  · rw [hsome, hcache, hsamples, AList.lookup_insert, List.filter_append]
    refine ⟨rfl, ?_⟩
    rw [List.filter_singleton, decide_eq_true rfl]
    rfl

lemma view_visitInterface_congr {k : UInt32} {w w' : NetWalk}
    (value : Option (Fin n → NetStats)) (h : w.view k = w'.view k) :
    (visitInterface mapFd call w ⟨k, value⟩).view k =
      (visitInterface mapFd call w' ⟨k, value⟩).view k := by
  obtain ⟨hcache, hnames, hsamples⟩ : w.cache.lookup k = w'.cache.lookup k ∧
      w.ifnameCache.lookup k = w'.ifnameCache.lookup k ∧ _ := by
    simpa only [NetWalk.view, Prod.mk.injEq] using h
  have hleft := view_visitInterface_self mapFd call w k value
  have hright := view_visitInterface_self mapFd call w' k value
  rw [← hcache, ← hnames, ← hsamples] at hright
  refine Prod.ext (hleft.1.trans hright.1.symm) (Prod.ext ?_ (hleft.2.trans hright.2.symm))
  show (visitInterface mapFd call w ⟨k, value⟩).ifnameCache.lookup k =
    (visitInterface mapFd call w' ⟨k, value⟩).ifnameCache.lookup k
  rw [lookup_ifnameCache_visitInterface, lookup_ifnameCache_visitInterface,
    lookup_getIfName_congr _ hnames, hnames]

/-- The name and the merged counters of an interface that a call of `UpdateOnce` samples. -/
def sampled (m : NetEbpfCaches) (call : NetSampling n) (k : UInt32) :
    Option (String × NetStats) :=
  if m.loaded = false ∨ m.mapFd < 0 then none
  else (call.netStatsMap.lookup k).bind (sampleInterface m.mapFd call (m.ifnameCache.lookup k) k)

lemma view_walkInterfaces (m : NetEbpfCaches) (call : NetSampling n) (k : UInt32) :
    ((m.walkInterfaces call).view k).1 =
      (match (call.netStatsMap.lookup k).bind
          (sampleInterface m.mapFd call (m.ifnameCache.lookup k) k) with
        | none => m.cache.lookup k
        | some p => some ⟨p.2, call.now⟩) ∧
    ((m.walkInterfaces call).view k).2.2 =
      ((call.netStatsMap.lookup k).bind
        (sampleInterface m.mapFd call (m.ifnameCache.lookup k) k)).toList.map fun p =>
          ⟨k, p.2, call.now, netInfo p.1 call.now p.2 (m.cache.lookup k)⟩ := by
  unfold walkInterfaces
  have hframe : ∀ (w : NetWalk) (e : Σ _ : UInt32, Option (Fin n → NetStats)), e.1 ≠ k →
      (visitInterface m.mapFd call w e).view k = w.view k :=
    fun w e h => view_visitInterface_of_ne m.mapFd call w e h
  cases hk : call.netStatsMap.lookup k with
  | none =>
    rw [UnorderedMap.foldl_view_of_lookup_none (NetWalk.view k) hframe hk]
    exact ⟨rfl, rfl⟩
  | some value =>
    rw [UnorderedMap.foldl_view_of_lookup (NetWalk.view k) hframe
      (fun w w' v h => view_visitInterface_congr m.mapFd call v h) hk]
    exact view_visitInterface_self m.mapFd call _ k value

end NetEbpfCaches

namespace NetEbpfCaches

/-! ## What a call does for one process -/

/-- The body of the loop for one process: what it leaves in the cache, `last` being what it finds
there, and what it samples. -/
def visitOutcome (procMapFd : ℤ) (now : ℚ) (tgid : ℕ) (entry : ProcEntry n)
    (last : Option ProcStatCache) : Option ProcStatCache × Option ProcSample :=
  match lookupPerCpuValue procMapFd entry.slots with
  | none => (last, none)
  | some slots =>
    if entry.alive = false then (none, none)
    else
      let sndBytes := mergeBytes fun cpu => (slots cpu).sndBytes
      let rcvBytes := mergeBytes fun cpu => (slots cpu).rcvBytes
      let name := if mergeName slots = "" then "unknown" else mergeName slots
      match last with
      | none => (some ⟨sndBytes, rcvBytes, now⟩, some ⟨tgid, sndBytes, rcvBytes, now, none⟩)
      | some last =>
        if now - last.timestamp ≤ 0 then (some last, none)
        else
          (some ⟨sndBytes, rcvBytes, now⟩, some ⟨tgid, sndBytes, rcvBytes, now,
            some (procRate tgid name (now - last.timestamp) sndBytes rcvBytes last)⟩)

variable {procMapFd : ℤ} {now : ℚ}

/-- The body of the loop in terms of `visitOutcome`. -/
lemma visitProcess_eq (procMapFd : ℤ) (now : ℚ) (w : ProcWalk) (e : Σ _ : ℕ, ProcEntry n) :
    (∀ k, (visitProcess procMapFd now w e).cache.lookup k = if k = e.1 then
        (visitOutcome procMapFd now e.1 e.2 (w.cache.lookup e.1)).1 else w.cache.lookup k) ∧
    (visitProcess procMapFd now w e).samples = w.samples ++
      (visitOutcome procMapFd now e.1 e.2 (w.cache.lookup e.1)).2.toList ∧
    (visitProcess procMapFd now w e).allRates = w.allRates ++
      ((visitOutcome procMapFd now e.1 e.2 (w.cache.lookup e.1)).2.bind ProcSample.rate).toList ∧
    (visitProcess procMapFd now w e).totalRate = w.totalRate +
      (((visitOutcome procMapFd now e.1 e.2 (w.cache.lookup e.1)).2.bind
        ProcSample.rate).toList.map ProcRate.total).sum := by
  unfold visitProcess visitOutcome
  cases lookupPerCpuValue procMapFd e.2.slots with
  | none => simp
  | some slots =>
    dsimp only
    generalize (if mergeName slots = "" then "unknown" else mergeName slots) = name
    by_cases halive : e.2.alive = false
    · rw [if_pos halive, if_pos halive]
      simp [UnorderedMap.lookup_erase_ite]
    · rw [if_neg halive, if_neg halive]
      cases hlast : w.cache.lookup e.1 with
      | none => simp [UnorderedMap.lookup_insert_ite]
      | some last =>
        dsimp only
        split_ifs with helapsed
        · simp [hlast]
        · simp [UnorderedMap.lookup_insert_ite, ProcRate.total]

/-- What the body of the loop does to a process: it leaves it alone, forgets one that is gone, or
takes a reading, whose rate is computed against the cache. -/
lemma visitOutcome_cases (procMapFd : ℤ) (now : ℚ) (tgid : ℕ) (entry : ProcEntry n)
    (last : Option ProcStatCache) :
    visitOutcome procMapFd now tgid entry last = (last, none) ∨
      (entry.alive = false ∧ visitOutcome procMapFd now tgid entry last = (none, none)) ∨
      ∃ s : ProcSample, s.tgid = tgid ∧
        visitOutcome procMapFd now tgid entry last =
          (some ⟨s.sndBytes, s.rcvBytes, s.timestamp⟩, some s) ∧
        ((last = none ∧ s.rate = none) ∨
          ∃ before name, last = some before ∧ before.timestamp < s.timestamp ∧
            s.rate = some (procRate tgid name (s.timestamp - before.timestamp) s.sndBytes
              s.rcvBytes before)) := by
  unfold visitOutcome
  cases lookupPerCpuValue procMapFd entry.slots with
  | none => exact Or.inl rfl
  | some slots =>
    dsimp only
    generalize (if mergeName slots = "" then "unknown" else mergeName slots) = name
    by_cases halive : entry.alive = false
    · rw [if_pos halive]
      exact Or.inr (Or.inl ⟨halive, rfl⟩)
    · rw [if_neg halive]
      cases last with
      | none =>
        right; right
        refine ⟨⟨tgid, mergeBytes fun cpu => (slots cpu).sndBytes,
          mergeBytes fun cpu => (slots cpu).rcvBytes, now, none⟩, rfl, rfl, Or.inl ⟨rfl, rfl⟩⟩
      | some last =>
        dsimp only
        split_ifs with helapsed
        · exact Or.inl rfl
        · right; right
          refine ⟨⟨tgid, mergeBytes fun cpu => (slots cpu).sndBytes,
            mergeBytes fun cpu => (slots cpu).rcvBytes, now, some (procRate tgid name
              (now - last.timestamp) (mergeBytes fun cpu => (slots cpu).sndBytes)
              (mergeBytes fun cpu => (slots cpu).rcvBytes) last)⟩, rfl, rfl, Or.inr ?_⟩
          exact ⟨last, name, rfl, sub_pos.mp (not_le.mp helapsed), rfl⟩

lemma visitOutcome_tgid {tgid : ℕ} {entry : ProcEntry n} {last : Option ProcStatCache}
    {s : ProcSample} (h : (visitOutcome procMapFd now tgid entry last).2 = some s) :
    s.tgid = tgid := by
  obtain hidle | ⟨-, hgone⟩ | ⟨s', htgid, hread, -⟩ :=
    visitOutcome_cases procMapFd now tgid entry last
  · rw [hidle] at h
    cases h
  · rw [hgone] at h
    cases h
  · rw [hread] at h
    cases h
    exact htgid

/-- Nothing is sampled where the lookups fail altogether. -/
lemma visitOutcome_of_closed (h : procMapFd < 0 ∨ n = 0) (tgid : ℕ) (entry : ProcEntry n)
    (last : Option ProcStatCache) :
    visitOutcome procMapFd now tgid entry last = (last, none) := by
  rw [visitOutcome, lookupPerCpuValue, if_pos h]

/-- The part of the walk that belongs to one process. -/
def ProcWalk.view (k : ℕ) (w : ProcWalk) : Option ProcStatCache × List ProcSample :=
  (w.cache.lookup k, w.samples.filter fun s => s.tgid = k)

lemma filter_visitOutcome_of_ne {tgid k : ℕ} (h : tgid ≠ k) (entry : ProcEntry n)
    (last : Option ProcStatCache) :
    (visitOutcome procMapFd now tgid entry last).2.toList.filter (fun s => s.tgid = k) = [] := by
  apply List.filter_eq_nil_iff.mpr
  intro s hs hk
  exact h ((visitOutcome_tgid (Option.mem_toList.mp hs)).symm.trans (of_decide_eq_true hk))

lemma filter_visitOutcome_self (tgid : ℕ) (entry : ProcEntry n) (last : Option ProcStatCache) :
    (visitOutcome procMapFd now tgid entry last).2.toList.filter (fun s => s.tgid = tgid) =
      (visitOutcome procMapFd now tgid entry last).2.toList := by
  apply List.filter_eq_self.mpr
  intro s hs
  exact decide_eq_true (visitOutcome_tgid (Option.mem_toList.mp hs))

/-- A process's part of the walk changes at its own entry only. -/
lemma view_visitProcess_of_ne {k : ℕ} (w : ProcWalk) (e : Σ _ : ℕ, ProcEntry n) (h : e.1 ≠ k) :
    (visitProcess procMapFd now w e).view k = w.view k := by
  obtain ⟨hcache, hsamples, -⟩ := visitProcess_eq procMapFd now w e
  rw [ProcWalk.view, hcache, hsamples, if_neg (Ne.symm h), List.filter_append,
    filter_visitOutcome_of_ne h, List.append_nil]
  rfl

/-- A process's part of the walk at its own entry. -/
lemma view_visitProcess_self (w : ProcWalk) (k : ℕ) (entry : ProcEntry n) :
    (visitProcess procMapFd now w ⟨k, entry⟩).view k =
      ((visitOutcome procMapFd now k entry (w.view k).1).1,
        (w.view k).2 ++ (visitOutcome procMapFd now k entry (w.view k).1).2.toList) := by
  obtain ⟨hcache, hsamples, -⟩ :=
    visitProcess_eq procMapFd now w ⟨k, entry⟩
  rw [ProcWalk.view, hcache, hsamples, if_pos rfl, List.filter_append, filter_visitOutcome_self]
  rfl

lemma view_walkProcesses (m : NetEbpfCaches) (now : ℚ)
    (procNetMap : UnorderedMap ℕ (ProcEntry n)) (k : ℕ) :
    (m.walkProcesses now procNetMap).view k =
      match procNetMap.lookup k with
      | none => (m.procCache.lookup k, [])
      | some entry =>
        ((visitOutcome m.procMapFd now k entry (m.procCache.lookup k)).1,
          (visitOutcome m.procMapFd now k entry (m.procCache.lookup k)).2.toList) := by
  unfold walkProcesses
  have hframe : ∀ (w : ProcWalk) (e : Σ _ : ℕ, ProcEntry n), e.1 ≠ k →
      (visitProcess m.procMapFd now w e).view k = w.view k :=
    fun w e h => view_visitProcess_of_ne w e h
  cases hk : procNetMap.lookup k with
  | none => exact UnorderedMap.foldl_view_of_lookup_none (ProcWalk.view k) hframe hk _
  | some entry =>
    have hstep : ∀ (w w' : ProcWalk) (v : ProcEntry n), w.view k = w'.view k →
        (visitProcess m.procMapFd now w ⟨k, v⟩).view k =
          (visitProcess m.procMapFd now w' ⟨k, v⟩).view k := by
      intro w w' v h
      rw [view_visitProcess_self, view_visitProcess_self, h]
    rw [UnorderedMap.foldl_view_of_lookup (ProcWalk.view k) hframe hstep hk,
      view_visitProcess_self]
    rfl

/-! ## What a call does -/

/-- What a call of `UpdateOnce` leaves in the cache for a process, and what it samples of it. -/
def procOutcome (m : NetEbpfCaches) (call : NetSampling n) (k : ℕ) :
    Option ProcStatCache × Option ProcSample :=
  if m.loaded = false ∨ m.mapFd < 0 then (m.procCache.lookup k, none)
  else
    match call.procNetMap.lookup k with
    | none => (m.procCache.lookup k, none)
    | some entry => visitOutcome m.procMapFd call.procNow k entry (m.procCache.lookup k)

variable (std : RateSort) (m : NetEbpfCaches) (call : NetSampling n)

lemma collectProcessStats_frame (now : ℚ) (procNetMap : UnorderedMap ℕ (ProcEntry n)) :
    (m.collectProcessStats std now procNetMap).1.cache = m.cache ∧
      (m.collectProcessStats std now procNetMap).1.ifnameCache = m.ifnameCache := by
  unfold collectProcessStats
  split_ifs <;> exact ⟨rfl, rfl⟩

theorem netSamples_updateOnce (k : UInt32) :
    ((m.updateOnce std call).2.netSamples.filter fun s => s.ifindex = k) =
      (m.sampled call k).toList.map fun p =>
        ⟨k, p.2, call.now, netInfo p.1 call.now p.2 (m.cache.lookup k)⟩ := by
  unfold updateOnce sampled
  split_ifs
  · rfl
  · exact (view_walkInterfaces m call k).2

theorem lookup_cache_updateOnce (k : UInt32) :
    (m.updateOnce std call).1.cache.lookup k =
      match m.sampled call k with
      | none => m.cache.lookup k
      | some p => some ⟨p.2, call.now⟩ := by
  unfold updateOnce sampled
  split_ifs
  · rfl
  · dsimp only
    rw [(collectProcessStats_frame std _ _ _).1]
    exact (view_walkInterfaces m call k).1

lemma collectProcessStats_view (now : ℚ) (procNetMap : UnorderedMap ℕ (ProcEntry n)) (k : ℕ) :
    ((m.collectProcessStats std now procNetMap).1.procCache.lookup k,
      (m.collectProcessStats std now procNetMap).2.procSamples.filter fun s => s.tgid = k) =
      match procNetMap.lookup k with
      | none => (m.procCache.lookup k, [])
      | some entry =>
        ((visitOutcome m.procMapFd now k entry (m.procCache.lookup k)).1,
          (visitOutcome m.procMapFd now k entry (m.procCache.lookup k)).2.toList) := by
  unfold collectProcessStats
  split_ifs with hclosed
  · cases procNetMap.lookup k with
    | none => rfl
    | some entry =>
      simp only [visitOutcome_of_closed hclosed]
      rfl
  · exact view_walkProcesses m now procNetMap k

theorem procSamples_updateOnce (k : ℕ) :
    ((m.updateOnce std call).2.procSamples.filter fun s => s.tgid = k) =
      (m.procOutcome call k).2.toList := by
  unfold updateOnce procOutcome
  split_ifs
  · rfl
  · refine (congrArg Prod.snd (collectProcessStats_view std _ _ _ k)).trans ?_
    cases call.procNetMap.lookup k <;> rfl

theorem lookup_procCache_updateOnce (k : ℕ) :
    (m.updateOnce std call).1.procCache.lookup k = (m.procOutcome call k).1 := by
  unfold updateOnce procOutcome
  split_ifs
  · rfl
  · refine (congrArg Prod.fst (collectProcessStats_view std _ _ _ k)).trans ?_
    cases call.procNetMap.lookup k <;> rfl

end NetEbpfCaches

/-- The calls of `UpdateOnce` as an event machine. Each shows what it samples and reports. -/
def netEbpfMonitor (std : RateSort) (n : ℕ) :
    EventMachine NetEbpfCaches (NetSampling n) NetUpdate where
  step m call := some ((m.updateOnce std call).1, [(m.updateOnce std call).2])

end Monitor
