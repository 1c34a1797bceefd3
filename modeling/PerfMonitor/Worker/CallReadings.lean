import Mathlib.Data.UInt
import PerfMonitor.Worker.NetEbpfMonitor

set_option relaxedAutoImplicit false
set_option autoImplicit false

/-!
# What the calls of the network monitor read

The contents of the maps and the answers of the system alone determine which calls of `UpdateOnce`
read an interface or a process, and which counters they find: the sums of the copies of all CPUs.
Over a run the monitor samples these readings and no others, and the messages about the processes
carry their rates.

## Main definitions

* `Monitor.InterfaceReading`, `Monitor.ProcessReading` — what one call reads.
* `Monitor.NetEbpfCaches.netReadings`, `Monitor.NetEbpfCaches.procReadings` — what the calls of a
  run read of an interface and of a process.
* `Monitor.netSamplesOf`, `Monitor.procSamplesOf` — what the monitor samples over a run.
* `Monitor.NetUpdate.RatesReported` — a call reports the rates of the processes it has sampled.

## Main results

* `Monitor.netSamplesOf_eq_readings`, `Monitor.procSamplesOf_eq_readings` — the samples of a run are
  the readings of its calls.
* `Monitor.NetEbpfCaches.ratesReported_updateOnce` — every call reports the rates it computes.
-/

namespace Monitor

variable {n : ℕ}

/-! ## The readings of a call -/

/-- What a call reads of an interface: its name, the sums of its counters, and the time. -/
structure InterfaceReading where
  name : String
  stats : NetStats
  timestamp : ℚ
  deriving DecidableEq, Repr

/-- What a call reads of a process: the sums of its counters and the time. -/
structure ProcessReading where
  sndBytes : UInt64
  rcvBytes : UInt64
  timestamp : ℚ
  deriving DecidableEq, Repr

namespace NetSampling

/-- The name of an interface after a call, `name` being the one known before. A name once resolved
stays; it is resolved only for an entry that has been looked up. -/
def nameAfter (call : NetSampling n) (k : UInt32) (name : Option String) : Option String :=
  match name, call.netStatsMap.lookup k with
  | none, some (some _) =>
    if call.ifIndexToName k = "" then none else some (call.ifIndexToName k)
  | name, _ => name

/-- The reading of an interface, `name` being the name known before the call. There is none where
the lookup fails, where the name cannot be resolved, and of `lo` and interfaces without a device. -/
def interfaceReading (call : NetSampling n) (k : UInt32) (name : Option String) :
    Option InterfaceReading :=
  match call.netStatsMap.lookup k with
  | some (some slots) =>
    let ifname := name.getD (call.ifIndexToName k)
    if ifname = "" ∨ ifname = "lo" ∨ call.hasDevice ifname = false then none
    else some ⟨ifname, ∑ cpu, slots cpu, call.now⟩
  | _ => none

lemma timestamp_interfaceReading {call : NetSampling n} {k : UInt32} {name : Option String}
    {r : InterfaceReading} (h : call.interfaceReading k name = some r) :
    r.timestamp = call.now := by
  unfold interfaceReading at h
  split at h
  · dsimp only at h
    split_ifs at h
    cases h
    rfl
  · cases h

/-- The reading of a process, for one that is alive and whose lookup succeeds. -/
def processReading (call : NetSampling n) (k : ℕ) : Option ProcessReading :=
  match call.procNetMap.lookup k with
  | some ⟨some slots, true⟩ =>
    some ⟨∑ cpu, (slots cpu).sndBytes, ∑ cpu, (slots cpu).rcvBytes, call.procNow⟩
  | _ => none

end NetSampling

/-- The readings of an interface over a list of calls, `name` being the name known before. -/
def netReadingsFrom (k : UInt32) : Option String → List (NetSampling n) → List InterfaceReading
  | _, [] => []
  | name, call :: calls =>
    (call.interfaceReading k name).toList ++ netReadingsFrom k (call.nameAfter k name) calls

/-- The readings of a process over a list of calls, `last` being the time of the reading before.
One that is not later than that is passed over. -/
def procReadingsFrom (k : ℕ) : Option ℚ → List (NetSampling n) → List ProcessReading
  | _, [] => []
  | last, call :: calls =>
    match call.processReading k with
    | none => procReadingsFrom k last calls
    | some r =>
      if ∀ t ∈ last, t < r.timestamp then r :: procReadingsFrom k (some r.timestamp) calls
      else procReadingsFrom k last calls

namespace NetEbpfCaches

/-- The readings of an interface over the calls of a run from `m`. A monitor that could not load
its programs or has no map reads nothing. -/
def netReadings (m : NetEbpfCaches) (k : UInt32) (calls : List (NetSampling n)) :
    List InterfaceReading :=
  if m.loaded = false ∨ m.mapFd < 0 ∨ n = 0 then []
  else netReadingsFrom k (m.ifnameCache.lookup k) calls

/-- The time of the cached reading of a process. -/
def procTime (m : NetEbpfCaches) (k : ℕ) : Option ℚ :=
  (m.procCache.lookup k).map ProcStatCache.timestamp

/-- The readings of a process over the calls of a run from `m`. -/
def procReadings (m : NetEbpfCaches) (k : ℕ) (calls : List (NetSampling n)) :
    List ProcessReading :=
  if m.loaded = false ∨ m.mapFd < 0 ∨ m.procMapFd < 0 ∨ n = 0 then []
  else procReadingsFrom k (m.procTime k) calls

end NetEbpfCaches

/-! ## The samples of a run -/

/-- The samples of an interface over the calls of a run. -/
def netSamplesOf (k : UInt32) (us : List NetUpdate) : List NetSample :=
  us.flatMap fun u => u.netSamples.filter fun s => s.ifindex = k

/-- The samples of a process over the calls of a run. -/
def procSamplesOf (k : ℕ) (us : List NetUpdate) : List ProcSample :=
  us.flatMap fun u => u.procSamples.filter fun s => s.tgid = k

/-- What a process has sent per second since the sample before, in units of 1024 bytes. -/
def ProcSample.sndRate (s : ProcSample) : ℚ := (s.rate.map ProcRate.sndRate).getD 0

/-- What a process has received per second since the sample before, in units of 1024 bytes. -/
def ProcSample.rcvRate (s : ProcSample) : ℚ := (s.rate.map ProcRate.rcvRate).getD 0

/-- What has been read for a sample. -/
def NetSample.reading (s : NetSample) : InterfaceReading := ⟨s.info.name, s.stats, s.timestamp⟩

/-- What has been read for a sample. -/
def ProcSample.reading (s : ProcSample) : ProcessReading := ⟨s.sndBytes, s.rcvBytes, s.timestamp⟩

namespace NetEbpfCaches

lemma name_netInfo (ifname : String) (now : ℚ) (stats : NetStats) (last : Option NetStatCache) :
    (netInfo ifname now stats last).name = ifname := by
  unfold netInfo
  cases last with
  | none => rfl
  | some last =>
    dsimp only
    split_ifs <;> rfl

/-! ## Interfaces -/

lemma collectProcessStats_fds (std : RateSort) (m : NetEbpfCaches) (now : ℚ)
    (procNetMap : UnorderedMap ℕ (ProcEntry n)) :
    (m.collectProcessStats std now procNetMap).1.loaded = m.loaded ∧
      (m.collectProcessStats std now procNetMap).1.mapFd = m.mapFd ∧
      (m.collectProcessStats std now procNetMap).1.procMapFd = m.procMapFd := by
  unfold collectProcessStats
  split_ifs <;> exact ⟨rfl, rfl, rfl⟩

lemma updateOnce_fds (std : RateSort) (m : NetEbpfCaches) (call : NetSampling n) :
    (m.updateOnce std call).1.loaded = m.loaded ∧ (m.updateOnce std call).1.mapFd = m.mapFd ∧
      (m.updateOnce std call).1.procMapFd = m.procMapFd := by
  unfold updateOnce
  split_ifs
  · exact ⟨rfl, rfl, rfl⟩
  · exact collectProcessStats_fds std _ _ _

lemma lookupPerCpuValue_of_open {α : Type} {fd : ℤ} (hfd : ¬fd < 0) (hn : n ≠ 0)
    (value : Option (Fin n → α)) : lookupPerCpuValue fd value = value :=
  if_neg (not_or.mpr ⟨hfd, hn⟩)

/-- The name that a call leaves in the cache. -/
lemma lookup_ifnameCache_updateOnce (std : RateSort) {m : NetEbpfCaches}
    (hopen : ¬(m.loaded = false ∨ m.mapFd < 0)) (hn : n ≠ 0) (call : NetSampling n) (k : UInt32) :
    (m.updateOnce std call).1.ifnameCache.lookup k =
      call.nameAfter k (m.ifnameCache.lookup k) := by
  have hwalk : (m.walkInterfaces call).ifnameCache.lookup k =
      call.nameAfter k (m.ifnameCache.lookup k) := by
    have hframe : ∀ (w : NetWalk) (e : Σ _ : UInt32, Option (Fin n → NetStats)), e.1 ≠ k →
        (visitInterface m.mapFd call w e).view k = w.view k :=
      fun w e h => view_visitInterface_of_ne m.mapFd call w e h
    unfold walkInterfaces NetSampling.nameAfter
    cases hk : call.netStatsMap.lookup k with
    | none =>
      refine (congrArg (fun v => v.2.1)
        (UnorderedMap.foldl_view_of_lookup_none (NetWalk.view k) hframe hk _)).trans ?_
      dsimp only [NetWalk.view]
      cases m.ifnameCache.lookup k <;> rfl
    | some value =>
      refine (congrArg (fun v => v.2.1) (UnorderedMap.foldl_view_of_lookup (NetWalk.view k) hframe
        (fun w w' v h => view_visitInterface_congr m.mapFd call v h) hk _)).trans ?_
      dsimp only [NetWalk.view]
      rw [lookup_ifnameCache_visitInterface,
        lookupPerCpuValue_of_open (fun h => hopen (Or.inr h)) hn]
      unfold getIfName
      cases value <;> cases hname : m.ifnameCache.lookup k <;> simp [hname]
      split_ifs <;> simp [hname]
  unfold updateOnce
  rw [if_neg hopen]
  exact (congrArg (AList.lookup k) (collectProcessStats_frame std _ _ _).2).trans hwalk

lemma isPhysicalInterface_eq_false_iff (hasDevice : String → Bool) (ifname : String) :
    isPhysicalInterface hasDevice ifname = false ↔ ifname = "lo" ∨ hasDevice ifname = false := by
  simp [isPhysicalInterface, or_iff_not_imp_left]

/-- What a call samples of an interface is its reading. -/
lemma sampled_eq {m : NetEbpfCaches} (hopen : ¬(m.loaded = false ∨ m.mapFd < 0)) (hn : n ≠ 0)
    (call : NetSampling n) (k : UInt32) :
    m.sampled call k = (call.interfaceReading k (m.ifnameCache.lookup k)).map fun r =>
      (r.name, r.stats) := by
  unfold sampled NetSampling.interfaceReading
  rw [if_neg hopen]
  rcases call.netStatsMap.lookup k with _ | _ | slots
  · rfl
  · simp [sampleInterface, lookupPerCpuValue]
  · dsimp only [Option.bind_some, sampleInterface]
    rw [lookupPerCpuValue_of_open (fun h => hopen (Or.inr h)) hn, Option.bind_some,
      mergeSlots_eq_sum]
    simp only [isPhysicalInterface_eq_false_iff]
    split_ifs <;> rfl

lemma sampled_of_closed {m : NetEbpfCaches} (hclosed : m.loaded = false ∨ m.mapFd < 0 ∨ n = 0)
    (call : NetSampling n) (k : UInt32) : m.sampled call k = none := by
  unfold sampled
  split_ifs with hopen
  · rfl
  · have hfail : ∀ value, sampleInterface m.mapFd call (m.ifnameCache.lookup k) k value = none := by
      intro value
      rw [sampleInterface, lookupPerCpuValue, if_pos (by tauto), Option.bind_none]
    cases call.netStatsMap.lookup k with
    | none => rfl
    | some value => exact hfail value

end NetEbpfCaches

lemma netSamplesOf_cons (k : UInt32) (u : NetUpdate) (us : List NetUpdate) :
    netSamplesOf k (u :: us) = (u.netSamples.filter fun s => s.ifindex = k) ++ netSamplesOf k us :=
  List.flatMap_cons

lemma procSamplesOf_cons (k : ℕ) (u : NetUpdate) (us : List NetUpdate) :
    procSamplesOf k (u :: us) =
      (u.procSamples.filter fun s => s.tgid = k) ++ procSamplesOf k us :=
  List.flatMap_cons

variable {std : RateSort} {m₀ m : NetEbpfCaches} {calls : List (NetSampling n)}
  {us : List NetUpdate}

open NetEbpfCaches in
/-- **The samples of an interface are the readings of its calls.** -/
theorem netSamplesOf_eq_readings (hrun : (netEbpfMonitor std n).run m₀ calls = some (m, us))
    (k : UInt32) : (netSamplesOf k us).map NetSample.reading = m₀.netReadings k calls := by
  induction calls generalizing m₀ us with
  | nil =>
    obtain ⟨-, rfl⟩ : m₀ = m ∧ [] = us := by simpa using hrun
    unfold netReadings
    split_ifs <;> rfl
  | cons call calls ih =>
    obtain ⟨m₁, es₁, us₂, hstep, hrest, rfl⟩ := (netEbpfMonitor std n).run_cons_iff.mp hrun
    cases hstep
    obtain ⟨hloaded, hfd, -⟩ := updateOnce_fds std m₀ call
    rw [List.singleton_append, netSamplesOf_cons, List.map_append, ih hrest,
      netSamples_updateOnce]
    unfold netReadings
    rw [hloaded, hfd]
    split_ifs with hclosed
    · rw [sampled_of_closed hclosed]
      rfl
    · have hopen : ¬(m₀.loaded = false ∨ m₀.mapFd < 0) := fun h => hclosed (by tauto)
      have hn : n ≠ 0 := fun h => hclosed (Or.inr (Or.inr h))
      rw [sampled_eq hopen hn, lookup_ifnameCache_updateOnce std hopen hn, netReadingsFrom]
      congr 1
      cases hread : call.interfaceReading k (m₀.ifnameCache.lookup k) with
      | none => rfl
      | some r =>
        have htime := NetSampling.timestamp_interfaceReading hread
        simp [NetSample.reading, name_netInfo, ← htime]

/-! ## Processes -/

namespace NetEbpfCaches

lemma mergeBytes_eq_sum (counter : Fin n → UInt64) : mergeBytes counter = ∑ cpu, counter cpu := by
  rw [Fin.sum_univ_def, List.sum_eq_foldl, List.foldl_map]
  rfl

/-- A call that reads a process that is alive, later than the cached reading, samples what it
reads. -/
lemma procOutcome_of_later {m : NetEbpfCaches} {call : NetSampling n} {k : ℕ}
    (hopen : ¬(m.loaded = false ∨ m.mapFd < 0 ∨ m.procMapFd < 0 ∨ n = 0)) {r : ProcessReading}
    (hread : call.processReading k = some r) (hlater : ∀ t ∈ m.procTime k, t < r.timestamp) :
    ∃ rate, m.procOutcome call k = (some ⟨r.sndBytes, r.rcvBytes, r.timestamp⟩,
      some ⟨k, r.sndBytes, r.rcvBytes, r.timestamp, rate⟩) := by
  unfold NetSampling.processReading at hread
  split at hread
  · rename_i slots hentry
    cases hread
    unfold procOutcome
    rw [if_neg (fun h => hopen (by tauto)), hentry]
    dsimp only [visitOutcome]
    rw [lookupPerCpuValue_of_open (fun h => hopen (by tauto)) (fun h => hopen (by tauto))]
    simp only [mergeBytes_eq_sum]
    cases hlast : m.procCache.lookup k with
    | none => exact ⟨_, rfl⟩
    | some last =>
      have hlt : last.timestamp < call.procNow :=
        hlater _ (by rw [procTime, hlast]; rfl)
      dsimp only
      rw [if_neg Bool.noConfusion, if_neg (not_le.mpr (sub_pos.mpr hlt))]
      exact ⟨_, rfl⟩
  · cases hread

/-- Any other call leaves a process that is alive alone. -/
lemma procOutcome_of_not_later {m : NetEbpfCaches} {call : NetSampling n} {k : ℕ}
    (halive : ∀ entry, call.procNetMap.lookup k = some entry → entry.alive = true)
    (hidle : ∀ r, call.processReading k = some r → ¬∀ t ∈ m.procTime k, t < r.timestamp) :
    m.procOutcome call k = (m.procCache.lookup k, none) := by
  unfold procOutcome
  split_ifs
  · rfl
  · cases hentry : call.procNetMap.lookup k with
    | none => rfl
    | some entry =>
      obtain ⟨slots, alive⟩ := entry
      obtain rfl : alive = true := halive _ hentry
      unfold NetSampling.processReading at hidle
      rw [hentry] at hidle
      dsimp only [visitOutcome, lookupPerCpuValue]
      cases slots with
      | none => rw [ite_self]
      | some slots =>
        by_cases hclosed : m.procMapFd < 0 ∨ n = 0
        · rw [if_pos hclosed]
        · obtain ⟨last, hlast, hle⟩ : ∃ last, m.procCache.lookup k = some last ∧
              call.procNow ≤ last.timestamp := by
            simpa [procTime] using hidle _ rfl
          rw [if_neg hclosed, hlast]
          dsimp only
          rw [if_neg Bool.noConfusion, if_pos (sub_nonpos.mpr hle)]

lemma procOutcome_of_closed {m : NetEbpfCaches} {call : NetSampling n} {k : ℕ}
    (hclosed : m.loaded = false ∨ m.mapFd < 0 ∨ m.procMapFd < 0 ∨ n = 0) :
    m.procOutcome call k = (m.procCache.lookup k, none) := by
  unfold procOutcome
  split_ifs
  · rfl
  · cases call.procNetMap.lookup k with
    | none => rfl
    | some entry => exact visitOutcome_of_closed (by tauto) k entry _

end NetEbpfCaches

open NetEbpfCaches in
/-- **The samples of a process that stays alive are the readings of its calls.** -/
theorem procSamplesOf_eq_readings (hrun : (netEbpfMonitor std n).run m₀ calls = some (m, us))
    {k : ℕ} (halive : ∀ call ∈ calls, ∀ entry, call.procNetMap.lookup k = some entry →
      entry.alive = true) :
    (procSamplesOf k us).map ProcSample.reading = m₀.procReadings k calls := by
  induction calls generalizing m₀ us with
  | nil =>
    obtain ⟨-, rfl⟩ : m₀ = m ∧ [] = us := by simpa using hrun
    unfold procReadings
    split_ifs <;> rfl
  | cons call calls ih =>
    obtain ⟨m₁, es₁, us₂, hstep, hrest, rfl⟩ := (netEbpfMonitor std n).run_cons_iff.mp hrun
    cases hstep
    obtain ⟨hloaded, hfd, hprocFd⟩ := updateOnce_fds std m₀ call
    have hfirst := halive call List.mem_cons_self
    rw [List.singleton_append, procSamplesOf_cons, List.map_append,
      ih hrest fun c hc => halive c (List.mem_cons_of_mem _ hc), procSamples_updateOnce]
    unfold procReadings
    rw [hloaded, hfd, hprocFd]
    split_ifs with hclosed
    · rw [procOutcome_of_closed hclosed]
      rfl
    · rw [procTime, lookup_procCache_updateOnce, procReadingsFrom]
      by_cases hlater : ∃ r, call.processReading k = some r ∧
          ∀ t ∈ m₀.procTime k, t < r.timestamp
      · obtain ⟨r, hread, hlater⟩ := hlater
        obtain ⟨rate, houtcome⟩ := procOutcome_of_later hclosed hread hlater
        rw [houtcome, hread]
        dsimp only
        rw [if_pos hlater]
        rfl
      · have hidle : m₀.procOutcome call k = (m₀.procCache.lookup k, none) :=
          procOutcome_of_not_later hfirst fun r hread h => hlater ⟨r, hread, h⟩
        rw [hidle]
        cases hread : call.processReading k with
        | none => rfl
        | some r =>
          dsimp only
          rw [if_neg fun h => hlater ⟨r, hread, h⟩]
          rfl

/-! ## The reported rates -/

/-- The messages about processes carry the rates of the samples of this call, all of them when there
are no more than ten. -/
def NetUpdate.RatesReported (u : NetUpdate) : Prop :=
  ∃ rest, ((u.processNetInfo.map fun p => (p.pid, p.sendRate, p.rcvRate)) ++ rest).Perm
      ((u.procSamples.filter fun s => s.rate.isSome).map fun s => (s.tgid, s.sndRate, s.rcvRate)) ∧
    ((u.procSamples.filter fun s => s.rate.isSome).length ≤ kTopProcessCount → rest = [])

namespace NetEbpfCaches

/-- The walk over the processes collects the rates of its samples. -/
lemma walkProcesses_rates (m : NetEbpfCaches) (now : ℚ)
    (procNetMap : UnorderedMap ℕ (ProcEntry n)) :
    (m.walkProcesses now procNetMap).allRates =
        (m.walkProcesses now procNetMap).samples.filterMap ProcSample.rate ∧
      ∀ s ∈ (m.walkProcesses now procNetMap).samples, ∀ r ∈ s.rate, r.pid = s.tgid := by
  unfold walkProcesses
  generalize procNetMap.entries = entries
  induction entries using List.reverseRecOn with
  | nil => exact ⟨rfl, fun s hs => absurd hs List.not_mem_nil⟩
  | append_singleton entries e ih =>
    rw [List.foldl_concat]
    generalize entries.foldl (visitProcess m.procMapFd now) { cache := m.procCache } = w at ih
    obtain ⟨-, hsamples, hrates, -⟩ := visitProcess_eq m.procMapFd now w e
    rw [hsamples, hrates, List.filterMap_append, ih.1]
    obtain hidle | ⟨-, hgone⟩ | ⟨s, htgid, hread, hrate⟩ :=
      visitOutcome_cases m.procMapFd now e.1 e.2 (w.cache.lookup e.1)
    · rw [hidle]
      exact ⟨rfl, by simpa using ih.2⟩
    · rw [hgone]
      exact ⟨rfl, by simpa using ih.2⟩
    · rw [hread]
      constructor
      · cases hr : s.rate <;> simp [hr]
      · intro x hx r hr
        rcases List.mem_append.mp hx with hx | hx
        · exact ih.2 x hx r hr
        · obtain rfl : x = s := List.mem_singleton.mp hx
          obtain ⟨-, hnone⟩ | ⟨last, name, -, -, hsome⟩ := hrate
          · rw [hnone] at hr
            cases hr
          · rw [hsome] at hr
            cases hr
            exact htgid.symm

end NetEbpfCaches

/-- The rates of samples, as the messages show them. -/
lemma map_rates_samples {samples : List ProcSample}
    (hpid : ∀ s ∈ samples, ∀ r ∈ s.rate, r.pid = s.tgid) :
    ((samples.filterMap ProcSample.rate).map fun r => (r.pid, r.sndRate, r.rcvRate)) =
      (samples.filter fun s => s.rate.isSome).map fun s => (s.tgid, s.sndRate, s.rcvRate) := by
  induction samples with
  | nil => rfl
  | cons s samples ih =>
    have hrest := ih fun x hx => hpid x (List.mem_cons_of_mem _ hx)
    cases hr : s.rate with
    | none => simpa [hr] using hrest
    | some r =>
      have hs : r.pid = s.tgid := hpid s List.mem_cons_self r hr
      simpa [hr, ProcSample.sndRate, ProcSample.rcvRate, hs] using hrest

namespace NetEbpfCaches

lemma ratesReported_collectProcessStats (std : RateSort) (m : NetEbpfCaches) (now : ℚ)
    (procNetMap : UnorderedMap ℕ (ProcEntry n)) :
    (m.collectProcessStats std now procNetMap).2.RatesReported := by
  unfold collectProcessStats
  split_ifs
  · exact ⟨[], List.Perm.nil, fun _ => rfl⟩
  · obtain ⟨hrates, hpid⟩ := walkProcesses_rates m now procNetMap
    have hsamples := map_rates_samples hpid
    rw [← hrates] at hsamples
    have hlen := congrArg List.length hsamples
    rw [List.length_map, List.length_map] at hlen
    unfold NetUpdate.RatesReported
    dsimp only
    rw [← hsamples, ← hlen, List.map_map]
    generalize (m.walkProcesses now procNetMap).allRates = rates
    refine ⟨((std.sort rates).drop kTopProcessCount).map fun r => (r.pid, r.sndRate, r.rcvRate),
      ?_, fun hfew => ?_⟩
    · have hsplit : (std.sort rates).take kTopProcessCount ++
          (std.sort rates).drop kTopProcessCount = std.sort rates := List.take_append_drop _ _
      refine List.Perm.trans (List.Perm.of_eq ?_) ((std.perm rates).map _)
      rw [← congrArg (List.map _) hsplit, List.map_append]
      rfl
    · rw [List.drop_eq_nil_of_le ((std.perm rates).length_eq.trans_le hfew), List.map_nil]

/-- Every call of `UpdateOnce` reports the rates of its samples. -/
theorem ratesReported_updateOnce (std : RateSort) (m : NetEbpfCaches) (call : NetSampling n) :
    (m.updateOnce std call).2.RatesReported := by
  unfold updateOnce
  split_ifs
  · exact ⟨[], List.Perm.nil, fun _ => rfl⟩
  · exact ratesReported_collectProcessStats std _ _ _

end NetEbpfCaches

/-- Every call of a run reports the rates of its samples. -/
lemma ratesReported_of_run (hrun : (netEbpfMonitor std n).run m₀ calls = some (m, us)) :
    ∀ u ∈ us, u.RatesReported := by
  refine (netEbpfMonitor std n).run_induction (P := fun _ _ us => ∀ u ∈ us, u.RatesReported)
    (fun u hu => absurd hu List.not_mem_nil) ?_ hrun
  rintro calls m us call m' us' - ih hstep u hu
  cases hstep
  rcases List.mem_append.mp hu with hu | hu
  · exact ih u hu
  · rw [List.mem_singleton.mp hu]
    exact NetEbpfCaches.ratesReported_updateOnce std m call

end Monitor
