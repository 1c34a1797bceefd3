import Mathlib.Tactic.FieldSimp
import Mathlib.Tactic.Ring
import PerfMonitor.Counter.Growth
import PerfMonitor.Worker.CallReadings

set_option relaxedAutoImplicit false
set_option autoImplicit false

/-!
# The rates of interfaces and processes telescope

Every rate of `NetEbpfMonitor` is the growth of a counter since the reading that stands in the
cache, divided by the time since then. A call that samples an interface or a process replaces its
reading, every other call leaves it alone. So the rates, each times its interval, add up to the
growth of the counters between the first and the last reading.

## Main definitions

* `Monitor.NetStats.LE`, `Monitor.ProcessReading.LE` — no counter has fallen between two readings.

## Main results

* `Monitor.netSamplesOf_recorded`, `Monitor.procSamplesOf_recorded` — every sample was taken
  against the one before it.
* `Monitor.rates_telescope` — the sums over a run, between the first and the last reading of its
  calls.
-/

namespace Monitor

/-! ## The samples of a run -/

lemma netSamplesOf_concat (k : UInt32) (us : List NetUpdate) (u : NetUpdate) :
    netSamplesOf k (us ++ [u]) =
      netSamplesOf k us ++ u.netSamples.filter fun s => s.ifindex = k := by
  rw [netSamplesOf, List.flatMap_append, List.flatMap_singleton]
  rfl

lemma procSamplesOf_concat (k : ℕ) (us : List NetUpdate) (u : NetUpdate) :
    procSamplesOf k (us ++ [u]) =
      procSamplesOf k us ++ u.procSamples.filter fun s => s.tgid = k := by
  rw [procSamplesOf, List.flatMap_append, List.flatMap_singleton]
  rfl

/-- No counter is smaller in the second reading. -/
structure NetStats.LE (a b : NetStats) : Prop where
  rcvBytes : a.rcvBytes ≤ b.rcvBytes
  rcvPackets : a.rcvPackets ≤ b.rcvPackets
  sndBytes : a.sndBytes ≤ b.sndBytes
  sndPackets : a.sndPackets ≤ b.sndPackets

/-- No counter is smaller in the second reading. -/
structure ProcessReading.LE (a b : ProcessReading) : Prop where
  sndBytes : a.sndBytes ≤ b.sndBytes
  rcvBytes : a.rcvBytes ≤ b.rcvBytes

/-- What the cache holds of a reading. -/
def NetSample.entry (s : NetSample) : NetEbpfCaches.NetStatCache := ⟨s.stats, s.timestamp⟩

/-- What the cache holds of a reading. -/
def ProcSample.entry (s : ProcSample) : NetEbpfCaches.ProcStatCache :=
  ⟨s.sndBytes, s.rcvBytes, s.timestamp⟩

/-- The message of a reading is computed from the reading in the cache. -/
def NetSample.Against (last : Option NetEbpfCaches.NetStatCache) (s : NetSample) : Prop :=
  s.info = NetEbpfCaches.netInfo s.info.name s.timestamp s.stats last

/-- The rate of a reading is computed from the reading in the cache. -/
def ProcSample.Against (last : Option NetEbpfCaches.ProcStatCache) (s : ProcSample) : Prop :=
  match last with
  | none => s.rate = none
  | some last => last.timestamp < s.timestamp ∧ ∃ name, s.rate = some (NetEbpfCaches.procRate
      s.tgid name (s.timestamp - last.timestamp) s.sndBytes s.rcvBytes last)

namespace NetEbpfCaches

variable {n : ℕ}

/-- What the body of the loop does to a process that is alive: nothing, or one reading. -/
lemma visitOutcome_of_alive (procMapFd : ℤ) (now : ℚ) (k : ℕ) {entry : ProcEntry n}
    (halive : entry.alive = true) (last : Option ProcStatCache) :
    visitOutcome procMapFd now k entry last = (last, none) ∨
      ∃ s : ProcSample, visitOutcome procMapFd now k entry last = (some s.entry, some s) ∧
        s.Against last := by
  obtain hidle | ⟨hgone, -⟩ | ⟨s, rfl, hread, hrate⟩ :=
    visitOutcome_cases procMapFd now k entry last
  · exact Or.inl hidle
  · exact absurd (halive.symm.trans hgone) Bool.noConfusion
  · refine Or.inr ⟨s, hread, ?_⟩
    obtain ⟨rfl, hfirst⟩ | ⟨before, name, rfl, hclock, hsome⟩ := hrate
    · exact hfirst
    · exact ⟨hclock, name, hsome⟩

end NetEbpfCaches

variable {n : ℕ} {std : RateSort} {m₀ m : NetEbpfCaches} {calls : List (NetSampling n)}
  {us : List NetUpdate}

/-- Every reading of an interface was taken against the one before it, and at the time of its
call. -/
lemma netSamplesOf_recorded (hcache : m₀.cache = ∅)
    (hrun : (netEbpfMonitor std n).run m₀ calls = some (m, us)) (k : UInt32) :
    Counter.Recorded NetSample.Against NetSample.entry (netSamplesOf k us) (m.cache.lookup k) ∧
      ((netSamplesOf k us).map NetSample.timestamp).Sublist (calls.map NetSampling.now) := by
  refine (netEbpfMonitor std n).run_induction (P := fun calls m us =>
    Counter.Recorded NetSample.Against NetSample.entry (netSamplesOf k us) (m.cache.lookup k) ∧
      ((netSamplesOf k us).map NetSample.timestamp).Sublist (calls.map NetSampling.now)) ?_ ?_ hrun
  · rw [hcache]
    exact ⟨Counter.Recorded.nil, List.Sublist.refl []⟩
  · rintro calls m us call m' us' - ⟨hrec, htimes⟩ hstep
    cases hstep
    rw [netSamplesOf_concat, NetEbpfCaches.netSamples_updateOnce,
      NetEbpfCaches.lookup_cache_updateOnce, List.map_append, List.map_append]
    cases m.sampled call k with
    | none =>
      refine ⟨(List.append_nil _).symm ▸ hrec, ?_⟩
      exact htimes.append (List.nil_sublist _)
    | some p =>
      refine ⟨hrec.concat ?_, htimes.append (List.Sublist.refl _)⟩
      rw [NetSample.Against, NetEbpfCaches.name_netInfo]

/-- Every reading of a process that stays alive was taken against the one before it. -/
lemma procSamplesOf_recorded (hcache : m₀.procCache = ∅)
    (hrun : (netEbpfMonitor std n).run m₀ calls = some (m, us)) {k : ℕ}
    (halive : ∀ call ∈ calls, ∀ entry, call.procNetMap.lookup k = some entry →
      entry.alive = true) :
    Counter.Recorded ProcSample.Against ProcSample.entry (procSamplesOf k us)
      (m.procCache.lookup k) := by
  refine (netEbpfMonitor std n).run_induction (P := fun calls m us =>
    (∀ call ∈ calls, ∀ entry, call.procNetMap.lookup k = some entry → entry.alive = true) →
    Counter.Recorded ProcSample.Against ProcSample.entry (procSamplesOf k us)
      (m.procCache.lookup k)) ?_ ?_ hrun halive
  · rw [hcache]
    exact fun _ => Counter.Recorded.nil
  · rintro calls m us call m' us' - ih hstep halive
    cases hstep
    have hrec := ih fun call hcall => halive call (List.mem_append_left _ hcall)
    have hlast := halive call (List.mem_append_right calls (List.mem_singleton_self call))
    have hskip : Counter.Recorded ProcSample.Against ProcSample.entry
        (procSamplesOf k us ++ (none : Option ProcSample).toList) (m.procCache.lookup k) :=
      (List.append_nil (procSamplesOf k us)).symm ▸ hrec
    rw [procSamplesOf_concat, NetEbpfCaches.procSamples_updateOnce,
      NetEbpfCaches.lookup_procCache_updateOnce]
    unfold NetEbpfCaches.procOutcome
    split_ifs
    · exact hskip
    · cases hentry : call.procNetMap.lookup k with
      | none => exact hskip
      | some entry =>
        rcases NetEbpfCaches.visitOutcome_of_alive m.procMapFd call.procNow k
          (hlast entry hentry) (m.procCache.lookup k) with
          hsame | ⟨s, hs, hagainst⟩
        · dsimp only
          rw [hsame]
          exact hskip
        · dsimp only
          rw [hs]
          exact hrec.concat hagainst

/-! ## One interval -/

/-- The growth that the monitor computes is that of the counters. -/
lemma toNat_counterDelta (now last : UInt64) :
    (counterDelta now last).toNat = Counter.growth last.toNat now.toNat := by
  unfold counterDelta
  split_ifs with h
  · rw [UInt64.toNat_sub_of_le _ _ h, Counter.growth_of_le (UInt64.le_iff_toNat_le.mp h)]
  · exact (Counter.growth_of_lt (UInt64.lt_iff_toNat_lt.mp (UInt64.not_le.mp h))).symm

/-- A rate in units of 1024 bytes, times its interval, is the growth it was computed from. -/
lemma kiloRate_mul (d : ℕ) {elapsed : ℚ} (h : 0 < elapsed) :
    (d : ℚ) / 1024 / elapsed * elapsed * 1024 = d := by
  rw [div_mul_cancel₀ _ h.ne', div_mul_cancel₀ _ (by norm_num)]

/-- The rates between two readings of an interface, each times the interval. -/
lemma NetSample.Against.mul {a b : NetSample} (h : b.Against (some a.entry))
    (htime : a.timestamp < b.timestamp) :
    b.info.rcvRate * (b.timestamp - a.timestamp) * 1024 =
        Counter.growth a.stats.rcvBytes.toNat b.stats.rcvBytes.toNat ∧
      b.info.sendRate * (b.timestamp - a.timestamp) * 1024 =
        Counter.growth a.stats.sndBytes.toNat b.stats.sndBytes.toNat ∧
      b.info.rcvPacketsRate * (b.timestamp - a.timestamp) =
        Counter.growth a.stats.rcvPackets.toNat b.stats.rcvPackets.toNat ∧
      b.info.sendPacketsRate * (b.timestamp - a.timestamp) =
        Counter.growth a.stats.sndPackets.toNat b.stats.sndPackets.toNat := by
  have hpos : 0 < b.timestamp - a.timestamp := sub_pos.mpr htime
  have hinfo : b.info = NetEbpfCaches.netInfo b.info.name b.timestamp b.stats
      (some ⟨a.stats, a.timestamp⟩) := h
  rw [hinfo]
  simp only [NetEbpfCaches.netInfo, if_pos hpos, ← toNat_counterDelta]
  exact ⟨kiloRate_mul _ hpos, kiloRate_mul _ hpos, div_mul_cancel₀ _ hpos.ne',
    div_mul_cancel₀ _ hpos.ne'⟩

/-- The rates between two readings of a process, each times the interval. -/
lemma ProcSample.Against.mul {a b : ProcSample} (h : b.Against (some a.entry)) :
    b.sndRate * (b.timestamp - a.timestamp) * 1024 =
        Counter.growth a.sndBytes.toNat b.sndBytes.toNat ∧
      b.rcvRate * (b.timestamp - a.timestamp) * 1024 =
        Counter.growth a.rcvBytes.toNat b.rcvBytes.toNat := by
  obtain ⟨htime, name, hrate⟩ := h
  have hpos : 0 < b.timestamp - a.timestamp := sub_pos.mpr htime
  simp only [ProcSample.sndRate, ProcSample.rcvRate, hrate, Option.map_some, Option.getD_some,
    NetEbpfCaches.procRate, ← toNat_counterDelta]
  exact ⟨kiloRate_mul _ hpos, kiloRate_mul _ hpos⟩

/-! ## Whole runs -/

/-- Each rate of an interface, times the interval between its two readings, adds up over a run to
what its counter has grown by. -/
lemma netSamplesOf_sums (hcache : m₀.cache = ∅)
    (hrun : (netEbpfMonitor std n).run m₀ calls = some (m, us))
    (hclock : (calls.map NetSampling.now).Pairwise (· < ·)) (k : UInt32) {first last : NetSample}
    (hfirst : (netSamplesOf k us).head? = some first)
    (hlast : (netSamplesOf k us).getLast? = some last)
    (hle : (netSamplesOf k us).IsChain fun a b => a.stats.LE b.stats) :
    Counter.sumSteps (fun a b => b.info.rcvRate * (b.timestamp - a.timestamp) * 1024)
        (netSamplesOf k us) = (last.stats.rcvBytes.toNat : ℚ) - first.stats.rcvBytes.toNat ∧
      Counter.sumSteps (fun a b => b.info.sendRate * (b.timestamp - a.timestamp) * 1024)
        (netSamplesOf k us) = (last.stats.sndBytes.toNat : ℚ) - first.stats.sndBytes.toNat ∧
      Counter.sumSteps (fun a b => b.info.rcvPacketsRate * (b.timestamp - a.timestamp))
        (netSamplesOf k us) = (last.stats.rcvPackets.toNat : ℚ) - first.stats.rcvPackets.toNat ∧
      Counter.sumSteps (fun a b => b.info.sendPacketsRate * (b.timestamp - a.timestamp))
        (netSamplesOf k us) = (last.stats.sndPackets.toNat : ℚ) - first.stats.sndPackets.toNat := by
  obtain ⟨hrec, htimes⟩ := netSamplesOf_recorded hcache hrun k
  have hlater : (netSamplesOf k us).IsChain fun a b => a.timestamp < b.timestamp :=
    List.isChain_of_isChain_map NetSample.timestamp (fun _ _ h => h)
      (hclock.sublist htimes).isChain
  have hstep := (Counter.isChain_and hrec.isChain hlater).imp fun _ _ h => h.1.mul h.2
  refine ⟨?_, ?_, ?_, ?_⟩
  · exact Counter.sumSteps_of_growth (c := fun s => s.stats.rcvBytes.toNat)
      (hstep.imp fun _ _ h => h.1)
      (hle.imp fun _ _ h => UInt64.le_iff_toNat_le.mp h.rcvBytes) hfirst hlast
  · exact Counter.sumSteps_of_growth (c := fun s => s.stats.sndBytes.toNat)
      (hstep.imp fun _ _ h => h.2.1)
      (hle.imp fun _ _ h => UInt64.le_iff_toNat_le.mp h.sndBytes) hfirst hlast
  · exact Counter.sumSteps_of_growth (c := fun s => s.stats.rcvPackets.toNat)
      (hstep.imp fun _ _ h => h.2.2.1)
      (hle.imp fun _ _ h => UInt64.le_iff_toNat_le.mp h.rcvPackets) hfirst hlast
  · exact Counter.sumSteps_of_growth (c := fun s => s.stats.sndPackets.toNat)
      (hstep.imp fun _ _ h => h.2.2.2)
      (hle.imp fun _ _ h => UInt64.le_iff_toNat_le.mp h.sndPackets) hfirst hlast

/-- The same for a process that stays alive. -/
lemma procSamplesOf_sums (hcache : m₀.procCache = ∅)
    (hrun : (netEbpfMonitor std n).run m₀ calls = some (m, us)) {k : ℕ}
    (halive : ∀ call ∈ calls, ∀ entry, call.procNetMap.lookup k = some entry →
      entry.alive = true) {first last : ProcSample}
    (hfirst : (procSamplesOf k us).head? = some first)
    (hlast : (procSamplesOf k us).getLast? = some last)
    (hle : (procSamplesOf k us).IsChain fun a b => a.reading.LE b.reading) :
    Counter.sumSteps (fun a b => b.sndRate * (b.timestamp - a.timestamp) * 1024)
        (procSamplesOf k us) = (last.sndBytes.toNat : ℚ) - first.sndBytes.toNat ∧
      Counter.sumSteps (fun a b => b.rcvRate * (b.timestamp - a.timestamp) * 1024)
        (procSamplesOf k us) = (last.rcvBytes.toNat : ℚ) - first.rcvBytes.toNat := by
  have hstep := (procSamplesOf_recorded hcache hrun halive).isChain
  constructor
  · exact Counter.sumSteps_of_growth (c := fun s => s.sndBytes.toNat)
      (hstep.imp fun _ _ h => h.mul.1)
      (hle.imp fun _ _ h => UInt64.le_iff_toNat_le.mp h.sndBytes) hfirst hlast
  · exact Counter.sumSteps_of_growth (c := fun s => s.rcvBytes.toNat)
      (hstep.imp fun _ _ h => h.mul.2)
      (hle.imp fun _ _ h => UInt64.le_iff_toNat_le.mp h.rcvBytes) hfirst hlast

/-- **Rates telescope.** Over a run of `UpdateOnce` from empty caches, at strictly increasing times
and with whatever is found in the maps, what the monitor samples of an interface is what its calls
read, the counters being the sums of the copies of all CPUs; and as long as these never fall, the
rates, each times the interval between its two readings, add up to the growth from the first to the
last reading. The same holds of a process that stays alive, and every call reports the rates of the
processes that it samples.

**Proof sketch.** A call samples exactly what it reads (`netSamplesOf_eq_readings`,
`procSamplesOf_eq_readings`). It takes the growth against the reading in the cache and puts the new
reading there; any other call leaves the cache alone (`netSamplesOf_recorded`,
`procSamplesOf_recorded`). Each product is thus the difference of two consecutive readings. -/
theorem rates_telescope (hcache : m₀.cache = ∅) (hproc : m₀.procCache = ∅)
    (hrun : (netEbpfMonitor std n).run m₀ calls = some (m, us))
    (hclock : (calls.map NetSampling.now).Pairwise (· < ·)) :
    (∀ k : UInt32, (netSamplesOf k us).map NetSample.reading = m₀.netReadings k calls ∧
      ∀ first last : InterfaceReading, (m₀.netReadings k calls).head? = some first →
        (m₀.netReadings k calls).getLast? = some last →
        ((m₀.netReadings k calls).IsChain fun a b => a.stats.LE b.stats) →
        Counter.sumSteps (fun a b => b.info.rcvRate * (b.timestamp - a.timestamp) * 1024)
            (netSamplesOf k us) = (last.stats.rcvBytes.toNat : ℚ) - first.stats.rcvBytes.toNat ∧
          Counter.sumSteps (fun a b => b.info.sendRate * (b.timestamp - a.timestamp) * 1024)
            (netSamplesOf k us) = (last.stats.sndBytes.toNat : ℚ) - first.stats.sndBytes.toNat ∧
          Counter.sumSteps (fun a b => b.info.rcvPacketsRate * (b.timestamp - a.timestamp))
            (netSamplesOf k us) =
              (last.stats.rcvPackets.toNat : ℚ) - first.stats.rcvPackets.toNat ∧
          Counter.sumSteps (fun a b => b.info.sendPacketsRate * (b.timestamp - a.timestamp))
            (netSamplesOf k us) =
              (last.stats.sndPackets.toNat : ℚ) - first.stats.sndPackets.toNat) ∧
    (∀ k : ℕ,
      (∀ call ∈ calls, ∀ entry, call.procNetMap.lookup k = some entry → entry.alive = true) →
      (procSamplesOf k us).map ProcSample.reading = m₀.procReadings k calls ∧
      ∀ first last : ProcessReading, (m₀.procReadings k calls).head? = some first →
        (m₀.procReadings k calls).getLast? = some last →
        (m₀.procReadings k calls).IsChain ProcessReading.LE →
        Counter.sumSteps (fun a b => b.sndRate * (b.timestamp - a.timestamp) * 1024)
            (procSamplesOf k us) = (last.sndBytes.toNat : ℚ) - first.sndBytes.toNat ∧
          Counter.sumSteps (fun a b => b.rcvRate * (b.timestamp - a.timestamp) * 1024)
            (procSamplesOf k us) = (last.rcvBytes.toNat : ℚ) - first.rcvBytes.toNat) ∧
    ∀ u ∈ us, u.RatesReported := by
  refine ⟨fun k => ?_, fun k halive => ?_, fun u hu => ?_⟩
  · have hread := netSamplesOf_eq_readings hrun k
    refine ⟨hread, fun first last hfirst hlast hle => ?_⟩
    rw [← hread] at hfirst hlast hle
    rw [List.head?_map] at hfirst
    rw [List.getLast?_map] at hlast
    obtain ⟨a, ha, rfl⟩ := Option.map_eq_some_iff.mp hfirst
    obtain ⟨b, hb, rfl⟩ := Option.map_eq_some_iff.mp hlast
    exact netSamplesOf_sums hcache hrun hclock k ha hb
      ((List.isChain_map NetSample.reading).mp hle)
  · have hread := procSamplesOf_eq_readings hrun halive
    refine ⟨hread, fun first last hfirst hlast hle => ?_⟩
    rw [← hread] at hfirst hlast hle
    rw [List.head?_map] at hfirst
    rw [List.getLast?_map] at hlast
    obtain ⟨a, ha, rfl⟩ := Option.map_eq_some_iff.mp hfirst
    obtain ⟨b, hb, rfl⟩ := Option.map_eq_some_iff.mp hlast
    exact procSamplesOf_sums hproc hrun halive ha hb
      ((List.isChain_map ProcSample.reading).mp hle)
  · exact ratesReported_of_run hrun u hu

/-- A call that meets one interface and one process on two CPUs, both with the same counters; the
lookups fail without counters. -/
def samplingOf (now : ℚ) (bytes : Option (Fin 2 → UInt64)) : NetSampling 2 where
  now := now
  netStatsMap := AList.singleton 2 (bytes.map fun b cpu => { rcvBytes := b cpu, rcvPackets := 1 })
  ifIndexToName _ := "eth0"
  hasDevice _ := true
  procNow := now
  procNetMap :=
    AList.singleton 7 ⟨bytes.map fun b cpu => { rcvBytes := b cpu, comm := "sshd" }, true⟩

/-- Three calls, the second of which finds nothing. The counters of the two CPUs grow from `1000`
and `24` to `2000` and `3120`. -/
theorem rates_telescope_two_cpus :
    let calls := [samplingOf 0 (some ![1000, 24]), samplingOf 1 none,
      samplingOf 2 (some ![2000, 3120])]
    ∃ p, (netEbpfMonitor .stable 2).run {} calls = some p ∧
      (netSamplesOf 2 p.2).map NetSample.reading =
        [⟨"eth0", ⟨1024, 2, 0, 0⟩, 0⟩, ⟨"eth0", ⟨5120, 2, 0, 0⟩, 2⟩] ∧
      Counter.sumSteps (fun a b => b.info.rcvRate * (b.timestamp - a.timestamp) * 1024)
        (netSamplesOf 2 p.2) = (5120 : ℚ) - 1024 ∧
      Counter.sumSteps (fun a b => b.rcvRate * (b.timestamp - a.timestamp) * 1024)
        (procSamplesOf 7 p.2) = (5120 : ℚ) - 1024 ∧
      p.2.map NetUpdate.processNetInfo = [[], [], [⟨7, "sshd", 0, 2, 2, 100⟩]] ∧
      ∀ u ∈ p.2, u.RatesReported := by
  intro calls
  have hnet : NetEbpfCaches.netReadings {} 2 calls =
      [⟨"eth0", ⟨1024, 2, 0, 0⟩, 0⟩, ⟨"eth0", ⟨5120, 2, 0, 0⟩, 2⟩] := by decide +kernel
  have hproc : NetEbpfCaches.procReadings {} 7 calls = [⟨0, 1024, 0⟩, ⟨0, 5120, 2⟩] := by
    decide +kernel
  have hinfo : ((netEbpfMonitor .stable 2).run {} calls).map (fun p =>
      p.2.map NetUpdate.processNetInfo) = some [[], [], [⟨7, "sshd", 0, 2, 2, 100⟩]] := by
    decide +kernel
  obtain ⟨p, hrun, hinfo⟩ := Option.map_eq_some_iff.mp hinfo
  have hclock : (calls.map NetSampling.now).Pairwise (· < ·) := by decide +kernel
  have halive : ∀ call ∈ calls, ∀ entry, call.procNetMap.lookup 7 = some entry →
      entry.alive = true := by
    intro call hcall entry hentry
    simp only [calls, List.mem_cons, List.not_mem_nil, or_false] at hcall
    rcases hcall with rfl | rfl | rfl <;> cases hentry <;> rfl
  obtain ⟨hnets, hprocs, hreported⟩ := rates_telescope (by rfl) (by rfl) hrun hclock
  obtain ⟨hnetRead, hnetSums⟩ := hnets 2
  obtain ⟨-, hprocSums⟩ := hprocs 7 halive
  rw [hnet] at hnetRead hnetSums
  rw [hproc] at hprocSums
  refine ⟨p, hrun, hnetRead, ?_, ?_, hinfo, hreported⟩
  · exact (hnetSums _ _ rfl rfl (List.isChain_pair.mpr (by constructor <;> decide))).1
  · exact (hprocSums _ _ rfl rfl (List.isChain_pair.mpr (by constructor <;> decide))).2

end Monitor
