import PerfMonitor.PerCpu.Accounting

set_option relaxedAutoImplicit false
set_option autoImplicit false

/-!
# Traffic counters of the network interfaces

The TC programs `tc_ingress` and `tc_egress` (`worker/src/ebpf/net_stats.bpf.c`) account every
packet under its interface in a per-CPU hash map, and `NetEbpfMonitor::UpdateOnce`
(`worker/src/monitor/net_ebpf_monitor.cpp`) adds up the slots of each interface. The programs run
on all CPUs at once, with no lock and no atomic addition.

## Main definitions

* `Monitor.NetStats` — the counters of an interface.
* `Monitor.netStatsMap` — the programs on `n` CPUs as an event machine, in which every helper call
  and every addition is a step of its own.
* `Monitor.arrivals` — the packets that the programs are entered with and do not ignore.
* `Monitor.mergeSlots` — the sums that `UpdateOnce` computes.
* `Monitor.NetStats.CountsOf` — the counters are those of some packets.

## Main results

* `Monitor.NetStats.sums_exact` — when no program is running, the sums count the packets of the
  interface.
-/

namespace Monitor

/-! ## Counters -/

/-- `struct net_stats`. -/
structure NetStats where
  rcvBytes : UInt64 := 0
  rcvPackets : UInt64 := 0
  sndBytes : UInt64 := 0
  sndPackets : UInt64 := 0
  deriving DecidableEq, Repr

namespace NetStats

instance : Zero NetStats := ⟨{}⟩

instance : Add NetStats where
  add s t :=
    { rcvBytes := s.rcvBytes + t.rcvBytes
      rcvPackets := s.rcvPackets + t.rcvPackets
      sndBytes := s.sndBytes + t.sndBytes
      sndPackets := s.sndPackets + t.sndPackets }

lemma add_def (s t : NetStats) :
    s + t = ⟨s.rcvBytes + t.rcvBytes, s.rcvPackets + t.rcvPackets, s.sndBytes + t.sndBytes,
      s.sndPackets + t.sndPackets⟩ := rfl

lemma zero_def : (0 : NetStats) = ⟨0, 0, 0, 0⟩ := rfl

protected lemma add_assoc (s t u : NetStats) : s + t + u = s + (t + u) := by
  simp only [add_def, UInt64.add_assoc]

protected lemma zero_add (s : NetStats) : 0 + s = s := by
  simp only [add_def, zero_def, UInt64.zero_add]

protected lemma add_zero (s : NetStats) : s + 0 = s := by
  simp only [add_def, zero_def, UInt64.add_zero]

protected lemma add_comm (s t : NetStats) : s + t = t + s := by
  simp only [add_def, NetStats.mk.injEq]
  exact ⟨UInt64.add_comm _ _, UInt64.add_comm _ _, UInt64.add_comm _ _, UInt64.add_comm _ _⟩

instance : AddCommMonoid NetStats where
  add_assoc := NetStats.add_assoc
  zero_add := NetStats.zero_add
  add_zero := NetStats.add_zero
  add_comm := NetStats.add_comm
  nsmul := nsmulRec

end NetStats

/-! ## The TC programs -/

/-- What the programs read of a packet. -/
structure SkBuff where
  ifindex : UInt32
  len : UInt32
  deriving DecidableEq, Repr

/-- A packet with its direction. -/
structure NetPacket where
  skb : SkBuff
  isRx : Bool
  deriving DecidableEq, Repr

/-- The value with which `update_stats` creates an entry. -/
def initStats (len : UInt32) (isRx : Bool) : NetStats :=
  if isRx then { rcvBytes := len.toUInt64, rcvPackets := 1 }
  else { sndBytes := len.toUInt64, sndPackets := 1 }

/-- The additions of `update_stats` to the slot of an entry. -/
def slotAdditions (len : UInt32) (isRx : Bool) : List NetStats :=
  if isRx then [{ rcvBytes := len.toUInt64 }, { rcvPackets := 1 }]
  else [{ sndBytes := len.toUInt64 }, { sndPackets := 1 }]

/-- Creating the entry accounts what the additions would. -/
lemma sum_slotAdditions (len : UInt32) (isRx : Bool) :
    (slotAdditions len isRx).sum = initStats len isRx := by
  cases isRx <;>
    simp [slotAdditions, initStats, NetStats.add_def]

/-- The size of `net_stats_map`. -/
def maxInterfaces : ℕ := 64

/-- The map and the programs that are running. -/
abbrev NetStatsMap (n : ℕ) := PerCpuAccounting n UInt32 NetStats

inductive NetStatsAction (n : ℕ) where
  | tcIngress (cpu : Fin n) (skb : SkBuff)
  | tcEgress (cpu : Fin n) (skb : SkBuff)
  /-- The program on `cpu` makes its next helper call or addition. -/
  | advance (cpu : Fin n)

variable {n : ℕ}

/-- A TC program is entered: it ignores invalid data and otherwise calls `update_stats`. -/
def tcProgram (s : NetStatsMap n) (cpu : Fin n) (skb : SkBuff) (isRx : Bool) :
    Option (NetStatsMap n × List NetPacket) :=
  if skb.ifindex = 0 ∨ skb.len = 0 then some (s, [])
  else
    (s.step maxInterfaces (.start cpu skb.ifindex (slotAdditions skb.len isRx))).map fun p =>
      (p.1, [⟨skb, isRx⟩])

/-- The programs as an event machine that shows the packets accounted. -/
def netStatsMap (n : ℕ) : EventMachine (NetStatsMap n) (NetStatsAction n) NetPacket where
  step s
    | .tcIngress cpu skb => tcProgram s cpu skb true
    | .tcEgress cpu skb => tcProgram s cpu skb false
    | .advance cpu => (s.step maxInterfaces (.advance cpu)).map fun p => (p.1, [])

/-- The packet that a program is entered with, unless it is one to ignore: one without an interface
or without data. -/
def arrival : NetStatsAction n → Option NetPacket
  | .tcIngress _ skb => if skb.ifindex = 0 ∨ skb.len = 0 then none else some ⟨skb, true⟩
  | .tcEgress _ skb => if skb.ifindex = 0 ∨ skb.len = 0 then none else some ⟨skb, false⟩
  | .advance _ => none

/-- The packets that are to be accounted, in the order in which the programs are entered. -/
def arrivals (as : List (NetStatsAction n)) : List NetPacket := as.filterMap arrival

/-- A step shows the packet it is entered with. -/
lemma netStatsMap_step_arrival {s s' : NetStatsMap n} {a : NetStatsAction n}
    {fs : List NetPacket} (hstep : (netStatsMap n).step s a = some (s', fs)) :
    fs = (arrival a).toList := by
  have hprogram : ∀ cpu skb isRx, tcProgram s cpu skb isRx = some (s', fs) →
      fs = (if skb.ifindex = 0 ∨ skb.len = 0 then none else some (⟨skb, isRx⟩ : NetPacket)).toList
      := by
    intro cpu skb isRx h
    unfold tcProgram at h
    split_ifs at h ⊢
    · cases h
      rfl
    · obtain ⟨p, -, heq⟩ := Option.map_eq_some_iff.mp h
      cases heq
      rfl
  cases a with
  | tcIngress cpu skb => exact hprogram cpu skb true hstep
  | tcEgress cpu skb => exact hprogram cpu skb false hstep
  | advance cpu =>
    obtain ⟨p, -, heq⟩ := Option.map_eq_some_iff.mp hstep
    cases heq
    rfl

/-- A run shows the packets that are to be accounted. -/
lemma netStatsMap_run_arrivals {s s' : NetStatsMap n} {as : List (NetStatsAction n)}
    {es : List NetPacket} (hrun : (netStatsMap n).run s as = some (s', es)) : es = arrivals as := by
  refine (netStatsMap n).run_induction (P := fun as _ es => es = arrivals as) rfl ?_ hrun
  intro as s es a s' fs _ ih hstep
  rw [ih, netStatsMap_step_arrival hstep, arrivals, arrivals, List.filterMap_append]
  cases h : arrival a <;> simp [h]

/-! ## The monitor -/

/-- The sums over the CPUs that `UpdateOnce` computes for an interface. -/
def mergeSlots (slots : Fin n → NetStats) : NetStats :=
  (List.finRange n).foldl (fun stats cpu =>
    { rcvBytes := stats.rcvBytes + (slots cpu).rcvBytes
      rcvPackets := stats.rcvPackets + (slots cpu).rcvPackets
      sndBytes := stats.sndBytes + (slots cpu).sndBytes
      sndPackets := stats.sndPackets + (slots cpu).sndPackets }) {}

/-- `LookupPerCpuValue` and the sums, if the interface is in the map. -/
def mergedStats (m : PerCpuHash n UInt32 NetStats) (ifindex : UInt32) : Option NetStats :=
  (m.lookup ifindex).map mergeSlots

lemma mergeSlots_eq_sum (slots : Fin n → NetStats) : mergeSlots slots = ∑ cpu, slots cpu := by
  rw [Fin.sum_univ_def, List.sum_eq_foldl, List.foldl_map]
  rfl

lemma mergedStats_eq_some {m : PerCpuHash n UInt32 NetStats} {ifindex : UInt32} {stats : NetStats}
    (h : mergedStats m ifindex = some stats) : stats = PerCpuHash.total m ifindex := by
  obtain ⟨slots, hslots, rfl⟩ := Option.map_eq_some_iff.mp h
  rw [PerCpuHash.total_of_lookup hslots, mergeSlots_eq_sum]

/-! ## What the counters count -/

/-- The counters hold the number and the total length of the packets in each direction, in 64-bit
arithmetic. -/
structure NetStats.CountsOf (stats : NetStats) (ps : List NetPacket) : Prop where
  rcvBytes : stats.rcvBytes.toNat =
    ((ps.filter fun p => p.isRx).map fun p => p.skb.len.toNat).sum % 2 ^ 64
  rcvPackets : stats.rcvPackets.toNat = (ps.filter fun p => p.isRx).length % 2 ^ 64
  sndBytes : stats.sndBytes.toNat =
    ((ps.filter fun p => !p.isRx).map fun p => p.skb.len.toNat).sum % 2 ^ 64
  sndPackets : stats.sndPackets.toNat = (ps.filter fun p => !p.isRx).length % 2 ^ 64

namespace NetStats

/-- One more packet. -/
lemma CountsOf.cons {stats : NetStats} {ps : List NetPacket} (h : CountsOf stats ps)
    (p : NetPacket) : CountsOf (initStats p.skb.len p.isRx + stats) (p :: ps) := by
  obtain ⟨hrb, hrp, hsb, hsp⟩ := h
  obtain ⟨skb, isRx⟩ := p
  have hone : (1 : UInt64).toNat = 1 := rfl
  cases isRx with
  | true =>
    refine ⟨?_, ?_, ?_, ?_⟩
    · simp [initStats, add_def, hrb]
    · simp only [initStats, add_def, if_true, UInt64.toNat_add, hone, hrp, List.filter_cons_of_pos,
        List.length_cons]
      omega
    · simpa [initStats, add_def] using hsb
    · simpa [initStats, add_def] using hsp
  | false =>
    refine ⟨?_, ?_, ?_, ?_⟩
    · simpa [initStats, add_def] using hrb
    · simpa [initStats, add_def] using hrp
    · simp [initStats, add_def, hsb]
    · simp only [initStats, add_def, Bool.false_eq_true, if_false, UInt64.toNat_add, hone, hsp,
        Bool.not_false, List.filter_cons_of_pos, List.length_cons]
      omega

/-- What `update_stats` accounts for a packet. -/
def started (p : NetPacket) : UInt32 × NetStats :=
  (p.skb.ifindex, (slotAdditions p.skb.len p.isRx).sum)

/-- What has been started for an interface counts its packets. -/
lemma countsOf_startedTotal (ps : List NetPacket) (ifindex : UInt32) :
    CountsOf (PerCpuAccounting.startedTotal (ps.map started) ifindex)
      (ps.filter fun p => p.skb.ifindex = ifindex) := by
  induction ps with
  | nil => exact ⟨rfl, rfl, rfl, rfl⟩
  | cons p ps ih =>
    rw [List.map_cons, PerCpuAccounting.startedTotal, List.filter_cons, List.filter_cons]
    by_cases hp : p.skb.ifindex = ifindex
    · have hstarted : decide ((started p).1 = ifindex) = true := decide_eq_true hp
      rw [if_pos hstarted, if_pos (decide_eq_true hp), List.map_cons, List.sum_cons]
      have hvalue : (started p).2 = initStats p.skb.len p.isRx := sum_slotAdditions _ _
      rw [hvalue]
      exact ih.cons p
    · have hstarted : ¬ decide ((started p).1 = ifindex) = true := fun h => hp (of_decide_eq_true h)
      rw [if_neg hstarted, if_neg fun h => hp (of_decide_eq_true h)]
      exact ih

variable {s s' : NetStatsMap n} {a : NetStatsAction n} {as : List (NetStatsAction n)}
  {es fs : List NetPacket}

/-- A step of the programs is one of the accounting, or ignores a packet. -/
lemma step_cases (h : (netStatsMap n).step s a = some (s', fs)) :
    s' = s ∧ fs = [] ∨ ∃ b, s.step maxInterfaces b = some (s', fs.map started) ∧
      ∀ S : Finset UInt32, (∀ p ∈ fs, p.skb.ifindex ∈ S) → PerCpuAccounting.StartsIn S b := by
  have hprogram : ∀ cpu skb isRx, tcProgram s cpu skb isRx = some (s', fs) →
      s' = s ∧ fs = [] ∨ ∃ b, s.step maxInterfaces b = some (s', fs.map started) ∧
        ∀ S : Finset UInt32, (∀ p ∈ fs, p.skb.ifindex ∈ S) → PerCpuAccounting.StartsIn S b := by
    intro cpu skb isRx hstep
    unfold tcProgram at hstep
    split_ifs at hstep with hinvalid
    · cases hstep
      exact Or.inl ⟨rfl, rfl⟩
    · obtain ⟨⟨t, gs⟩, hstart, heq⟩ := Option.map_eq_some_iff.mp hstep
      cases heq
      refine Or.inr ⟨.start cpu skb.ifindex (slotAdditions skb.len isRx), ?_,
        fun S hS => hS ⟨skb, isRx⟩ List.mem_cons_self⟩
      rw [hstart]
      simp only [PerCpuAccounting.step] at hstart
      split at hstart
      · cases hstart
        rfl
      · cases hstart
  cases a with
  | tcIngress cpu skb => exact hprogram cpu skb true h
  | tcEgress cpu skb => exact hprogram cpu skb false h
  | advance cpu =>
    obtain ⟨⟨t, gs⟩, hadvance, heq⟩ := Option.map_eq_some_iff.mp h
    cases heq
    refine Or.inr ⟨.advance cpu, ?_, fun _ _ => trivial⟩
    rw [hadvance]
    obtain ⟨_, -, hend⟩ := Option.map_eq_some_iff.mp hadvance
    cases hend
    rfl

/-- In every run over few interfaces the accounting is sound. -/
lemma run_sound (hrun : (netStatsMap n).run {} as = some (s, es)) {S : Finset UInt32}
    (hcard : S.card ≤ maxInterfaces) (hin : ∀ p ∈ es, p.skb.ifindex ∈ S) :
    PerCpuAccounting.Sound S s (es.map started) := by
  refine (netStatsMap n).run_induction (P := fun _ s es =>
    (∀ p ∈ es, p.skb.ifindex ∈ S) → PerCpuAccounting.Sound S s (es.map started))
    (fun _ => .init S) ?_ hrun hin
  intro as s es a s' fs _ ih hstep hin
  have hsound := ih fun p hp => hin p (List.mem_append_left fs hp)
  rcases step_cases hstep with ⟨rfl, rfl⟩ | ⟨b, hb, hkeys⟩
  · rwa [List.append_nil]
  · rw [List.map_append]
    exact hsound.step hcard (hkeys S fun p hp => hin p (List.mem_append_right es hp)) hb

/-- **No packet is lost or counted twice.** For any number of CPUs, packets of at most 64
interfaces and any interleaving of the programs: when none of them is running, the sums that
`UpdateOnce` computes for an interface count exactly the packets of the interface that the programs
were entered with, and an interface that is not in the map has had none. The packets that a run
shows are these.

**Proof sketch.** At any time the slots of an interface and what its running programs still have
to add make up what has been started for it (`PerCpuAccounting.Sound.step`), and a program is
started for every packet that it does not ignore. -/
theorem sums_exact (hrun : (netStatsMap n).run {} as = some (s, es))
    (hfew : ((arrivals as).map fun p => p.skb.ifindex).toFinset.card ≤ 64)
    (hidle : ∀ cpu, s.execs cpu = .idle) (ifindex : UInt32) :
    es = arrivals as ∧
      (∀ stats, mergedStats s.map ifindex = some stats →
        CountsOf stats ((arrivals as).filter fun p => p.skb.ifindex = ifindex)) ∧
      (mergedStats s.map ifindex = none →
        (arrivals as).filter (fun p => p.skb.ifindex = ifindex) = []) := by
  obtain rfl := netStatsMap_run_arrivals hrun
  have hin : ∀ p ∈ arrivals as,
      p.skb.ifindex ∈ ((arrivals as).map fun p => p.skb.ifindex).toFinset := fun p hp =>
    List.mem_toFinset.mpr (List.mem_map_of_mem hp)
  obtain ⟨htotal, htracked⟩ := (run_sound hrun hfew hin).total_eq hidle ifindex
  refine ⟨rfl, ?_, ?_⟩
  · intro stats hstats
    rw [mergedStats_eq_some hstats, htotal]
    exact countsOf_startedTotal (arrivals as) ifindex
  · intro hnone
    refine List.filter_eq_nil_iff.mpr fun p hp hif => ?_
    obtain rfl : p.skb.ifindex = ifindex := of_decide_eq_true hif
    have hmem : p.skb.ifindex ∈ s.map := htracked _ (List.mem_map_of_mem hp)
    rw [mergedStats, Option.map_eq_none_iff] at hnone
    exact AList.lookup_eq_none.mp hnone hmem

/-- The first two packets of an interface, on two CPUs: both lookups find nothing, and the second
creation is refused. -/
def racingActions : List (NetStatsAction 2) :=
  [.tcIngress 0 ⟨7, 100⟩, .tcIngress 1 ⟨7, 50⟩, .advance 0, .advance 1] ++
    [.advance 0, .advance 1, .advance 1, .advance 1, .advance 1, .advance 1]

/-- Two racing first packets are both counted, and so is what is sent while a packet without data is
ignored. -/
theorem sums_exact_racing_packets :
    let as : List (NetStatsAction 2) := racingActions ++
      [.tcEgress 1 ⟨7, 30⟩, .tcIngress 0 ⟨7, 0⟩, .advance 1, .advance 1, .advance 1, .advance 1]
    ∃ s, (netStatsMap 2).run {} as =
        some (s, [⟨⟨7, 100⟩, true⟩, ⟨⟨7, 50⟩, true⟩, ⟨⟨7, 30⟩, false⟩]) ∧
      (∀ cpu, s.execs cpu = .idle) ∧ mergedStats s.map 7 = some ⟨150, 2, 30, 1⟩ ∧
      CountsOf ⟨150, 2, 30, 1⟩ ((arrivals as).filter fun p => p.skb.ifindex = 7) ∧
      (arrivals as).filter (fun p => p.skb.ifindex = 8) = [] := by
  intro as
  have hend : ((netStatsMap 2).run {} as).map
      (fun p => (p.1.execs 0, p.1.execs 1, mergedStats p.1.map 7, mergedStats p.1.map 8, p.2)) =
      some (.idle, .idle, some ⟨150, 2, 30, 1⟩, none,
        [⟨⟨7, 100⟩, true⟩, ⟨⟨7, 50⟩, true⟩, ⟨⟨7, 30⟩, false⟩]) := by decide +kernel
  obtain ⟨⟨s, es⟩, hrun, hs⟩ := Option.map_eq_some_iff.mp hend
  simp only [Prod.mk.injEq] at hs
  obtain ⟨h₀, h₁, hmerged, hother, rfl⟩ := hs
  have hidle : ∀ cpu, s.execs cpu = .idle := Fin.forall_fin_two.mpr ⟨h₀, h₁⟩
  have hfew : ((arrivals as).map fun p => p.skb.ifindex).toFinset.card ≤ 64 := by decide
  exact ⟨s, hrun, hidle, hmerged, (sums_exact hrun hfew hidle 7).2.1 _ hmerged,
    (sums_exact hrun hfew hidle 8).2.2 hother⟩

end NetStats

end Monitor
