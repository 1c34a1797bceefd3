import PerfMonitor.Worker.LiveSampling
import PerfMonitor.Worker.RatesTelescope

set_option relaxedAutoImplicit false
set_option autoImplicit false

/-!
# What the rates of an interface account for

A reading of an interface is put together from counters copied one after the other while packets
arrive, so there need not be any moment at which the interface had these counters. Each of its
counters still lies between what the slots held when the lookup began and when it ended. As
counters do not fall, and the lookups for one interface follow one another, neither do the readings;
so the rates of a run account for every packet up to those of its first and last lookup.

## Main definitions

* `Monitor.LiveSampling.readings` — the readings of an interface, the current call's included.
* `Monitor.LiveSampling.Bracketed` — a reading in terms of packets.

## Main results

* `Monitor.LiveSampling.readings_bracketed` — every reading, and that readings do not fall.
* `Monitor.LiveSampling.rates_account` — what the rates of a run add up to.
-/

namespace Monitor

variable {n : ℕ}

/-! ## Merging slots -/

namespace NetStats

lemma ofCounts_get (stats : NetStats) : ofCounts (fun c => (stats.get c).toNat) = stats := by
  simp only [ofCounts_apply, get, UInt64.ofNat_toNat]

/-- As long as they fit, the merged counters are the sums of those of the slots. -/
lemma toNat_get_mergeSlots {slots : Fin n → NetStats} {c : NetField}
    (h : ∑ cpu, ((slots cpu).get c).toNat < 2 ^ 64) :
    ((mergeSlots slots).get c).toNat = ∑ cpu, ((slots cpu).get c).toNat := by
  have hsum : mergeSlots slots = ofCounts (∑ cpu, fun c => ((slots cpu).get c).toNat) := by
    rw [mergeSlots_eq_sum, map_sum]
    exact Finset.sum_congr rfl fun cpu _ => (ofCounts_get (slots cpu)).symm
  have hat : (∑ cpu, fun c => ((slots cpu).get c).toNat) c = ∑ cpu, ((slots cpu).get c).toNat :=
    Finset.sum_apply c _ _
  rw [hsum, toNat_get_ofCounts_of_lt (hat ▸ h), hat]

lemma LE.of_get {a b : NetStats} (h : ∀ c, (a.get c).toNat ≤ (b.get c).toNat) : a.LE b where
  rcvBytes := UInt64.le_iff_toNat_le.mpr (h .rcvBytes)
  rcvPackets := UInt64.le_iff_toNat_le.mpr (h .rcvPackets)
  sndBytes := UInt64.le_iff_toNat_le.mpr (h .sndBytes)
  sndPackets := UInt64.le_iff_toNat_le.mpr (h .sndPackets)

end NetStats

lemma counted_of_lookup {m : PerCpuHash n UInt32 NetStats} {k : UInt32} {slots : Fin n → NetStats}
    (h : m.lookup k = some slots) (c : NetField) :
    counted m k c = ∑ cpu, ((slots cpu).get c).toNat := by
  rw [counted, h]
  rfl

namespace LiveSampling

variable {std : RateSort} {s s' : LiveSampling n} {a : LiveAction n} {as : List (LiveAction n)}
  {es fs : List LiveEvent} {m₀ : NetEbpfCaches} {k : UInt32} {S : Finset UInt32}

/-! ## Readings -/

/-- What the current call has sampled so far. -/
def NetPhase.samples : NetPhase n → List NetSample
  | .idle => []
  | .walking _ _ w | .reading _ _ w _ _ | .collecting _ w => w.samples

/-- The readings of an interface, the current call's included. -/
def readings (k : UInt32) (s : LiveSampling n) (es : List LiveEvent) : List NetSample :=
  netSamplesOf k (updatesOf es) ++ (NetPhase.samples s.phase).filter fun x => x.ifindex = k

/-- A lookup for `k` by the call at `now` is in progress, and these counters are still to be
copied. -/
def LooksUp (s : LiveSampling n) (k : UInt32) (now : ℚ) (left : List (Fin n × NetField)) : Prop :=
  ∃ call w buf, s.phase = .reading call k w buf left ∧ call.now = now

/-- A reading was taken by a lookup, at the beginning and end of which the run had come to `as₁`
and `as₂`: it counts all packets that had come to the interface up to the beginning, but those of
programs that were still running, and none that came after the end. -/
def Bracketed (std : RateSort) (m₀ : NetEbpfCaches) (as : List (LiveAction n)) (x : NetSample) :
    Prop :=
  ∃ as₁ as₂ s₁ s₂ es₁ es₂, as₁ <+: as₂ ∧ as₂ <+: as ∧
    (liveSampling std n).run (start m₀) as₁ = some (s₁, es₁) ∧
    (liveSampling std n).run (start m₀) as₂ = some (s₂, es₂) ∧
    s₁.LooksUp x.ifindex x.timestamp (allFields n) ∧ s₂.LooksUp x.ifindex x.timestamp [] ∧
    ∀ c, traffic (arrivals (kernelActions as₁)) x.ifindex c ≤
        (x.stats.get c).toNat + inProgress s₁.kernel x.ifindex c ∧
      (x.stats.get c).toNat + inProgress s₂.kernel x.ifindex c ≤
        traffic (arrivals (kernelActions as₂)) x.ifindex c

lemma Bracketed.mono {x : NetSample} {bs : List (LiveAction n)} (h : Bracketed std m₀ as x)
    (has : as <+: bs) : Bracketed std m₀ bs x := by
  obtain ⟨as₁, as₂, s₁, s₂, es₁, es₂, h₁₂, h₂, hrest⟩ := h
  exact ⟨as₁, as₂, s₁, s₂, es₁, es₂, h₁₂, h₂.trans has, hrest⟩

/-- The last of some readings does not exceed what the slots hold. -/
def LastCounted (xs : List NetSample) (m : PerCpuHash n UInt32 NetStats) (k : UInt32) : Prop :=
  ∀ x ∈ xs.getLast?, ∀ c, (x.stats.get c).toNat ≤ counted m k c

/-- The lookup in progress. When it began, the slots held at least what the last reading says; what
has been copied lies between what they held then and what they hold now. -/
def Copying (std : RateSort) (m₀ : NetEbpfCaches) (as : List (LiveAction n)) (s : LiveSampling n)
    (k : UInt32) (now : ℚ) (buf : Fin n → NetStats) (left : List (Fin n × NetField))
    (xs : List NetSample) : Prop :=
  ∃ as₁ s₁ es₁ slots₁ slots, as₁ <+: as ∧
    (liveSampling std n).run (start m₀) as₁ = some (s₁, es₁) ∧
    s₁.LooksUp k now (allFields n) ∧ LastCounted xs s₁.kernel.map k ∧
    s₁.kernel.map.lookup k = some slots₁ ∧ s.kernel.map.lookup k = some slots ∧
    ∀ cpu c, ((slots₁ cpu).get c).toNat ≤ ((slots cpu).get c).toNat ∧
      ((cpu, c) ∉ left → ((slots₁ cpu).get c).toNat ≤ ((buf cpu).get c).toNat ∧
        ((buf cpu).get c).toNat ≤ ((slots cpu).get c).toNat)

/-- The readings of a run: they do not fall, each is bracketed, and the slots hold at least the
last. -/
structure Sampled (std : RateSort) (m₀ : NetEbpfCaches) (k : UInt32) (as : List (LiveAction n))
    (s : LiveSampling n) (es : List LiveEvent) : Prop where
  chain : (readings k s es).IsChain fun a b => a.stats.LE b.stats
  last : LastCounted (readings k s es) s.kernel.map k
  bracketed : ∀ x ∈ readings k s es, x.ifindex = k ∧ Bracketed std m₀ as x
  copying : ∀ call w buf left, s.phase = .reading call k w buf left →
    Copying std m₀ as s k call.now buf left (readings k s es)

/-! ## Packets -/

/-- The slots of every interface stay and hold at least as much. -/
def Grown (m m' : PerCpuHash n UInt32 NetStats) : Prop :=
  ∀ k slots, m.lookup k = some slots → ∃ slots', m'.lookup k = some slots' ∧
    ∀ cpu c, ((slots cpu).get c).toNat ≤ ((slots' cpu).get c).toNat

lemma Grown.counted {m m' : PerCpuHash n UInt32 NetStats} (h : Grown m m') (c : NetField) :
    counted m k c ≤ counted m' k c := by
  cases hk : m.lookup k with
  | none =>
    have hzero : Monitor.counted m k c = 0 := by
      rw [Monitor.counted, hk]
      simp
    rw [hzero]
    exact Nat.zero_le _
  | some slots =>
    obtain ⟨slots', hk', hle⟩ := h k slots hk
    rw [counted_of_lookup hk, counted_of_lookup hk']
    exact Finset.sum_le_sum fun cpu _ => hle cpu c

/-- The packets of a run are of interfaces of `S`, which fit in the map, and less than `2 ^ 64` of
everything has passed. -/
structure Moderate (S : Finset UInt32) (ps : List NetPacket) : Prop where
  card : S.card ≤ maxInterfaces
  mem : ∀ p ∈ ps, p.skb.ifindex ∈ S
  lt : ∀ k c, traffic ps k c < 2 ^ 64

lemma Moderate.of_append {ps qs : List NetPacket} (h : Moderate S (ps ++ qs)) : Moderate S ps :=
  ⟨h.card, fun p hp => h.mem p (List.mem_append_left qs hp),
    fun k c => (Nat.le_add_right _ _).trans_lt (traffic_append ps qs k c ▸ h.lt k c)⟩

/-- A step that is none of the programs leaves their map alone and shows no packet. -/
lemma Step.frame (h : Step std s a s' fs) :
    (∃ b kernel ps, (netStatsMap n).step s.kernel b = some (kernel, ps) ∧ s'.kernel = kernel ∧
      packetsOf fs = ps ∧ s'.phase = s.phase ∧ updatesOf fs = []) ∨
    (s'.kernel = s.kernel ∧ packetsOf fs = []) := by
  cases h with
  | kernel b position kernel ps hkernel =>
    exact Or.inl ⟨b, kernel, ps, hkernel, rfl, packetsOf_packets ps, rfl, updatesOf_packets ps⟩
  | _ => exact Or.inr ⟨rfl, rfl⟩

/-- The slots of a run stand for exact counts. -/
lemma run_exact (hrun : (liveSampling std n).run (start m₀) as = some (s, es))
    (hmod : Moderate S (packetsOf es)) : ∃ t, NetStats.Exact S s.kernel t (packetsOf es) := by
  refine (liveSampling std n).run_induction (P := fun _ s es =>
    Moderate S (packetsOf es) → ∃ t, NetStats.Exact S s.kernel t (packetsOf es))
    (fun _ => ⟨_, .init S⟩) ?_ hrun hmod
  intro as s es a s' fs _ ih hstep hmod
  rw [packetsOf_append] at hmod ⊢
  obtain ⟨t, ht⟩ := ih hmod.of_append
  rcases (step_cases hstep).frame with ⟨b, kernel, ps, hkernel, rfl, rfl, -, -⟩ | ⟨hsame, hnone⟩
  · obtain ⟨t', ht', -⟩ := ht.step hmod.card hkernel fun p hp =>
      hmod.mem p (List.mem_append_right _ hp)
    exact ⟨t', ht'⟩
  · rw [hsame, hnone, List.append_nil]
    exact ⟨t, ht⟩

/-- The slots hold, up to what is in progress, the traffic. -/
lemma run_balance (hrun : (liveSampling std n).run (start m₀) as = some (s, es))
    (hmod : Moderate S (packetsOf es)) (k : UInt32) (c : NetField) :
    counted s.kernel.map k c + inProgress s.kernel k c = traffic (packetsOf es) k c := by
  obtain ⟨t, ht⟩ := run_exact hrun hmod
  exact ht.balance hmod.lt k c

/-- A step leaves the slots or adds to them. -/
lemma run_grown (hrun : (liveSampling std n).run (start m₀) as = some (s, es))
    (hstep : Step std s a s' fs) (hmod : Moderate S (packetsOf (es ++ fs))) :
    Grown s.kernel.map s'.kernel.map := by
  rw [packetsOf_append] at hmod
  obtain ⟨t, ht⟩ := run_exact hrun hmod.of_append
  rcases hstep.frame with ⟨b, kernel, ps, hkernel, rfl, rfl, -, -⟩ | ⟨hsame, -⟩
  · obtain ⟨t', ht', hexact⟩ := ht.step hmod.card hkernel fun p hp =>
      hmod.mem p (List.mem_append_right _ hp)
    exact fun k slots hk => ht.grows ht' hmod.lt hexact hk
  · rw [hsame]
    exact fun k slots hk => ⟨slots, hk, fun _ _ => le_rfl⟩

/-- The packets of a part of a run. -/
lemma run_part {bs : List (LiveAction n)} {t : LiveSampling n} {fs : List LiveEvent}
    (hrun : (liveSampling std n).run (start m₀) as = some (s, es))
    (hmod : Moderate S (packetsOf es)) (hbs : bs <+: as)
    (ht : (liveSampling std n).run (start m₀) bs = some (t, fs)) :
    Moderate S (packetsOf fs) := by
  obtain ⟨rest, rfl⟩ := hbs
  obtain ⟨t', fs₁, fs₂, ht', -, rfl⟩ := (liveSampling std n).run_append_iff.mp hrun
  rw [ht] at ht'
  cases ht'
  rw [packetsOf_append] at hmod
  exact hmod.of_append

/-! ## One step -/

lemma LastCounted.mono {xs : List NetSample} {m m' : PerCpuHash n UInt32 NetStats}
    (h : LastCounted xs m k) (hgrown : Grown m m') : LastCounted xs m' k :=
  fun x hx c => (h x hx c).trans (hgrown.counted c)

lemma prefix_concat {bs : List (LiveAction n)} (h : bs <+: as) (a : LiveAction n) :
    bs <+: as ++ [a] := h.trans (List.prefix_append as [a])

/-- A step that takes no reading of the interface and is no part of a lookup for it. -/
lemma Sampled.quiet (h : Sampled std m₀ k as s es)
    (hgrown : Grown s.kernel.map s'.kernel.map) (a : LiveAction n)
    (hreadings : readings k s' (es ++ fs) = readings k s es)
    (hphase : ∀ call w buf left, s'.phase ≠ .reading call k w buf left) :
    Sampled std m₀ k (as ++ [a]) s' (es ++ fs) where
  chain := hreadings ▸ h.chain
  last := hreadings ▸ h.last.mono hgrown
  bracketed x hx := by
    rw [hreadings] at hx
    exact ⟨(h.bracketed x hx).1, (h.bracketed x hx).2.mono (List.prefix_append as [a])⟩
  copying call w buf left hread := absurd hread (hphase call w buf left)

/-- The lookup goes on while packets arrive. -/
lemma Copying.grow {now : ℚ} {buf : Fin n → NetStats} {left : List (Fin n × NetField)}
    {xs : List NetSample} (h : Copying std m₀ as s k now buf left xs)
    (hgrown : Grown s.kernel.map s'.kernel.map) (a : LiveAction n) :
    Copying std m₀ (as ++ [a]) s' k now buf left xs := by
  obtain ⟨as₁, s₁, es₁, slots₁, slots, hprefix, hrun, hlooks, hlast, hk₁, hk, hle⟩ := h
  obtain ⟨slots', hk', hle'⟩ := hgrown k slots hk
  exact ⟨as₁, s₁, es₁, slots₁, slots', prefix_concat hprefix a, hrun, hlooks, hlast, hk₁, hk',
    fun cpu c => ⟨(hle cpu c).1.trans (hle' cpu c), fun hleft =>
      ⟨((hle cpu c).2 hleft).1, ((hle cpu c).2 hleft).2.trans (hle' cpu c)⟩⟩⟩

/-- One more counter is copied as the slot holds it now. -/
lemma Copying.copy {now : ℚ} {buf slots : Fin n → NetStats} {left : List (Fin n × NetField)}
    {xs : List NetSample} {cpu : Fin n} {c : NetField}
    (h : Copying std m₀ as s k now buf ((cpu, c) :: left) xs)
    (hslots : s.kernel.map.lookup k = some slots) (hkernel : s'.kernel = s.kernel)
    (a : LiveAction n) :
    Copying std m₀ (as ++ [a]) s' k now (copyField buf slots cpu c) left xs := by
  obtain ⟨as₁, s₁, es₁, slots₁, slots', hprefix, hrun, hlooks, hlast, hk₁, hk, hle⟩ := h
  obtain rfl := UnorderedMap.lookup_unique hslots hk
  refine ⟨as₁, s₁, es₁, slots₁, slots, prefix_concat hprefix a, hrun, hlooks, hlast, hk₁,
    hkernel ▸ hk, fun cpu' c' => ⟨(hle cpu' c').1, fun hleft => ?_⟩⟩
  rw [get_copyField]
  split_ifs with hsame
  · obtain ⟨rfl, rfl⟩ := Prod.mk.inj hsame
    exact ⟨(hle cpu' c').1, le_rfl⟩
  · refine (hle cpu' c').2 fun hmem => ?_
    rcases List.mem_cons.mp hmem with heq | hmem
    · exact hsame heq
    · exact hleft hmem

lemma sampleInterface_some {mapFd : ℤ} {call : NetSampling n} {name : Option String}
    {i : UInt32} {buf : Fin n → NetStats} {ifname : String} {stats : NetStats}
    (h : NetEbpfCaches.sampleInterface mapFd call name i (some buf) = some (ifname, stats)) :
    stats = mergeSlots buf := by
  obtain ⟨slots, hslots, hstats⟩ := Option.bind_eq_some_iff.mp h
  unfold NetEbpfCaches.lookupPerCpuValue at hslots
  split_ifs at hslots
  cases hslots
  dsimp only at hstats
  split_ifs at hstats
  cases hstats
  rfl

/-- What the loop body does with an interface. -/
lemma samples_visit (call : NetCall) (mapFd : ℤ) (w : NetEbpfCaches.NetWalk) (i : UInt32)
    (value : Option (Fin n → NetStats)) :
    (call.visit mapFd w ⟨i, value⟩).samples = w.samples ∨
    ∃ buf info, value = some buf ∧ (call.visit mapFd w ⟨i, value⟩).samples =
      w.samples ++ [⟨i, mergeSlots buf, call.now, info⟩] := by
  unfold NetCall.visit
  rcases NetEbpfCaches.visitInterface_eq mapFd (call.sampling ∅ 0 ∅) w i value with
    ⟨-, -, hsamples⟩ | ⟨ifname, stats, hsome, -, hsamples⟩
  · exact Or.inl hsamples
  · cases value with
    | none =>
      unfold NetEbpfCaches.sampleInterface NetEbpfCaches.lookupPerCpuValue at hsome
      simp at hsome
    | some buf =>
      obtain rfl := sampleInterface_some hsome
      exact Or.inr ⟨buf, _, rfl, hsamples⟩

/-- The lookup ends, and the reading is taken. -/
lemma Sampled.read (h : Sampled std m₀ k as s es)
    (hrun : (liveSampling std n).run (start m₀) as = some (s, es))
    (hmod : Moderate S (packetsOf es)) {call : NetCall} {w : NetEbpfCaches.NetWalk}
    {buf : Fin n → NetStats} (hphase : s.phase = .reading call k w buf []) {x : NetSample}
    (hindex : x.ifindex = k) (hstats : x.stats = mergeSlots buf) (htime : x.timestamp = call.now)
    (hkernel : s'.kernel = s.kernel) (a : LiveAction n)
    (hreadings : readings k s' (es ++ fs) = readings k s es ++ [x])
    (hafter : ∀ call w buf left, s'.phase ≠ .reading call k w buf left) :
    Sampled std m₀ k (as ++ [a]) s' (es ++ fs) := by
  obtain ⟨as₁, s₁, es₁, slots₁, slots, hprefix, hrun₁, hlooks, hlast, hk₁, hk, hle⟩ :=
    h.copying call w buf [] hphase
  have hbelow : ∀ c, ∑ cpu, ((buf cpu).get c).toNat ≤ counted s.kernel.map k c := by
    intro c
    rw [counted_of_lookup hk]
    exact Finset.sum_le_sum fun cpu _ => ((hle cpu c).2 List.not_mem_nil).2
  have hvalue : ∀ c, (x.stats.get c).toNat = ∑ cpu, ((buf cpu).get c).toNat := by
    intro c
    rw [hstats]
    refine NetStats.toNat_get_mergeSlots ((hbelow c).trans_lt ?_)
    exact (Nat.le_add_right _ _).trans_lt (run_balance hrun hmod k c ▸ hmod.lt k c)
  have habove : ∀ c, counted s₁.kernel.map k c ≤ (x.stats.get c).toNat := by
    intro c
    rw [counted_of_lookup hk₁, hvalue]
    exact Finset.sum_le_sum fun cpu _ => ((hle cpu c).2 List.not_mem_nil).1
  refine ⟨?_, ?_, ?_, fun call w buf left hread => absurd hread (hafter call w buf left)⟩
  · rw [hreadings]
    refine List.isChain_append.mpr ⟨h.chain, List.isChain_singleton x, fun y hy z hz => ?_⟩
    obtain rfl : x = z := by simpa using hz
    exact .of_get fun c => (hlast y hy c).trans (habove c)
  · rw [hreadings, hkernel]
    intro y hy c
    obtain rfl : x = y := by simpa using hy
    rw [hvalue]
    exact hbelow c
  · intro y hy
    rw [hreadings] at hy
    rcases List.mem_append.mp hy with hy | hy
    · exact ⟨(h.bracketed y hy).1, (h.bracketed y hy).2.mono (List.prefix_append as [a])⟩
    · obtain rfl := List.mem_singleton.mp hy
      refine ⟨hindex, as₁, as, s₁, s, es₁, es, hprefix, List.prefix_append as [a], hrun₁, hrun, ?_,
        ?_, fun c => ?_⟩
      · rwa [hindex, htime]
      · rw [hindex]
        exact ⟨call, w, buf, hphase, htime.symm⟩
      · rw [hindex, ← packetsOf_eq_arrivals hrun₁, ← packetsOf_eq_arrivals hrun,
          ← run_balance hrun₁ (run_part hrun hmod hprefix hrun₁),
          ← run_balance hrun hmod, hvalue]
        have hlow := habove c
        have hhigh := hbelow c
        rw [hvalue] at hlow
        omega

/-- Every step keeps the readings so. -/
lemma Sampled.step (h : Sampled std m₀ k as s es)
    (hrun : (liveSampling std n).run (start m₀) as = some (s, es))
    (hordered : s.Ordered) (hstep : (liveSampling std n).step s a = some (s', fs))
    (hmod : Moderate S (packetsOf (es ++ fs))) : Sampled std m₀ k (as ++ [a]) s' (es ++ fs) := by
  have hgrown := run_grown hrun (step_cases hstep) hmod
  have hrun' : (liveSampling std n).run (start m₀) (as ++ [a]) = some (s', es ++ fs) :=
    (liveSampling std n).run_append hrun (((liveSampling std n).run_singleton s a).trans hstep)
  have hquiet : readings k s' (es ++ fs) = readings k s es →
      (∀ call w buf left, s'.phase ≠ .reading call k w buf left) →
      Sampled std m₀ k (as ++ [a]) s' (es ++ fs) := h.quiet hgrown a
  have hmod₀ : Moderate S (packetsOf es) := by
    rw [packetsOf_append] at hmod
    exact hmod.of_append
  cases step_cases hstep with
  | kernel b position kernel ps hkernel =>
    have hreadings : readings k { s with
        kernel := kernel, order := place s.order kernel.map position } (es ++ ps.map .packet) =
        readings k s es := by
      unfold readings
      rw [updatesOf_append, updatesOf_packets, List.append_nil]
    refine ⟨hreadings ▸ h.chain, hreadings ▸ h.last.mono hgrown, fun x hx => ?_,
      fun call w buf left hphase => ?_⟩
    · rw [hreadings] at hx
      exact ⟨(h.bracketed x hx).1, (h.bracketed x hx).2.mono (List.prefix_append as _)⟩
    · rw [hreadings]
      exact (h.copying call w buf left hphase).grow hgrown _
  | beginClosed call hphase hclosed =>
    refine hquiet ?_ fun call w buf left hread => by rw [hphase] at hread; cases hread
    have hupdates : updatesOf (es ++ [.began call.now s.order, .update {}]) =
        updatesOf es ++ [({} : NetUpdate)] := updatesOf_append _ _
    rw [readings, hupdates, netSamplesOf_concat]
    exact congrArg (· ++ _) (List.append_nil _)
  | begin call hphase hopen =>
    refine hquiet ?_ fun call w buf left hread => by cases hread
    have hupdates : updatesOf (es ++ [.began call.now s.order]) = updatesOf es :=
      (updatesOf_append _ _).trans (List.append_nil _)
    rw [readings, hupdates, readings, hphase]
    rfl
  | next call cursor w j hphase hnext =>
    have hreadings : readings k { s with
        phase := .reading call j w (fun _ => {}) (allFields n) } (es ++ []) = readings k s es := by
      rw [List.append_nil, readings, readings, hphase]
      rfl
    by_cases hj : j = k
    · subst hj
      obtain ⟨slots, hslots⟩ := UnorderedMap.mem_iff_lookup.mp
        ((hordered.mem j).mp (KeyWalk.mem_of_nextKey hnext))
      refine ⟨hreadings ▸ h.chain, hreadings ▸ h.last, fun x hx => ?_,
        fun call' w' buf left hread => ?_⟩
      · rw [hreadings] at hx
        exact ⟨(h.bracketed x hx).1, (h.bracketed x hx).2.mono (List.prefix_append as _)⟩
      · cases hread
        refine ⟨_, _, _, slots, slots, List.prefix_refl _, hrun', ⟨call, w, _, rfl, rfl⟩, ?_,
          hslots, hslots, fun cpu c => ⟨le_rfl, fun hleft => absurd (mem_allFields cpu c) hleft⟩⟩
        exact hreadings ▸ h.last
    · exact hquiet hreadings fun call w buf left hread => by cases hread; exact hj rfl
  | nextNone call cursor w hphase hnext =>
    refine hquiet ?_ fun call w buf left hread => by cases hread
    rw [List.append_nil, readings, readings, hphase]
    rfl
  | copy call j w buf cpu c left slots hphase hslots =>
    have hreadings : readings k { s with
        phase := .reading call j w (copyField buf slots cpu c) left } (es ++ []) =
        readings k s es := by
      rw [List.append_nil, readings, readings, hphase]
      rfl
    by_cases hj : j = k
    · subst hj
      refine ⟨hreadings ▸ h.chain, hreadings ▸ h.last, fun x hx => ?_,
        fun call' w' buf' left' hread => ?_⟩
      · rw [hreadings] at hx
        exact ⟨(h.bracketed x hx).1, (h.bracketed x hx).2.mono (List.prefix_append as _)⟩
      · cases hread
        rw [hreadings]
        exact (h.copying call w buf ((cpu, c) :: left) hphase).copy hslots rfl _
    · exact hquiet hreadings fun call w buf left hread => by cases hread; exact hj rfl
  | fail call j w buf left hphase =>
    refine hquiet ?_ fun call w buf left hread => by cases hread
    have hsamples : (call.visit s.monitor.mapFd w (failed n j)).samples = w.samples := by
      rcases samples_visit call s.monitor.mapFd w j (none : Option (Fin n → NetStats)) with
        hsame | ⟨buf, info, hnone, -⟩
      · exact hsame
      · cases hnone
    rw [List.append_nil, readings, readings, hphase]
    simp only [NetPhase.samples, hsamples]
  | visit call j w buf hphase =>
    have hafter : ∀ call' w' buf' left', (NetPhase.walking call (some j)
        (call.visit s.monitor.mapFd w ⟨j, some buf⟩) : NetPhase n) ≠
          .reading call' k w' buf' left' := fun _ _ _ _ hread => by cases hread
    rcases samples_visit call s.monitor.mapFd w j (some buf) with
      hsame | ⟨buf', info, hbuf, hsamples⟩
    · refine hquiet ?_ hafter
      rw [List.append_nil, readings, readings, hphase]
      simp only [NetPhase.samples, hsame]
    · cases hbuf
      by_cases hj : j = k
      · subst hj
        refine h.read hrun hmod₀ hphase (x := ⟨j, mergeSlots buf, call.now, info⟩) rfl rfl rfl ?_
          _ ?_ hafter
        · rfl
        rw [List.append_nil, readings, readings, hphase]
        simp only [NetPhase.samples, hsamples, List.filter_append, ← List.append_assoc]
        rw [List.filter_singleton, decide_eq_true rfl]
        rfl
      · refine hquiet ?_ hafter
        rw [List.append_nil, readings, readings, hphase]
        simp only [NetPhase.samples, hsamples, List.filter_append]
        rw [List.filter_singleton, decide_eq_false hj]
        simp
  | collect call w procNow procNetMap hphase =>
    refine hquiet ?_ fun call w buf left hread => by cases hread
    rw [readings, updatesOf_append, readings, hphase]
    refine (List.append_nil _).trans ?_
    exact netSamplesOf_concat k (updatesOf es) _

/-! ## Whole runs -/

/-- **Every reading of an interface** counts all packets that had come to it when its lookup began,
but those of programs still running, and none that came after its lookup ended; and no counter is
less than in the reading before. -/
theorem readings_bracketed (hrun : (liveSampling std n).run (start m₀) as = some (s, es))
    (hmod : Moderate S (packetsOf es)) (k : UInt32) : Sampled std m₀ k as s es := by
  refine (liveSampling std n).run_induction (P := fun as s es =>
    Moderate S (packetsOf es) → Sampled std m₀ k as s es) ?_ ?_ hrun hmod
  · intro _
    have hnone : readings k (start m₀ : LiveSampling n) [] = [] := rfl
    exact
      { chain := hnone ▸ List.isChain_nil
        last := fun x hx => by rw [hnone] at hx; cases hx
        bracketed := fun x hx => by rw [hnone] at hx; cases hx
        copying := fun call w buf left hread => by cases hread }
  · intro as s es a s' fs hrun ih hstep hmod
    have hmod₀ : Moderate S (packetsOf es) := by
      rw [packetsOf_append] at hmod
      exact hmod.of_append
    obtain ⟨calls, hrefined⟩ := exists_calls hrun
    exact (ih hmod₀).step hrun hrefined.ordered hstep hmod

/-- What the rate between two readings of an interface stands for. -/
def ofRate : NetField → NetSample → NetSample → ℚ
  | .rcvBytes, a, b => b.info.rcvRate * (b.timestamp - a.timestamp) * 1024
  | .rcvPackets, a, b => b.info.rcvPacketsRate * (b.timestamp - a.timestamp)
  | .sndBytes, a, b => b.info.sendRate * (b.timestamp - a.timestamp) * 1024
  | .sndPackets, a, b => b.info.sendPacketsRate * (b.timestamp - a.timestamp)

/-- The calls that have ended were made at the times at which they began. -/
lemma Refined.times {calls : List (NetSampling n)} (h : Refined std m₀ as s es calls) :
    (calls.map NetSampling.now).Sublist ((begunOf es).map Prod.fst) := by
  obtain ⟨ended, current, hbegun, hended, -⟩ := h.begun
  have htimes : calls.map NetSampling.now = ended.map Prod.fst := by
    clear hbegun h
    induction hended with
    | nil => rfl
    | cons hone _ ih => rw [List.map_cons, List.map_cons, ih, hone.1]
  rw [htimes, hbegun, List.map_append]
  exact List.sublist_append_left _ _

/-- **What the rates of an interface account for.** Packets come in on all CPUs while `UpdateOnce`
is called at increasing times. As long as there are at most 64 interfaces and less than `2 ^ 64`
bytes, the rates that have been reported for an interface, each times its interval, add up to the
difference of its last and its first reading, for bytes and packets in both directions; and these
two readings count the packets up to their lookups.

**Proof sketch.** The run is a run of the calls on the maps that they have seen (`exists_calls`). No
counter is less in a reading than in the one before (`readings_bracketed`), so that the monitor
never takes a counter for restarted and the rates telescope. -/
theorem rates_account (hcache : m₀.cache = ∅)
    (hrun : (liveSampling std n).run (start m₀) as = some (s, es))
    (hclock : ((begunOf es).map Prod.fst).Pairwise (· < ·))
    (hfew : ((arrivals (kernelActions as)).map fun p => p.skb.ifindex).toFinset.card ≤ 64)
    (hlt : ∀ k c, traffic (arrivals (kernelActions as)) k c < 2 ^ 64) {first last : NetSample}
    (hfirst : (netSamplesOf k (updatesOf es)).head? = some first)
    (hlast : (netSamplesOf k (updatesOf es)).getLast? = some last) :
    (∀ c, Counter.sumSteps (ofRate c) (netSamplesOf k (updatesOf es)) =
        ((last.stats.get c).toNat : ℚ) - (first.stats.get c).toNat) ∧
      Bracketed std m₀ as first ∧ Bracketed std m₀ as last := by
  rw [← packetsOf_eq_arrivals hrun] at hfew hlt
  have hmod : Moderate ((packetsOf es).map fun p => p.skb.ifindex).toFinset (packetsOf es) :=
    ⟨hfew, fun p hp => List.mem_toFinset.mpr (List.mem_map_of_mem hp), hlt⟩
  have hsampled := readings_bracketed hrun hmod k
  obtain ⟨calls, hrefined⟩ := exists_calls hrun
  have hchain : (netSamplesOf k (updatesOf es)).IsChain fun a b => a.stats.LE b.stats :=
    (List.isChain_append.mp hsampled.chain).1
  obtain ⟨hrb, hsb, hrp, hsp⟩ := netSamplesOf_sums hcache hrefined.run
    (hclock.sublist hrefined.times) k hfirst hlast hchain
  have hbracket : ∀ x ∈ netSamplesOf k (updatesOf es), Bracketed std m₀ as x := fun x hx =>
    (hsampled.bracketed x (List.mem_append_left _ hx)).2
  refine ⟨fun c => ?_, hbracket _ (List.mem_of_head? hfirst),
    hbracket _ (List.mem_of_getLast? hlast)⟩
  cases c with
  | rcvBytes => exact hrb
  | rcvPackets => exact hrp
  | sndBytes => exact hsb
  | sndPackets => exact hsp

/-- The bytes of the second packet are accounted for, its number is not. -/
theorem rates_account_split_packet : ∃ s es first last,
    (liveSampling .stable 1).run (start {}) splitPacket = some (s, es) ∧
    (arrivals (kernelActions splitPacket)).map (fun p => p.skb.len) = [100, 50] ∧
    (∀ c, Counter.sumSteps (ofRate c) (netSamplesOf 7 (updatesOf es)) =
      ((last.stats.get c).toNat : ℚ) - (first.stats.get c).toNat) ∧
    Bracketed .stable {} splitPacket first ∧ Bracketed .stable {} splitPacket last ∧
    last.stats = ⟨150, 1, 0, 0⟩ := by
  have hend : ((liveSampling .stable 1).run (start {}) splitPacket).map (fun p =>
      ((begunOf p.2).map Prod.fst, netSamplesOf 7 (updatesOf p.2))) =
      some ([0, 2], [⟨7, ⟨100, 1, 0, 0⟩, 0, { name := "eth0" }⟩,
        ⟨7, ⟨150, 1, 0, 0⟩, 2, { name := "eth0", rcvRate := 50 / 1024 / 2 }⟩]) := by
    decide +kernel
  obtain ⟨⟨s, es⟩, hrun, hvalues⟩ := Option.map_eq_some_iff.mp hend
  obtain ⟨hbegun, hsamples⟩ : _ = _ ∧ _ = _ := by
    simpa only [Prod.mk.injEq] using hvalues
  have hpackets : arrivals (kernelActions splitPacket) =
      [⟨⟨7, 100⟩, true⟩, ⟨⟨7, 50⟩, true⟩] := rfl
  have hlt : ∀ k c, traffic (arrivals (kernelActions splitPacket)) k c < 2 ^ 64 := by
    intro k c
    rw [hpackets]
    by_cases hk : (7 : UInt32) = k
    · cases c <;> simp [traffic, hk, NetPacket.counts]
    · simp [traffic, hk]
  have h := rates_account rfl hrun (by rw [hbegun]; decide +kernel) (by rw [hpackets]; decide) hlt
    (congrArg List.head? hsamples) (congrArg List.getLast? hsamples)
  exact ⟨s, es, _, _, hrun, rfl, h.1, h.2.1, h.2.2, rfl⟩

end LiveSampling

end Monitor
