import Mathlib.Algebra.Order.BigOperators.Group.Finset
import Mathlib.Algebra.Order.Pi
import PerfMonitor.PerCpu.Exact
import PerfMonitor.Worker.NetStats

set_option relaxedAutoImplicit false
set_option autoImplicit false

/-!
# Counters and traffic at any moment

`Monitor.NetStats.sums_exact` says what the counters of an interface count when no TC program is
running. Here they are related to the packets while programs run: as long as less than `2 ^ 64`
bytes have passed, the slots of an interface hold, at every moment, all its packets but what the
running programs still have to add, and none of their counters ever falls.

## Main definitions

* `Monitor.NetField` — the counters of `struct net_stats`.
* `Monitor.traffic` — bytes and packets of an interface.
* `Monitor.counted`, `Monitor.inProgress` — what its slots hold, and what is still to be added.
* `Monitor.NetStats.Exact` — the slots stand for exact counts.

## Main results

* `Monitor.NetStats.Exact.balance` — the slots and what is in progress make up the traffic.
* `Monitor.NetStats.Exact.grows` — no counter of a slot falls.
-/

namespace Monitor

variable {n : ℕ}

/-! ## Counters -/

/-- A counter of `struct net_stats`. -/
inductive NetField where
  | rcvBytes
  | rcvPackets
  | sndBytes
  | sndPackets
  deriving DecidableEq, Repr

namespace NetStats

/-- The value of a counter. -/
def get (stats : NetStats) : NetField → UInt64
  | .rcvBytes => stats.rcvBytes
  | .rcvPackets => stats.rcvPackets
  | .sndBytes => stats.sndBytes
  | .sndPackets => stats.sndPackets

/-- Overwrite a counter. -/
def set (stats : NetStats) (c : NetField) (v : UInt64) : NetStats :=
  match c with
  | .rcvBytes => { stats with rcvBytes := v }
  | .rcvPackets => { stats with rcvPackets := v }
  | .sndBytes => { stats with sndBytes := v }
  | .sndPackets => { stats with sndPackets := v }

@[simp] lemma get_set_self (stats : NetStats) (c : NetField) (v : UInt64) :
    (stats.set c v).get c = v := by
  cases c <;> rfl

lemma get_set_of_ne (stats : NetStats) {c d : NetField} (v : UInt64) (h : d ≠ c) :
    (stats.set c v).get d = stats.get d := by
  cases c <;> cases d <;> first | rfl | exact absurd rfl h

@[simp] lemma get_zero (c : NetField) : (0 : NetStats).get c = 0 := by
  cases c <;> rfl

/-- The counters that stand for exact counts. -/
def ofCounts : (NetField → ℕ) →+ NetStats where
  toFun x :=
    { rcvBytes := .ofNat (x .rcvBytes)
      rcvPackets := .ofNat (x .rcvPackets)
      sndBytes := .ofNat (x .sndBytes)
      sndPackets := .ofNat (x .sndPackets) }
  map_zero' := rfl
  map_add' x y := by
    simp only [Pi.add_apply, UInt64.ofNat_add]
    rfl

lemma ofCounts_apply (x : NetField → ℕ) :
    ofCounts x = ⟨.ofNat (x .rcvBytes), .ofNat (x .rcvPackets), .ofNat (x .sndBytes),
      .ofNat (x .sndPackets)⟩ := rfl

lemma toNat_get_ofCounts (x : NetField → ℕ) (c : NetField) :
    ((ofCounts x).get c).toNat = x c % 2 ^ 64 := by
  cases c <;> exact UInt64.toNat_ofNat'

lemma toNat_get_ofCounts_of_lt {x : NetField → ℕ} {c : NetField} (h : x c < 2 ^ 64) :
    ((ofCounts x).get c).toNat = x c :=
  (toNat_get_ofCounts x c).trans (Nat.mod_eq_of_lt h)

end NetStats

/-! ## Packets -/

/-- What a packet adds to each counter. -/
def NetPacket.counts (p : NetPacket) : NetField → ℕ
  | .rcvBytes => if p.isRx then p.skb.len.toNat else 0
  | .rcvPackets => if p.isRx then 1 else 0
  | .sndBytes => if p.isRx then 0 else p.skb.len.toNat
  | .sndPackets => if p.isRx then 0 else 1

/-- Bytes and packets of an interface. -/
def traffic (ps : List NetPacket) (k : UInt32) (c : NetField) : ℕ :=
  ((ps.filter fun p => p.skb.ifindex = k).map fun p => p.counts c).sum

lemma traffic_append (ps qs : List NetPacket) (k : UInt32) (c : NetField) :
    traffic (ps ++ qs) k c = traffic ps k c + traffic qs k c := by
  simp only [traffic, List.filter_append, List.map_append, List.sum_append]

/-- The additions of `update_stats` as exact counts. -/
def countAdditions (p : NetPacket) : List (NetField → ℕ) :=
  if p.isRx then [Pi.single .rcvBytes p.skb.len.toNat, Pi.single .rcvPackets 1]
  else [Pi.single .sndBytes p.skb.len.toNat, Pi.single .sndPackets 1]

lemma sum_countAdditions (p : NetPacket) : (countAdditions p).sum = p.counts := by
  obtain ⟨skb, isRx⟩ := p
  funext c
  cases isRx <;> cases c <;> simp [countAdditions, NetPacket.counts]

lemma map_countAdditions (p : NetPacket) :
    (countAdditions p).map NetStats.ofCounts = slotAdditions p.skb.len p.isRx := by
  obtain ⟨skb, isRx⟩ := p
  have hlen : UInt64.ofNat skb.len.toNat = skb.len.toUInt64 := by
    apply UInt64.toNat_inj.mp
    have hlt := skb.len.toNat_lt
    simp only [UInt64.toNat_ofNat', UInt32.toNat_toUInt64]
    omega
  cases isRx <;> simp [countAdditions, slotAdditions, NetStats.ofCounts_apply, hlen]

namespace NetStats

/-- What `update_stats` accounts for a packet, exactly. -/
def startCounts (p : NetPacket) : UInt32 × (NetField → ℕ) := (p.skb.ifindex, p.counts)

lemma startedTotal_startCounts (ps : List NetPacket) (k : UInt32) (c : NetField) :
    PerCpuAccounting.startedTotal (ps.map startCounts) k c = traffic ps k c := by
  have hfilter : (ps.map startCounts).filter (fun e => e.1 = k) =
      (ps.filter fun p => p.skb.ifindex = k).map startCounts := by
    rw [List.filter_map]
    rfl
  rw [PerCpuAccounting.startedTotal, hfilter, List.map_map, Pi.list_sum_apply, List.map_map]
  rfl

end NetStats

/-! ## At any moment -/

/-- What the slots of an interface hold. -/
def counted (m : PerCpuHash n UInt32 NetStats) (k : UInt32) (c : NetField) : ℕ :=
  ∑ cpu, (((m.lookup k).getD 0 cpu).get c).toNat

/-- What the running programs still have to add for an interface. -/
def inProgress (s : NetStatsMap n) (k : UInt32) (c : NetField) : ℕ :=
  ∑ cpu, ((s.execs cpu).map fun d => (d.get c).toNat).pending k

namespace NetStats

variable {S : Finset UInt32} {s s' : NetStatsMap n} {t : PerCpuAccounting n UInt32 (NetField → ℕ)}
  {a : NetStatsAction n} {ps qs : List NetPacket}

/-- The slots stand for exact counts, which are accounted soundly. -/
structure Exact (S : Finset UInt32) (s : NetStatsMap n)
    (t : PerCpuAccounting n UInt32 (NetField → ℕ)) (ps : List NetPacket) : Prop where
  represents : s.Represents ofCounts t
  sound : t.Sound S (ps.map startCounts)

lemma Exact.init (S : Finset UInt32) : Exact S ({} : NetStatsMap n) {} [] :=
  ⟨.init, .init S⟩

/-- A step of the programs is one of the exact accounting, or ignores a packet. -/
lemma Exact.step (h : Exact S s t ps) (hcard : S.card ≤ maxInterfaces)
    (hstep : (netStatsMap n).step s a = some (s', qs)) (hin : ∀ p ∈ qs, p.skb.ifindex ∈ S) :
    ∃ t', Exact S s' t' (ps ++ qs) ∧ (t' = t ∨ ∃ b fs, t.step maxInterfaces b = some (t', fs)) := by
  have hprogram : ∀ cpu skb isRx, tcProgram s cpu skb isRx = some (s', qs) →
      ∃ t', Exact S s' t' (ps ++ qs) ∧
        (t' = t ∨ ∃ b fs, t.step maxInterfaces b = some (t', fs)) := by
    intro cpu skb isRx hstep
    unfold tcProgram at hstep
    split_ifs at hstep with hinvalid
    · cases hstep
      exact ⟨t, by rwa [List.append_nil], Or.inl rfl⟩
    · obtain ⟨⟨s₁, fs⟩, hstart, heq⟩ := Option.map_eq_some_iff.mp hstep
      cases heq
      rw [← map_countAdditions ⟨skb, isRx⟩] at hstart
      obtain ⟨t', gs, ht, hrep⟩ := h.represents.step (f := ofCounts)
        (b := .start cpu skb.ifindex (countAdditions ⟨skb, isRx⟩)) hstart
      have hgs : gs = [startCounts ⟨skb, isRx⟩] := by
        simp only [PerCpuAccounting.step] at ht
        split at ht
        · cases ht
          rw [sum_countAdditions]
          rfl
        · cases ht
      refine ⟨t', ⟨hrep, ?_⟩, Or.inr ⟨_, _, ht⟩⟩
      rw [List.map_append]
      have hkey : PerCpuAccounting.StartsIn S
          (.start cpu skb.ifindex (countAdditions ⟨skb, isRx⟩)) :=
        hin ⟨skb, isRx⟩ List.mem_cons_self
      have hsound := h.sound.step hcard hkey ht
      rwa [hgs] at hsound
  cases a with
  | tcIngress cpu skb => exact hprogram cpu skb true hstep
  | tcEgress cpu skb => exact hprogram cpu skb false hstep
  | advance cpu =>
    obtain ⟨⟨s₁, fs⟩, hadvance, heq⟩ := Option.map_eq_some_iff.mp hstep
    cases heq
    obtain ⟨t', gs, ht, hrep⟩ := h.represents.step (f := ofCounts) (b := .advance cpu) hadvance
    refine ⟨t', ⟨hrep, ?_⟩, Or.inr ⟨_, _, ht⟩⟩
    obtain ⟨_, -, hend⟩ := Option.map_eq_some_iff.mp ht
    cases hend
    have hkey : PerCpuAccounting.StartsIn S
        (.advance cpu : PerCpuAction n UInt32 (NetField → ℕ)) := trivial
    have hsound := h.sound.step hcard hkey ht
    rwa [List.append_nil] at hsound ⊢

/-! ## Less than `2 ^ 64` of everything -/

lemma sum_get_ofCounts {parts : List (NetField → ℕ)} {c : NetField} (h : parts.sum c < 2 ^ 64) :
    ((parts.map ofCounts).map fun d => (d.get c).toNat).sum = parts.sum c := by
  induction parts with
  | nil => rfl
  | cons d parts ih =>
    rw [List.sum_cons, Pi.add_apply] at h
    have hd : d c < 2 ^ 64 := by omega
    have hparts : parts.sum c < 2 ^ 64 := by omega
    rw [List.map_cons, List.map_cons, List.sum_cons, List.sum_cons, ih hparts,
      toNat_get_ofCounts_of_lt hd]
    rfl

/-- What an execution still has to add to a counter. -/
lemma pending_map_ofCounts {e : PerCpuExec UInt32 (NetField → ℕ)} {k : UInt32} {c : NetField}
    (h : (e.pending k) c < 2 ^ 64) :
    ((e.map ofCounts).map fun d => (d.get c).toNat).pending k = (e.pending k) c := by
  have hparts : ∀ (j : UInt32) (parts : List (NetField → ℕ)),
      (if k = j then parts.sum else 0 : NetField → ℕ) c < 2 ^ 64 →
      (if k = j then ((parts.map ofCounts).map fun d => (d.get c).toNat).sum else 0) =
        (if k = j then parts.sum else 0 : NetField → ℕ) c := by
    intro j parts hj
    split_ifs at hj ⊢
    · exact sum_get_ofCounts hj
    · rfl
  cases e with
  | idle => rfl
  | entering j parts => exact hparts j parts h
  | missed j parts => exact hparts j parts h
  | refused j parts => exact hparts j parts h
  | adding j parts => exact hparts j parts h

variable (hlt : ∀ k c, traffic ps k c < 2 ^ 64)
include hlt

lemma Exact.total_lt (h : Exact S s t ps) (k : UInt32) (c : NetField) :
    t.map.total k c + (PerCpuAccounting.pendingTotal t.execs k) c = traffic ps k c ∧
      t.map.total k c < 2 ^ 64 ∧ (PerCpuAccounting.pendingTotal t.execs k) c < 2 ^ 64 := by
  have hbalance := congrFun (h.sound.balance k) c
  rw [startedTotal_startCounts, Pi.add_apply] at hbalance
  have hbound := hlt k c
  exact ⟨hbalance, by omega, by omega⟩

/-- The counters of a slot are its counts. -/
lemma Exact.slots (h : Exact S s t ps) {k : UInt32} {slots : Fin n → NetStats}
    (hk : s.map.lookup k = some slots) :
    ∃ xs, t.map.lookup k = some xs ∧ ∀ cpu c, ((slots cpu).get c).toNat = xs cpu c := by
  rw [h.represents.map k, Option.map_eq_some_iff] at hk
  obtain ⟨xs, hxs, rfl⟩ := hk
  refine ⟨xs, hxs, fun cpu c => toNat_get_ofCounts_of_lt ?_⟩
  have htotal := (h.total_lt hlt k c).2.1
  rw [PerCpuHash.total_of_lookup hxs, Finset.sum_apply] at htotal
  exact (Finset.single_le_sum (f := fun cpu => xs cpu c) (fun _ _ => Nat.zero_le _)
    (Finset.mem_univ cpu)).trans_lt htotal

/-- **The slots of an interface and what its running programs still have to add make up its
traffic.** -/
theorem Exact.balance (h : Exact S s t ps) (k : UInt32) (c : NetField) :
    counted s.map k c + inProgress s k c = traffic ps k c := by
  obtain ⟨hbalance, -, hpending⟩ := h.total_lt hlt k c
  have hcounted : counted s.map k c = t.map.total k c := by
    unfold counted
    cases hk : s.map.lookup k with
    | none =>
      have hnone : k ∉ t.map := by
        rw [← h.represents.map.mem_iff]
        exact AList.lookup_eq_none.mp hk
      rw [PerCpuHash.total_of_notMem hnone]
      simp
    | some slots =>
      obtain ⟨xs, hxs, hslots⟩ := h.slots hlt hk
      rw [PerCpuHash.total_of_lookup hxs, Finset.sum_apply]
      exact Finset.sum_congr rfl fun cpu _ => hslots cpu c
  have hprogress : inProgress s k c = (PerCpuAccounting.pendingTotal t.execs k) c := by
    unfold inProgress PerCpuAccounting.pendingTotal
    rw [Finset.sum_apply]
    refine Finset.sum_congr rfl fun cpu _ => ?_
    have hone : ((t.execs cpu).pending k) c < 2 ^ 64 := by
      unfold PerCpuAccounting.pendingTotal at hpending
      rw [Finset.sum_apply] at hpending
      exact (Finset.single_le_sum (f := fun cpu => ((t.execs cpu).pending k) c)
        (fun _ _ => Nat.zero_le _) (Finset.mem_univ cpu)).trans_lt hpending
    rw [h.represents.execs cpu]
    exact pending_map_ofCounts hone
  rw [hcounted, hprogress, hbalance]

omit hlt in
/-- **No counter of a slot falls.** -/
theorem Exact.grows {t' : PerCpuAccounting n UInt32 (NetField → ℕ)} (h : Exact S s t ps)
    (h' : Exact S s' t' (ps ++ qs)) (hlt : ∀ k c, traffic (ps ++ qs) k c < 2 ^ 64)
    (hstep : t' = t ∨ ∃ b fs, t.step maxInterfaces b = some (t', fs)) {k : UInt32}
    {slots : Fin n → NetStats} (hk : s.map.lookup k = some slots) :
    ∃ slots', s'.map.lookup k = some slots' ∧
      ∀ cpu c, ((slots cpu).get c).toNat ≤ ((slots' cpu).get c).toNat := by
  have hbefore : ∀ k c, traffic ps k c < 2 ^ 64 := fun k c =>
    (Nat.le_add_right _ _).trans_lt (traffic_append ps qs k c ▸ hlt k c)
  obtain ⟨xs, hxs, hslots⟩ := h.slots hbefore hk
  obtain ⟨ys, hys, hle⟩ : ∃ ys, t'.map.lookup k = some ys ∧ xs ≤ ys := by
    rcases hstep with rfl | ⟨b, fs, hstep⟩
    · exact ⟨xs, hxs, le_rfl⟩
    · exact PerCpuAccounting.step_grows hstep hxs
  have hk' : s'.map.lookup k = some fun cpu => ofCounts (ys cpu) := by
    rw [h'.represents.map k, hys]
    rfl
  obtain ⟨zs, hzs, hslots'⟩ := h'.slots hlt hk'
  obtain rfl := UnorderedMap.lookup_unique hys hzs
  refine ⟨_, hk', fun cpu c => ?_⟩
  rw [hslots, hslots']
  exact hle cpu c

end NetStats

end Monitor
