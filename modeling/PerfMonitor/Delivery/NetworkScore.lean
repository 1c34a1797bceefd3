import PerfMonitor.Manager.CalcScore
import PerfMonitor.Worker.ProcAttribution
import PerfMonitor.Worker.RatesTelescope

set_option relaxedAutoImplicit false
set_option autoImplicit false

/-!
# The unit of the network rates

`NetEbpfMonitor::UpdateOnce` reports rates in units of 1024 bytes per second, as the comments of
`NetInfo` say; `HostManager::CalcScore` divides them by a bandwidth in bytes per second. The terms
of the score are those of a rate 1024 times smaller than the one measured.

## Main definitions

* `Monitor.reportOf` — the report of the second of two calls of `UpdateOnce`.
* `Monitor.ReportsOnly` — the two calls sample one interface, and the second no other.

## Main results

* `Monitor.clamp_scaled_iff` — when a quotient 1024 times too small is clamped to the same value.
* `Monitor.network_terms_iff` — when the terms are those of the bytes moved per second.
* `Monitor.saturated_network_terms` — an interface at full bandwidth is scored as almost idle.
-/

namespace Monitor

/-! ## The clamp of a scaled quotient -/

/-- A clamped term of a quotient that is not negative. -/
lemma clamp_one_sub_of_nonneg {a : ℚ} (h : 0 ≤ a) : clamp (1 - a) = 1 - min a 1 := by
  rw [clamp_eq, min_eq_left (sub_le_self 1 h)]
  rcases le_total a 1 with ha | ha
  · rw [min_eq_left ha, max_eq_right (sub_nonneg.mpr ha)]
  · rw [min_eq_right ha, sub_self, max_eq_left (sub_nonpos.mpr ha)]

/-- A quotient at least 1024 times too small gives the same term only if it is zero or if even it is
cut off. -/
lemma clamp_scaled_iff {x y : ℚ} (hx : 0 ≤ x) (hxy : x ≤ y) :
    clamp (1 - x / 1024) = clamp (1 - y) ↔ y = 0 ∨ 1024 ≤ x := by
  have hscaled : 0 ≤ x / 1024 := by positivity
  rw [clamp_one_sub_of_nonneg hscaled, clamp_one_sub_of_nonneg (hx.trans hxy), sub_right_inj]
  constructor
  · intro h
    rcases le_or_gt 1024 x with hlarge | hsmall
    · exact Or.inr hlarge
    · left
      have hlt : x / 1024 < 1 := by linarith
      rw [min_eq_left hlt.le] at h
      rcases le_total y 1 with hy | hy
      · rw [min_eq_left hy] at h
        linarith
      · rw [min_eq_right hy] at h
        linarith
  · rintro (rfl | hlarge)
    · rw [le_antisymm hxy hx, zero_div]
    · rw [min_eq_right (by linarith), min_eq_right (by linarith)]

/-! ## Two calls on one interface -/

variable {n : ℕ}

/-- The report of the second of two calls of `UpdateOnce`; `info` is what the other monitors have
put into it. -/
def reportOf (std : RateSort) (m : NetEbpfCaches) (first second : NetSampling n)
    (info : MonitorInfo) : MonitorInfo :=
  ((m.updateOnce std first).1.updateOnce std second).2.addTo info

/-- Two calls sample the interface `k` with the counters `last` and `now`, and the second call
samples no other. -/
structure ReportsOnly (std : RateSort) (m : NetEbpfCaches) (first second : NetSampling n)
    (k : UInt32) (last now : NetStats) : Prop where
  sampled : ∃ name, m.sampled first k = some (name, last)
  resampled : ∃ name, (m.updateOnce std first).1.sampled second k = some (name, now)
  only : ∀ j, j ≠ k → (m.updateOnce std first).1.sampled second j = none

variable {std : RateSort} {m : NetEbpfCaches} {first second : NetSampling n} {k : UInt32}
  {last now : NetStats} {info : MonitorInfo}

/-- The only message of the report is that of the interface. -/
lemma ReportsOnly.netInfo_eq (h : ReportsOnly std m first second k last now)
    (hinfo : info.netInfo = []) :
    ∃ name, (reportOf std m first second info).netInfo =
      [NetEbpfCaches.netInfo name second.now now (some ⟨last, first.now⟩)] := by
  obtain ⟨⟨name₁, hfirst⟩, ⟨name₂, hsecond⟩, honly⟩ := h
  have hcache : (m.updateOnce std first).1.cache.lookup k = some ⟨last, first.now⟩ := by
    rw [NetEbpfCaches.lookup_cache_updateOnce, hfirst]
  have hall : ∀ s ∈ ((m.updateOnce std first).1.updateOnce std second).2.netSamples,
      s.ifindex = k := by
    intro s hs
    by_contra hne
    have hmem : s ∈ ((m.updateOnce std first).1.updateOnce std second).2.netSamples.filter
        fun s' => s'.ifindex = s.ifindex := List.mem_filter.mpr ⟨hs, decide_eq_true rfl⟩
    rw [NetEbpfCaches.netSamples_updateOnce, honly s.ifindex hne] at hmem
    exact List.not_mem_nil hmem
  have hsamples := NetEbpfCaches.netSamples_updateOnce std (m.updateOnce std first).1 second k
  rw [List.filter_eq_self.mpr fun s hs => decide_eq_true (hall s hs), hsecond, hcache] at hsamples
  refine ⟨name₂, ?_⟩
  rw [reportOf, NetUpdate.addTo, hsamples, hinfo]
  rfl

/-- The terms of the report are those of the growth of the counters, divided by 1024. -/
lemma ReportsOnly.terms (h : ReportsOnly std m first second k last now)
    (hinfo : info.netInfo = []) (hclock : first.now < second.now) :
    netRecvScore (reportOf std m first second info) =
        clamp (1 - (Counter.growth last.rcvBytes.toNat now.rcvBytes.toNat : ℚ) /
          (second.now - first.now) / maxBandwidth / 1024) ∧
      netSendScore (reportOf std m first second info) =
        clamp (1 - (Counter.growth last.sndBytes.toNat now.sndBytes.toNat : ℚ) /
          (second.now - first.now) / maxBandwidth / 1024) := by
  obtain ⟨name, hnet⟩ := h.netInfo_eq hinfo
  have hpos : second.now - first.now > 0 := sub_pos.mpr hclock
  simp only [netRecvScore, netSendScore, hnet, List.head?_cons, Option.map_some, Option.getD_some,
    NetEbpfCaches.netInfo, if_pos hpos, toNat_counterDelta]
  constructor <;> ring_nf

/-! ## The score of the bytes moved per second -/

/-- The counters say that nothing was moved, or they have grown by 1024 times the bandwidth; a
reading smaller than the one before counts as a whole. -/
def IdleOrBeyond (bytes : ℕ) (elapsed : ℚ) (last now : UInt64) : Prop :=
  bytes = 0 ∨ 1024 * maxBandwidth * elapsed ≤ Counter.growth last.toNat now.toNat

/-- What the growth of a counter can be after `bytes` bytes. -/
lemma growth_le {last now : UInt64} {bytes : ℕ} (h : now = last + UInt64.ofNat bytes) :
    Counter.growth last.toNat now.toNat ≤ bytes := by
  rw [← toNat_counterDelta]
  exact ProcStats.counterDelta_le h

/-- One term of the score, for one direction. -/
lemma term_iff {last now : UInt64} {bytes : ℕ} (h : now = last + UInt64.ofNat bytes) {elapsed : ℚ}
    (hpos : 0 < elapsed) :
    clamp (1 - (Counter.growth last.toNat now.toNat : ℚ) / elapsed / maxBandwidth / 1024) =
        clamp (1 - bytes / elapsed / maxBandwidth) ↔ IdleOrBeyond bytes elapsed last now := by
  have hband : (0 : ℚ) < maxBandwidth := by norm_num [maxBandwidth]
  have hle : (Counter.growth last.toNat now.toNat : ℚ) ≤ bytes := by exact_mod_cast growth_le h
  rw [clamp_scaled_iff (by positivity) (by gcongr), IdleOrBeyond]
  apply or_congr
  · rw [div_eq_zero_iff, div_eq_zero_iff, or_iff_left hband.ne', or_iff_left hpos.ne',
      Nat.cast_eq_zero]
  · rw [le_div_iff₀ hband, le_div_iff₀ hpos]

/-- **When the network is scored in its own unit.** The terms of the report after two samples of the
only reported interface are those of the bytes it has moved per second exactly when, in each
direction, it has moved none or its counter has grown by at least 1024 times what the bandwidth of
the score allows in that time. -/
theorem network_terms_iff (h : ReportsOnly std m first second k last now)
    (hinfo : info.netInfo = []) (hclock : first.now < second.now) {received sent : ℕ}
    (hrcv : now.rcvBytes = last.rcvBytes + UInt64.ofNat received)
    (hsnd : now.sndBytes = last.sndBytes + UInt64.ofNat sent) :
    (netRecvScore (reportOf std m first second info) =
          clamp (1 - received / (second.now - first.now) / maxBandwidth) ∧
        netSendScore (reportOf std m first second info) =
          clamp (1 - sent / (second.now - first.now) / maxBandwidth)) ↔
      IdleOrBeyond received (second.now - first.now) last.rcvBytes now.rcvBytes ∧
        IdleOrBeyond sent (second.now - first.now) last.sndBytes now.sndBytes := by
  obtain ⟨hrecv, hsend⟩ := h.terms hinfo hclock
  have hpos : 0 < second.now - first.now := sub_pos.mpr hclock
  rw [hrecv, hsend]
  exact and_congr (term_iff hrcv hpos) (term_iff hsnd hpos)

/-! ## An interface at full bandwidth -/

/-- A call that meets one interface, which has sent and received as many bytes. -/
def nicAt (now : ℚ) (bytes : UInt64) : NetSampling 1 where
  now := now
  netStatsMap := AList.singleton 2 (some fun _ => { rcvBytes := bytes, sndBytes := bytes })
  ifIndexToName _ := "eth0"
  hasDevice _ := true
  procNow := now
  procNetMap := ∅

lemma reportsOnly_nicAt (now₁ now₂ : ℚ) (bytes₁ bytes₂ : UInt64) :
    ReportsOnly .stable {} (nicAt now₁ bytes₁) (nicAt now₂ bytes₂) 2
      { rcvBytes := bytes₁, sndBytes := bytes₁ } { rcvBytes := bytes₂, sndBytes := bytes₂ } := by
  have hmerge : ∀ b : UInt64, mergeSlots (fun _ : Fin 1 => ({ rcvBytes := b, sndBytes := b } :
      NetStats)) = { rcvBytes := b, sndBytes := b } := by
    intro b
    rw [mergeSlots_eq_sum, Finset.sum_const, Finset.card_fin, one_nsmul]
  refine ⟨⟨"eth0", congrArg (fun s => some ("eth0", s)) (hmerge bytes₁)⟩,
    ⟨"eth0", congrArg (fun s => some ("eth0", s)) (hmerge bytes₂)⟩, fun j hj => ?_⟩
  have hnone : (nicAt now₂ bytes₂).netStatsMap.lookup j = none := by
    rw [AList.lookup_eq_none]
    exact fun hmem => hj (by simpa [nicAt, AList.mem_keys] using hmem)
  rw [NetEbpfCaches.sampled, hnone]
  split_ifs <;> rfl

/-- In two seconds, from counters at `1000`: 1024 times the bandwidth is scored as such, half the
bandwidth is not. -/
theorem network_terms_two_loads :
    (let report := reportOf .stable {} (nicAt 1 1000) (nicAt 3 256000001000) {}
     netRecvScore report = clamp (1 - (256000000000 : ℕ) / ((3 : ℚ) - 1) / maxBandwidth) ∧
       netSendScore report = clamp (1 - (256000000000 : ℕ) / ((3 : ℚ) - 1) / maxBandwidth)) ∧
    let report := reportOf .stable {} (nicAt 1 1000) (nicAt 3 125001000) {}
    ¬ (netRecvScore report = clamp (1 - (125000000 : ℕ) / ((3 : ℚ) - 1) / maxBandwidth) ∧
      netSendScore report = clamp (1 - (125000000 : ℕ) / ((3 : ℚ) - 1) / maxBandwidth)) := by
  constructor
  · refine (network_terms_iff (reportsOnly_nicAt 1 3 1000 256000001000) rfl (by decide +kernel)
      rfl rfl).mpr ⟨Or.inr ?_, Or.inr ?_⟩ <;> decide +kernel
  · refine mt (network_terms_iff (reportsOnly_nicAt 1 3 1000 125001000) rfl (by decide +kernel)
      rfl rfl).mp fun h => ?_
    unfold IdleOrBeyond at h
    exact absurd h (by decide +kernel)

/-- An interface that moves 125000000 bytes in a second in each direction has used up the bandwidth
of the score, and is scored as almost idle. -/
theorem saturated_network_terms :
    let report := reportOf .stable {} (nicAt 0 0) (nicAt 1 125000000) {}
    ReportsOnly .stable {} (nicAt 0 0) (nicAt 1 125000000) 2 {}
        { rcvBytes := 125000000, sndBytes := 125000000 } ∧
      clamp (1 - (125000000 : ℕ) / ((1 : ℚ) - 0) / maxBandwidth) = 0 ∧
      netRecvScore report = 1023 / 1024 ∧ netSendScore report = 1023 / 1024 :=
  ⟨reportsOnly_nicAt 0 1 0 125000000, by decide +kernel⟩

end Monitor
