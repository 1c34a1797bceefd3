import Mathlib.Algebra.Order.Archimedean.Real.Basic
import Mathlib.Algebra.Order.Floor.Ring
import PerfMonitor.Worker.DiskRates

set_option relaxedAutoImplicit false
set_option autoImplicit false

/-!
# The utilisation of a disk

The utilisation is what `io_time_ms` has grown by, over the time since the last reading. The kernel
counts milliseconds of real time, but a reading knows only the second it was taken in, so the
interval can come out up to a second shorter than it was.

## Main definitions

* `Monitor.UtilWithin` — no disk that was busy for at most the real time is reported above `100`
  percent when it is read at two given instants.

## Main results

* `Monitor.DiskReport.Against.utilPercent_le_iff` — when one report is at most `100` percent.
* `Monitor.UtilWithin.growth_le`, `Monitor.utilWithin_of_growth_le` — what a safe pair of instants
  says about the growth of a counter.
* `Monitor.util_within_iff` — the pairs of instants that are safe.
* `Monitor.util_exceeds` — a disk that is busy all the time between `0` and `1.9` seconds.
-/

namespace Monitor

/-- Whenever a run reads a disk at `t₁` and next at `t₂`, and its `io_time_ms` has grown by no more
than the milliseconds between the two instants, the reported utilisation is at most `100`. -/
def UtilWithin (t₁ t₂ : ℝ) : Prop :=
  ∀ (calls : List (ℤ × List String)) (m : DiskMonitor) (reports : List DiskReport) (name : String)
    (before after : List DiskReport) (a b : DiskReport),
    diskMonitor.run {} calls = some (m, reports) →
    reportsOf name reports = before ++ a :: b :: after →
    a.reading.now = ⌊t₁⌋ → b.reading.now = ⌊t₂⌋ →
    a.reading.sample.ioTimeMs ≤ b.reading.sample.ioTimeMs →
    (b.reading.sample.ioTimeMs.toNat : ℝ) - a.reading.sample.ioTimeMs.toNat ≤ 1000 * (t₂ - t₁) →
    b.info.utilPercent ≤ 100

/-! ## One report -/

lemma utilPercent_diskInfo_some (name : String) (curr last : DiskSample) (dt : ℚ) :
    (diskInfo name curr (some last) dt).utilPercent =
      if dt > 0 then ((curr.ioTimeMs - last.ioTimeMs).toNat : ℚ) / (dt * 10) else 0 := by
  unfold diskInfo
  split_ifs <;> rfl

/-- A report is at most `100` percent when it falls into the same second as the one before, or the
counter has grown by at most `1000` for every second from one to the next. -/
lemma DiskReport.Against.utilPercent_le_iff {a b : DiskReport} (h : b.Against (some a.reading)) :
    b.info.utilPercent ≤ 100 ↔ b.reading.now ≤ a.reading.now ∨
      ((b.reading.sample.ioTimeMs - a.reading.sample.ioTimeMs).toNat : ℤ) ≤
        1000 * (b.reading.now - a.reading.now) := by
  have hinfo : b.info = diskInfo b.reading.name b.reading.sample (some a.reading.sample)
      ((b.reading.now - a.reading.now : ℤ) : ℚ) := h
  rw [hinfo, utilPercent_diskInfo_some]
  by_cases hlt : a.reading.now < b.reading.now
  · have hpos : (0 : ℚ) < ((b.reading.now - a.reading.now : ℤ) : ℚ) := by
      exact_mod_cast sub_pos.mpr hlt
    have hscale : (100 : ℚ) * (((b.reading.now - a.reading.now : ℤ) : ℚ) * 10) =
        ((1000 * (b.reading.now - a.reading.now) : ℤ) : ℚ) := by
      push_cast
      ring
    rw [if_pos hpos, div_le_iff₀ (by positivity), hscale, or_iff_right (by omega),
      ← Int.cast_natCast, Int.cast_le]
  · have hnonpos : ¬((b.reading.now - a.reading.now : ℤ) : ℚ) > 0 := by
      intro hpos
      have hdt : 0 < b.reading.now - a.reading.now := by exact_mod_cast hpos
      omega
    rw [if_neg hnonpos]
    exact iff_of_true (by norm_num) (Or.inl (by omega))

/-! ## Two instants -/

/-- A report of a run was computed from the reading before it. -/
lemma against_of_consecutive {m : DiskMonitor} {calls : List (ℤ × List String)}
    {reports : List DiskReport} {name : String} {l l' : List DiskReport} {a b : DiskReport}
    (hrun : diskMonitor.run {} calls = some (m, reports))
    (hreports : reportsOf name reports = l ++ a :: b :: l') : b.Against (some a.reading) :=
  List.isChain_iff_forall_rel_of_append_cons_cons.mp (DiskMonitor.run_recorded hrun name).isChain
    hreports

lemma callReadings_oneDiskCall (now : ℤ) (s : DiskSample) :
    callReadings (oneDiskCall now s) = [⟨now, "sda", s⟩] := by
  have hchars : "sda".toList = ['s', 'd', 'a'] := rfl
  have hname : ∀ c ∈ "sda".toList, Extraction.isSpace c = false := by
    rw [hchars]
    simp [Extraction.isSpace]
  have hline : readDiskLine now (diskLine "sda" 0 0 s) = some ⟨now, "sda", s⟩ := by
    rw [readDiskLine, parseDiskLine_diskLine (by rw [hchars]; simp) hname]
    rfl
  rw [callReadings, oneDiskCall, List.filterMap_cons_some hline, List.filterMap_nil]

/-- Two calls that find one disk report its two readings. -/
lemma exists_reports_oneDiskCall (now₁ now₂ : ℤ) (s₁ s₂ : DiskSample) :
    ∃ m reports a b, diskMonitor.run {} [oneDiskCall now₁ s₁, oneDiskCall now₂ s₂] =
        some (m, reports) ∧ reportsOf "sda" reports = [a, b] ∧
      a.reading = ⟨now₁, "sda", s₁⟩ ∧ b.reading = ⟨now₂, "sda", s₂⟩ := by
  obtain ⟨⟨m, reports⟩, hrun⟩ :=
    DiskMonitor.exists_run {} [oneDiskCall now₁ s₁, oneDiskCall now₂ s₂]
  have hreadings : (reportsOf "sda" reports).map DiskReport.reading =
      [⟨now₁, "sda", s₁⟩, ⟨now₂, "sda", s₂⟩] := by
    rw [DiskMonitor.run_reportsOf hrun, diskReadings, List.flatMap_cons, List.flatMap_singleton,
      callReadings_oneDiskCall, callReadings_oneDiskCall]
    rfl
  obtain ⟨a, rest, hreports, ha, hrest⟩ := List.map_eq_cons_iff.mp hreadings
  obtain ⟨b, rest, rfl, hb, hnil⟩ := List.map_eq_cons_iff.mp hrest
  obtain rfl := List.map_eq_nil_iff.mp hnil
  exact ⟨m, reports, a, b, hrun, hreports, ha, hb⟩

/-- At a pair of instants that is safe, no counter can grow by more than `1000` for every whole
second between them. -/
lemma UtilWithin.growth_le {t₁ t₂ : ℝ} (h : UtilWithin t₁ t₂) (hlt : ⌊t₁⌋ < ⌊t₂⌋) {g : ℕ}
    (hsize : g < 2 ^ 64) (hg : (g : ℝ) ≤ 1000 * (t₂ - t₁)) :
    (g : ℤ) ≤ 1000 * (⌊t₂⌋ - ⌊t₁⌋) := by
  obtain ⟨m, reports, a, b, hrun, hreports, ha, hb⟩ :=
    exists_reports_oneDiskCall ⌊t₁⌋ ⌊t₂⌋ {} { ioTimeMs := UInt64.ofNat g }
  have hagainst : b.Against (some a.reading) := against_of_consecutive (l := []) hrun hreports
  have hgrown : (UInt64.ofNat g).toNat = g := by
    rw [UInt64.toNat_ofNat', Nat.mod_eq_of_lt hsize]
  have hreal : ((UInt64.ofNat g).toNat : ℝ) - (0 : UInt64).toNat ≤ 1000 * (t₂ - t₁) := by
    rw [hgrown, UInt64.toNat_zero, Nat.cast_zero, sub_zero]
    exact hg
  have hutil := h _ m reports "sda" [] [] a b hrun hreports (by rw [ha]) (by rw [hb])
    (by rw [ha]; exact UInt64.zero_le) (by rw [ha, hb]; exact hreal)
  rw [hagainst.utilPercent_le_iff, ha, hb] at hutil
  simp only [UInt64.sub_zero, hgrown] at hutil
  omega

/-- A pair of instants is safe if no counter can grow by more than `1000` for every whole second
between them. -/
lemma utilWithin_of_growth_le {t₁ t₂ : ℝ}
    (h : ⌊t₁⌋ < ⌊t₂⌋ → ∀ g : ℕ, g < 2 ^ 64 → (g : ℝ) ≤ 1000 * (t₂ - t₁) →
      (g : ℤ) ≤ 1000 * (⌊t₂⌋ - ⌊t₁⌋)) : UtilWithin t₁ t₂ := by
  intro calls m reports name before after a b hrun hreports ha hb hle hgrowth
  have hagainst : b.Against (some a.reading) := against_of_consecutive hrun hreports
  rw [hagainst.utilPercent_le_iff, ha, hb, UInt64.toNat_sub_of_le _ _ hle]
  rcases Int.lt_or_le ⌊t₁⌋ ⌊t₂⌋ with hlt | hge
  · right
    apply h hlt
    · have hsize := b.reading.sample.ioTimeMs.toNat_lt
      omega
    · rwa [Nat.cast_sub (UInt64.le_iff_toNat_le.mp hle)]
  · exact Or.inl hge

/-- What a counter can grow by in the real time between two instants. -/
lemma sub_eq_floor_sub_add_fract (t₁ t₂ : ℝ) :
    t₂ - t₁ = ((⌊t₂⌋ - ⌊t₁⌋ : ℤ) : ℝ) + (Int.fract t₂ - Int.fract t₁) := by
  rw [Int.fract, Int.fract]
  push_cast
  ring

/-- **When the utilisation stays within `100` percent.** A pair of instants is safe exactly when
both fall into the same second, or the second one lies less than a millisecond later in its second
than the first one in its own, or they are so far apart that no counter of 64 bits can exceed the
whole seconds between them.

**Proof sketch.** A counter grows by a whole number of milliseconds. It can reach one more than
`1000` for every whole second exactly when the fractions leave room for it. -/
theorem util_within_iff {t₁ t₂ : ℝ} (h : t₁ < t₂) :
    UtilWithin t₁ t₂ ↔ ⌊t₁⌋ = ⌊t₂⌋ ∨ Int.fract t₂ - Int.fract t₁ < 1 / 1000 ∨
      2 ^ 64 - 1 ≤ 1000 * (⌊t₂⌋ - ⌊t₁⌋) := by
  have hfloor : ⌊t₁⌋ ≤ ⌊t₂⌋ := Int.floor_le_floor h.le
  have hsplit := sub_eq_floor_sub_add_fract t₁ t₂
  constructor
  · intro hwithin
    by_contra hnot
    push Not at hnot
    obtain ⟨hne, hfract, hfar⟩ := hnot
    -- There is room for one more than `1000` for every whole second.
    obtain ⟨g, hg⟩ := Int.eq_ofNat_of_zero_le (show 0 ≤ 1000 * (⌊t₂⌋ - ⌊t₁⌋) + 1 by omega)
    have hreal : (g : ℝ) = 1000 * ((⌊t₂⌋ - ⌊t₁⌋ : ℤ) : ℝ) + 1 := by exact_mod_cast hg.symm
    have hle := hwithin.growth_le (by omega) (g := g) (by omega) (by rw [hreal, hsplit]; linarith)
    omega
  · intro hsafe
    apply utilWithin_of_growth_le
    intro hlt g hsize hgrowth
    rcases hsafe with hsame | hfract | hfar
    · exact absurd hsame hlt.ne
    · have hbound : (g : ℝ) < ((1000 * (⌊t₂⌋ - ⌊t₁⌋) + 1 : ℤ) : ℝ) := by
        push_cast
        rw [hsplit] at hgrowth
        push_cast at hgrowth
        linarith
      have hint : (g : ℤ) < 1000 * (⌊t₂⌋ - ⌊t₁⌋) + 1 := by exact_mod_cast hbound
      omega
    · omega

/-- Two instants of the same phase, a second apart. -/
theorem util_within_same_phase : UtilWithin (1 / 4) (5 / 4) := by
  refine (util_within_iff (by norm_num)).mpr (Or.inr (Or.inl ?_))
  have h : Int.fract (5 / 4 : ℝ) = Int.fract (1 / 4 : ℝ) := by
    rw [show (5 / 4 : ℝ) = 1 / 4 + 1 by norm_num, Int.fract_add_one]
  rw [h, sub_self]
  norm_num

/-- A disk that is busy for all the `1.9` seconds from `0` on is reported at `190` percent. -/
theorem util_exceeds :
    ¬UtilWithin 0 1.9 ∧
      ∃ p, diskMonitor.run {} [oneDiskCall 0 {}, oneDiskCall 1 { ioTimeMs := 1900 }] = some p ∧
        (p.2.map fun r => r.info.utilPercent) = [0, 190] := by
  refine ⟨fun h => ?_, ?_⟩
  · have hfloor : ⌊(1.9 : ℝ)⌋ = 1 := by
      rw [Int.floor_eq_iff]
      norm_num
    have hle := h.growth_le (g := 1900) (by rw [hfloor, Int.floor_zero]; decide) (by decide)
      (by norm_num)
    rw [hfloor, Int.floor_zero] at hle
    exact absurd hle (by decide)
  · exact ⟨(diskMonitor.run {} [oneDiskCall 0 {}, oneDiskCall 1 { ioTimeMs := 1900 }]).get rfl,
      (Option.some_get _).symm, by decide +kernel⟩

end Monitor
