import Mathlib.Tactic.FieldSimp
import Mathlib.Tactic.Linarith
import Mathlib.Tactic.Positivity
import Mathlib.Tactic.Ring
import PerfMonitor.Worker.DiskMonitor

set_option relaxedAutoImplicit false
set_option autoImplicit false

/-!
# What the disk rates account for

A rate of `DiskMonitor` times the time since the last reading is a difference of two counters of 64
bits, or zero if no time has passed. The reading replaces the last one either way. So the rates of
a run account for what the counters have grown by exactly when no counter falls while the clock
advances, and nothing happens while it does not.

## Main definitions

* `Monitor.DiskRate` — the four rates, each with its counter and its unit.
* `Monitor.RatesAccount` — the rates of a run account for the growth of the counters once.
* `Monitor.DiskRate.Steady` — what must hold between two consecutive readings.

## Main results

* `Monitor.DiskReport.Against.eq_grown_iff` — when one rate accounts for one interval.
* `Monitor.disk_rates_account_iff` — when the rates of a run account for its growth.
* `Monitor.disk_rates_miss` — a clock that stands still and a counter that falls.
-/

namespace Monitor

/-- The rates of a disk. -/
inductive DiskRate where
  | readIops
  | writeIops
  | readBytes
  | writeBytes
  deriving DecidableEq, Repr

namespace DiskRate

/-- The rate in a message. -/
def perSec (info : DiskInfo) : DiskRate → ℚ
  | readIops => info.readIops
  | writeIops => info.writeIops
  | readBytes => info.readBytesPerSec
  | writeBytes => info.writeBytesPerSec

/-- The counter that the rate is about. -/
def counter (s : DiskSample) : DiskRate → UInt64
  | readIops => s.reads
  | writeIops => s.writes
  | readBytes => s.sectorsRead
  | writeBytes => s.sectorsWritten

/-- What the counter counts: single operations, or sectors of 512 bytes. -/
def unit : DiskRate → ℕ
  | readIops => 1
  | writeIops => 1
  | readBytes => 512
  | writeBytes => 512

/-- Between the readings `a` and `b`, either the clock advances and the counter does not fall, or
the clock does not advance and the counter stays as it is or falls to zero. -/
def Steady (q : DiskRate) (a b : DiskReading) : Prop :=
  if a.now < b.now then q.counter a.sample ≤ q.counter b.sample
  else q.counter b.sample = q.counter a.sample ∨ q.counter b.sample = 0

/-- What the rate's counter grows by between two readings, in operations or bytes. A counter that
has fallen counts from zero. -/
def grown (q : DiskRate) (a b : DiskReading) : ℕ :=
  Counter.growth (q.counter a.sample).toNat (q.counter b.sample).toNat * q.unit

end DiskRate

/-- What a rate says has happened between two consecutive reports. -/
def rateTimesElapsed (q : DiskRate) (a b : DiskReport) : ℚ :=
  q.perSec b.info * (b.reading.now - a.reading.now : ℤ)

/-- The rates in the reports of one disk account for what its counters have grown by, are never
negative, and while the clock advances they are the differences of the counters without
wrapping around. -/
structure RatesAccount (rs : List DiskReport) : Prop where
  sums : ∀ q, Counter.sumSteps (rateTimesElapsed q) rs =
    Counter.sumSteps (fun a b => (q.grown a.reading b.reading : ℚ)) rs
  nonneg : ∀ q : DiskRate, ∀ r ∈ rs, 0 ≤ q.perSec r.info
  unwrapped : ∀ q : DiskRate, rs.IsChain fun a b => a.reading.now < b.reading.now →
    rateTimesElapsed q a b = (((q.counter b.reading.sample).toNat : ℚ) -
      (q.counter a.reading.sample).toNat) * q.unit

/-! ## One interval -/

namespace DiskRate

lemma unit_pos (q : DiskRate) : 0 < q.unit := by
  cases q <;> decide

lemma perSec_diskInfo_none (q : DiskRate) (name : String) (curr : DiskSample) (dt : ℚ) :
    q.perSec (diskInfo name curr none dt) = 0 := by
  cases q <;> rfl

lemma perSec_diskInfo_some (q : DiskRate) (name : String) (curr last : DiskSample) (dt : ℚ) :
    q.perSec (diskInfo name curr (some last) dt) =
      if dt > 0 then ((q.counter curr - q.counter last).toNat * q.unit : ℚ) / dt else 0 := by
  unfold diskInfo
  split_ifs
  · cases q <;> simp only [perSec, counter, unit, Nat.cast_one, mul_one, Nat.cast_ofNat]
  · cases q <;> rfl

lemma perSec_diskInfo_nonneg (q : DiskRate) (name : String) (curr : DiskSample)
    (last : Option DiskSample) (dt : ℚ) : 0 ≤ q.perSec (diskInfo name curr last dt) := by
  cases last with
  | none => rw [perSec_diskInfo_none]
  | some last =>
    rw [perSec_diskInfo_some]
    split_ifs
    · positivity
    · exact le_rfl

end DiskRate

namespace DiskReport

variable {a b : DiskReport}

/-- While the clock advances, a rate accounts for the difference of the counters in 64 bits. -/
lemma Against.rateTimesElapsed_of_lt (h : b.Against (some a.reading))
    (hlt : a.reading.now < b.reading.now) (q : DiskRate) :
    rateTimesElapsed q a b =
      ((q.counter b.reading.sample - q.counter a.reading.sample).toNat * q.unit : ℚ) := by
  have hinfo : b.info = diskInfo b.reading.name b.reading.sample (some a.reading.sample)
      ((b.reading.now - a.reading.now : ℤ) : ℚ) := h
  have hpos : (0 : ℚ) < ((b.reading.now - a.reading.now : ℤ) : ℚ) := by
    exact_mod_cast sub_pos.mpr hlt
  rw [rateTimesElapsed, hinfo, DiskRate.perSec_diskInfo_some, if_pos hpos,
    div_mul_cancel₀ _ hpos.ne']

/-- While the clock does not advance, a rate accounts for nothing. -/
lemma Against.rateTimesElapsed_of_not_lt (h : b.Against (some a.reading))
    (hlt : ¬a.reading.now < b.reading.now) (q : DiskRate) : rateTimesElapsed q a b = 0 := by
  have hinfo : b.info = diskInfo b.reading.name b.reading.sample (some a.reading.sample)
      ((b.reading.now - a.reading.now : ℤ) : ℚ) := h
  have hneg : ¬((b.reading.now - a.reading.now : ℤ) : ℚ) > 0 := by
    intro hpos
    have hdt : 0 < b.reading.now - a.reading.now := by exact_mod_cast hpos
    omega
  rw [rateTimesElapsed, hinfo, DiskRate.perSec_diskInfo_some, if_neg hneg, zero_mul]

/-- A difference in 64 bits is the difference of the numbers exactly when it does not wrap
around. -/
lemma toNat_sub_cast_eq_iff (now last : UInt64) :
    ((now - last).toNat : ℚ) = now.toNat - last.toNat ↔ last ≤ now := by
  constructor
  · intro h
    have hle : (last.toNat : ℚ) ≤ now.toNat := by
      have hnonneg : (0 : ℚ) ≤ ((now - last).toNat : ℚ) := Nat.cast_nonneg _
      linarith
    exact UInt64.le_iff_toNat_le.mpr (by exact_mod_cast hle)
  · intro h
    rw [UInt64.toNat_sub_of_le _ _ h, Nat.cast_sub (UInt64.le_iff_toNat_le.mp h)]

/-- While the clock advances, a rate is the difference of the counters exactly when the counter has
not fallen. -/
lemma Against.unwrapped_iff (h : b.Against (some a.reading))
    (hlt : a.reading.now < b.reading.now) (q : DiskRate) :
    rateTimesElapsed q a b = (((q.counter b.reading.sample).toNat : ℚ) -
        (q.counter a.reading.sample).toNat) * q.unit ↔
      q.counter a.reading.sample ≤ q.counter b.reading.sample := by
  have hunit : (q.unit : ℚ) ≠ 0 := Nat.cast_ne_zero.mpr q.unit_pos.ne'
  rw [h.rateTimesElapsed_of_lt hlt, mul_left_inj' hunit, toNat_sub_cast_eq_iff]

/-- A counter that has not fallen has grown by the difference. -/
lemma grown_of_le {q : DiskRate} {x y : DiskReading}
    (h : q.counter x.sample ≤ q.counter y.sample) :
    q.grown x y = (q.counter y.sample - q.counter x.sample).toNat * q.unit := by
  rw [DiskRate.grown, Counter.growth_of_le (UInt64.le_iff_toNat_le.mp h),
    UInt64.toNat_sub_of_le _ _ h]

lemma grown_eq_zero_iff {q : DiskRate} {x y : DiskReading} :
    q.grown x y = 0 ↔ q.counter y.sample = q.counter x.sample ∨ q.counter y.sample = 0 := by
  rw [DiskRate.grown, mul_eq_zero_iff_right q.unit_pos.ne', Counter.growth_eq_zero_iff,
    UInt64.toNat_inj, ← UInt64.toNat_zero, UInt64.toNat_inj]

/-- A rate accounts for one interval exactly when the interval is steady, unless the difference has
wrapped around. -/
lemma Against.eq_grown_iff (h : b.Against (some a.reading)) (q : DiskRate)
    (hle : a.reading.now < b.reading.now →
      q.counter a.reading.sample ≤ q.counter b.reading.sample) :
    rateTimesElapsed q a b = q.grown a.reading b.reading ↔ q.Steady a.reading b.reading := by
  unfold DiskRate.Steady
  by_cases hlt : a.reading.now < b.reading.now
  · rw [if_pos hlt, h.rateTimesElapsed_of_lt hlt, grown_of_le (hle hlt), Nat.cast_mul]
    exact iff_of_true rfl (hle hlt)
  · rw [if_neg hlt, h.rateTimesElapsed_of_not_lt hlt, ← grown_eq_zero_iff, eq_comm,
      Nat.cast_eq_zero]

/-- A rate accounts for no more than the growth, unless the difference has wrapped around. -/
lemma Against.le_grown (h : b.Against (some a.reading)) (q : DiskRate)
    (hle : a.reading.now < b.reading.now →
      q.counter a.reading.sample ≤ q.counter b.reading.sample) :
    rateTimesElapsed q a b ≤ q.grown a.reading b.reading := by
  by_cases hlt : a.reading.now < b.reading.now
  · rw [h.rateTimesElapsed_of_lt hlt, grown_of_le (hle hlt), Nat.cast_mul]
  · rw [h.rateTimesElapsed_of_not_lt hlt]
    exact Nat.cast_nonneg _

end DiskReport

/-! ## Whole runs -/

variable {m : DiskMonitor} {calls : List (ℤ × List String)} {reports : List DiskReport}

/-- No rate of a run is negative. -/
lemma perSec_nonneg_of_run (hrun : diskMonitor.run {} calls = some (m, reports)) (name : String)
    (q : DiskRate) : ∀ r ∈ reportsOf name reports, 0 ≤ q.perSec r.info := by
  intro r hr
  have hrec := DiskMonitor.run_recorded hrun name
  obtain ⟨last, hagainst⟩ := hrec.exists_of_mem hr
  cases last with
  | none =>
    have hinfo : r.info = { name := r.reading.name } := hagainst
    rw [hinfo]
    cases q <;> exact le_rfl
  | some last =>
    have hinfo : r.info = diskInfo r.reading.name r.reading.sample (some last.sample)
      ((r.reading.now - last.now : ℤ) : ℚ) := hagainst
    rw [hinfo]
    exact q.perSec_diskInfo_nonneg _ _ _ _

/-- **When the rates account for the growth.** In every run from a fresh monitor, the rates of a
disk account for what its counters have grown by exactly when all intervals between its readings are
steady for all counters.

**Proof sketch.** While the clock advances, a rate is the difference of the counters exactly when
the counter has not fallen. If this holds in all intervals, no rate accounts for more than the
growth, so the sums agree only if the rate accounts for the growth in each interval. -/
theorem disk_rates_account_iff (hrun : diskMonitor.run {} calls = some (m, reports))
    (name : String) :
    RatesAccount (reportsOf name reports) ↔
      ∀ q : DiskRate, (readingsOf name (diskReadings calls)).IsChain q.Steady := by
  have hagainst := (DiskMonitor.run_recorded hrun name).isChain
  rw [← DiskMonitor.run_reportsOf hrun name]
  simp only [List.isChain_map]
  constructor
  · intro h q
    have hle : (reportsOf name reports).IsChain fun a b => a.reading.now < b.reading.now →
        q.counter a.reading.sample ≤ q.counter b.reading.sample :=
      (Counter.isChain_and hagainst (h.unwrapped q)).imp
        fun a b hab hlt => (hab.1.unwrapped_iff hlt q).mp (hab.2 hlt)
    have hboth := Counter.isChain_and hagainst hle
    have hgrown := (Counter.sumSteps_eq_iff_of_le
      (hboth.imp fun a b hab => hab.1.le_grown q hab.2)).mp (h.sums q)
    exact (Counter.isChain_and hboth hgrown).imp fun a b hab =>
      (hab.1.1.eq_grown_iff q hab.1.2).mp hab.2
  · intro h
    have hboth := fun q => Counter.isChain_and hagainst (h q)
    have hle : ∀ (q : DiskRate) (a b : DiskReport), q.Steady a.reading b.reading →
        a.reading.now < b.reading.now →
          q.counter a.reading.sample ≤ q.counter b.reading.sample := by
      intro q a b hsteady hlt
      rwa [DiskRate.Steady, if_pos hlt] at hsteady
    refine ⟨fun q => ?_, perSec_nonneg_of_run hrun name, fun q => ?_⟩
    · exact Counter.sumSteps_congr ((hboth q).imp fun a b hab =>
        (hab.1.eq_grown_iff q (hle q a b hab.2)).mpr hab.2)
    · exact (hboth q).imp fun a b hab hlt =>
        (hab.1.unwrapped_iff hlt q).mpr (hle q a b hab.2 hlt)

/-- A call at `now` that finds one disk. -/
def oneDiskCall (now : ℤ) (s : DiskSample) : ℤ × List String := (now, [diskLine "sda" 0 0 s])

/-- Steady intervals: an operation in two seconds, then none in the same second. -/
theorem disk_rates_account_steady :
    ∃ p, diskMonitor.run {} [oneDiskCall 0 { reads := 4 }, oneDiskCall 2 { reads := 5 },
        oneDiskCall 2 { reads := 5 }] = some p ∧ RatesAccount (reportsOf "sda" p.2) := by
  obtain ⟨p, hrun⟩ := DiskMonitor.exists_run {} [oneDiskCall 0 { reads := 4 },
    oneDiskCall 2 { reads := 5 }, oneDiskCall 2 { reads := 5 }]
  refine ⟨p, hrun, (disk_rates_account_iff hrun "sda").mpr ?_⟩
  have hreadings : readingsOf "sda" (diskReadings [oneDiskCall 0 { reads := 4 },
      oneDiskCall 2 { reads := 5 }, oneDiskCall 2 { reads := 5 }]) =
      [⟨0, "sda", { reads := 4 }⟩, ⟨2, "sda", { reads := 5 }⟩, ⟨2, "sda", { reads := 5 }⟩] := by
    decide +kernel
  rw [hreadings]
  intro q
  cases q <;> simp [DiskRate.Steady, DiskRate.counter]

/-- Ten operations while the clock stands still are lost, and a counter that falls from ten to four
in the next second gives a rate of almost `2 ^ 64`. -/
theorem disk_rates_miss :
    ∃ p, diskMonitor.run {} [oneDiskCall 0 {}, oneDiskCall 0 { reads := 10 },
        oneDiskCall 1 { reads := 4 }] = some p ∧
      (p.2.map fun r => r.info.readIops) = [0, 0, 2 ^ 64 - 6] ∧
      ¬RatesAccount (reportsOf "sda" p.2) := by
  refine ⟨(diskMonitor.run {} [oneDiskCall 0 {}, oneDiskCall 0 { reads := 10 },
    oneDiskCall 1 { reads := 4 }]).get rfl, (Option.some_get _).symm, by decide +kernel, ?_⟩
  intro h
  exact absurd (h.sums .readIops) (by decide +kernel)

end Monitor
