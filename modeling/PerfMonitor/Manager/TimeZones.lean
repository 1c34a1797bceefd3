import Mathlib.Data.List.TakeWhile
import PerfMonitor.Calendar.Gregorian
import PerfMonitor.Manager.QueryManager

set_option relaxedAutoImplicit false
set_option autoImplicit false

/-!
# Stored timestamps and time zones

`FormatTimestamp` and `QueryManager::FormatTime` write local time; `ParseMysqlTime` reads it back
with a `tm` that says standard time. Both cross the rules of the time zone, which are a parameter
here.

## Main definitions

* `Monitor.TimeZone` — the offsets of a zone, and what `mktime` assumes for standard time.
* `Monitor.TimeZone.localtime`, `Monitor.TimeZone.mktime` — the functions of the C library.
* `Monitor.TimeZone.Unambiguous` — no other instant has the same local time.

## Main results

* `Monitor.getTime_formatTm` — the text of a timestamp is read as the fields it was written
  from.
* `Monitor.parseMysqlTime_formatTimestamp_iff` — when the instant read is the instant written.
* `Monitor.summer_noon_late` — in summer time it is one hour later.
-/

namespace Monitor

open Gregorian

/-! ## The C library -/

/-- `gmtime_r`. -/
def gmtime (t : ℤ) : Tm :=
  let date := dateOfDays (t / 86400)
  let s := (t % 86400).toNat
  { tmYear := date.year - 1900
    tmMon := date.month
    tmMday := date.day + 1
    tmHour := s / 3600
    tmMin := s % 3600 / 60
    tmSec := s % 60 }

/-- `timegm`. -/
def timegm (tm : Tm) : ℤ :=
  (daysOfDate (tm.tmYear + 1900) tm.tmMon tm.tmMday - 1) * 86400 + tm.tmHour * 3600 +
    tm.tmMin * 60 + tm.tmSec

/-- The rules of a time zone. Times of the wall clock are given as the seconds from the epoch at
which a clock without an offset would show them. -/
structure TimeZone where
  /-- The seconds that local time is ahead at an instant. -/
  offset : ℤ → ℤ
  /-- Daylight-saving time is in force at an instant. -/
  isDst : ℤ → Bool
  /-- The offset that `mktime` assumes for a time of the wall clock when told it is standard
  time. -/
  standardOffset : ℤ → ℤ
  /-- Offsets are below a week. -/
  offset_le : ∀ t, |offset t| ≤ 604800
  standardOffset_le : ∀ w, |standardOffset w| ≤ 604800
  /-- A time of the wall clock that occurs in standard time is taken for such an occurrence. -/
  standard : ∀ t, isDst t = false →
    ∃ v, isDst v = false ∧ v + offset v = t + offset t ∧
      standardOffset (t + offset t) = offset v
  /-- A time that occurs only in daylight-saving time is off by the saving, in minutes. -/
  daylight : ∀ t, (∀ v, v + offset v = t + offset t → isDst v = true) →
    ∃ saving : ℤ, saving ≠ 0 ∧ offset t = standardOffset (t + offset t) + 60 * saving

namespace TimeZone

variable (zone : TimeZone)

/-- The time of the wall clock at an instant. -/
def wallClock (t : ℤ) : ℤ := t + zone.offset t

/-- `localtime_r`. -/
def localtime (t : ℤ) : Tm := gmtime (zone.wallClock t)

/-- `mktime` for `tm_isdst = 0`. -/
def mktime (tm : Tm) : ℤ := timegm tm - zone.standardOffset (timegm tm)

/-- No other instant has the same local time. -/
def Unambiguous (t : ℤ) : Prop := ∀ v, zone.wallClock v = zone.wallClock t → v = t

end TimeZone

lemma timegm_gmtime (t : ℤ) : timegm (gmtime t) = t := by
  have hdays := daysOfDate_dateOfDays (t / 86400)
  unfold timegm gmtime
  simp only [sub_add_cancel, daysOfDate_add_one, hdays, add_sub_cancel_right]
  omega

/-! ## The text -/

/-- The fields of a `tm` that the format writes in as many digits as it reads. -/
structure Tm.Printable (tm : Tm) : Prop where
  year : 1000 ≤ tm.tmYear + 1900 ∧ tm.tmYear + 1900 ≤ 9999
  mon : tm.tmMon < 12
  mday : 1 ≤ tm.tmMday ∧ tm.tmMday ≤ 31
  hour : tm.tmHour < 24
  min : tm.tmMin < 60
  sec : tm.tmSec < 60

/-- The text of a number in a fixed width. -/
structure IsNumeral (width n : ℕ) (digits : List Char) : Prop where
  length : digits.length = width
  isDigit : ∀ c ∈ digits, c.isDigit = true
  value : Nat.ofDigitChars 10 digits 0 = n

lemma isNumeral_toDigits {n w : ℕ} (hlow : 10 ^ w ≤ n) (hhigh : n < 10 ^ (w + 1)) :
    IsNumeral (w + 1) n (Nat.toDigits 10 n) where
  length := by
    have hle := (Nat.length_toDigits_le_iff (by decide) (Nat.succ_pos w)).mpr hhigh
    rcases Nat.eq_zero_or_pos w with rfl | hw
    · have hpos : 0 < (Nat.toDigits 10 n).length := Nat.length_toDigits_pos
      omega
    · have hgt := mt (Nat.length_toDigits_le_iff (b := 10) (by decide) hw).mp (not_lt.mpr hlow)
      omega
  isDigit c hc := Nat.isDigit_of_mem_toDigits (by decide) (by decide) hc
  value := Nat.ofDigitChars_ten_toDigits

lemma isNumeral_twoDigits {n : ℕ} (h : n < 100) : IsNumeral 2 n (twoDigits n).toList := by
  unfold twoDigits
  split_ifs with hlt
  · rw [String.toList_append, Nat.toString_eq_repr, Nat.toList_repr]
    have hone : Nat.toDigits 10 n = [n.digitChar] := Nat.toDigits_of_lt_base hlt
    refine ⟨by rw [hone]; rfl, fun c hc => ?_, ?_⟩
    · rcases List.mem_append.mp hc with hc | hc
      · obtain rfl : c = '0' := by simpa using hc
        rfl
      · exact Nat.isDigit_of_mem_toDigits (by decide) (by decide) hc
    · -- a leading zero does not count
      show Nat.ofDigitChars 10 ('0' :: Nat.toDigits 10 n) 0 = n
      rw [Nat.ofDigitChars_cons]
      exact Nat.ofDigitChars_ten_toDigits
  · rw [Nat.toString_eq_repr, Nat.toList_repr]
    exact isNumeral_toDigits (w := 1) (by omega) (by omega)

lemma isNumeral_year {y : ℤ} (hlow : 1000 ≤ y) (hhigh : y ≤ 9999) :
    IsNumeral 4 y.toNat (toString y).toList := by
  obtain ⟨n, rfl⟩ := Int.eq_ofNat_of_zero_le (by omega : 0 ≤ y)
  rw [show toString (n : ℤ) = toString n from rfl, Nat.toString_eq_repr, Nat.toList_repr,
    Int.toNat_natCast]
  exact isNumeral_toDigits (w := 3) (by omega) (by omega)

/-- A directive reads a number of its width. -/
lemma TimeDirective.number_append {d : TimeDirective} {n : ℕ} {digits rest : List Char}
    (hdigits : IsNumeral d.width n digits) (hwidth : 0 < d.width) (hmin : d.min ≤ n)
    (hmax : n ≤ d.max) : d.number (digits ++ rest) = some (n, rest) := by
  have htake : ((digits ++ rest).take d.width).takeWhile Char.isDigit = digits := by
    rw [← hdigits.length, List.take_left]
    exact List.takeWhile_eq_self_iff.mpr hdigits.isDigit
  have hne : digits ≠ [] := by
    rintro rfl
    exact hwidth.ne hdigits.length
  have hvalue : digits.foldl (fun n c => 10 * n + (c.toNat - '0'.toNat)) 0 = n := hdigits.value
  unfold TimeDirective.number
  dsimp only
  rw [htake, hvalue, if_neg, List.drop_left]
  rintro (h | h | h)
  · exact hne h
  · exact absurd hmin (not_le.mpr h)
  · exact absurd hmax (not_le.mpr h)

/-- A directive reads its literal and a number of its width. -/
lemma getTime_cons {d : TimeDirective} {n : ℕ} {digits : List Char}
    (hdigits : IsNumeral d.width n digits) (hwidth : 0 < d.width) (hmin : d.min ≤ n)
    (hmax : n ≤ d.max) (ds : List TimeDirective) (rest : List Char) (tm : Tm) :
    getTime (d :: ds) (d.literal.toList ++ (digits ++ rest)) tm = getTime ds rest (d.set tm n) := by
  have hskip : d.skip (d.literal.toList ++ (digits ++ rest)) = some (digits ++ rest) := by
    unfold TimeDirective.skip
    cases d.literal with
    | none => rfl
    | some c => exact if_pos rfl
  rw [getTime, hskip, Option.bind_some, TimeDirective.number_append hdigits hwidth hmin hmax]

/-- What `formatTimestamp` writes for given fields. -/
def formatTm (tm : Tm) : String :=
  toString (tm.tmYear + 1900) ++ "-" ++ twoDigits (tm.tmMon + 1) ++ "-" ++ twoDigits tm.tmMday ++
    " " ++ twoDigits tm.tmHour ++ ":" ++ twoDigits tm.tmMin ++ ":" ++ twoDigits tm.tmSec

/-- **The text of a timestamp is read as the fields it was written from**, whatever follows it. -/
theorem getTime_formatTm {tm : Tm} (htm : tm.Printable) (fraction : String) (start : Tm) :
    getTime mysqlTimeFormat (formatTm tm ++ fraction).toList start = tm := by
  obtain ⟨hyear, hmon, hmday, hhour, hmin, hsec⟩ := htm
  have hdash : "-".toList = ['-'] := rfl
  have hspace : " ".toList = [' '] := rfl
  have hcolon : ":".toList = [':'] := rfl
  unfold mysqlTimeFormat formatTm
  simp only [String.toList_append, List.append_assoc, hdash, hspace, hcolon]
  refine (getTime_cons (isNumeral_year hyear.1 hyear.2) (by decide) (Nat.zero_le _)
    (Int.toNat_le.mpr hyear.2) _ _ _).trans ?_
  refine (getTime_cons (isNumeral_twoDigits (by omega)) (by decide) (Nat.le_add_left 1 _)
    hmon _ _ _).trans ?_
  refine (getTime_cons (isNumeral_twoDigits (by omega)) (by decide) hmday.1 hmday.2 _ _ _).trans ?_
  refine (getTime_cons (isNumeral_twoDigits (by omega)) (by decide) (Nat.zero_le _)
    (Nat.le_of_lt_succ hhour) _ _ _).trans ?_
  refine (getTime_cons (isNumeral_twoDigits (by omega)) (by decide) (Nat.zero_le _)
    (Nat.le_of_lt_succ hmin) _ _ _).trans ?_
  refine (getTime_cons (isNumeral_twoDigits (by omega)) (by decide) (Nat.zero_le _)
    hsec.le _ _ _).trans ?_
  have hnat : ((tm.tmYear + 1900).toNat : ℤ) = tm.tmYear + 1900 := Int.toNat_of_nonneg (by omega)
  simp only [getTime, hnat, add_sub_cancel_right, Nat.add_sub_cancel]

/-- Local times of 64-bit instants have years of four digits. -/
lemma printable_gmtime {s : ℤ} (hlow : -9300000000 ≤ s) (hhigh : s ≤ 9300000000) :
    (gmtime s).Printable := by
  have hyear := year_dateOfDays (z := s / 86400) (by omega) (by omega)
  have hmod : 0 ≤ s % 86400 ∧ s % 86400 < 86400 := by omega
  unfold gmtime
  refine ⟨?_, (dateOfDays (s / 86400)).month.isLt, ⟨Nat.le_add_left 1 _, ?_⟩, ?_, ?_, ?_⟩
  · dsimp only
    omega
  · exact (dateOfDays (s / 86400)).day.isLt
  all_goals
    dsimp only
    omega

/-! ## The round trip -/

/-- `QueryManager::FormatTime`. -/
def formatTime (localtime : ℤ → Tm) (tp : Time) : String := formatTm (localtime (tp.tdiv second))

lemma formatTimestamp_eq (localtime : ℤ → Tm) (tp : Time) :
    formatTimestamp localtime tp = formatTime localtime tp := rfl

variable {zone : TimeZone} {t : Time}

namespace TimeZone

variable (zone) in
/-- `mktime` is never off by more than the two offsets. -/
lemma abs_mktime_localtime_sub_le (u : ℤ) :
    |zone.mktime (zone.localtime u) - u| ≤ 1209600 := by
  have hoffset := abs_le.mp (zone.offset_le u)
  have hstandard := abs_le.mp (zone.standardOffset_le (zone.wallClock u))
  unfold mktime localtime
  rw [timegm_gmtime, abs_le]
  unfold wallClock at *
  omega

/-- `mktime` is right for a time that no other instant shares exactly in standard time. -/
lemma mktime_localtime_iff {f : ℤ} (hf : zone.Unambiguous f) :
    zone.mktime (zone.localtime f) = f ↔ zone.isDst f = false := by
  unfold mktime localtime
  rw [timegm_gmtime]
  constructor
  · intro h
    by_contra hdst
    obtain ⟨saving, hsaving, hoffset⟩ := zone.daylight f fun v hv => by
      rw [hf v hv]
      exact Bool.eq_true_of_not_eq_false hdst
    unfold wallClock at h
    omega
  · intro hstd
    obtain ⟨v, -, hv, hoffset⟩ := zone.standard f hstd
    have hvf : v = f := hf v hv
    unfold wallClock
    rw [hoffset, hvf, add_sub_cancel_right]

/-- No reading of a later second, one second later, is taken for an unambiguous time. -/
lemma mktime_localtime_succ_ne {f : ℤ} (hf : zone.Unambiguous f) :
    zone.mktime (zone.localtime (f + 1)) ≠ f := by
  unfold mktime localtime
  rw [timegm_gmtime]
  intro h
  by_cases hall : ∀ v, v + zone.offset v = f + 1 + zone.offset (f + 1) → zone.isDst v = true
  · obtain ⟨saving, -, hoffset⟩ := zone.daylight (f + 1) hall
    unfold wallClock at h
    omega
  · push Not at hall
    obtain ⟨w, hw, hstd⟩ := hall
    obtain ⟨v, -, hv, hoffset⟩ := zone.standard w (Bool.eq_false_of_not_eq_true hstd)
    rw [hw] at hoffset hv
    have hvf : v = f := by
      unfold wallClock at h
      omega
    have hsame : f + 1 = f := hf (f + 1) (by unfold wallClock; rw [← hv, hvf])
    omega

end TimeZone

/-- The conversion to nanoseconds tells near seconds apart. -/
lemma eq_of_fromTimeT {m f : ℤ} (hnear : |m - f| ≤ 1209601) (h : fromTimeT m = f * second) :
    m = f := by
  have hmod : m * second % (2 ^ 64 : ℕ) = f * second % (2 ^ 64 : ℕ) := by
    rw [← h]
    exact Int.bmod_emod.symm
  have hdvd : ((2 ^ 64 : ℕ) : ℤ) ∣ (m - f) * second := by
    rw [sub_mul]
    exact Int.dvd_of_emod_eq_zero (Int.emod_eq_emod_iff_emod_sub_eq_zero.mp hmod)
  have hlt : |(m - f) * second| < (2 ^ 64 : ℕ) := by
    rw [abs_mul]
    exact (Int.mul_le_mul_of_nonneg_right hnear (abs_nonneg second)).trans_lt (by decide)
  have hzero := Int.eq_zero_of_abs_lt_dvd hdvd hlt
  exact sub_eq_zero.mp ((mul_eq_zero.mp hzero).resolve_right (by decide))

lemma fromTimeT_of_range {f : ℤ} (hlow : -2 ^ 63 ≤ f * second) (hhigh : f * second < 2 ^ 63) :
    fromTimeT f = f * second :=
  Int.bmod_eq_of_le hlow hhigh

/-- What is read, whatever follows the text. -/
lemma parseMysqlTime_formatTimestamp (ht : -2 ^ 63 ≤ t ∧ t < 2 ^ 63) (fraction : String) :
    parseMysqlTime zone.mktime (formatTimestamp zone.localtime t ++ fraction) =
      fromTimeT (zone.mktime (zone.localtime (t.tdiv second))) := by
  have hoffset := abs_le.mp (zone.offset_le (t.tdiv second))
  have hrange : (-9223372036854775808 : ℤ) ≤ t ∧ (9223372036854775808 : ℤ) > t := ht
  have hquot : -9223372037 ≤ t.tdiv second ∧ t.tdiv second ≤ 9223372037 := by
    rw [Int.tdiv_eq_ediv, show second.sign = 1 from rfl]
    unfold second
    split_ifs <;> omega
  have hprint : (zone.localtime (t.tdiv second)).Printable := by
    apply printable_gmtime
    all_goals
      unfold TimeZone.wallClock
      omega
  exact congrArg (fun tm => fromTimeT (zone.mktime tm)) (getTime_formatTm hprint fraction _)

/-- **When the instant read is the instant written.** For every zone, every 64-bit instant whose
local time no other instant shares, and whatever follows the text, the instant is read back, cut to
the second, exactly when daylight-saving time is not in force and, for an instant before the epoch,
there is no fraction of a second.

**Proof sketch.** The text determines the local time. `mktime` takes it for standard time, which is
off by the saving if it is not. Before the epoch `to_time_t` cuts a fraction upwards, to a second
whose local time is another one. -/
theorem parseMysqlTime_formatTimestamp_iff (zone : TimeZone) (t : Time)
    (ht : -2 ^ 63 ≤ t ∧ t < 2 ^ 63) (hlocal : zone.Unambiguous (t / second)) (fraction : String) :
    parseMysqlTime zone.mktime (formatTimestamp zone.localtime t ++ fraction) =
        t / second * second ↔
      zone.isDst (t.tdiv second) = false ∧ (0 ≤ t ∨ second ∣ t) := by
  have hsecond : (0 : ℤ) < second := by decide
  rw [parseMysqlTime_formatTimestamp ht, Int.tdiv_eq_ediv]
  split_ifs with hwhole
  · have hle : t / second * second ≤ t := Int.ediv_mul_le t hsecond.ne'
    have hge : -2 ^ 63 ≤ t / second * second := by
      rcases hwhole with h0 | hdvd
      · have hpos : 0 ≤ t / second * second :=
          Int.mul_nonneg (Int.ediv_nonneg h0 hsecond.le) hsecond.le
        exact le_trans (by decide) hpos
      · rw [Int.ediv_mul_cancel hdvd]
        exact ht.1
    rw [add_zero, and_iff_left hwhole, ← TimeZone.mktime_localtime_iff hlocal]
    have hnear := TimeZone.abs_mktime_localtime_sub_le zone (t / second)
    refine ⟨eq_of_fromTimeT (hnear.trans (by decide)), fun h => ?_⟩
    rw [h, fromTimeT_of_range hge (hle.trans_lt ht.2)]
  · rw [show second.sign = 1 from rfl]
    refine iff_of_false (fun h => ?_) fun h => hwhole h.2
    have hnear := abs_le.mp (TimeZone.abs_mktime_localtime_sub_le zone (t / second + 1))
    refine TimeZone.mktime_localtime_succ_ne hlocal (eq_of_fromTimeT (abs_le.mpr ?_) h)
    omega

/-- Universal time. -/
def utc : TimeZone where
  offset _ := 0
  isDst _ := false
  standardOffset _ := 0
  offset_le _ := by decide
  standardOffset_le _ := by decide
  standard t _ := ⟨t, rfl, rfl, rfl⟩
  daylight t h := absurd (h t rfl) Bool.false_ne_true

/-- Half a second past the epoch is read as the epoch. -/
theorem epoch_half_past :
    parseMysqlTime utc.mktime (formatTimestamp utc.localtime 500000000 ++ ".500000") =
        (500000000 : Time) / second * second ↔
      utc.isDst ((500000000 : Time).tdiv second) = false ∧
        (0 ≤ (500000000 : Time) ∨ second ∣ 500000000) :=
  parseMysqlTime_formatTimestamp_iff utc 500000000 (by decide)
    (fun v hv => by simpa [TimeZone.wallClock, utc, second] using hv) ".500000"

/-- Central European time in 2024: summer time lasts from 31 March to 27 October, each time until
01:00 of universal time. -/
def centralEurope : TimeZone where
  offset t := if 1711846800 ≤ t ∧ t < 1729990800 then 7200 else 3600
  isDst t := 1711846800 ≤ t ∧ t < 1729990800
  standardOffset _ := 3600
  offset_le t := by split_ifs <;> decide
  standardOffset_le _ := by decide
  standard t h := by
    refine ⟨t, h, rfl, ?_⟩
    rw [if_neg (of_decide_eq_false h)]
  daylight t h := by
    refine ⟨60, by decide, ?_⟩
    rw [if_pos (of_decide_eq_true (h t rfl))]
    rfl

/-- In summer time it is one hour later: noon of 1 July is read as one in the afternoon. -/
theorem summer_noon_late :
    centralEurope.Unambiguous (1719828000 * second / second) ∧
      parseMysqlTime centralEurope.mktime
          (formatTimestamp centralEurope.localtime (1719828000 * second)) =
        (1719828000 + 3600) * second := by
  refine ⟨fun v hv => ?_, by decide +kernel⟩
  rw [Int.mul_ediv_cancel _ (by decide)] at hv ⊢
  unfold TimeZone.wallClock centralEurope at hv
  dsimp only at hv
  split_ifs at hv <;> omega

end Monitor
