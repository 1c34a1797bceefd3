import Mathlib.Order.Lattice
import Mathlib.Tactic.Common

set_option relaxedAutoImplicit false
set_option autoImplicit false

/-!
# The Gregorian calendar

Dates of the proleptic Gregorian calendar and the number of days since 1 January 1970. The
computation counts years from 1 March, so that the leap day is the last day of a year.

## Main definitions

* `Gregorian.Date` — a date whose month and day are in range.
* `Gregorian.dateOfDays` — the date of a day.
* `Gregorian.daysOfDate` — the day of a date.

## Main results

* `Gregorian.daysOfDate_dateOfDays` — the date of a day determines the day.
* `Gregorian.year_dateOfDays` — the years of days near the epoch.
-/

namespace Gregorian

/-- A date, with months and days counted from `0`. -/
structure Date where
  year : ℤ
  month : Fin 12
  day : Fin 31
  deriving DecidableEq, Repr

/-- The day on which a year begins, for years from 1 March and days from 1 March of year `0`. -/
def yearStart (year : ℤ) : ℤ := 365 * year + year / 4 - year / 100 + year / 400

/-- The day of the year on which a month begins, both counted from March. -/
def monthStart (month : ℕ) : ℕ := (153 * month + 2) / 5

/-- The days from 1 March of year `0` to 1 January 1970. -/
def epoch : ℤ := 719468

/-- The day of a date. Months beyond the twelfth count as months of later years. -/
def daysOfDate (year : ℤ) (month day : ℕ) : ℤ :=
  yearStart (year + (month + 10) / 12 - 1) + monthStart ((month + 10) % 12) + day - epoch

lemma daysOfDate_add_one (year : ℤ) (month day : ℕ) :
    daysOfDate year month (day + 1) = daysOfDate year month day + 1 := by
  unfold daysOfDate
  omega

/-- The year from 1 March that a day is in, for days from 1 March of year `0`: within 400 years,
then within the century, within four years, and last the year. -/
def yearOfDay (n : ℤ) : ℤ :=
  let century := min (n % 146097 / 36524) 3
  let rest := n % 146097 - 36524 * century
  400 * (n / 146097) + 100 * century + 4 * (rest / 1461) + min (rest % 1461 / 365) 3

lemma yearStart_eq {era century four y : ℤ} (hcentury : 0 ≤ century ∧ century ≤ 3)
    (hfour : 0 ≤ four ∧ four ≤ 24) (hy : 0 ≤ y ∧ y ≤ 3) :
    yearStart (400 * era + 100 * century + 4 * four + y) =
      146097 * era + 36524 * century + 1461 * four + 365 * y := by
  have h4 : (400 * era + 100 * century + 4 * four + y) / 4 = 100 * era + 25 * century + four := by
    omega
  have h100 : (400 * era + 100 * century + 4 * four + y) / 100 = 4 * era + century := by omega
  have h400 : (400 * era + 100 * century + 4 * four + y) / 400 = era := by omega
  rw [yearStart, h4, h100, h400]
  omega

/-- A day lies in the year found for it. -/
lemma yearStart_yearOfDay (n : ℤ) :
    yearStart (yearOfDay n) ≤ n ∧ n ≤ yearStart (yearOfDay n) + 365 := by
  unfold yearOfDay
  dsimp only
  have hr : 0 ≤ n % 146097 ∧ n % 146097 < 146097 := by omega
  have hn : n = 146097 * (n / 146097) + n % 146097 := by omega
  generalize n % 146097 = r at *
  generalize n / 146097 = era at *
  have hc : 0 ≤ min (r / 36524) 3 ∧ min (r / 36524) 3 ≤ 3 ∧ 36524 * min (r / 36524) 3 ≤ r ∧
      r ≤ 36524 * min (r / 36524) 3 + 36524 := by omega
  generalize min (r / 36524) 3 = century at *
  have hq : 0 ≤ r - 36524 * century ∧ r - 36524 * century ≤ 36524 := by omega
  generalize hrest : r - 36524 * century = rest at *
  have hfour : 0 ≤ rest / 1461 ∧ rest / 1461 ≤ 24 := by omega
  have hy : 0 ≤ min (rest % 1461 / 365) 3 ∧ min (rest % 1461 / 365) 3 ≤ 3 := by omega
  rw [yearStart_eq ⟨hc.1, hc.2.1⟩ hfour hy]
  omega

/-- The days from the beginning of its year, from 1 March, to a day. -/
def dayOfYear (n : ℤ) : ℕ := (n - yearStart (yearOfDay n)).toNat

lemma yearStart_add_dayOfYear (n : ℤ) : yearStart (yearOfDay n) + dayOfYear n = n := by
  have h := yearStart_yearOfDay n
  unfold dayOfYear
  omega

lemma dayOfYear_le (n : ℤ) : dayOfYear n ≤ 365 := by
  have h := yearStart_yearOfDay n
  unfold dayOfYear
  omega

/-- The month, counted from March, of a day of the year. -/
def monthOfDay (d : ℕ) : ℕ := (5 * d + 2) / 153

/-- A day of the year lies in the month found for it, which has at most 31 days. -/
lemma monthStart_monthOfDay (d : ℕ) :
    monthStart (monthOfDay d) ≤ d ∧ d < monthStart (monthOfDay d) + 31 := by
  unfold monthStart monthOfDay
  omega

lemma monthOfDay_lt {d : ℕ} (h : d ≤ 365) : monthOfDay d < 12 := by
  unfold monthOfDay
  omega

/-- The date of a day: January and February belong to the year that began in March before. -/
def dateOfDays (z : ℤ) : Date :=
  let n := z + epoch
  let d := dayOfYear n
  { year := yearOfDay n + (monthOfDay d + 2) / 12
    month := ⟨(monthOfDay d + 2) % 12, Nat.mod_lt _ (by decide)⟩
    day := ⟨d - monthStart (monthOfDay d),
      Nat.sub_lt_left_of_lt_add (monthStart_monthOfDay d).1 (monthStart_monthOfDay d).2⟩ }

/-- **The date of a day determines the day.** -/
theorem daysOfDate_dateOfDays (z : ℤ) :
    daysOfDate (dateOfDays z).year (dateOfDays z).month (dateOfDays z).day = z := by
  have hday := yearStart_add_dayOfYear (z + epoch)
  have hmonth := monthOfDay_lt (dayOfYear_le (z + epoch))
  have hstart := (monthStart_monthOfDay (dayOfYear (z + epoch))).1
  unfold daysOfDate dateOfDays
  dsimp only
  generalize dayOfYear (z + epoch) = d at *
  generalize monthOfDay d = m at *
  have hm : ((m + 2) % 12 + 10) % 12 = m := by omega
  have hyear : ∀ y : ℤ, y + ((m : ℤ) + 2) / 12 + ((((m + 2) % 12 : ℕ) : ℤ) + 10) / 12 - 1 = y := by
    omega
  rw [hm, hyear]
  omega

/-- The last day of February 2024. -/
example : dateOfDays 19782 = ⟨2024, 1, 28⟩ := by decide

/-- The three centuries on either side of the epoch lie in the years from 1600 to 2400. -/
lemma year_dateOfDays {z : ℤ} (hlow : -110000 ≤ z) (hhigh : z ≤ 110000) :
    1600 ≤ (dateOfDays z).year ∧ (dateOfDays z).year ≤ 2400 := by
  have hmonth := monthOfDay_lt (dayOfYear_le (z + epoch))
  unfold dateOfDays yearOfDay epoch at *
  dsimp only
  omega

end Gregorian
