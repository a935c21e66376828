import FlightBooking.Library.Numeral

/-!
The Gregorian calendar, extended to all years.

A date is a day number, counted from 1970-01-01, or a year, a month and a day. The
years start in March, so that the day that leap years have is the last of its year
(`days_civilDate`).
-/

namespace Calendar

open Numeral

structure CivilDate where
  year : Int
  month : Int
  day : Int
  deriving DecidableEq, Repr

/-- The day number of a date. -/
def CivilDate.days (date : CivilDate) : Int :=
  let year := if date.month ≤ 2 then date.year - 1 else date.year
  let month := if date.month ≤ 2 then date.month + 9 else date.month - 3
  let ofEra := year % 400
  year / 400 * 146097 + (ofEra * 365 + ofEra / 4 - ofEra / 100) + ((153 * month + 2) / 5 + date.day - 1)
    - 719468

/-- The year of a day of a 400-year era, and the day in that year: whole centuries, then
leap cycles, then years. The last century and the last year of a cycle are a day longer. -/
def yearOfEra (day : Int) : Int × Int :=
  let century := if day / 36524 < 4 then day / 36524 else 3
  let ofCentury := day - century * 36524
  let cycle := ofCentury / 1461
  let ofCycle := ofCentury % 1461
  let year := if ofCycle / 365 < 4 then ofCycle / 365 else 3
  (century * 100 + cycle * 4 + year, ofCycle - year * 365)

/-- The date of a day number. -/
def civilDate (days : Int) : CivilDate :=
  let (year, ofYear) := yearOfEra ((days + 719468) % 146097)
  let month := (5 * ofYear + 2) / 153
  { year := (days + 719468) / 146097 * 400 + year + if month < 10 then 0 else 1
    month := if month < 10 then month + 3 else month - 9
    day := ofYear - (153 * month + 2) / 5 + 1 }

/-- The calendar has the date. -/
def CivilDate.Exists (date : CivilDate) : Prop := civilDate date.days = date

instance (date : CivilDate) : Decidable date.Exists :=
  inferInstanceAs (Decidable (civilDate date.days = date))

/-- The leap days of the years before one of an era. -/
theorem leapDays (century : Int) {cycle year : Int} (cycleFirst : 0 ≤ cycle)
    (cycleLast : cycle < 25) (first : 0 ≤ year) (last : year < 4) :
    (century * 100 + cycle * 4 + year) / 4 = century * 25 + cycle ∧
      (century * 100 + cycle * 4 + year) / 100 = century := by
  omega

/-- A day of an era lies in its year. -/
theorem yearOfEra_spec {day : Int} (first : 0 ≤ day) (last : day < 146097) :
    ∃ year ofYear, yearOfEra day = (year, ofYear) ∧ 0 ≤ year ∧ year < 400 ∧ 0 ≤ ofYear ∧
      ofYear < 366 ∧ year * 365 + year / 4 - year / 100 + ofYear = day := by
  refine ⟨_, _, rfl, ?_⟩
  generalize isCentury : (if day / 36524 < 4 then day / 36524 else 3) = century
  have century_spec : 0 ≤ century ∧ century < 4 ∧ 0 ≤ day - century * 36524 ∧
      day - century * 36524 < 36525 := by
    split at isCentury <;> omega
  generalize isRest : (day - century * 36524) % 1461 = rest
  generalize isCycle : (day - century * 36524) / 1461 = cycle
  have cycle_spec : 0 ≤ cycle ∧ cycle < 25 ∧ 0 ≤ rest ∧ rest < 1461 ∧
      day = century * 36524 + cycle * 1461 + rest := by omega
  generalize isYear : (if rest / 365 < 4 then rest / 365 else 3) = year
  have year_spec : 0 ≤ year ∧ year < 4 ∧ 0 ≤ rest - year * 365 ∧ rest - year * 365 < 366 := by
    split at isYear <;> omega
  obtain ⟨quarter, hundredth⟩ := leapDays century cycle_spec.1 cycle_spec.2.1 year_spec.1
    year_spec.2.1
  rw [quarter, hundredth]
  omega

theorem civilDate_of {days year ofYear : Int}
    (split : yearOfEra ((days + 719468) % 146097) = (year, ofYear)) :
    civilDate days =
      { year := (days + 719468) / 146097 * 400 + year + if (5 * ofYear + 2) / 153 < 10 then 0 else 1
        month := if (5 * ofYear + 2) / 153 < 10 then (5 * ofYear + 2) / 153 + 3
          else (5 * ofYear + 2) / 153 - 9
        day := ofYear - (153 * ((5 * ofYear + 2) / 153) + 2) / 5 + 1 } := by
  rw [civilDate, split]

/-- Every day number is that of its date. -/
theorem days_civilDate (days : Int) : (civilDate days).days = days := by
  obtain ⟨year, ofYear, split, yearFirst, yearLast, first, last, sum⟩ := yearOfEra_spec
    (Int.emod_nonneg (days + 719468) (by decide : (146097 : Int) ≠ 0))
    (Int.emod_lt_of_pos (days + 719468) (by decide))
  have era := Int.emod_add_mul_ediv (days + 719468) 146097
  generalize isMonth : (5 * ofYear + 2) / 153 = month
  have inYear : 0 ≤ month ∧ month < 12 := by omega
  rw [civilDate_of split, CivilDate.days, isMonth]
  generalize (days + 719468) / 146097 = eras at era ⊢
  have eraOf : (eras * 400 + year) / 400 = eras := by omega
  have yearOf : (eras * 400 + year) % 400 = year := by omega
  by_cases spring : month < 10
  · simp only [if_pos spring, if_neg (show ¬ month + 3 ≤ 2 by omega), Int.add_zero,
      Int.add_sub_cancel, eraOf, yearOf]
    omega
  · simp only [if_neg spring, if_pos (show month - 9 ≤ 2 by omega), Int.add_sub_cancel,
      Int.sub_add_cancel, eraOf, yearOf]
    omega

theorem civilDate_exists (days : Int) : (civilDate days).Exists := by
  rw [CivilDate.Exists, days_civilDate]

/-- A date has one of twelve months and one of at most 31 days. -/
theorem civilDate_bounds (days : Int) :
    1 ≤ (civilDate days).month ∧ (civilDate days).month ≤ 12 ∧
      1 ≤ (civilDate days).day ∧ (civilDate days).day ≤ 31 := by
  obtain ⟨year, ofYear, split, yearFirst, yearLast, first, last, sum⟩ := yearOfEra_spec
    (Int.emod_nonneg (days + 719468) (by decide : (146097 : Int) ≠ 0))
    (Int.emod_lt_of_pos (days + 719468) (by decide))
  rw [civilDate_of split]
  simp only
  split <;> omega

/-- The year has a 29th of February. -/
def Leap (year : Int) : Prop := year % 4 = 0 ∧ year % 100 ≠ 0 ∨ year % 400 = 0

instance (year : Int) : Decidable (Leap year) := inferInstanceAs (Decidable (_ ∧ _ ∨ _))

def monthLength (year month : Int) : Int :=
  if month = 2 then if Leap year then 29 else 28
  else if month = 4 ∨ month = 6 ∨ month = 9 ∨ month = 11 then 30
  else 31

/-- The day that leap years have is at the end of a year before a leap year. -/
theorem leap_of_last_day {day : Int} (first : 0 ≤ day) (last : day < 146097)
    (extra : (yearOfEra day).2 = 365) : Leap ((yearOfEra day).1 + 1) := by
  unfold yearOfEra at extra ⊢
  dsimp only at extra ⊢
  generalize isCentury : (if day / 36524 < 4 then day / 36524 else 3) = century at extra ⊢
  generalize isCycle : (day - century * 36524) / 1461 = cycle at extra ⊢
  generalize isRest : (day - century * 36524) % 1461 = rest at extra ⊢
  generalize isYear : (if rest / 365 < 4 then rest / 365 else 3) = year at extra ⊢
  -- Only the fourth year of a cycle has 366 days, and the last cycle of a century only
  -- if the century is the last of its era.
  have third : year = 3 ∧ rest = 1460 := by
    split at isYear <;> omega
  have century_spec : 0 ≤ century ∧ century ≤ 3 ∧ (century < 3 → day - century * 36524 < 36524) := by
    split at isCentury <;> omega
  have cycle_spec : 0 ≤ cycle ∧ cycle ≤ 24 ∧ (cycle = 24 → century = 3) := by omega
  unfold Leap
  omega

/-- Its day is one of its month. -/
theorem civilDate_day (days : Int) :
    (civilDate days).day ≤ monthLength (civilDate days).year (civilDate days).month := by
  have lower := Int.emod_nonneg (days + 719468) (by decide : (146097 : Int) ≠ 0)
  have upper := Int.emod_lt_of_pos (days + 719468) (by decide : (0 : Int) < 146097)
  obtain ⟨year, ofYear, split, yearFirst, yearLast, first, last, sum⟩ := yearOfEra_spec lower upper
  have leap := leap_of_last_day lower upper
  rw [split] at leap
  rw [civilDate_of split]
  generalize (days + 719468) / 146097 = era
  generalize isMonth : (5 * ofYear + 2) / 153 = month
  unfold monthLength
  dsimp only at leap ⊢
  by_cases spring : month < 10
  · simp only [if_pos spring]
    split_ifs <;> omega
  · simp only [if_neg spring]
    by_cases february : month = 11
    · subst february
      by_cases extra : ofYear = 365
      · have isLeap : Leap (era * 400 + year + 1) := by
          have own := leap extra
          unfold Leap at own ⊢
          omega
        simp only [isLeap, if_true]
        split_ifs <;> omega
      · split_ifs <;> omega
    · split_ifs <;> omega

/-- A date comes before another: by the years, the months, then the days. -/
def CivilDate.Before (earlier later : CivilDate) : Prop :=
  earlier.year < later.year ∨ earlier.year = later.year ∧
    (earlier.month < later.month ∨ earlier.month = later.month ∧ earlier.day < later.day)

/-- The days before the March that begins a year. -/
def daysBefore (year : Int) : Int :=
  year / 400 * 146097 + (year % 400 * 365 + year % 400 / 4 - year % 400 / 100)

/-- A year ends with the February of the next one. -/
theorem daysBefore_succ (year : Int) :
    daysBefore (year + 1) = daysBefore year + if Leap (year + 1) then 366 else 365 := by
  unfold daysBefore
  have next : year % 400 = 399 ∧ (year + 1) / 400 = year / 400 + 1 ∧ (year + 1) % 400 = 0 ∨
      year % 400 < 399 ∧ (year + 1) / 400 = year / 400 ∧ (year + 1) % 400 = year % 400 + 1 := by
    omega
  split
  · next leap =>
      unfold Leap at leap
      omega
  · next leap =>
      unfold Leap at leap
      omega

theorem daysBefore_mono (year : Int) (n : Nat) : daysBefore year ≤ daysBefore (year + n) := by
  induction n with
  | zero => exact Int.le_of_eq (by rw [Int.natCast_zero, Int.add_zero])
  | succ n ih =>
      have next := daysBefore_succ (year + n)
      rw [Int.natCast_succ, ← Int.add_assoc, next]
      split <;> omega

/-- The month of the year that starts in March. -/
def CivilDate.monthFromMarch (date : CivilDate) : Int :=
  if date.month ≤ 2 then date.month + 9 else date.month - 3

/-- The day of the year that starts in March. -/
def CivilDate.ofYear (date : CivilDate) : Int := (153 * date.monthFromMarch + 2) / 5 + date.day - 1

theorem CivilDate.days_eq (date : CivilDate) :
    date.days = daysBefore (if date.month ≤ 2 then date.year - 1 else date.year) + date.ofYear -
      719468 := rfl

/-- A date of a month: the month ends before the next one, or in February with the year. -/
theorem CivilDate.ofYear_le {date : CivilDate} (month : 1 ≤ date.month ∧ date.month ≤ 12)
    (day : date.day ≤ monthLength date.year date.month) :
    date.monthFromMarch ≤ 10 ∧ date.ofYear < (153 * (date.monthFromMarch + 1) + 2) / 5 ∨
      date.month = 2 ∧ (date.ofYear < 365 ∨ date.ofYear = 365 ∧ Leap date.year) := by
  unfold ofYear monthFromMarch
  unfold monthLength at day
  split at day
  · next february =>
      rw [if_pos (by omega)]
      split at day
      · next leap =>
          right
          simp only [leap, and_true]
          omega
      · omega
  · have months : date.month = 1 ∨ date.month = 3 ∨ date.month = 4 ∨ date.month = 5 ∨
        date.month = 6 ∨ date.month = 7 ∨ date.month = 8 ∨ date.month = 9 ∨ date.month = 10 ∨
        date.month = 11 ∨ date.month = 12 := by omega
    rcases months with is | is | is | is | is | is | is | is | is | is | is <;>
      rw [is] at day ⊢ <;>
      simp at day ⊢ <;>
      omega

/-- The later of two dates has the greater day number. -/
theorem CivilDate.Before.days_lt {earlier later : CivilDate} (h : earlier.Before later)
    (month : 1 ≤ earlier.month ∧ earlier.month ≤ 12) (month' : 1 ≤ later.month ∧ later.month ≤ 12)
    (day : earlier.day ≤ monthLength earlier.year earlier.month) (day' : 1 ≤ later.day) :
    earlier.days < later.days := by
  have length := ofYear_le month day
  have first : 0 ≤ later.ofYear ∧ (153 * later.monthFromMarch + 2) / 5 ≤ later.ofYear := by
    unfold ofYear monthFromMarch
    split <;> omega
  rw [days_eq, days_eq]
  unfold Before at h
  generalize isYear : (if earlier.month ≤ 2 then earlier.year - 1 else earlier.year) = year
  generalize isYear' : (if later.month ≤ 2 then later.year - 1 else later.year) = year'
  have isMonth : earlier.monthFromMarch = if earlier.month ≤ 2 then earlier.month + 9
      else earlier.month - 3 := rfl
  have isMonth' : later.monthFromMarch = if later.month ≤ 2 then later.month + 9
      else later.month - 3 := rfl
  have years : year < year' ∨ year = year' ∧ (earlier.monthFromMarch < later.monthFromMarch ∨
      earlier.monthFromMarch = later.monthFromMarch ∧ earlier.day < later.day) := by
    split at isYear <;> split at isYear' <;> split at isMonth <;> split at isMonth' <;> omega
  obtain lt | ⟨rfl, lt | ⟨same, lt⟩⟩ := years
  · -- The earlier date is in a year that ends before that of the later one begins.
    have next := daysBefore_succ year
    have mono := daysBefore_mono (year + 1) (year' - (year + 1)).toNat
    rw [show year + 1 + (year' - (year + 1)).toNat = year' by omega] at mono
    split at next
    · omega
    · next common =>
        have short : earlier.ofYear < 365 := by
          obtain ⟨spring, short⟩ | ⟨february, short | ⟨-, leap⟩⟩ := length
          · omega
          · exact short
          · rw [if_pos (by omega)] at isYear
            rw [show year + 1 = earlier.year by omega] at common
            exact absurd leap common
        omega
  · -- In one year, the earlier month ends before the later one begins.
    have ends : earlier.ofYear < later.ofYear := by
      obtain ⟨-, short⟩ | ⟨february, -⟩ := length
      · omega
      · split at isMonth <;> split at isMonth' <;> omega
    omega
  · have order : earlier.ofYear < later.ofYear := by
      unfold ofYear
      rw [same]
      omega
    omega

/-- The years of the common era start with day -719162. -/
theorem civilDate_year {days : Int} (h : -719162 ≤ days) : 1 ≤ (civilDate days).year := by
  obtain ⟨year, ofYear, split, yearFirst, yearLast, first, last, sum⟩ := yearOfEra_spec
    (Int.emod_nonneg (days + 719468) (by decide : (146097 : Int) ≠ 0))
    (Int.emod_lt_of_pos (days + 719468) (by decide))
  have era := Int.emod_add_mul_ediv (days + 719468) 146097
  rw [civilDate_of split]
  simp only
  split <;> omega

end Calendar
