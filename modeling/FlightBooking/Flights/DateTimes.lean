import FlightBooking.Flights.SearchCursor

/-!
Date-times with an offset: the texts `tryParseUtcIso` accepts, and the instants they
name.

A text is read into fields; the fields name an instant if the calendar has their date
and the clock their time. What an instant's fields with an offset are written as is read
back (`tryParseUtcIso_text`).
-/

namespace FlightBooking

open Numeral Calendar

/-! ### Reading -/

/-- The fields of an ISO date-time with its offset from UTC. -/
structure OffsetDateTime where
  year : Nat
  month : Nat
  day : Nat
  hour : Nat
  minute : Nat
  second : Nat
  millisecond : Nat
  ahead : Bool
  offsetHour : Nat
  offsetMinute : Nat
  deriving DecidableEq, Repr

/-- `(?:\.\d{1,3})?`, as milliseconds. -/
def readMilliseconds : List Char → Option (Nat × List Char)
  | '.' :: rest =>
      let digits := rest.takeWhile Char.isDigit
      if 1 ≤ digits.length ∧ digits.length ≤ 3 then
        some (Nat.ofDigitChars 10 digits 0 * 10 ^ (3 - digits.length), rest.drop digits.length)
      else none
  | text => some (0, text)

/-- `(Z|[+-]\d{2}:\d{2})$`: whether the clocks are ahead of UTC, and how far off. -/
def readOffset : List Char → Option (Bool × Nat × Nat)
  | [] => none
  | sign :: text =>
      if sign = 'Z' then if text = [] then some (true, 0, 0) else none
      else if sign = '+' ∨ sign = '-' then do
        let (hour, text) ← readField 10 2 text
        let (minute, text) ← readField 10 2 (← behind ':' text)
        if text = [] then some (sign = '+', hour, minute) else none
      else none

/-- `ISO_DATETIME_WITH_TZ`, with its fields. -/
def readDateTime (text : List Char) : Option OffsetDateTime := do
  let (year, text) ← readField 10 4 text
  let (month, text) ← readField 10 2 (← behind '-' text)
  let (day, text) ← readField 10 2 (← behind '-' text)
  let (hour, text) ← readField 10 2 (← behind 'T' text)
  let (minute, text) ← readField 10 2 (← behind ':' text)
  let (second, text) ← readField 10 2 (← behind ':' text)
  let (millisecond, text) ← readMilliseconds text
  let (ahead, offsetHour, offsetMinute) ← readOffset text
  some { year, month, day, hour, minute, second, millisecond, ahead, offsetHour, offsetMinute }

def isLeapYear (year : Nat) : Bool := year % 4 = 0 && year % 100 ≠ 0 || year % 400 = 0

def daysInMonth (year month : Nat) : Nat :=
  if month = 2 then if isLeapYear year then 29 else 28
  else if month = 4 ∨ month = 6 ∨ month = 9 ∨ month = 11 then 30
  else 31

def OffsetDateTime.date (t : OffsetDateTime) : CivilDate := ⟨t.year, t.month, t.day⟩

/-- How far the clocks are ahead of UTC. -/
def OffsetDateTime.offsetMinutes (t : OffsetDateTime) : Int :=
  if t.ahead then t.offsetHour * 60 + t.offsetMinute else -(t.offsetHour * 60 + t.offsetMinute)

/-- `getTime()`. -/
def OffsetDateTime.instant (t : OffsetDateTime) : Instant :=
  t.date.days * DAY_MS + t.hour * 3600000 + t.minute * 60000 + t.second * 1000 + t.millisecond -
    t.offsetMinutes * 60000

/-- The calendar has the date, the clock the time, and `Date` takes the offset. -/
def OffsetDateTime.IsDate (t : OffsetDateTime) : Prop :=
  1 ≤ t.month ∧ t.month ≤ 12 ∧ 1 ≤ t.day ∧ t.day ≤ daysInMonth t.year t.month ∧ t.hour ≤ 23 ∧
    t.minute ≤ 59 ∧ t.second ≤ 59 ∧ t.offsetHour ≤ 23 ∧ t.offsetMinute ≤ 59

instance (t : OffsetDateTime) : Decidable t.IsDate :=
  inferInstanceAs (Decidable (_ ∧ _ ∧ _ ∧ _ ∧ _ ∧ _ ∧ _ ∧ _ ∧ _))

/-- The instant a text names; it is passed on as its `toISOString`. -/
def tryParseUtcIso (value : List Char) : Option Instant :=
  (readDateTime value).bind fun t => if t.IsDate then some t.instant else none

/-! ### Writing -/

/-- Its text to the second: `YYYY-MM-DDTHH:mm:ss±HH:mm`. -/
def OffsetDateTime.text (t : OffsetDateTime) : List Char :=
  numeral 10 4 t.year ++
    '-' :: (numeral 10 2 t.month ++
      '-' :: (numeral 10 2 t.day ++
        'T' :: (numeral 10 2 t.hour ++
          ':' :: (numeral 10 2 t.minute ++
            ':' :: (numeral 10 2 t.second ++
              (if t.ahead then '+' else '-') ::
                (numeral 10 2 t.offsetHour ++ ':' :: numeral 10 2 t.offsetMinute))))))

theorem daysInMonth_le (year month : Nat) : daysInMonth year month ≤ 31 := by
  unfold daysInMonth
  split_ifs <;> omega

theorem readOffset_sign {ahead : Bool} {hour minute : Nat} (isHour : hour < 10 ^ 2)
    (isMinute : minute < 10 ^ 2) :
    readOffset ((if ahead then '+' else '-') :: (numeral 10 2 hour ++ ':' :: numeral 10 2 minute)) =
      some (ahead, hour, minute) := by
  have ten : 10 ≤ 16 := by decide
  have last := readField_numeral ten isMinute []
  rw [List.append_nil] at last
  cases ahead <;>
    simp [readOffset, readField_numeral ten isHour, last]

/-- What is written is read back. -/
theorem readDateTime_text {t : OffsetDateTime} (isDate : t.IsDate) (isYear : t.year < 10 ^ 4)
    (whole : t.millisecond = 0) : readDateTime t.text = some t := by
  obtain ⟨-, month, -, day, hour, minute, second, offsetHour, offsetMinute⟩ := isDate
  have days := daysInMonth_le t.year t.month
  have ten : 10 ≤ 16 := by decide
  have isMonth : t.month < 10 ^ 2 := by omega
  have isDay : t.day < 10 ^ 2 := by omega
  have isHour : t.hour < 10 ^ 2 := by omega
  have isMinute : t.minute < 10 ^ 2 := by omega
  have isSecond : t.second < 10 ^ 2 := by omega
  have offset := @readOffset_sign t.ahead t.offsetHour t.offsetMinute (by omega) (by omega)
  have noFraction : ∀ rest, readMilliseconds ((if t.ahead then '+' else '-') :: rest) =
      some (0, (if t.ahead then '+' else '-') :: rest) := by
    intro rest
    cases t.ahead <;> rfl
  simp only [OffsetDateTime.text, readDateTime, readField_numeral ten isYear,
    readField_numeral ten isMonth, readField_numeral ten isDay, readField_numeral ten isHour,
    readField_numeral ten isMinute, readField_numeral ten isSecond, behind_cons, noFraction, offset,
    Option.bind_eq_bind, Option.bind_some]
  rw [← whole]

/-- A date's midnight in UTC is the date's first instant. -/
theorem tryParseUtcIso_midnight {year month day : Nat} (isYear : year < 10 ^ 4)
    (first : 1 ≤ month ∧ 1 ≤ day) (last : month ≤ 12 ∧ day ≤ daysInMonth year month) :
    tryParseUtcIso (numeral 10 4 year ++
        '-' :: (numeral 10 2 month ++ '-' :: (numeral 10 2 day ++ "T00:00:00Z".toList))) =
      some ((⟨year, month, day⟩ : CivilDate).days * DAY_MS) := by
  have days := daysInMonth_le year month
  have ten : 10 ≤ 16 := by decide
  have isMonth : month < 10 ^ 2 := by omega
  have isDay : day < 10 ^ 2 := by omega
  have small : 0 < 10 ^ 2 := by decide
  have zero : ∀ rest, readField 10 2 ('0' :: '0' :: rest) = some (0, rest) :=
    readField_numeral ten small
  have midnight : "T00:00:00Z".toList = ['T', '0', '0', ':', '0', '0', ':', '0', '0', 'Z'] := rfl
  have offset : readMilliseconds ['Z'] = some (0, ['Z']) ∧ readOffset ['Z'] = some (true, 0, 0) :=
    ⟨rfl, rfl⟩
  simp only [tryParseUtcIso, readDateTime, readField_numeral ten isYear,
    readField_numeral ten isMonth, readField_numeral ten isDay, midnight, behind_cons, zero, offset,
    Option.bind_eq_bind, Option.bind_some]
  rw [if_pos ⟨first.1, last.1, first.2, last.2, Nat.zero_le _, Nat.zero_le _, Nat.zero_le _,
    Nat.zero_le _, Nat.zero_le _⟩]
  simp [OffsetDateTime.instant, OffsetDateTime.offsetMinutes, OffsetDateTime.date]

theorem tryParseUtcIso_text {t : OffsetDateTime} (isDate : t.IsDate) (isYear : t.year < 10 ^ 4)
    (whole : t.millisecond = 0) : tryParseUtcIso t.text = some t.instant := by
  rw [tryParseUtcIso, readDateTime_text isDate isYear whole, Option.bind_some, if_pos isDate]

/-! ### The calendar of the checks -/

theorem daysInMonth_eq (year month : Nat) : (daysInMonth year month : Int) = monthLength year month := by
  unfold daysInMonth monthLength
  have leap : isLeapYear year = true ↔ Leap year := by
    simp only [isLeapYear, Leap, Bool.or_eq_true, Bool.and_eq_true, decide_eq_true_eq]
    omega
  simp only [leap]
  split_ifs <;> omega

end FlightBooking
