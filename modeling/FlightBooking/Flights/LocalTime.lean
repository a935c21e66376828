import FlightBooking.Flights.DateTimes
import FlightBooking.Flights.SearchDates

/-!
Local times as texts: what the application shows of an instant in a zone.

The offset of a text is recovered from the wall clock, read as if it were UTC. For the
years 100 to 9999 the text names its instant, to the second, and the days between two
local dates are counted right (`local_times_denote`).
-/

namespace FlightBooking.LocalTime

open LocalClock Numeral Calendar

/-! ### Wall clocks -/

/-- A zone as `Intl` formats it: ahead of UTC by whole minutes, and less than a day. -/
structure IntlZone extends Zone where
  minutes : ∀ u, offset u % 60 = 0
  withinDay : ∀ u, -86400 < offset u ∧ offset u < 86400

structure WallClock where
  year : Int
  month : Int
  day : Int
  hour : Int
  minute : Int
  second : Int
  deriving DecidableEq, Repr

def wallClock (instantMs : Int) (timeZone : IntlZone) : WallClock :=
  let shown := timeZone.shows (instantMs / 1000)
  let date := civilDate (shown / DAY_SECONDS)
  let second := shown % DAY_SECONDS
  { year := date.year
    month := date.month
    day := date.day
    hour := second / 3600
    minute := second / 60 % 60
    second := second % 60 }

/-- `Date.UTC`, which takes the years 0 to 99 for those of the twentieth century. -/
def WallClock.asIfUtc (local' : WallClock) : Int :=
  let year := if 0 ≤ local'.year ∧ local'.year ≤ 99 then 1900 + local'.year else local'.year
  (⟨year, local'.month, local'.day⟩ : CivilDate).days * DAY_MS + local'.hour * 3600000 +
    local'.minute * 60000 + local'.second * 1000

/-- `Math.round` of a quotient: halves go up. -/
def roundQuotient (n d : Int) : Int := (2 * n + d) / (2 * d)

/-- `String(value).padStart(length, "0")`. -/
def pad (value : Int) (length : Nat) : List Char :=
  let text := Json.renderInt value
  List.replicate (length - text.length) '0' ++ text

/-! ### Texts -/

def WallClock.dateText (local' : WallClock) : List Char :=
  pad local'.year 4 ++ '-' :: (pad local'.month 2 ++ '-' :: pad local'.day 2)

def toLocalIso (instantMs : Instant) (timeZone : IntlZone) : List Char :=
  let wholeSecondMs := instantMs / 1000 * 1000
  let local' := wallClock wholeSecondMs timeZone
  let offsetMinutes := roundQuotient (local'.asIfUtc - wholeSecondMs) 60000
  let sign := if offsetMinutes < 0 then '-' else '+'
  let absolute : Int := offsetMinutes.natAbs
  local'.dateText ++
    'T' :: (pad local'.hour 2 ++
      ':' :: (pad local'.minute 2 ++
        ':' :: (pad local'.second 2 ++
          sign :: (pad (absolute / 60) 2 ++ ':' :: pad (absolute % 60) 2))))

def localDateOf (instantMs : Instant) (timeZone : IntlZone) : List Char :=
  (wallClock instantMs timeZone).dateText

/-- `Date.parse` of the date's midnight, in days. -/
def days (date : List Char) : Option Int :=
  (tryParseUtcIso (date ++ "T00:00:00Z".toList)).map fun instant => instant / DAY_MS

/-- How many local dates the arrival is after the departure; `none` is NaN. -/
def arrivalDayOffset (departureAt : Instant) (departureTimeZone : IntlZone) (arrivalAt : Instant)
    (arrivalTimeZone : IntlZone) : Option Int := do
  let arrival ← days (localDateOf arrivalAt arrivalTimeZone)
  let departure ← days (localDateOf departureAt departureTimeZone)
  pure (arrival - departure)

/-! ### The fields of a text -/

variable {instant : Instant} {zone : IntlZone}

/-- The local date, as a day number. -/
abbrev localDay (instant : Instant) (zone : IntlZone) : LocalDate :=
  FlightBooking.localDateOf instant zone.toZone

/-- The date a text shows. -/
abbrev localDate (instant : Instant) (zone : IntlZone) : CivilDate :=
  civilDate (localDay instant zone)

/-- The year that the clocks show has four digits, and is none `Date.UTC` changes. -/
def YearShown (instant : Instant) (zone : IntlZone) : Prop :=
  100 ≤ (wallClock instant zone).year ∧ (wallClock instant zone).year ≤ 9999

instance : Decidable (YearShown instant zone) :=
  inferInstanceAs (Decidable (_ ∧ _))

theorem pad_eq_numeral {value : Int} {width : Nat} (some : 0 < width) (natural : 0 ≤ value)
    (fits : value < (10 ^ width : Nat)) : pad value width = numeral 10 width value.toNat := by
  have same : value.natAbs = value.toNat := by omega
  rw [pad, Json.renderInt, if_neg (Int.not_lt.mpr natural), same,
    numeral_eq_padded some (by omega)]

/-- A wall clock shows its date and the time of the day. -/
theorem wallClock_bounds (instant : Instant) (zone : IntlZone) :
    let c := wallClock instant zone
    1 ≤ c.month ∧ c.month ≤ 12 ∧ 1 ≤ c.day ∧ c.day ≤ monthLength c.year c.month ∧ c.day ≤ 31 ∧
      0 ≤ c.hour ∧ c.hour ≤ 23 ∧ 0 ≤ c.minute ∧ c.minute ≤ 59 ∧ 0 ≤ c.second ∧ c.second ≤ 59 := by
  have date := civilDate_bounds (zone.shows (instant / 1000) / DAY_SECONDS)
  have length := civilDate_day (zone.shows (instant / 1000) / DAY_SECONDS)
  have seconds : DAY_SECONDS = 86400 := rfl
  have time : 0 ≤ zone.shows (instant / 1000) % DAY_SECONDS ∧
      zone.shows (instant / 1000) % DAY_SECONDS < DAY_SECONDS := by
    rw [seconds]
    omega
  simp only [wallClock]
  refine ⟨date.1, date.2.1, date.2.2.1, length, date.2.2.2, ?_⟩
  rw [seconds] at time ⊢
  omega

theorem WallClock.asIfUtc_eq (year : YearShown instant zone) :
    (wallClock instant zone).asIfUtc = (localDate instant zone).days * DAY_MS +
      (wallClock instant zone).hour * 3600000 + (wallClock instant zone).minute * 60000 +
      (wallClock instant zone).second * 1000 := by
  have late : ¬ (0 ≤ (wallClock instant zone).year ∧ (wallClock instant zone).year ≤ 99) := by
    have := year.1
    omega
  rw [asIfUtc, if_neg late]
  rfl

/-- Read as if it were UTC, the wall clock is ahead by the offset. -/
theorem asIfUtc_wallClock (year : YearShown instant zone) :
    (wallClock instant zone).asIfUtc = zone.shows (instant / 1000) * 1000 := by
  have date := days_civilDate (localDay instant zone)
  have isDay : localDay instant zone = zone.shows (instant / 1000) / DAY_SECONDS := rfl
  have ms : DAY_MS = 86400000 := rfl
  have seconds : DAY_SECONDS = 86400 := rfl
  rw [WallClock.asIfUtc_eq year, date, isDay]
  simp only [wallClock]
  rw [ms, seconds]
  omega

theorem wallClock_whole (instant : Instant) (zone : IntlZone) :
    wallClock (instant / 1000 * 1000) zone = wallClock instant zone := by
  have second : instant / 1000 * 1000 / 1000 = instant / 1000 := Int.mul_ediv_cancel _ (by decide)
  simp only [wallClock, second]

/-- The offset is recovered. -/
theorem offset_recovered (year : YearShown instant zone) :
    roundQuotient ((wallClock instant zone).asIfUtc - instant / 1000 * 1000) 60000 =
      zone.offset (instant / 1000) / 60 := by
  have whole := zone.minutes (instant / 1000)
  rw [asIfUtc_wallClock year, roundQuotient, Zone.shows]
  omega

/-! ### What a text denotes -/

/-- The fields `toLocalIso` writes. -/
def fields (instant : Instant) (zone : IntlZone) : OffsetDateTime where
  year := (wallClock instant zone).year.toNat
  month := (wallClock instant zone).month.toNat
  day := (wallClock instant zone).day.toNat
  hour := (wallClock instant zone).hour.toNat
  minute := (wallClock instant zone).minute.toNat
  second := (wallClock instant zone).second.toNat
  millisecond := 0
  ahead := 0 ≤ zone.offset (instant / 1000)
  offsetHour := (zone.offset (instant / 1000)).natAbs / 3600
  offsetMinute := (zone.offset (instant / 1000)).natAbs / 60 % 60

theorem fields_isDate (year : YearShown instant zone) : (fields instant zone).IsDate := by
  have bounds := wallClock_bounds instant zone
  have day := bounds.2.2.2.1
  have within := zone.withinDay (instant / 1000)
  have shown := year.1
  have length := daysInMonth_eq (fields instant zone).year (fields instant zone).month
  have isYear : ((fields instant zone).year : Int) = (wallClock instant zone).year :=
    Int.toNat_of_nonneg (by omega)
  have isMonth : ((fields instant zone).month : Int) = (wallClock instant zone).month :=
    Int.toNat_of_nonneg (by omega)
  rw [isYear, isMonth] at length
  rw [← length] at day
  unfold OffsetDateTime.IsDate
  simp only [fields] at day ⊢
  omega

/-- A date's text, by its fields. -/
theorem dateText_eq (year : YearShown instant zone) :
    (wallClock instant zone).dateText =
      numeral 10 4 (fields instant zone).year ++
        '-' :: (numeral 10 2 (fields instant zone).month ++
          '-' :: numeral 10 2 (fields instant zone).day) := by
  have bounds := wallClock_bounds instant zone
  have shown := year.1
  have last := year.2
  rw [WallClock.dateText, pad_eq_numeral (by decide) (by omega) (by omega),
    pad_eq_numeral (by decide) (by omega) (by omega),
    pad_eq_numeral (by decide) (by omega) (by omega)]
  rfl

/-- The text is that of the fields. -/
theorem toLocalIso_eq (year : YearShown instant zone) :
    toLocalIso instant zone = (fields instant zone).text := by
  have bounds := wallClock_bounds instant zone
  have within := zone.withinDay (instant / 1000)
  have whole := zone.minutes (instant / 1000)
  have ahead : (if zone.offset (instant / 1000) / 60 < 0 then '-' else '+') =
      if (fields instant zone).ahead then '+' else '-' := by
    simp only [fields, decide_eq_true_eq]
    split_ifs <;> first | rfl | omega
  have hour : pad ((zone.offset (instant / 1000) / 60).natAbs / 60 : Int) 2 =
      numeral 10 2 (fields instant zone).offsetHour := by
    rw [pad_eq_numeral (by decide) (by omega) (by omega)]
    congr 1
    simp only [fields]
    omega
  have minute : pad ((zone.offset (instant / 1000) / 60).natAbs % 60 : Int) 2 =
      numeral 10 2 (fields instant zone).offsetMinute := by
    rw [pad_eq_numeral (by decide) (by omega) (by omega)]
    congr 1
    simp only [fields]
    omega
  have clock : pad (wallClock instant zone).hour 2 = numeral 10 2 (fields instant zone).hour ∧
      pad (wallClock instant zone).minute 2 = numeral 10 2 (fields instant zone).minute ∧
      pad (wallClock instant zone).second 2 = numeral 10 2 (fields instant zone).second := by
    refine ⟨?_, ?_, ?_⟩ <;> exact pad_eq_numeral (by decide) (by omega) (by omega)
  simp only [toLocalIso, wallClock_whole, offset_recovered year, dateText_eq year, ahead, hour,
    minute, clock, OffsetDateTime.text, List.append_assoc, List.cons_append]

theorem fields_date (year : YearShown instant zone) :
    (fields instant zone).date = localDate instant zone := by
  have bounds := wallClock_bounds instant zone
  have shown := year.1
  have isYear : ((fields instant zone).year : Int) = (wallClock instant zone).year :=
    Int.toNat_of_nonneg (by omega)
  have isMonth : ((fields instant zone).month : Int) = (wallClock instant zone).month :=
    Int.toNat_of_nonneg (by omega)
  have isDay : ((fields instant zone).day : Int) = (wallClock instant zone).day :=
    Int.toNat_of_nonneg (by omega)
  rw [OffsetDateTime.date, isYear, isMonth, isDay]
  rfl

/-- The fields name the instant's whole second. -/
theorem fields_instant (year : YearShown instant zone) :
    (fields instant zone).instant = instant / 1000 * 1000 := by
  have bounds := wallClock_bounds instant zone
  have whole := zone.minutes (instant / 1000)
  have hour : ((fields instant zone).hour : Int) = (wallClock instant zone).hour :=
    Int.toNat_of_nonneg (by omega)
  have minute : ((fields instant zone).minute : Int) = (wallClock instant zone).minute :=
    Int.toNat_of_nonneg (by omega)
  have second : ((fields instant zone).second : Int) = (wallClock instant zone).second :=
    Int.toNat_of_nonneg (by omega)
  have millisecond : (fields instant zone).millisecond = 0 := rfl
  have offset : (fields instant zone).offsetMinutes * 60 = zone.offset (instant / 1000) := by
    simp only [fields, OffsetDateTime.offsetMinutes, decide_eq_true_eq]
    split <;> omega
  have asIfUtc := asIfUtc_wallClock year
  rw [WallClock.asIfUtc_eq year, Zone.shows] at asIfUtc
  rw [OffsetDateTime.instant, fields_date year, hour, minute, second, millisecond]
  generalize (localDate instant zone).days * DAY_MS = midnight at asIfUtc ⊢
  unfold Instant at *
  omega

/-! ### Days between local dates -/

theorem length_localDateOf (year : YearShown instant zone) :
    (localDateOf instant zone).length = 10 := by
  rw [localDateOf, dateText_eq year]
  simp

/-- The date part of the text is the local date. -/
theorem take_toLocalIso (year : YearShown instant zone) :
    (toLocalIso instant zone).take 10 = localDateOf instant zone := by
  have length := length_localDateOf year
  rw [localDateOf] at length ⊢
  rw [toLocalIso]
  simp only [wallClock_whole]
  exact List.take_left' length

theorem days_localDateOf (year : YearShown instant zone) :
    days (localDateOf instant zone) = some (localDate instant zone).days := by
  obtain ⟨month, month', day, day', -⟩ := fields_isDate year
  have bounds := wallClock_bounds instant zone
  have shown := year.1
  have last := year.2
  have isYear : (fields instant zone).year < 10 ^ 4 := by
    simp only [fields]
    omega
  have parsed := tryParseUtcIso_midnight isYear ⟨month, day⟩ ⟨month', day'⟩
  have date := fields_date year
  rw [OffsetDateTime.date] at date
  rw [date] at parsed
  rw [days, localDateOf, dateText_eq year, List.append_assoc, List.cons_append, List.append_assoc,
    List.cons_append, parsed, Option.map_some, Int.mul_ediv_cancel _ (by decide)]

/-- The local date's text, as `toISOString` writes dates. -/
theorem localDateOf_eq (year : YearShown instant zone) :
    localDateOf instant zone = isoDate (localDate instant zone) := by
  have four : 0 ≤ (localDate instant zone).year ∧ (localDate instant zone).year ≤ 9999 := by
    have first := year.1
    have last := year.2
    exact ⟨Int.le_trans (by decide) first, last⟩
  rw [localDateOf, dateText_eq year, isoDate, isoYear, if_pos four]
  rfl

/-- The later local date has the greater day number. -/
theorem localDate_days_lt {arrival : Instant} {zone' : IntlZone}
    (earlier : (localDate arrival zone').Before (localDate instant zone)) :
    (localDate arrival zone').days < (localDate instant zone).days := by
  have first := civilDate_bounds (localDay arrival zone')
  have last := civilDate_bounds (localDay instant zone)
  exact earlier.days_lt ⟨first.1, first.2.1⟩ ⟨last.1, last.2.1⟩ (civilDate_day _) last.2.2.1

/-- Local times denote their instants: the text names the whole second and shows the
local date, and the day offset of an arrival counts the days between the two dates. -/
theorem local_times_denote (year : YearShown instant zone) :
    tryParseUtcIso (toLocalIso instant zone) = some (instant / 1000 * 1000) ∧
      (toLocalIso instant zone).take 10 = localDateOf instant zone ∧
      ∀ arrival zone', YearShown arrival zone' →
        ∃ departed arrived : CivilDate, departed.Exists ∧ arrived.Exists ∧
          (toLocalIso instant zone).take 10 = isoDate departed ∧
          (toLocalIso arrival zone').take 10 = isoDate arrived ∧
          arrivalDayOffset instant zone arrival zone' = some (arrived.days - departed.days) ∧
          (arrived.Before departed → arrived.days - departed.days < 0) := by
  have isDate := fields_isDate year
  have isYear : (fields instant zone).year < 10 ^ 4 := by
    have shown := year.1
    have last := year.2
    simp only [fields]
    omega
  refine ⟨?_, take_toLocalIso year, ?_⟩
  · rw [toLocalIso_eq year, tryParseUtcIso_text isDate isYear rfl, fields_instant year]
  · intro arrival zone' year'
    refine ⟨localDate instant zone, localDate arrival zone', civilDate_exists _,
      civilDate_exists _, ?_, ?_, ?_, ?_⟩
    · rw [take_toLocalIso year, localDateOf_eq year]
    · rw [take_toLocalIso year', localDateOf_eq year']
    · rw [arrivalDayOffset, days_localDateOf year', days_localDateOf year]
      rfl
    · intro earlier
      have lt := localDate_days_lt earlier
      omega

/-- Clocks that never change. -/
def fixedZone (minutes : Int) (withinDay : -1440 < minutes ∧ minutes < 1440) : IntlZone where
  offset _ := minutes * 60
  bounded := ⟨86400, fun _ => by omega⟩
  minutes _ := by omega
  withinDay _ := by omega

def hoChiMinh : IntlZone := fixedZone 420 ⟨by decide, by decide⟩

/-- The clocks of a winter. -/
def losAngeles : IntlZone := fixedZone (-480) ⟨by decide, by decide⟩

/-- Half a second into 2026-11-19T23:00:00Z, and six hours later. -/
theorem local_times_denote_hoChiMinh :
    tryParseUtcIso (toLocalIso 1795129200500 hoChiMinh) = some 1795129200000 ∧
      (toLocalIso 1795129200500 hoChiMinh).take 10 = localDateOf 1795129200500 hoChiMinh ∧
      ∃ departed arrived : CivilDate,
        arrivalDayOffset 1795129200500 hoChiMinh 1795150800000 losAngeles =
            some (arrived.days - departed.days) ∧
          (arrived.Before departed → arrived.days - departed.days < 0) := by
  have shown : YearShown 1795129200500 hoChiMinh := by decide +kernel
  have shown' : YearShown 1795150800000 losAngeles := by decide +kernel
  obtain ⟨denotes, date, offset⟩ := local_times_denote shown
  obtain ⟨departed, arrived, -, -, -, -, days, earlier⟩ := offset _ _ shown'
  exact ⟨denotes, date, departed, arrived, days, earlier⟩

example : toLocalIso 1795129200500 hoChiMinh = "2026-11-20T06:00:00+07:00".toList ∧
    arrivalDayOffset 1795129200500 hoChiMinh 1795150800000 losAngeles = some (-1) := by
  decide +kernel

end FlightBooking.LocalTime
