import FlightBooking.Flights.Search
import FlightBooking.Library.LocalClock

/-!
The dates of a search are the origin's local dates.

Postgres turns the dates of a search into two instants; the application shows a
departure's local date through the zone's rules. Both days agree as long as the two
midnights do (`Zone.splits_iff`): a midnight that comes twice, or lies inside a gap
that began before it, puts flights on the wrong day.
-/

namespace FlightBooking

open LocalClock

/-! ### What the application shows -/

/-- Wall-clock time: the calendar date and the second of the day. -/
structure WallClock where
  date : LocalDate
  second : Int
  deriving DecidableEq, Repr

/-- What `Intl` formats for an instant in a zone. -/
def wallClock (instantMs : Int) (timeZone : Zone) : WallClock where
  date := timeZone.shows (instantMs / 1000) / DAY_SECONDS
  second := timeZone.shows (instantMs / 1000) % DAY_SECONDS

def localDateOf (instant : Instant) (timeZone : Zone) : LocalDate :=
  (wallClock instant timeZone).date

/-- Local date and time, with the offset in minutes. -/
structure LocalIso where
  date : LocalDate
  second : Int
  offsetMinutes : Int
  deriving DecidableEq, Repr

/-- Milliseconds are dropped, then the offset is rounded to minutes. -/
def toLocalIso (instant : Instant) (timeZone : Zone) : LocalIso :=
  let wholeSecondMs := instant / 1000 * 1000
  let shown := wallClock wholeSecondMs timeZone
  let asIfUtc := (shown.date * DAY_SECONDS + shown.second) * 1000
  { date := shown.date
    second := shown.second
    offsetMinutes := (asIfUtc - wholeSecondMs + 30000) / 60000 }

/-- Both texts show one date. -/
theorem toLocalIso_date (instant : Instant) (timeZone : Zone) :
    (toLocalIso instant timeZone).date = localDateOf instant timeZone := by
  have second : instant / 1000 * 1000 / 1000 = instant / 1000 :=
    Int.mul_ediv_cancel _ (by decide)
  simp only [toLocalIso, localDateOf, wallClock, second]

/-! ### What the statement compares -/

/-- The clocks pass the midnight that begins `date` once, and no gap over it begins
before it. -/
def MidnightPassed (timeZone : Zone) (date : LocalDate) : Prop :=
  timeZone.PassesOnce (date * DAY_SECONDS) ∧ timeZone.GapsBeginAt (date * DAY_SECONDS)

/-- The departure is selected for the dates if and only if its local date is one of
them. -/
def DatesAgree (zones : TimeZones) (timeZone : String) (rules : Zone) (first last : LocalDate)
    (departureAt : Instant) : Prop :=
  departsWithin zones timeZone first last departureAt = true ↔
    first ≤ localDateOf departureAt rules ∧ localDateOf departureAt rules ≤ last

section Dates

variable {zones : TimeZones} {timeZone : String} {rules : Zone} {first last : LocalDate}
  {departureAt : Instant}

theorem le_localDateOf {date : LocalDate} :
    date ≤ localDateOf departureAt rules ↔ date * DAY_SECONDS ≤ rules.shows (departureAt / 1000) :=
  Int.le_ediv_iff_mul_le (by decide)

theorem midnight_le : midnightAtTimeZone zones timeZone first ≤ departureAt ↔
    zones timeZone (first * DAY_SECONDS) ≤ departureAt / 1000 := by
  rw [midnightAtTimeZone, Int.mul_comm]
  exact (Int.le_ediv_iff_mul_le (by decide)).symm

/-- Where a midnight parts the instants as the clocks do, it parts the departures by
their dates. -/
theorem midnight_le_iff (resolves : rules.Resolves (zones timeZone))
    (passed : MidnightPassed rules first) :
    midnightAtTimeZone zones timeZone first ≤ departureAt ↔ first ≤ localDateOf departureAt rules := by
  rw [midnight_le, le_localDateOf]
  exact (Zone.splits_iff resolves).mpr passed _

theorem datesAgree_iff : DatesAgree zones timeZone rules first last departureAt ↔
    (midnightAtTimeZone zones timeZone first ≤ departureAt ∧
        ¬ midnightAtTimeZone zones timeZone (last + 1) ≤ departureAt ↔
      first ≤ localDateOf departureAt rules ∧ ¬ last + 1 ≤ localDateOf departureAt rules) := by
  have upper : localDateOf departureAt rules ≤ last ↔ ¬ last + 1 ≤ localDateOf departureAt rules :=
    Int.not_lt.symm
  have later : departureAt < midnightAtTimeZone zones timeZone (last + 1) ↔
      ¬ midnightAtTimeZone zones timeZone (last + 1) ≤ departureAt := Int.not_le.symm
  rw [DatesAgree, upper]
  simp only [departsWithin, Bool.and_eq_true, decide_eq_true_eq, later, ge_iff_le]

theorem datesAgree_of_passed (resolves : rules.Resolves (zones timeZone))
    (from' : MidnightPassed rules first) (to' : MidnightPassed rules (last + 1)) :
    DatesAgree zones timeZone rules first last departureAt := by
  rw [datesAgree_iff, midnight_le_iff resolves from', midnight_le_iff resolves to']

/-- A zone whose searches all agree passes every midnight: far enough ahead the last
date of a search no longer matters. -/
theorem passed_of_datesAgree (resolves : rules.Resolves (zones timeZone))
    (agree : ∀ first last, first ≤ last → ∀ departureAt,
      DatesAgree zones timeZone rules first last departureAt) (date : LocalDate) :
    MidnightPassed rules date := by
  refine (Zone.splits_iff resolves).mp fun u => ?_
  obtain ⟨l₀, beyond⟩ := resolves.unbounded u
  have far : ∀ n : Int, l₀ ≤ n → 0 ≤ n → l₀ ≤ (n + 1) * DAY_SECONDS := by
    intro n le positive
    unfold DAY_SECONDS
    omega
  obtain ⟨late, unshown⟩ := beyond _ (far (max date (max l₀ 0))
    ((le_max_left _ _).trans (le_max_right _ _)) ((le_max_right _ _).trans (le_max_right _ _)))
  have day := agree date (max date (max l₀ 0)) (le_max_left _ _) (u * 1000)
  have second : u * 1000 / 1000 = u := Int.mul_ediv_cancel _ (by decide)
  rw [datesAgree_iff, midnight_le, midnight_le, le_localDateOf, le_localDateOf, second] at day
  simpa only [not_le.mpr late, not_le.mpr unshown, not_false_eq_true, and_true] using day

end Dates

/-- A search selects by the origin's local dates: between two midnights the clocks
pass, always; and for every search in a zone, if and only if its clocks pass every
midnight. -/
theorem search_dates_local_iff (zones : TimeZones) (timeZone : String) (rules : Zone)
    (resolves : rules.Resolves (zones timeZone)) :
    (∀ first last, MidnightPassed rules first → MidnightPassed rules (last + 1) →
      ∀ departureAt, DatesAgree zones timeZone rules first last departureAt) ∧
    ((∀ first last, first ≤ last → ∀ departureAt,
        DatesAgree zones timeZone rules first last departureAt) ↔
      ∀ date, MidnightPassed rules date) ∧
    ∀ departureAt, (toLocalIso departureAt rules).date = localDateOf departureAt rules := by
  refine ⟨fun first last from' to' departureAt => datesAgree_of_passed resolves from' to',
    ⟨passed_of_datesAgree resolves, ?_⟩, fun departureAt => toLocalIso_date departureAt rules⟩
  intro passed first last _ departureAt
  exact datesAgree_of_passed resolves (passed first) (passed (last + 1))

/-! ### A midnight that comes twice

On 2026-11-01 Havana's clocks go back from 01:00 to 00:00, at 05:00 UTC. -/

def havanaChange : Int := 1793509200

def havana : Zone where
  offset u := if u < havanaChange then -14400 else -18000
  bounded := ⟨18000, fun u => by split <;> omega⟩

/-- The later instant of a repeated time. -/
def havanaTime (l : Int) : Int := if l < havanaChange - 18000 then l + 14400 else l + 18000

theorem havana_shows (u : Int) :
    havana.shows u = if u < havanaChange then u - 14400 else u - 18000 := by
  unfold Zone.shows havana
  dsimp only
  split <;> omega

theorem havana_resolves : havana.Resolves havanaTime := by
  have hit : ∀ l, havana.shows (havanaTime l) = l := by
    intro l
    rw [havana_shows, havanaTime]
    split <;> split <;> omega
  constructor
  · intro l _
    refine ⟨hit l, fun u shown => ?_⟩
    have same : havana.shows u = l := shown
    rw [havana_shows] at same
    unfold havanaTime
    split at same <;> split <;> omega
  · intro l unshown
    exact (unshown ⟨_, hit l⟩).elim

/-- A flight at 00:30 on that day, before the clocks go back, is not found by a search
for the day it departs on. -/
theorem search_misses_repeated_midnight :
    havana.Resolves havanaTime ∧
    departsWithin (fun _ => havanaTime) "America/Havana" 20758 20758 1793507400000 = false ∧
    localDateOf 1793507400000 havana = 20758 ∧
    ¬ DatesAgree (fun _ => havanaTime) "America/Havana" havana 20758 20758 1793507400000 := by
  refine ⟨havana_resolves, by decide, by decide, fun agree => ?_⟩
  exact absurd (agree.mpr (by decide)) (by decide)

/-- The days before and after are found right, and not every day is. -/
theorem search_dates_local_iff_havana :
    ¬ (∀ date, MidnightPassed havana date) ∧
    (toLocalIso 1793507400000 havana).date = localDateOf 1793507400000 havana := by
  obtain ⟨-, every, dates⟩ := search_dates_local_iff (fun _ => havanaTime) "America/Havana" havana
    havana_resolves
  refine ⟨fun passed => ?_, dates 1793507400000⟩
  have agree := every.mpr passed 20758 20758 le_rfl 1793507400000
  exact absurd (agree.mpr (by decide)) (by decide)

end FlightBooking
