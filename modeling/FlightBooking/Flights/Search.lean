import FlightBooking.Flights.Views
import Mathlib.Data.Prod.Lex
import Mathlib.Order.Nat
import Mathlib.Algebra.Order.Ring.Int

/-!
The flight search: `flightSearchSql` as a function of the version it reads, common
table expression by common table expression, and the page the repository makes of
its rows.

Where a local midnight lies is the zone database's business, so a resolver of local
times is an argument throughout.
-/

namespace FlightBooking

open Relational

/-! ### Queries and results -/

/-- A calendar date, in days since 1970-01-01. -/
abbrev LocalDate := Int

inductive FlightSearchSort where
  | departure
  | price
  deriving DecidableEq, Repr

/-- Where the previous page ended, as the statement compares it. -/
structure SearchPosition where
  departureAt : Instant
  id : Uuid
  lowestFare : Nat
  deriving DecidableEq, Repr

/-- A validated search, without the page it starts from. -/
structure FlightSearchQuery where
  origin : String
  destination : String
  departureDateFrom : LocalDate
  departureDateTo : LocalDate
  passengers : Nat
  sort : FlightSearchSort
  deriving DecidableEq, Repr

structure SearchedAirport where
  code : String
  timeZone : String
  deriving DecidableEq, Repr

structure FlightSearchResult where
  id : Uuid
  flightNumber : String
  origin : SearchedAirport
  destination : SearchedAirport
  departureAt : Instant
  arrivalAt : Instant
  lowestFare : Money
  availability : List FareAvailability
  deriving DecidableEq, Repr

def FlightSearchResult.position (r : FlightSearchResult) : SearchPosition where
  departureAt := r.departureAt
  id := r.id
  lowestFare := r.lowestFare.amount

/-- `(lowest_fare, departure_at, id)` or `(departure_at, id)`, compared row-wise. -/
def SearchPosition.sortKey (position : SearchPosition) (sort : FlightSearchSort) :
    Nat ×ₗ Int ×ₗ Nat :=
  match sort with
  | .price => toLex (position.lowestFare, toLex (position.departureAt, position.id))
  | .departure => toLex (0, toLex (position.departureAt, position.id))

def FlightSearchResult.sortKey (r : FlightSearchResult) (sort : FlightSearchSort) :
    Nat ×ₗ Int ×ₗ Nat := r.position.sortKey sort

/-! ### The statement -/

/-- `timestamp AT TIME ZONE zone`, by zone name and in seconds. -/
abbrev TimeZones := String → Int → Int

def DAY_SECONDS : Int := 24 * 60 * 60

/-- `date::timestamp AT TIME ZONE zone`: local midnight as an instant. -/
def midnightAtTimeZone (zones : TimeZones) (timeZone : String) (date : LocalDate) : Instant :=
  1000 * zones timeZone (date * DAY_SECONDS)

/-- `departure_at >= starts_at AND departure_at < ends_at`. -/
def departsWithin (zones : TimeZones) (timeZone : String) (first last : LocalDate)
    (departureAt : Instant) : Bool :=
  departureAt ≥ midnightAtTimeZone zones timeZone first &&
    departureAt < midnightAtTimeZone zones timeZone (last + 1)

/-- `FROM airports origin, airports destination`. -/
def searchRoute (db : Db) (query : FlightSearchQuery) : List (Airport × Airport) :=
  (db.airports.rows.filter (·.code = query.origin)).flatMap fun origin =>
    (db.airports.rows.filter (·.code = query.destination)).map fun destination =>
      (origin, destination)

structure SearchCandidate where
  flight : FlightRow
  origin : Airport
  destination : Airport
  deriving DecidableEq, Repr

/-- The flights of the route that depart within the dates and are on sale. -/
def searchCandidates (zones : TimeZones) (db : Db) (query : FlightSearchQuery) (now : Instant) :
    List SearchCandidate :=
  (searchRoute db query).flatMap fun route =>
    (db.flights.rows.filter fun flight =>
      flight.originAirportId = route.1.id && flight.destinationAirportId = route.2.id &&
        departsWithin zones route.1.timeZone query.departureDateFrom query.departureDateTo
          flight.departureAt &&
        onSale flight now).map fun flight => ⟨flight, route.1, route.2⟩

instance : Min Money := ⟨fun a b => if a.amount ≤ b.amount then a else b⟩

/-- `min(amount_vnd) FILTER (WHERE available >= $passengers)`. -/
def lowestFareFor (passengers : Nat) (classes : List FareAvailability) : Option Money :=
  ((classes.filter fun entry => entry.availableSeats ≥ passengers).map (·.fare)).min?

/-- `GROUP BY flight HAVING max(available) >= $passengers`. A flight without a class
forms no group. -/
def matchFlight (db : Db) (passengers : Nat) (candidate : SearchCandidate) :
    Option FlightSearchResult :=
  let classes := flightClasses db candidate.flight.id
  if (classes.map (·.availableSeats)).max?.any fun most => most ≥ passengers then
    (lowestFareFor passengers classes).map fun lowestFare =>
      { id := candidate.flight.id
        flightNumber := candidate.flight.flightNumber
        origin := ⟨candidate.origin.code, candidate.origin.timeZone⟩
        destination := ⟨candidate.destination.code, candidate.destination.timeZone⟩
        departureAt := candidate.flight.departureAt
        arrivalAt := candidate.flight.arrivalAt
        lowestFare
        availability := classes }
  else none

/-- The rows of the search, in order, after the cursor's key if there is one. -/
def searchRows (zones : TimeZones) (db : Db) (query : FlightSearchQuery) (now : Instant)
    (after : Option SearchPosition) : List FlightSearchResult :=
  (((searchCandidates zones db query now).filterMap (matchFlight db query.passengers)).filter
    fun r => after.all fun position => r.sortKey query.sort > position.sortKey query.sort).insertionSort
      fun a b => a.sortKey query.sort ≤ b.sortKey query.sort

/-- `flightSearchSql`: `LIMIT limit + 1`. -/
def flightSearchSql (zones : TimeZones) (db : Db) (query : FlightSearchQuery) (now : Instant)
    (after : Option SearchPosition) (rows : Nat) : List FlightSearchResult :=
  (searchRows zones db query now after).take rows

structure FlightSearchPage where
  items : List FlightSearchResult
  hasNextPage : Bool
  deriving DecidableEq, Repr

/-- One page; the extra row only says that a next page exists. -/
def searchPage (zones : TimeZones) (db : Db) (query : FlightSearchQuery) (limit : Nat) (now : Instant)
    (after : Option SearchPosition) : FlightSearchPage :=
  let rows := flightSearchSql zones db query now after (limit + 1)
  { items := rows.take limit, hasNextPage := rows.length > limit }

end FlightBooking
