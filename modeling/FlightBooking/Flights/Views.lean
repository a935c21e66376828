import FlightBooking.Flights.Transactions

/-!
The read side of flights: the list, the details and the seat map, as functions of
the version they read. The details are one statement; the list and the seat map are
a few, read here at a moment when nothing commits between them.

Free seats are counted in three ways here: over the flight's seats in the list,
over the seats of each of its fares in the details, and by the reader of the seat
map.
-/

namespace FlightBooking

open Relational

/-- A flight as it is read; `availableSeats` is counted, never stored. -/
structure StoredFlight where
  id : Uuid
  flightNumber : String
  originAirportId : Uuid
  origin : String
  destinationAirportId : Uuid
  destination : String
  aircraftId : Uuid
  departureAt : Instant
  arrivalAt : Instant
  fares : FlightFares
  availableSeats : Nat
  status : StoredFlightStatus
  deriving DecidableEq, Repr

/-- A flight as readers see it: with the effective status. -/
structure FlightView where
  flight : StoredFlight
  status : FlightStatus
  deriving DecidableEq, Repr

def toFlightView (flight : StoredFlight) (now : Instant) : FlightView where
  flight := flight
  status := effectiveFlightStatus flight.status flight.departureAt now

/-- A flight about to be stored, as the use case answers it: as many seats as its
aircraft has. -/
def Flight.toStored (flight : Flight) : StoredFlight where
  id := flight.id
  flightNumber := flight.flightNumber
  originAirportId := flight.origin.id
  origin := flight.origin.code
  destinationAirportId := flight.destination.id
  destination := flight.destination.code
  aircraftId := flight.aircraft.id
  departureAt := flight.departureAt
  arrivalAt := flight.arrivalAt
  fares := flight.fares
  availableSeats := flight.aircraft.seats.length
  status := flight.status

/-- The flight that a CreateFlight that created it answers. -/
def createdFlightView (flight : Flight) (now : Instant) : FlightView :=
  toFlightView flight.toStored now

/-! ### Fares -/

/-- `loadFares`: the fares of one flight. -/
def loadFares (db : Db) (flightId : Uuid) : FlightFares where
  economy := (db.fares.find? (flightId, .economy)).map (·.amount)
  business := (db.fares.find? (flightId, .business)).map (·.amount)

/-! ### The list -/

/-- `AVAILABLE_SEATS`: the correlated count. -/
def AVAILABLE_SEATS (db : Db) (flightId : Uuid) : Nat :=
  db.seats.rows.countP fun seat => seat.flightId = flightId && seat.status = .available

/-- A flight with its airports' codes and fares; `none` where an airport is missing,
which throws. -/
def mapFlight (db : Db) (flight : FlightRow) : Option StoredFlight := do
  let origin ← db.airports.find? flight.originAirportId
  let destination ← db.airports.find? flight.destinationAirportId
  pure
    { id := flight.id
      flightNumber := flight.flightNumber
      originAirportId := flight.originAirportId
      origin := origin.code
      destinationAirportId := flight.destinationAirportId
      destination := destination.code
      aircraftId := flight.aircraftId
      departureAt := flight.departureAt
      arrivalAt := flight.arrivalAt
      fares := loadFares db flight.id
      availableSeats := AVAILABLE_SEATS db flight.id
      status := flight.status }

/-- `ORDER BY departure_at, id`. -/
def FlightRow.departsBefore (a b : FlightRow) : Prop :=
  a.departureAt < b.departureAt ∨ (a.departureAt = b.departureAt ∧ a.id ≤ b.id)

instance : DecidableRel FlightRow.departsBefore := fun _ _ => inferInstanceAs (Decidable (_ ∨ _))

/-- One page of the list. -/
def findFlightPage (db : Db) (limit offset : Nat) : Option (List StoredFlight) :=
  (((db.flights.rows.insertionSort FlightRow.departsBefore).drop offset).take limit).mapM
    (mapFlight db)

/-! ### The details -/

structure FareAvailability where
  fareClass : FareClass
  availableSeats : Nat
  fare : Money
  deriving DecidableEq, Repr

/-- The AVAILABLE seats of one class of a flight. -/
def availableOf (db : Db) (flightId : Uuid) (fareClass : FareClass) : Nat :=
  db.seats.rows.countP fun seat =>
    seat.flightId = flightId && seat.fareClass = fareClass && seat.status = .available

/-- `ORDER BY amount_vnd, fare_class`. -/
def FareAvailability.cheaper (a b : FareAvailability) : Prop :=
  a.fare.amount < b.fare.amount ∨
    (a.fare.amount = b.fare.amount ∧ a.fareClass.name ≤ b.fareClass.name)

instance : DecidableRel FareAvailability.cheaper := fun _ _ => inferInstanceAs (Decidable (_ ∨ _))

/-- The classes of a flight, from its fares, each with its free seats. -/
def flightClasses (db : Db) (flightId : Uuid) : List FareAvailability :=
  ((db.fares.rows.filter (·.flightId = flightId)).map fun fare =>
    ⟨fare.fareClass, availableOf db fare.flightId fare.fareClass, fare.amount⟩).insertionSort
      FareAvailability.cheaper

structure FlightDetails where
  flight : StoredFlight
  originTimeZone : String
  destinationTimeZone : String
  availability : List FareAvailability
  deriving DecidableEq, Repr

/-- The fares of the classes, as a record. -/
def faresOf (availability : List FareAvailability) : FlightFares where
  economy := (availability.find? (·.fareClass = .economy)).map (·.fare)
  business := (availability.find? (·.fareClass = .business)).map (·.fare)

/-- `FLIGHT_DETAILS_SQL`: inner joins, so a flight without its airports is none. -/
def findDetails (db : Db) (flightId : Uuid) : Option FlightDetails := do
  let flight ← db.flights.find? flightId
  let origin ← db.airports.find? flight.originAirportId
  let destination ← db.airports.find? flight.destinationAirportId
  let availability := flightClasses db flight.id
  pure
    { flight :=
        { id := flight.id
          flightNumber := flight.flightNumber
          originAirportId := flight.originAirportId
          origin := origin.code
          destinationAirportId := flight.destinationAirportId
          destination := destination.code
          aircraftId := flight.aircraftId
          departureAt := flight.departureAt
          arrivalAt := flight.arrivalAt
          fares := faresOf availability
          availableSeats := (availability.map (·.availableSeats)).sum
          status := flight.status }
      originTimeZone := origin.timeZone
      destinationTimeZone := destination.timeZone
      availability }

/-! ### The seat map -/

structure SeatMapSeat where
  code : String
  fareClass : FareClass
  status : FlightSeatStatus
  deriving DecidableEq, Repr

structure SeatMapRow where
  row : Nat
  seats : List SeatMapSeat
  deriving DecidableEq, Repr

/-- The seats of a flight by row and letter; `none` is no flight. -/
def findSeats (db : Db) (flightId : Uuid) : Option (List FlightSeat) :=
  (db.flights.find? flightId).map fun _ =>
    (db.seats.rows.filter (·.flightId = flightId)).insertionSort FlightSeat.before

def toSeatMapSeat (seat : FlightSeat) : SeatMapSeat where
  code := formatSeatPosition seat.position
  fareClass := seat.fareClass
  status := seat.status

/-- The rows so far, and the seat put into the last one or into a row of its own. -/
def addToRow (rows : List SeatMapRow) (seat : FlightSeat) : List SeatMapRow :=
  match rows.getLast? with
  | some current =>
      if current.row = seat.position.row then
        rows.dropLast ++ [{ current with seats := current.seats ++ [toSeatMapSeat seat] }]
      else rows ++ [⟨seat.position.row, [toSeatMapSeat seat]⟩]
  | none => rows ++ [⟨seat.position.row, [toSeatMapSeat seat]⟩]

def groupByRow (seats : List FlightSeat) : List SeatMapRow := seats.foldl addToRow []

structure SeatMap where
  flightId : Uuid
  fares : FlightFares
  rows : List SeatMapRow
  deriving DecidableEq, Repr

def getFlightSeatMap (db : Db) (flightId : Uuid) : Option SeatMap := do
  let flight ← (db.flights.find? flightId).bind (mapFlight db)
  let seats ← findSeats db flightId
  pure { flightId, fares := flight.fares, rows := groupByRow seats }

/-- Counting the free seats on a seat map. -/
def SeatMap.free (map : SeatMap) : Nat :=
  (map.rows.flatMap (·.seats)).countP (·.status = .available)

end FlightBooking
