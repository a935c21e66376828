import FlightBooking.Bookings.Repository

/-!
Flights: the statements of their repository, and the transactions of
CreateFlight, OpenFlight and RegisterAircraft.
-/

namespace FlightBooking

open Relational ReadCommitted

/-! ### Aircraft and references -/

def findAirportByCode (code : String) : Statement postgres (Option Airport) :=
  fun _ snap _ => .ok { reply := snap.airports.rows.find? fun a => a.code = code }

def findAircraftByRegistration (registration : String) : Statement postgres (Option Aircraft) :=
  fun _ snap _ => .ok { reply := snap.aircraft.rows.find? fun a => a.registration = registration }

/-- `false` is "duplicate": the registration is taken. -/
def insertAircraft (aircraft : Aircraft) : Statement postgres Bool :=
  fun _ _ cur =>
    if (cur.aircraft.find? aircraft.id).isSome then .error (.uniqueViolation "PK_aircraft")
    else if cur.aircraft.rows.any fun a => a.registration = aircraft.registration then
      .ok { reply := false }
    else .ok
      { reply := true
        writes := { aircraft := [aircraft] }
        locks := [(.registration aircraft.registration, .update)] }

def countSeatsByFareClass (seats : List LayoutSeat) (fareClass : FareClass) : Nat :=
  (seats.filter fun s => s.fareClass = fareClass).length

/-- `none` is "duplicate". -/
def registerAircraftTransaction (aircraft : Aircraft) (actor auditId : Uuid)
    (requestId : Option Uuid) : Prog postgres (Option Aircraft) := do
  if ← query (insertAircraft aircraft) then
    query (recordAudit
      { id := auditId
        action := .aircraftRegistered
        actor := .account actor
        target := .aircraft aircraft.id
        requestId
        occurredAt := aircraft.createdAt
        metadata :=
          [("registration", .text aircraft.registration),
            ("economySeats", .number (countSeatsByFareClass aircraft.seats .economy)),
            ("businessSeats", .number (countSeatsByFareClass aircraft.seats .business))] })
    pure (some aircraft)
  else pure none

/-! ### Create a flight -/

/-- One price for each fare class that has one. -/
structure FlightFares where
  economy : Option Money
  business : Option Money
  deriving DecidableEq, Repr

def FlightFares.get (fares : FlightFares) : FareClass → Option Money
  | .economy => fares.economy
  | .business => fares.business

/-- The classes with a fare, and it. -/
def FlightFares.entries (fares : FlightFares) : List (FareClass × Money) :=
  FARE_CLASSES.filterMap fun fareClass => (fares.get fareClass).map fun fare => (fareClass, fare)

/-- The request as validated. -/
structure CreateFlightInput where
  flightNumber : String
  origin : String
  destination : String
  aircraftRegistration : String
  departureAt : Instant
  arrivalAt : Instant
  fares : FlightFares
  deriving DecidableEq, Repr

structure ValidationIssue where
  field : String
  code : String
  message : String
  deriving DecidableEq, Repr

def unknownAirport (field code : String) : ValidationIssue :=
  ⟨field, "UNKNOWN_AIRPORT", "No airport is registered with code " ++ code⟩

/-- BR-FLT-09: a fare for every class the aircraft has seats in, and no other. -/
def checkFaresMatchSeats (fares : FlightFares) (seatsByFareClass : FareClass → Nat) :
    List ValidationIssue :=
  FARE_CLASSES.flatMap fun fareClass =>
    let hasSeats : Bool := seatsByFareClass fareClass > 0
    let hasFare := (fares.get fareClass).isSome
    if hasSeats && !hasFare then
      [⟨"fares." ++ fareClass.name, "MISSING_FARE",
        "The aircraft has " ++ fareClass.name ++ " seats, so fares." ++ fareClass.name ++
          " is required"⟩]
    else if hasFare && !hasSeats then
      [⟨"fares." ++ fareClass.name, "FARE_CLASS_NOT_ON_AIRCRAFT",
        "The aircraft has no " ++ fareClass.name ++ " seats"⟩]
    else []

/-- A flight about to be stored, with its resolved references. -/
structure Flight where
  id : Uuid
  flightNumber : String
  origin : Airport
  destination : Airport
  aircraft : Aircraft
  departureAt : Instant
  arrivalAt : Instant
  fares : FlightFares
  status : StoredFlightStatus
  deriving DecidableEq, Repr

/-- Every problem with the references at once, or the flight. -/
def resolveFlight (id : Uuid) (input : CreateFlightInput) (origin destination : Option Airport)
    (aircraft : Option Aircraft) : Except (List ValidationIssue) Flight :=
  let unknown :=
    (if origin.isNone then [unknownAirport "origin" input.origin] else []) ++
    (if destination.isNone then [unknownAirport "destination" input.destination] else []) ++
    (match aircraft with
      | none => [⟨"aircraftRegistration", "UNKNOWN_AIRCRAFT",
          "No aircraft is registered as " ++ input.aircraftRegistration⟩]
      | some aircraft => checkFaresMatchSeats input.fares (countSeatsByFareClass aircraft.seats))
  match origin, destination, aircraft with
  | some origin, some destination, some aircraft =>
      if unknown.length > 0 then .error unknown
      else .ok ⟨id, input.flightNumber, origin, destination, aircraft, input.departureAt,
        input.arrivalAt, input.fares, .scheduled⟩
  | _, _, _ => .error unknown

def Flight.row (flight : Flight) : FlightRow where
  id := flight.id
  flightNumber := flight.flightNumber
  originAirportId := flight.origin.id
  destinationAirportId := flight.destination.id
  aircraftId := flight.aircraft.id
  departureAt := flight.departureAt
  arrivalAt := flight.arrivalAt
  status := flight.status

/-- What inserting the flight row came to: the errors the repository maps. -/
inductive FlightInserted where
  | created
  | duplicate
  | aircraftUnavailable
  | referenceNotFound
  deriving DecidableEq, Repr

/-- `flight_aircraft_occupancy(…) && …`, on half-open ranges. -/
def occupanciesOverlap (a b : FlightRow) : Bool :=
  a.departureAt < b.arrivalAt + AIRCRAFT_TURNAROUND_MS &&
    b.departureAt < a.arrivalAt + AIRCRAFT_TURNAROUND_MS

def insertFlightRow (flight : FlightRow) : Statement postgres FlightInserted :=
  fun _ _ cur =>
    if flight.arrivalAt ≤ flight.departureAt then
      .error (.checkViolation "CHK_flights_arrival_after_departure")
    else if (cur.flights.find? flight.id).isSome then .error (.uniqueViolation "PK_flights")
    else if cur.flights.rows.any fun f =>
        f.flightNumber = flight.flightNumber && f.departureAt = flight.departureAt then
      .ok { reply := .duplicate }
    else if flight.status ≠ .cancelled ∧ (cur.flights.rows.any fun f =>
        f.aircraftId = flight.aircraftId && f.status ≠ .cancelled && occupanciesOverlap f flight) then
      .ok { reply := .aircraftUnavailable }
    else if (cur.airports.find? flight.originAirportId).isNone ∨
        (cur.airports.find? flight.destinationAirportId).isNone ∨
        (cur.aircraft.find? flight.aircraftId).isNone then
      .ok { reply := .referenceNotFound }
    else .ok
      { reply := .created
        writes := { flights := [flight] }
        locks := [(.flightNumber flight.flightNumber flight.departureAt, .update),
          (.aircraftSchedule flight.aircraftId, .update)] }

/-- The aircraft's layout as seats of the flight, all AVAILABLE. -/
def copySeats (flightId aircraftId : Uuid) : Statement postgres Unit :=
  fun _ snap cur =>
    let seats := ((snap.aircraft.find? aircraftId).toList.flatMap (·.seats)).map fun s =>
      FlightSeat.mk flightId s.position s.fareClass .available none
    if ∃ s ∈ seats, (cur.seats.find? (key s)).isSome then
      .error (.uniqueViolation "PK_flight_seats")
    else .ok { reply := (), writes := { seats } }

def insertFares (flightId : Uuid) (fares : List (FareClass × Money)) : Statement postgres Unit :=
  fun _ _ cur =>
    let rows := fares.map fun f => FlightFare.mk flightId f.1 f.2
    if ∃ f ∈ rows, (cur.fares.find? (key f)).isSome then
      .error (.uniqueViolation "PK_flight_fares")
    else if ∃ f ∈ rows, f.amount.amount = 0 then
      .error (.checkViolation "CHK_flight_fares_amount_positive")
    else .ok { reply := (), writes := { fares := rows } }

def insertFlight (flight : Flight) : Prog postgres FlightInserted := do
  match ← query (insertFlightRow flight.row) with
  | .created =>
      query (copySeats flight.id flight.aircraft.id)
      query (insertFares flight.id flight.fares.entries)
      pure .created
  | other => pure other

/-- The ECONOMY fare, or the lowest one on an aircraft without ECONOMY. -/
def legacyPriceInCents (fares : FlightFares) : Nat :=
  match fares.economy with
  | some economy => economy.amount
  | none => ((fares.entries.map (·.2.amount)).min?).getD 0

def toFlightCreatedPayload (flight : Flight) : FlightCreatedFlight where
  id := flight.id
  flightNumber := flight.flightNumber
  originAirportId := flight.origin.id
  origin := flight.origin.code
  destinationAirportId := flight.destination.id
  destination := flight.destination.code
  aircraftId := flight.aircraft.id
  departureAt := flight.departureAt
  arrivalAt := flight.arrivalAt
  priceInCents := legacyPriceInCents flight.fares
  fares := flight.fares.entries
  availableSeats := flight.aircraft.seats.length
  status := flight.status

/-- `ECONOMY:1500000,BUSINESS:4200000`. -/
def formatFares (fares : FlightFares) : String :=
  String.intercalate "," (fares.entries.map fun f => f.1.name ++ ":" ++ toString f.2.amount)

def createFlightTransaction (flight : Flight) (actor auditId eventId : Uuid)
    (requestId : Option Uuid) (now : Instant) : Prog postgres FlightInserted := do
  match ← insertFlight flight with
  | .created =>
      let correlationId := resolveCorrelationId requestId eventId
      query (recordAudit
        { id := auditId
          action := .flightCreated
          actor := .account actor
          target := .flight flight.id
          requestId
          occurredAt := now
          metadata :=
            [("flightNumber", .text flight.flightNumber), ("origin", .text flight.origin.code),
              ("destination", .text flight.destination.code),
              ("aircraftRegistration", .text flight.aircraft.registration),
              ("fares", .text (formatFares flight.fares)), ("correlationId", .id correlationId)] })
      query (enqueue
        { id := eventId
          eventType := .flightCreated
          payload := ⟨eventId, correlationId, now, .flightCreated (toFlightCreatedPayload flight)⟩
          createdAt := now })
      pure .created
  | other => pure other

/-! ### Open a flight -/

/-- `UPDATE flights SET status … WHERE id AND status`. -/
def updateFlightStatus (flightId : Uuid) (expected next : StoredFlightStatus) :
    Statement postgres Bool :=
  fun _ snap cur =>
    match (snap.flights.find? flightId).filter (·.status = expected) with
    | none => .ok { reply := false }
    | some _ =>
        let locks := [(.flight flightId, .noKeyUpdate)]
        match (cur.flights.find? flightId).filter (·.status = expected) with
        | none => .ok { reply := false, locks }
        | some flight => .ok
            { reply := true, writes := { flights := [{ flight with status := next }] }, locks }

inductive ChangeFlightStatusResult where
  | changed
  | notFound
  | statusChanged (current : StoredFlightStatus)
  deriving DecidableEq, Repr

def changeStatus (flightId : Uuid) (expected next : StoredFlightStatus) :
    Prog postgres ChangeFlightStatusResult := do
  if ← query (updateFlightStatus flightId expected next) then pure .changed
  else
    match ← query (findFlight flightId) with
    | none => pure .notFound
    | some flight => pure (.statusChanged flight.status)

/-- Open the flight as it was read, if nobody changed its status since. -/
def openFlightTransaction (flight : FlightRow) (actor auditId : Uuid) (requestId : Option Uuid)
    (now : Instant) : Prog postgres ChangeFlightStatusResult := do
  match ← changeStatus flight.id flight.status .open with
  | .changed =>
      query (recordAudit
        { id := auditId
          action := .flightOpened
          actor := .account actor
          target := .flight flight.id
          requestId
          occurredAt := now
          metadata :=
            [("flightNumber", .text flight.flightNumber),
              ("previousStatus", .text (match flight.status with
                | .scheduled => "SCHEDULED"
                | .open => "OPEN"
                | .cancelled => "CANCELLED"))] })
      pure .changed
  | other => pure other

end FlightBooking
