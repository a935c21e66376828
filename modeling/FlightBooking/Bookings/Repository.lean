import FlightBooking.Bookings.Statements

/-!
The booking repository: what its methods make of the statements. Each is a
program of the caller's transaction.
-/

namespace FlightBooking

open Interaction ReadCommitted

/-- Throw inside a transaction. -/
def raise {α : Type} (e : Failure) : Prog postgres α := .fail e

/-- A computed value, or the error it throws. -/
def orThrow {α : Type} (r : Except Failure α) : Prog postgres α := Tree.ofExcept r

/-! ### Reads -/

def mapPassenger (row : PassengerRow) : BookingPassenger where
  name := row.name
  seat := row.seat
  fareClass := row.fareClass
  price := row.price

def mapBooking (row : BookingRow) (passengers : List BookingPassenger) : Except Failure Booking :=
  (bookingTotal passengers).map fun total =>
    { id := row.id
      reference := row.reference
      flightId := row.flightId
      ownerAccountId := row.ownerAccountId
      passengers
      total
      createdAt := row.createdAt
      status := row.status
      holdExpiresAt := row.holdExpiresAt }

def findById (bookingId : Uuid) (scope : BookingAccessScope) : Prog postgres (Option Booking) := do
  match ← query (findBooking bookingId scope) with
  | none => pure none
  | some row =>
      let passengers ← query (findPassengers bookingId)
      let booking ← orThrow (mapBooking row (passengers.map mapPassenger))
      pure (some booking)

/-! ### Hold and create -/

/-- What to hold: the lowest free seats of a class, or exactly these. -/
inductive SeatHoldRequest where
  | auto (count : Nat) (fareClass : FareClass)
  | chosen (seats : List SeatPosition)
  deriving DecidableEq, Repr

/-- Why nothing was held. -/
inductive HoldRefusal where
  | notEnoughSeats
  | fareClassNotOnFlight
  | seatsUnavailable (seats : List SeatPosition)
  | unknownSeats (seats : List SeatPosition)
  | salesClosed
  | flightNotFound
  deriving DecidableEq, Repr

/-- Why the hold statement found no seat to work on; `none` is "bookable". -/
def classifyNothingHeld (flightId : Uuid) (now : Instant) : Prog postgres (Option HoldRefusal) := do
  match ← query (findFlight flightId) with
  | none => pure (some .flightNotFound)
  | some flight =>
      if isBookable flight.status flight.departureAt now then pure none
      else pure (some .salesClosed)

/-- A seat with no fare for its class means BR-FLT-09 is broken. -/
def toHeldSeat (flightId : Uuid) (row : PricedSeat) : Except Failure HeldSeat :=
  match row.amount with
  | none => .error (.missingFare flightId row.fareClass row.position)
  | some price => .ok ⟨row.position, row.fareClass, price⟩

def holdAutoSeats (flightId bookingId : Uuid) (count : Nat) (fareClass : FareClass)
    (now : Instant) : Prog postgres (Except HoldRefusal (List HeldSeat)) := do
  let held ← query (holdAuto flightId bookingId count fareClass now)
  if held.length > 0 then
    let seats ← orThrow (held.mapM (toHeldSeat flightId))
    pure (.ok seats)
  else
    match ← classifyNothingHeld flightId now with
    | some reason => pure (.error reason)
    | none =>
        let hasClass ← query (hasFareClass flightId fareClass)
        pure (.error (if hasClass then .notEnoughSeats else .fareClassNotOnFlight))

/-- Why the chosen seats were not held; only a flight without any of them is
looked up. -/
def classifyRefusal (flightId : Uuid) (requested : List SeatPosition) (rows : List PricedSeat)
    (now : Instant) : Prog postgres HoldRefusal := do
  match ← classifyIfEmpty with
  | some reason => pure reason
  | none =>
      let unknown := requested.filter fun code => rows.all fun row => row.position ≠ code
      if unknown.length > 0 then pure (.unknownSeats unknown)
      else
        pure (.seatsUnavailable (requested.filter fun code =>
          rows.all fun row => row.position ≠ code ∨ row.status ≠ .available))
where
  classifyIfEmpty : Prog postgres (Option HoldRefusal) :=
    if rows.isEmpty then classifyNothingHeld flightId now else pure none

def holdChosenSeats (flightId bookingId : Uuid) (requested : List SeatPosition) (now : Instant) :
    Prog postgres (Except HoldRefusal (List HeldSeat)) := do
  let (rows, held) ← query (holdChosen flightId bookingId requested now)
  if held then
    -- In the request's order, so passenger n gets the seat they named.
    let inOrder := requested.filterMap fun code => rows.find? fun row => row.position = code
    let seats ← orThrow (inOrder.mapM (toHeldSeat flightId))
    pure (.ok seats)
  else
    let reason ← classifyRefusal flightId requested rows now
    pure (.error reason)

def holdSeats (flightId bookingId : Uuid) (request : SeatHoldRequest) (now : Instant) :
    Prog postgres (Except HoldRefusal (List HeldSeat)) :=
  match request with
  | .auto count fareClass => holdAutoSeats flightId bookingId count fareClass now
  | .chosen seats => holdChosenSeats flightId bookingId seats now

/-- The rows of a booking's passengers, position 1 first. -/
def passengerRows (bookingId : Uuid) (passengers : List BookingPassenger) : List PassengerRow :=
  passengers.mapIdx fun index p =>
    { bookingId, position := index + 1, name := p.name, seat := p.seat,
      fareClass := p.fareClass, price := p.price }

/-- Insert a booking with its passengers; `false` is "reference-taken". -/
def insertBooking (booking : Booking) : Prog postgres Bool := do
  let inserted ← query (insertBookingRow
    { id := booking.id, reference := booking.reference, flightId := booking.flightId,
      ownerAccountId := booking.ownerAccountId, status := booking.status,
      createdAt := booking.createdAt, holdExpiresAt := booking.holdExpiresAt })
  if inserted then
    query (insertPassengers (passengerRows booking.id booking.passengers))
    pure true
  else pure false

/-! ### Cancel -/

/-- cancel()'s body: the pre-lock, the cancel, and the read that explains a miss. -/
def cancelInTransaction (bookingId : Uuid) (scope : BookingAccessScope) (now : Instant) :
    Prog postgres (Except NotCancelled CancelledRow) := do
  query (lockCancellable bookingId scope now)
  match ← query (cancelBookingRow bookingId scope now) with
  | some cancelled => pure (.ok cancelled)
  | none =>
      match ← query (readForCancel bookingId scope) with
      | none => pure (.error .notFound)
      | some (booking, flight) =>
          let reason ← orThrow
            (classifyNotCancelled booking.status booking.holdExpiresAt flight.departureAt now)
          pure (.error reason)

/-! ### Confirm -/

/-- `none` is "not-payable". -/
def confirmHold (bookingId : Uuid) (scope : BookingAccessScope) (now : Instant) :
    Prog postgres (Option Booking) := do
  if ← query (confirmHoldRow bookingId scope now) then
    match ← findById bookingId .admin with
    | none => raise (.confirmedNotReadBack bookingId)
    | some booking => pure (some booking)
  else pure none

/-! ### Seat change -/

/-- Why a seat was not changed, `unchanged` included. -/
inductive SeatChangeRefusal where
  | notFound
  | passengerNotFound
  | notChangeable
  | salesClosed
  | unknownSeat
  | fareClassMismatch (seatFareClass targetFareClass : FareClass)
  | seatUnavailable
  deriving DecidableEq, Repr

inductive ChangeSeatResult where
  | changed (old new : SeatPosition)
  | unchanged
  | refused (reason : SeatChangeRefusal)
  deriving DecidableEq, Repr

/-- The checks on the two locked seats. -/
def seatVerdict (bookingId : Uuid) (old new : SeatPosition) (locked : List FlightSeat) :
    Except Failure (Option SeatChangeRefusal) :=
  match (locked.find? fun s => s.position = old).filter fun s =>
      s.bookingId = some bookingId && s.status = .booked with
  | none => .error (.seatNotBooked old bookingId)
  | some own =>
      match locked.find? fun s => s.position = new with
      | none => .ok (some .unknownSeat)
      | some wanted =>
          if wanted.fareClass ≠ own.fareClass then
            .ok (some (.fareClassMismatch own.fareClass wanted.fareClass))
          else if wanted.status ≠ .available then .ok (some .seatUnavailable)
          else .ok none

/-- The second half of changeSeat's body: both seats are locked and checked, then
written. -/
def moveBetweenSeats (bookingId : Uuid) (position : Nat) (flightId : Uuid)
    (current target : SeatPosition) : Prog postgres ChangeSeatResult := do
  let locked ← query (lockSeats flightId [current, target])
  match ← orThrow (seatVerdict bookingId current target locked) with
  | some reason => pure (.refused reason)
  | none =>
      -- Free first, then take.
      query (updateSeat flightId current releaseSeat)
      query (updateSeat flightId target (takeSeat bookingId))
      query (updatePassengerSeat bookingId position target)
      pure (.changed current target)

/-- changeSeat's body: the booking is locked first, and decides. -/
def changeSeatInTransaction (bookingId : Uuid) (position : Nat) (target : SeatPosition)
    (scope : BookingAccessScope) (now : Instant) : Prog postgres ChangeSeatResult := do
  match ← query (lockBookingAndFlight bookingId scope) with
  | none => pure (.refused .notFound)
  | some (booking, flight) =>
      match ← query (findPassenger bookingId position) with
      | none => pure (.refused .passengerNotFound)
      | some passenger =>
          if booking.status ≠ .confirmed then pure (.refused .notChangeable)
          else
            match passenger.seat with
            | none => raise (.passengerWithoutSeat position bookingId)
            | some current =>
                if current = target then pure .unchanged
                else if ¬ isBookable flight.status flight.departureAt now then
                  pure (.refused .salesClosed)
                else moveBetweenSeats bookingId position booking.flightId current target

end FlightBooking
