import FlightBooking.Database
import Mathlib.Data.List.Sort

/-!
The SQL statements of the booking repository, one definition each.

`snap` is the statement's snapshot and `cur` the version it locked. A row is
found in `snap` and re-checked in `cur` (`Table.recheck`); a row that matched the
snapshot stays locked even when the re-check drops it.
-/

namespace FlightBooking

open Relational ReadCommitted

/-! ### Conditions the SQL repeats -/

/-- `hold_expires_at > $now`: BR-BOOK-10's still-valid side. -/
def holdIsValid (holdExpiresAt : Option Instant) (now : Instant) : Bool :=
  holdExpiresAt.any fun deadline => now < deadline

/-- `hold_expires_at <= $now`. -/
def holdIsDue (holdExpiresAt : Option Instant) (now : Instant) : Bool :=
  holdExpiresAt.any fun deadline => deadline ≤ now

/-- `status = 'OPEN' AND departure_at - interval '1 hour' > $now`. -/
def onSale (flight : FlightRow) (now : Instant) : Bool :=
  flight.status = .open && flight.departureAt - SALES_CLOSE_BEFORE_DEPARTURE_MS > now

/-- The WHERE of both cancel statements. -/
def isCancellable (booking : BookingRow) (flight : FlightRow) (scope : BookingAccessScope)
    (now : Instant) : Bool :=
  ((booking.status = .confirmed && flight.departureAt - CANCELLATION_WINDOW_MS > now) ||
    (booking.status = .held && holdIsValid booking.holdExpiresAt now)) &&
  scope.admits booking.ownerAccountId

/-! ### Seats of bookings -/

/-- The seats of the bookings `ids`, found by `booking_id` in the snapshot. -/
def seatsOf (ids : List Uuid) (seat : FlightSeat) : Bool :=
  seat.bookingId.any fun id => id ∈ ids

/-- The CTE `locked` of `updateSeatsOf`. -/
def lockedSeats (ids : List Uuid) (snap cur : Db) : List FlightSeat :=
  snap.seats.recheck cur.seats (seatsOf ids)

def seatLocks (ids : List Uuid) (snap : Db) : List (Row × LockMode) :=
  (snap.seats.rows.filter (seatsOf ids)).map fun seat => (.seat (key seat), .update)

def releaseSeat (seat : FlightSeat) : FlightSeat :=
  { seat with status := .available, bookingId := none }

def bookSeat (seat : FlightSeat) : FlightSeat := { seat with status := .booked }

/-- Seat codes in (row, letter) order. -/
def sortedPositions (seats : List FlightSeat) : List SeatPosition :=
  (seats.map (·.position)).insertionSort fun a b => a.le b = true

/-! ### Reading a booking -/

/-- `findOneBy({ id, ...scopeFilter(scope) })`. -/
def findBooking (bookingId : Uuid) (scope : BookingAccessScope) :
    Statement postgres (Option BookingRow) :=
  fun _ snap _ => .ok
    { reply := (snap.bookings.find? bookingId).filter fun b => scope.admits b.ownerAccountId }

/-- The passengers of a booking, by position. -/
def findPassengers (bookingId : Uuid) : Statement postgres (List PassengerRow) :=
  fun _ snap _ => .ok
    { reply := (snap.passengers.rows.filter fun p => p.bookingId = bookingId).insertionSort
        fun p q => p.position ≤ q.position }

/-! ### Cancel -/

/-- The booking as the cancel statements find it, with its flight share-locked. -/
def cancelTarget (bookingId : Uuid) (scope : BookingAccessScope) (now : Instant) (snap cur : Db) :
    Option (BookingRow × FlightRow) :=
  (snap.bookings.find? bookingId).bind fun booking =>
    (cur.flights.find? booking.flightId).bind fun flight =>
      if isCancellable booking flight scope now then some (booking, flight) else none

/-- The first statement: lock a booking this call will cancel, and no other. -/
def lockCancellable (bookingId : Uuid) (scope : BookingAccessScope) (now : Instant) :
    Statement postgres Unit :=
  fun _ snap _ =>
    match cancelTarget bookingId scope now snap snap with
    | none => .ok { reply := () }
    | some (_, flight) => .ok
        { reply := (), locks := [(.booking bookingId, .update), (.flight flight.id, .share)] }

structure CancelledRow where
  flightId : Uuid
  reference : String
  seats : List SeatPosition
  deriving DecidableEq, Repr

/-- The cancel itself: the seats are released only for a row that was cancelled. -/
def cancelBookingRow (bookingId : Uuid) (scope : BookingAccessScope) (now : Instant) :
    Statement postgres (Option CancelledRow) :=
  fun _ snap cur =>
    match cancelTarget bookingId scope now snap cur with
    | none => .ok { reply := none }
    | some (_, flight) =>
        let locks := [(.booking bookingId, .noKeyUpdate), (.flight flight.id, .share)]
        -- After a wait the WHERE is evaluated again, on the booking's newest version.
        match (cur.bookings.find? bookingId).filter fun b => isCancellable b flight scope now with
        | none => .ok { reply := none, locks }
        | some booking =>
            let seats := lockedSeats [bookingId] snap cur
            .ok {
              reply := some ⟨booking.flightId, booking.reference, sortedPositions seats⟩
              writes := {
                bookings := [{ booking with status := .cancelled }]
                seats := seats.map releaseSeat }
              locks := locks ++ seatLocks [bookingId] snap }

/-- The follow-up read: status, deadline and departure. -/
def readForCancel (bookingId : Uuid) (scope : BookingAccessScope) :
    Statement postgres (Option (BookingRow × FlightRow)) :=
  fun _ snap _ => .ok
    { reply := ((snap.bookings.find? bookingId).filter fun b => scope.admits b.ownerAccountId).bind
        fun booking => (snap.flights.find? booking.flightId).map fun flight => (booking, flight) }

/-! ### Expire and confirm -/

/-- A HELD booking that became EXPIRED, with the seats it released. -/
structure ExpiredHold where
  bookingId : Uuid
  reference : String
  flightId : Uuid
  ownerAccountId : Uuid
  holdExpiresAt : Instant
  seats : List SeatPosition
  deriving DecidableEq, Repr

def isDue (now : Instant) (booking : BookingRow) : Bool :=
  booking.status = .held && holdIsDue booking.holdExpiresAt now

/-- `ORDER BY hold_expires_at, id`. -/
def BookingRow.dueBefore (a b : BookingRow) : Prop :=
  a.holdExpiresAt.getD 0 < b.holdExpiresAt.getD 0 ∨
    (a.holdExpiresAt.getD 0 = b.holdExpiresAt.getD 0 ∧ a.id ≤ b.id)

instance : DecidableRel BookingRow.dueBefore :=
  fun _ _ => inferInstanceAs (Decidable (_ ∨ _))

/-- The CTE `due`: locked rows are passed over, changed ones re-checked. -/
def dueHolds (now : Instant) (limit : Nat) (skip : List Row) (snap cur : Db) : List BookingRow :=
  (((snap.bookings.recheck cur.bookings (isDue now)).filter fun b =>
    Row.booking b.id ∉ skip).insertionSort BookingRow.dueBefore).take limit

def expireDueHolds (now : Instant) (limit : Nat) : Statement postgres (List ExpiredHold) :=
  fun skip snap cur =>
    let due := dueHolds now limit skip snap cur
    let seats := lockedSeats (due.map (·.id)) snap cur
    .ok {
      -- A due hold has a deadline; the default is never read.
      reply := due.map fun b =>
        ⟨b.id, b.reference, b.flightId, b.ownerAccountId, b.holdExpiresAt.getD 0,
          sortedPositions (seats.filter fun s => s.bookingId = some b.id)⟩
      writes := {
        bookings := due.map fun b => { b with status := .expired }
        seats := seats.map releaseSeat }
      locks := due.map (fun b => (.booking b.id, .update)) ++ seatLocks (due.map (·.id)) snap }

/-- The WHERE of the confirm statement. -/
def isConfirmable (scope : BookingAccessScope) (now : Instant) (booking : BookingRow) : Bool :=
  booking.status = .held && holdIsValid booking.holdExpiresAt now &&
    scope.admits booking.ownerAccountId

/-- Confirm a valid hold, and book its seats only then. -/
def confirmHoldRow (bookingId : Uuid) (scope : BookingAccessScope) (now : Instant) :
    Statement postgres Bool :=
  fun _ snap cur =>
    match (snap.bookings.find? bookingId).filter (isConfirmable scope now) with
    | none => .ok { reply := false }
    | some _ =>
        let locks := [(.booking bookingId, .noKeyUpdate)]
        match (cur.bookings.find? bookingId).filter (isConfirmable scope now) with
        | none => .ok { reply := false, locks }
        | some booking => .ok {
            reply := true
            writes := {
              bookings := [{ booking with status := .confirmed }]
              seats := (lockedSeats [bookingId] snap cur).map bookSeat }
            locks := locks ++ seatLocks [bookingId] snap }

/-! ### Seat change -/

/-- The booking FOR UPDATE and its flight FOR SHARE. -/
def lockBookingAndFlight (bookingId : Uuid) (scope : BookingAccessScope) :
    Statement postgres (Option (BookingRow × FlightRow)) :=
  fun _ snap cur =>
    let found (db : Db) := ((db.bookings.find? bookingId).filter
      fun b => scope.admits b.ownerAccountId).bind
        fun booking => (db.flights.find? booking.flightId).map fun flight => (booking, flight)
    match found snap with
    | none => .ok { reply := none }
    | some (_, flight) => .ok
        { reply := found cur
          locks := [(.booking bookingId, .update), (.flight flight.id, .share)] }

def findPassenger (bookingId : Uuid) (position : Nat) : Statement postgres (Option PassengerRow) :=
  fun _ snap _ => .ok { reply := snap.passengers.find? (bookingId, position) }

/-- Seats of one flight by position, FOR UPDATE. -/
def lockSeats (flightId : Uuid) (positions : List SeatPosition) :
    Statement postgres (List FlightSeat) :=
  fun _ snap cur =>
    let wanted (seat : FlightSeat) : Bool := seat.flightId = flightId && seat.position ∈ positions
    .ok {
      reply := snap.seats.recheck cur.seats wanted
      locks := (snap.seats.rows.filter wanted).map fun seat => (.seat (key seat), .update) }

/-- `UPDATE flight_seats … WHERE` primary key. -/
def updateSeat (flightId : Uuid) (position : SeatPosition) (assign : FlightSeat → FlightSeat) :
    Statement postgres Unit :=
  fun _ snap cur =>
    let found := snap.seats.recheck cur.seats fun s => s.flightId = flightId && s.position = position
    .ok { reply := (), writes := { seats := found.map assign } }

def takeSeat (bookingId : Uuid) (seat : FlightSeat) : FlightSeat :=
  { seat with status := .booked, bookingId := some bookingId }

/-- The display copy moves; `UQ_booking_passengers_seat` is checked. -/
def updatePassengerSeat (bookingId : Uuid) (position : Nat) (seat : SeatPosition) :
    Statement postgres Unit :=
  fun _ _ cur =>
    if cur.passengers.rows.any fun p =>
        p.bookingId = bookingId && p.position ≠ position && p.seat = some seat then
      .error (.uniqueViolation "UQ_booking_passengers_seat")
    else
      let found := (cur.passengers.find? (bookingId, position)).toList
      .ok { reply := (), writes := { passengers := found.map fun p => { p with seat := some seat } } }

/-! ### Hold -/

/-- A seat the hold statement returns, joined to its class's fare. -/
structure PricedSeat where
  position : SeatPosition
  fareClass : FareClass
  status : FlightSeatStatus
  amount : Option Money
  deriving DecidableEq, Repr

/-- The seat with its fare, share-locked in the same statement. -/
def priceSeat (cur : Db) (seat : FlightSeat) : PricedSeat :=
  ⟨seat.position, seat.fareClass, seat.status,
    (cur.fares.find? (seat.flightId, seat.fareClass)).map (·.amount)⟩

def fareLocks (flightId : Uuid) (snap : Db) : List (Row × LockMode) :=
  (snap.fares.rows.filter fun f => f.flightId = flightId).map fun f => (.fare (key f), .share)

/-- The flight, if it is on sale. -/
def flightOnSale (flightId : Uuid) (now : Instant) (db : Db) : Bool :=
  (db.flights.find? flightId).any fun flight => onSale flight now

/-- The seats a hold statement finds in its snapshot: none unless the flight is on sale
there. -/
def foundSeats (flightId : Uuid) (now : Instant) (snap : Db) (wanted : FlightSeat → Bool) :
    List FlightSeat :=
  if flightOnSale flightId now snap then snap.seats.rows.filter wanted else []

/-- The flight is share-locked with its first seat. -/
def flightLocks (flightId : Uuid) (seats : List FlightSeat) : List (Row × LockMode) :=
  if seats.isEmpty then [] else [(.flight flightId, .share)]

def holdSeat (bookingId : Uuid) (seat : FlightSeat) : FlightSeat :=
  { seat with status := .held, bookingId := some bookingId }

def FlightSeat.before (a b : FlightSeat) : Prop := a.position.le b.position = true

instance : DecidableRel FlightSeat.before := fun _ _ => inferInstanceAs (Decidable (_ = true))

def isFree (flightId : Uuid) (fareClass : FareClass) (seat : FlightSeat) : Bool :=
  seat.flightId = flightId && seat.status = .available && seat.fareClass = fareClass

/-- The CTE `candidates`: the `count` lowest free seats of the class, seats that
others have locked passed over. -/
def holdCandidates (flightId : Uuid) (count : Nat) (fareClass : FareClass) (now : Instant)
    (skip : List Row) (snap cur : Db) : List FlightSeat :=
  if flightOnSale flightId now snap && flightOnSale flightId now cur then
    (((snap.seats.recheck cur.seats (isFree flightId fareClass)).filter fun s =>
      Row.seat (key s) ∉ skip).insertionSort FlightSeat.before).take count
  else []

/-- All or nothing: `enough` is part of the UPDATE's own WHERE. -/
def holdAuto (flightId bookingId : Uuid) (count : Nat) (fareClass : FareClass) (now : Instant) :
    Statement postgres (List PricedSeat) :=
  fun skip snap cur =>
    let candidates := holdCandidates flightId count fareClass now skip snap cur
    let found := foundSeats flightId now snap fun s =>
      isFree flightId fareClass s && Row.seat (key s) ∉ skip
    let locks := flightLocks flightId found ++ fareLocks flightId snap ++
      candidates.map fun s => (.seat (key s), .update)
    if candidates.length = count then .ok
      { reply := (candidates.map (holdSeat bookingId)).map (priceSeat cur)
        writes := { seats := candidates.map (holdSeat bookingId) }
        locks }
    else .ok { reply := [], locks }

/-- The requested seats of a flight on sale: locked in (row, letter) order. -/
def requestedSeats (flightId : Uuid) (requested : List SeatPosition) (now : Instant)
    (snap cur : Db) : List FlightSeat :=
  if flightOnSale flightId now snap && flightOnSale flightId now cur then
    (snap.seats.recheck cur.seats fun s =>
      s.flightId = flightId && s.position ∈ requested).insertionSort FlightSeat.before
  else []

/-- Exactly the requested seats, if every one exists and is AVAILABLE; answers the
locked rows as they were, and whether they were held. -/
def holdChosen (flightId bookingId : Uuid) (requested : List SeatPosition) (now : Instant) :
    Statement postgres (List PricedSeat × Bool) :=
  fun _ snap cur =>
    let locked := requestedSeats flightId requested now snap cur
    let found := foundSeats flightId now snap fun s =>
      s.flightId = flightId && s.position ∈ requested
    let locks := flightLocks flightId found ++ fareLocks flightId snap ++
      found.map fun s => (.seat (key s), .update)
    let verdict := locked.length = requested.length ∧ ∀ s ∈ locked, s.status = .available
    if verdict then .ok
      { reply := (locked.map (priceSeat cur), !locked.isEmpty)
        writes := { seats := locked.map (holdSeat bookingId) }
        locks }
    else .ok { reply := (locked.map (priceSeat cur), false), locks }

/-- `findOneBy({ id })` on flights. -/
def findFlight (flightId : Uuid) : Statement postgres (Option FlightRow) :=
  fun _ snap _ => .ok { reply := snap.flights.find? flightId }

def hasFareClass (flightId : Uuid) (fareClass : FareClass) : Statement postgres Bool :=
  fun _ snap _ => .ok
    { reply := snap.seats.rows.any fun s => s.flightId = flightId && s.fareClass = fareClass }

/-! ### Create -/

/-- ON CONFLICT names the reference constraint only: a taken reference inserts
nothing, a taken id raises. -/
def insertBookingRow (booking : BookingRow) : Statement postgres Bool :=
  fun _ _ cur =>
    let locks := [(.reference booking.reference, .update)]
    if cur.bookings.rows.any fun b => b.reference = booking.reference then
      .ok { reply := false }
    else if (cur.bookings.find? booking.id).isSome then
      .error (.uniqueViolation "PK_bookings")
    else if booking.status = .held ∧ booking.holdExpiresAt = none then
      .error (.checkViolation "CHK_bookings_hold_expiry")
    else .ok { reply := true, writes := { bookings := [booking] }, locks }

/-- The constraints of `booking_passengers` on new rows of one booking. -/
def checkPassengers (rows : List PassengerRow) (cur : Db) : Option Failure :=
  if ∃ p ∈ rows, (cur.passengers.find? (key p)).isSome then
    some (.uniqueViolation "UQ_booking_passengers_position")
  else if ¬ (rows.filterMap (·.seat)).Nodup then
    some (.uniqueViolation "UQ_booking_passengers_seat")
  else if ∃ p ∈ rows, ¬ (1 ≤ p.position ∧ p.position ≤ 9) then
    some (.checkViolation "CHK_booking_passengers_position")
  else if ∃ p ∈ rows, p.price.any fun price => price.amount = 0 then
    some (.checkViolation "CHK_booking_passengers_price_positive")
  else none

def insertPassengers (rows : List PassengerRow) : Statement postgres Unit :=
  fun _ _ cur =>
    match checkPassengers rows cur with
    | some e => .error e
    | none => .ok { reply := (), writes := { passengers := rows } }

/-! ### Records beside the write -/

/-- `INSERT INTO audit_logs`. -/
def recordAudit (input : AuditRecordInput) : Statement postgres Unit :=
  fun _ _ cur =>
    if (cur.audit.find? input.id).isSome then .error (.uniqueViolation "PK_audit_logs")
    else .ok { reply := (), writes := { audit := [input] } }

/-- `INSERT INTO outbox`, not published yet. -/
def enqueue (entry : OutboxEntry) : Statement postgres Unit :=
  fun _ _ cur =>
    if (cur.outbox.find? entry.id).isSome then .error (.uniqueViolation "PK_outbox")
    else .ok { reply := (), writes := { outbox := [⟨entry, none⟩] } }

end FlightBooking
