import FlightBooking.Payments.Repository

/-!
The transactions of the booking use cases: create, cancel, change a seat, expire
a batch of holds. What a use case generates (ids, references, the request id) is
an argument.
-/

namespace FlightBooking

open ReadCommitted

/-- BR-BOOK-01. -/
def MAX_PASSENGERS : Nat := 9

/-- Draws of a booking reference before giving up. -/
def MAX_REFERENCE_ATTEMPTS : Nat := 5

/-! ### Create -/

/-- A request as validated: every passenger names a seat, all different, or none
does. -/
inductive CreateBookingInput where
  | auto (fareClass : FareClass) (names : List String)
      (count : 1 ≤ names.length ∧ names.length ≤ MAX_PASSENGERS)
  | chosen (passengers : List (String × SeatPosition))
      (count : 1 ≤ passengers.length ∧ passengers.length ≤ MAX_PASSENGERS)
      (distinct : (passengers.map (·.2)).Nodup)

def CreateBookingInput.names : CreateBookingInput → List String
  | .auto _ names _ => names
  | .chosen passengers _ _ => passengers.map (·.1)

def toHoldRequest : CreateBookingInput → SeatHoldRequest
  | .auto fareClass names _ => .auto names.length fareClass
  | .chosen passengers _ _ => .chosen (passengers.map (·.2))

/-- Pairing is by index: held seats come back in passenger order. -/
def seatPassengers (input : CreateBookingInput) (seats : List HeldSeat) :
    Except Failure (List EventPassenger) :=
  if seats.length ≠ input.names.length then
    .error (.heldSeatCount seats.length input.names.length)
  else .ok (List.zipWith (fun name s => ⟨name, s.seat, s.fareClass, s.price⟩) input.names seats)

def EventPassenger.toBookingPassenger (p : EventPassenger) : BookingPassenger :=
  ⟨p.name, some p.seat, some p.fareClass, some p.price⟩

/-- What createBooking generates; `references` are its draws in order. -/
structure CreateBookingIds where
  bookingId : Uuid
  references : Nat → String
  auditId : Uuid
  eventId : Uuid

/-- Draw references until one is free, from draw `attempt` on. -/
def createWithFreeReference (held : Booking) (references : Nat → String) :
    Nat → Nat → Prog postgres Booking
  | 0, _ => raise (.bookingReferenceExhausted MAX_REFERENCE_ATTEMPTS)
  | left + 1, attempt => do
      let booking := { held with reference := references attempt }
      if ← insertBooking booking then pure booking
      else createWithFreeReference held references left (attempt + 1)

def createBookingTransaction (flightId : Uuid) (request : CreateBookingInput) (actor : Uuid)
    (ids : CreateBookingIds) (requestId : Option Uuid) (now : Instant) :
    Prog postgres (Except HoldRefusal Booking) := do
  match ← holdSeats flightId ids.bookingId (toHoldRequest request) now with
  | .error refusal => pure (.error refusal)
  | .ok seats =>
      let passengers ← orThrow (seatPassengers request seats)
      let total ← orThrow (bookingTotal (passengers.map (·.toBookingPassenger)))
      let holdExpiresAt := now + HOLD_DURATION_MS
      let held : Booking :=
        { id := ids.bookingId
          reference := ""
          flightId
          ownerAccountId := actor
          passengers := passengers.map (·.toBookingPassenger)
          total
          createdAt := now
          status := .held
          holdExpiresAt := some holdExpiresAt }
      let booking ← createWithFreeReference held ids.references MAX_REFERENCE_ATTEMPTS 0
      let correlationId := resolveCorrelationId requestId ids.eventId
      query (recordAudit
        { id := ids.auditId
          action := .bookingCreated
          actor := .account actor
          target := .booking booking.id
          requestId
          occurredAt := now
          metadata :=
            [("flightId", .id booking.flightId), ("reference", .text booking.reference),
              ("passengerCount", .number passengers.length),
              ("seats", .text (joinSeats (passengers.map (·.seat)))),
              ("totalVnd", .number booking.total.amount), ("holdExpiresAt", .instant holdExpiresAt),
              ("correlationId", .id correlationId)] })
      query (enqueue
        { id := ids.eventId
          eventType := .bookingHeld
          payload := ⟨ids.eventId, correlationId, now,
            .bookingHeld booking.id booking.reference booking.flightId booking.createdAt
              holdExpiresAt passengers booking.total⟩
          createdAt := now })
      pure (.ok booking)

/-! ### Cancel -/

/-- A paid booking's refund, started by the cancel and made by the job. -/
structure StartedRefund where
  paymentId : Uuid
  amount : Money
  deriving DecidableEq, Repr

structure CancelIds where
  auditId : Uuid
  refundAuditId : Uuid
  eventId : Uuid
  deriving DecidableEq, Repr

structure CancelledBooking where
  booking : Booking
  refund : Option StartedRefund
  deriving DecidableEq, Repr

/-- The audit entry of the refund a cancel starts, if it starts one. -/
def recordStartedRefund (payment : Option Payment) (bookingId actor : Uuid) (auditId : Uuid)
    (requestId : Option Uuid) (now : Instant) : Prog postgres Unit :=
  match payment with
  | none => pure ()
  | some payment => query (recordAudit
      { id := auditId
        action := .paymentRefundPending
        actor := .account actor
        target := .payment payment.id
        requestId
        occurredAt := now
        metadata :=
          [("bookingId", .id bookingId), ("amountVnd", .number payment.amount.amount),
            ("providerReference", .ofText? payment.providerReference),
            ("reason", .text "booking-cancelled")] })

def cancelBookingTransaction (bookingId : Uuid) (scope : BookingAccessScope) (actor : Uuid)
    (ids : CancelIds) (requestId : Option Uuid) (now : Instant) :
    Prog postgres (Except NotCancelled CancelledBooking) := do
  match ← cancelInTransaction bookingId scope now with
  | .error reason => pure (.error reason)
  | .ok cancelled =>
      let payment ← query (markRefundPendingForCancelledBooking bookingId now)
      let refund := payment.map fun p => StartedRefund.mk p.id p.amount
      let correlationId := resolveCorrelationId requestId ids.eventId
      query (recordAudit
        { id := ids.auditId
          action := .bookingCancelled
          actor := .account actor
          target := .booking bookingId
          requestId
          occurredAt := now
          metadata :=
            [("flightId", .id cancelled.flightId), ("correlationId", .id correlationId)] ++
              refund.toList.map fun r => ("refundPaymentId", .id r.paymentId) })
      recordStartedRefund payment bookingId actor ids.refundAuditId requestId now
      query (enqueue
        { id := ids.eventId
          eventType := .bookingCancelled
          payload := ⟨ids.eventId, correlationId, now,
            .bookingCancelled bookingId cancelled.reference cancelled.flightId cancelled.seats
              (refund.map fun r => (r.paymentId, r.amount))⟩
          createdAt := now })
      match ← findById bookingId scope with
      | none => raise (.cancelledNotReadBack bookingId)
      | some booking => pure (.ok ⟨booking, refund⟩)

/-! ### Change a seat -/

/-- The booking as it now reads, and whether anything was written. -/
structure SeatSet where
  changed : Bool
  booking : Booking
  deriving DecidableEq, Repr

def changeSeatTransaction (bookingId : Uuid) (position : Nat) (seat : SeatPosition)
    (scope : BookingAccessScope) (actor auditId : Uuid) (requestId : Option Uuid)
    (now : Instant) : Prog postgres (Except SeatChangeRefusal SeatSet) := do
  match ← changeSeatInTransaction bookingId position seat scope now with
  | .refused reason => pure (.error reason)
  | .unchanged => readBack false
  | .changed old new =>
      query (recordAudit
        { id := auditId
          action := .bookingSeatChanged
          actor := .account actor
          target := .booking bookingId
          requestId
          occurredAt := now
          metadata :=
            [("position", .number position), ("from", .text (formatSeatPosition old)),
              ("to", .text (formatSeatPosition new))] })
      readBack true
where
  readBack (changed : Bool) : Prog postgres (Except SeatChangeRefusal SeatSet) := do
    match ← findById bookingId scope with
    | none => raise (.changedNotReadBack bookingId)
    | some booking => pure (.ok ⟨changed, booking⟩)

/-! ### Expire -/

/-- The ids the n-th hold of a batch is recorded under. -/
structure ExpiryIds where
  auditId : Nat → Uuid
  eventId : Nat → Uuid

def recordExpiry (hold : ExpiredHold) (auditId eventId : Uuid) (now : Instant) :
    Prog postgres Unit := do
  let correlationId := resolveCorrelationId none eventId
  query (recordAudit
    { id := auditId
      action := .bookingExpired
      actor := HOLD_EXPIRY_ACTOR
      target := .booking hold.bookingId
      requestId := none
      occurredAt := now
      metadata :=
        [("flightId", .id hold.flightId), ("reference", .text hold.reference),
          ("seats", .text (joinSeats hold.seats)), ("holdExpiresAt", .instant hold.holdExpiresAt),
          ("correlationId", .id correlationId)] })
  query (enqueue
    { id := eventId
      eventType := .bookingExpired
      payload := ⟨eventId, correlationId, now,
        .bookingExpired hold.bookingId hold.reference hold.flightId hold.holdExpiresAt hold.seats⟩
      createdAt := now })

/-- One audit entry and one event for every hold, from index `i` on. -/
def recordExpiries (ids : ExpiryIds) (now : Instant) : Nat → List ExpiredHold → Prog postgres Unit
  | _, [] => pure ()
  | i, hold :: holds => do
      recordExpiry hold (ids.auditId i) (ids.eventId i) now
      recordExpiries ids now (i + 1) holds

def expireBatchTransaction (now : Instant) (batchSize : Nat) (ids : ExpiryIds) :
    Prog postgres Nat := do
  let holds ← query (expireDueHolds now batchSize)
  recordExpiries ids now 0 holds
  pure holds.length

end FlightBooking
