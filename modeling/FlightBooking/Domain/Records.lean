import FlightBooking.Domain.Lifecycle

/-!
What the use cases read, return and record: bookings, payments, stored
responses, audit entries and events, field by field.
-/

namespace FlightBooking

/-! ### Bookings -/

/-- A passenger as reads return them. The seat is a display copy; fare class and
price are the snapshot taken when the seat was held. -/
structure BookingPassenger where
  name : String
  seat : Option SeatPosition
  fareClass : Option FareClass
  price : Option Money
  deriving DecidableEq, Repr

/-- A seat the hold took, with the price it was taken at. -/
structure HeldSeat where
  seat : SeatPosition
  fareClass : FareClass
  price : Money
  deriving DecidableEq, Repr

structure Booking where
  id : Uuid
  reference : String
  flightId : Uuid
  ownerAccountId : Uuid
  passengers : List BookingPassenger
  total : Money
  createdAt : Instant
  status : BookingStatus
  holdExpiresAt : Option Instant
  deriving DecidableEq, Repr

/-- The sum of the passengers' prices; one without a price adds nothing. -/
def bookingTotal (passengers : List BookingPassenger) : Except Failure Money :=
  sumMoney (passengers.filterMap (·.price))

/-- Whose bookings a caller may see or change. -/
inductive BookingAccessScope where
  | owner (accountId : Uuid)
  | admin
  deriving DecidableEq, Repr

/-- The SQL owner condition. -/
def BookingAccessScope.admits (scope : BookingAccessScope) (ownerAccountId : Uuid) : Bool :=
  match scope with
  | .owner accountId => ownerAccountId = accountId
  | .admin => true

/-! ### Payments and stored responses -/

structure Payment where
  id : Uuid
  bookingId : Uuid
  accountId : Uuid
  amount : Money
  status : PaymentStatus
  providerReference : Option String
  failureReason : Option String
  paymentMethodToken : Option String
  attempts : Nat
  nextAttemptAt : Option Instant
  createdAt : Instant
  updatedAt : Instant
  deriving DecidableEq, Repr

/-- The payment as the API shows it. -/
structure PaymentView where
  id : Uuid
  bookingId : Uuid
  status : PaymentStatus
  amount : Money
  providerReference : Option String
  createdAt : Instant
  deriving DecidableEq, Repr

def toPaymentView (payment : Payment) : PaymentView where
  id := payment.id
  bookingId := payment.bookingId
  status := payment.status
  amount := payment.amount
  providerReference := payment.providerReference
  createdAt := payment.createdAt

inductive ResponseBody where
  | confirmed (payment : PaymentView) (booking : Booking)
  | error (code message : String)
  deriving DecidableEq, Repr

structure StoredResponse where
  status : Nat
  body : ResponseBody
  deriving DecidableEq, Repr

/-- Why a booking cannot be paid. -/
inductive NotPayableReason where
  | notHeld
  | underMargin
  | refunded
  deriving DecidableEq, Repr

/-- A final outcome of paying for a booking: stored with the key and replayed. -/
inductive PaymentDecision where
  | confirmed (booking : Booking) (payment : Payment)
  | declined (payment : Payment)
  | notPayable (reason : NotPayableReason)
  | notFound
  deriving DecidableEq, Repr

def NOT_PAYABLE_MESSAGES : NotPayableReason → String
  | .notHeld => "Booking is not held or its hold has expired"
  | .underMargin => "Booking hold expires in 60 seconds or less; it can no longer be paid"
  | .refunded => "Booking was cancelled or expired while the payment was processed; " ++
      "the payment is being refunded"

/-- The HTTP response for a final outcome. -/
def toStoredResponse : PaymentDecision → StoredResponse
  | .confirmed booking payment => ⟨201, .confirmed (toPaymentView payment) booking⟩
  | .declined payment =>
      ⟨402, .error "PAYMENT_DECLINED"
        ("Payment was declined: " ++ payment.failureReason.getD "unknown")⟩
  | .notPayable reason => ⟨409, .error "BOOKING_NOT_PAYABLE" (NOT_PAYABLE_MESSAGES reason)⟩
  | .notFound => ⟨404, .error "BOOKING_NOT_FOUND" "Booking was not found"⟩

/-! ### Audit -/

inductive AuditActor where
  | account (id : Uuid)
  | system (id : String)
  deriving DecidableEq, Repr

inductive AuditTarget where
  | flight (id : Uuid)
  | booking (id : Uuid)
  | aircraft (id : Uuid)
  | payment (id : Uuid)
  deriving DecidableEq, Repr

inductive AuditAction where
  | flightCreated
  | flightOpened
  | bookingCreated
  | bookingCancelled
  | bookingExpired
  | bookingConfirmed
  | bookingSeatChanged
  | paymentFailed
  | paymentRefundPending
  | paymentRefunded
  | paymentRefundFailed
  | aircraftRegistered
  deriving DecidableEq, Repr

/-- Metadata values are flat; ids and instants are kept as such. -/
inductive MetadataValue where
  | text (s : String)
  | number (n : Nat)
  | id (u : Uuid)
  | instant (t : Instant)
  | absent
  deriving DecidableEq, Repr

/-- An optional text: a null column. -/
def MetadataValue.ofText? : Option String → MetadataValue
  | some s => .text s
  | none => .absent

structure AuditRecordInput where
  id : Uuid
  action : AuditAction
  actor : AuditActor
  target : AuditTarget
  requestId : Option Uuid
  occurredAt : Instant
  metadata : List (String × MetadataValue)
  deriving DecidableEq, Repr

/-- Seat codes in one flat value: "12A,12B". -/
def joinSeats (seats : List SeatPosition) : String :=
  String.intercalate "," (seats.map formatSeatPosition)

/-- Who expires a hold: no account, the job itself. -/
def HOLD_EXPIRY_ACTOR : AuditActor := .system "booking-hold-expiry"

/-- Who finishes a payment the request could not: the job. -/
def PAYMENT_RECONCILIATION_ACTOR : AuditActor := .system "payment-reconciliation"

/-! ### Events -/

/-- The queue an event is published to. -/
inductive EventType where
  | flightCreated
  | bookingHeld
  | bookingConfirmed
  | bookingCancelled
  | bookingExpired
  deriving DecidableEq, Repr

def EventType.queue : EventType → String
  | .flightCreated => "flight-created"
  | .bookingHeld => "booking-held"
  | .bookingConfirmed => "booking-confirmed"
  | .bookingCancelled => "booking-cancelled"
  | .bookingExpired => "booking-expired"

structure FlightCreatedFlight where
  id : Uuid
  flightNumber : String
  originAirportId : Uuid
  origin : String
  destinationAirportId : Uuid
  destination : String
  aircraftId : Uuid
  departureAt : Instant
  arrivalAt : Instant
  priceInCents : Nat
  fares : List (FareClass × Money)
  availableSeats : Nat
  status : StoredFlightStatus
  deriving DecidableEq, Repr

structure EventPassenger where
  name : String
  seat : SeatPosition
  fareClass : FareClass
  price : Money
  deriving DecidableEq, Repr

/-- A payload, without the header every event has. -/
inductive EventBody where
  | flightCreated (flight : FlightCreatedFlight)
  | bookingHeld (bookingId : Uuid) (reference : String) (flightId : Uuid) (createdAt : Instant)
      (holdExpiresAt : Instant) (passengers : List EventPassenger) (total : Money)
  | bookingConfirmed (bookingId : Uuid) (reference : String) (flightId : Uuid)
      (passengers : List EventPassenger) (total : Money) (paymentId : Uuid) (amount : Money)
  | bookingCancelled (bookingId : Uuid) (reference : String) (flightId : Uuid)
      (seats : List SeatPosition) (refund : Option (Uuid × Money))
  | bookingExpired (bookingId : Uuid) (reference : String) (flightId : Uuid)
      (holdExpiresAt : Instant) (seats : List SeatPosition)
  deriving DecidableEq, Repr

/-- The booking an event is about. -/
def EventBody.bookingId? : EventBody → Option Uuid
  | .flightCreated _ => none
  | .bookingHeld bookingId .. => some bookingId
  | .bookingConfirmed bookingId .. => some bookingId
  | .bookingCancelled bookingId .. => some bookingId
  | .bookingExpired bookingId .. => some bookingId

structure EventPayload where
  eventId : Uuid
  correlationId : Uuid
  occurredAt : Instant
  body : EventBody
  deriving DecidableEq, Repr

/-- The request's id, or the event's own when there is no request. -/
def resolveCorrelationId (requestId : Option Uuid) (eventId : Uuid) : Uuid :=
  requestId.getD eventId

structure OutboxEntry where
  id : Uuid
  eventType : EventType
  payload : EventPayload
  createdAt : Instant
  deriving DecidableEq, Repr

end FlightBooking
