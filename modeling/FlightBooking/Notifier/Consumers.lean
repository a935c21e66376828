import FlightBooking.Contracts.Events
import FlightBooking.Domain.Records
import FlightBooking.Library.Utf8

/-!
The consumers of the flight notifier: what each queue's handler makes of a message.

A handler parses the event and writes a line to the log; a message that is no JSON, or no event
of the queue, is refused.
-/

namespace FlightBooking.Notifier

open Contracts

/-- The queues, in the order they are subscribed to. -/
inductive Source where
  | flightCreated
  /-- No longer produced. -/
  | bookingCreated
  | bookingHeld
  | bookingExpired
  | bookingConfirmed
  | bookingCancelled
  deriving DecidableEq, Repr

namespace Source

def name : Source → String
  | .flightCreated => "flight-created"
  | .bookingCreated => "booking-created"
  | .bookingHeld => "booking-held"
  | .bookingExpired => "booking-expired"
  | .bookingConfirmed => "booking-confirmed"
  | .bookingCancelled => "booking-cancelled"

def all : List Source :=
  [.flightCreated, .bookingCreated, .bookingHeld, .bookingExpired, .bookingConfirmed,
    .bookingCancelled]

theorem mem_all (q : Source) : q ∈ all := by cases q <;> decide

end Source

/-- The queue of an event type. -/
def sourceOf : EventType → Source
  | .flightCreated => .flightCreated
  | .bookingHeld => .bookingHeld
  | .bookingConfirmed => .bookingConfirmed
  | .bookingCancelled => .bookingCancelled
  | .bookingExpired => .bookingExpired

theorem name_sourceOf (type : EventType) : (sourceOf type).name = type.queue := by
  cases type <;> rfl

/-! ### The event that is no longer produced -/

structure CreatedBooking where
  id : Text
  flightId : Text
  passengerName : Text
  createdAt : Text
  deriving DecidableEq, Repr

structure BookingCreatedEvent extends EventHeader where
  booking : CreatedBooking
  deriving DecidableEq, Repr

def parseBookingCreatedEvent (payload : Json.Value) : Except String BookingCreatedEvent := do
  let header ← parseHeader "booking.created" payload
  let booking ← requireRecord "booking must be an object" (field payload "booking")
  let id ← requireText "booking." "id" booking
  let flightId ← requireText "booking." "flightId" booking
  let passengerName ← requireText "booking." "passengerName" booking
  let createdAt ← requireText "booking." "createdAt" booking
  return { toEventHeader := header, booking := { id, flightId, passengerName, createdAt } }

/-! ### The log -/

inductive LogLevel where
  | info
  | error
  deriving DecidableEq, Repr

structure LogLine where
  level : LogLevel
  message : String
  context : List Json.Member

/-- The line of an event, between its ids and the time it carries. -/
def consumedLine (message : String) (header : EventHeader) (context : List Json.Member) : LogLine :=
  ⟨.info, message,
    [member "eventId" (.string header.eventId),
      member "correlationId" (.string header.correlationId)] ++ context ++
    [member "occurredAt" (.string header.occurredAt)]⟩

def fareText (fare : Text × EventMoney) : Text :=
  fare.1 ++ ':' :: (Json.renderInt fare.2.amount ++ ' ' :: fare.2.currency)

def flightCreatedLine (e : FlightCreatedEvent) : LogLine :=
  consumedLine "flight_created_consumed" e.toEventHeader <|
    [member "flightId" (.string e.flight.id), member "flightNumber" (.string e.flight.flightNumber),
      member "origin" (.string e.flight.origin),
      member "destination" (.string e.flight.destination)] ++
    present "aircraftId" (e.flight.aircraftId.map .string) ++
    present "status" (e.flight.status.map .string) ++
    present "fares" (e.flight.fares.map fun fares =>
      .string ([','].intercalate (fares.map fareText)))

def bookingCreatedLine (e : BookingCreatedEvent) : LogLine :=
  consumedLine "booking_created_consumed" e.toEventHeader
    [member "bookingId" (.string e.booking.id), member "flightId" (.string e.booking.flightId),
      member "passengerName" (.string e.booking.passengerName)]

def bookingHeldLine (e : BookingHeldEvent) : LogLine :=
  consumedLine "booking_held_consumed" e.toEventHeader <|
    [member "bookingId" (.string e.booking.id), member "reference" (.string e.booking.reference),
      member "flightId" (.string e.booking.flightId),
      member "passengerCount" (.int e.booking.passengers.length)] ++
    present "total" (e.booking.total.map fun total => .int total.amount) ++
    present "currency" (e.booking.total.map fun total => .string total.currency) ++
    [member "holdExpiresAt" (.string e.booking.holdExpiresAt)]

def bookingExpiredLine (e : BookingExpiredEvent) : LogLine :=
  consumedLine "booking_expired_consumed" e.toEventHeader
    [member "bookingId" (.string e.booking.id), member "reference" (.string e.booking.reference),
      member "flightId" (.string e.booking.flightId),
      member "seatCount" (.int e.booking.seats.length),
      member "holdExpiresAt" (.string e.booking.holdExpiresAt)]

def bookingConfirmedLine (e : BookingConfirmedEvent) : LogLine :=
  consumedLine "booking_confirmed_consumed" e.toEventHeader
    [member "bookingId" (.string e.booking.id), member "reference" (.string e.booking.reference),
      member "flightId" (.string e.booking.flightId),
      member "passengerCount" (.int e.booking.passengers.length),
      member "paymentId" (.string e.payment.id),
      member "amount" (.int e.payment.amount.amount),
      member "currency" (.string e.payment.amount.currency)]

def bookingCancelledLine (e : BookingCancelledEvent) : LogLine :=
  consumedLine "booking_cancelled_consumed" e.toEventHeader
    [member "bookingId" (.string e.booking.id), member "reference" (.string e.booking.reference),
      member "flightId" (.string e.booking.flightId),
      member "seatCount" (.int e.booking.seats.length),
      member "refundPaymentId" ((e.refund.map fun r => .string r.paymentId).getD .null),
      member "refundAmount" ((e.refund.map fun r => .int r.amount.amount).getD .null)]

/-! ### The handlers -/

/-- The line of an event that was processed, or the reason it is refused. -/
def handle (q : Source) (payload : Json.Value) : Except String LogLine :=
  match q with
  | .flightCreated => (parseFlightCreatedEvent payload).map flightCreatedLine
  | .bookingCreated => (parseBookingCreatedEvent payload).map bookingCreatedLine
  | .bookingHeld => (parseBookingHeldEvent payload).map bookingHeldLine
  | .bookingExpired => (parseBookingExpiredEvent payload).map bookingExpiredLine
  | .bookingConfirmed => (parseBookingConfirmedEvent payload).map bookingConfirmedLine
  | .bookingCancelled => (parseBookingCancelledEvent payload).map bookingCancelledLine

inductive Verdict where
  | ack
  /-- `nack`, not to be queued again. -/
  | nack
  deriving DecidableEq, Repr

/-- The callback of `consume`. -/
def onMessage (q : Source) (content : List UInt8) : Verdict × LogLine :=
  let queue := member "queue" (.string q.name.toList)
  match Json.parse (Utf8.decode content) with
  | none => (.nack, ⟨.error, "message_parse_failed", [queue]⟩)
  | some payload =>
      match handle q payload with
      | .ok line => (.ack, line)
      | .error reason =>
          (.nack, ⟨.error, "message_rejected", [queue, member "reason" (.string reason.toList)]⟩)

end FlightBooking.Notifier
