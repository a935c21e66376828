import FlightBooking.Domain.Money

/-!
The lifecycles of flights, bookings and payments: their statuses, and the pure
decisions on a status, a deadline and an instant. The SQL of the repositories
repeats these conditions; where it does, it is modelled by these functions'
conditions written out, not by a call.
-/

namespace FlightBooking

/-! ### Flights -/

inductive StoredFlightStatus where
  | scheduled
  | open
  | cancelled
  deriving DecidableEq, Repr

inductive FlightStatus where
  | scheduled
  | open
  | closed
  | departed
  | cancelled
  deriving DecidableEq, Repr

/-- BR-FLT-06: sales close 1 hour before departure. -/
def SALES_CLOSE_BEFORE_DEPARTURE_MS : Int := 60 * 60 * 1000

/-- BR-FLT-08: minimum time on the ground between two flights of one aircraft. -/
def AIRCRAFT_TURNAROUND_MS : Int := 45 * 60 * 1000

/-- CLOSED and DEPARTED are never stored. -/
def effectiveFlightStatus (stored : StoredFlightStatus) (departureAt now : Instant) :
    FlightStatus :=
  if stored = .cancelled then .cancelled
  else if departureAt ≤ now then .departed
  else if stored = .open ∧ departureAt - SALES_CLOSE_BEFORE_DEPARTURE_MS ≤ now then .closed
  else match stored with
    | .scheduled => .scheduled
    | .open => .open
    | .cancelled => .cancelled

/-- BR-FLT-06: a seat can be held only while the effective status is OPEN. -/
def isBookable (stored : StoredFlightStatus) (departureAt now : Instant) : Bool :=
  effectiveFlightStatus stored departureAt now = .open

inductive TransitionRejection where
  | notAllowed
  | departureTooSoon
  deriving DecidableEq, Repr

/-- SCHEDULED → OPEN: "departure more than 1 h away". -/
def departsMoreThanAnHourAhead (departureAt now : Instant) : Option TransitionRejection :=
  if departureAt - now > SALES_CLOSE_BEFORE_DEPARTURE_MS then none else some .departureTooSoon

/-- The table of legal moves, by effective status; a missing pair is forbidden. -/
def FLIGHT_TRANSITIONS : FlightStatus → FlightStatus →
    Option (Instant → Instant → Option TransitionRejection)
  | .scheduled, .open => some departsMoreThanAnHourAhead
  | .scheduled, .cancelled | .open, .cancelled | .closed, .cancelled => some fun _ _ => none
  | _, _ => none

def transitionFlight (before after : FlightStatus) (departureAt now : Instant) :
    Except TransitionRejection Unit :=
  match FLIGHT_TRANSITIONS before after with
  | none => .error .notAllowed
  | some guard =>
      match guard departureAt now with
      | none => .ok ()
      | some rejection => .error rejection

/-! ### Bookings -/

inductive BookingStatus where
  | held
  | confirmed
  | cancelled
  | expired
  deriving DecidableEq, Repr

def BookingStatus.name : BookingStatus → String
  | .held => "HELD"
  | .confirmed => "CONFIRMED"
  | .cancelled => "CANCELLED"
  | .expired => "EXPIRED"

/-- BR-BOOK-04: a hold lasts 15 minutes. -/
def HOLD_DURATION_MS : Int := 15 * 60 * 1000

/-- BR-BOOK-10: at `now`, a hold whose deadline is `<= now` has lapsed. -/
def isHoldLapsed (holdExpiresAt now : Instant) : Bool := holdExpiresAt ≤ now

/-- Between the deadline and the expiry job's next run the row still says HELD. -/
def effectiveBookingStatus (status : BookingStatus) (holdExpiresAt : Option Instant)
    (now : Instant) : BookingStatus :=
  match status, holdExpiresAt with
  | .held, some deadline => if isHoldLapsed deadline now then .expired else .held
  | status, _ => status

/-- BR-BOOK-06: a CONFIRMED booking cannot be cancelled within this of departure. -/
def CANCELLATION_WINDOW_MS : Int := 24 * 60 * 60 * 1000

def cancellableUntil (departureAt : Instant) : Instant := departureAt - CANCELLATION_WINDOW_MS

def isCancellationWindowOpen (departureAt now : Instant) : Bool :=
  cancellableUntil departureAt > now

/-- Why a cancel did not cancel. -/
inductive NotCancelled where
  | alreadyCancelled
  | expired
  | cancellationWindowClosed (cancellableUntil : Instant)
  | notFound
  deriving DecidableEq, Repr

/-- Why a cancel matched no row, for a booking the caller can see. -/
def classifyNotCancelled (status : BookingStatus) (holdExpiresAt : Option Instant)
    (departureAt now : Instant) : Except Failure NotCancelled :=
  let effective := effectiveBookingStatus status holdExpiresAt now
  if effective = .cancelled then .ok .alreadyCancelled
  else if effective = .expired then .ok .expired
  else if effective = .confirmed ∧ ¬ isCancellationWindowOpen departureAt now then
    .ok (.cancellationWindowClosed (cancellableUntil departureAt))
  -- A cancellable booking the UPDATE did not match.
  else .error (.cancelMatchedNoRow effective.name)

/-! ### Payments -/

inductive PaymentStatus where
  | processing
  | succeeded
  | failed
  | refundPending
  | refunded
  | refundFailed
  deriving DecidableEq, Repr

def PaymentStatus.name : PaymentStatus → String
  | .processing => "PROCESSING"
  | .succeeded => "SUCCEEDED"
  | .failed => "FAILED"
  | .refundPending => "REFUND_PENDING"
  | .refunded => "REFUNDED"
  | .refundFailed => "REFUND_FAILED"

/-- BR-PAY-07: a payment starts only while the hold has more than this left. -/
def PAYMENT_START_MARGIN_MS : Int := 60000

/-- BR-PAY-09: the fifth failed refund attempt is the last. -/
def MAX_REFUND_ATTEMPTS : Nat := 5

def MINUTE_MS : Int := 60000

/-- An unknown charge is retried until it is known, but at least this often. -/
def MAX_CHARGE_RETRY_DELAY_MS : Int := 10 * MINUTE_MS

/-- 1, 2, 4, 8 … minutes after the given (1-based) attempt. -/
def retryDelayMs (attempt : Nat) : Int := MINUTE_MS * 2 ^ (attempt - 1)

/-- BR-PAY-10: a completed key answers repeats for 24 hours. -/
def IDEMPOTENCY_KEY_RETENTION_MS : Int := 24 * 60 * 60000

end FlightBooking
