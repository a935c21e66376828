import Mathlib.Algebra.BigOperators.Group.List.Basic
import Mathlib.Algebra.GroupWithZero.Nat

/-!
Ids, instants, seats and money.

An id is an opaque UUID, an instant a number of milliseconds, a seat code such
as 12A the position it spells. Money is whole đồng that a JavaScript number
holds exactly: the bound is a field, and adding checks it.
-/

namespace FlightBooking

abbrev Uuid := Nat

/-- Milliseconds since the epoch. -/
abbrev Instant := Int

inductive FareClass where
  | economy
  | business
  deriving DecidableEq, Repr

def FARE_CLASSES : List FareClass := [.economy, .business]

def FareClass.name : FareClass → String
  | .economy => "ECONOMY"
  | .business => "BUSINESS"

/-- A row and a letter, rendered "12A". -/
structure SeatPosition where
  row : Nat
  letter : Char
  deriving DecidableEq, Repr

def formatSeatPosition (position : SeatPosition) : String :=
  toString position.row ++ toString position.letter

/-- Row, then letter: the order seats are locked and handed out in. -/
def SeatPosition.le (a b : SeatPosition) : Bool :=
  a.row < b.row || (a.row = b.row && a.letter ≤ b.letter)

/-- `Number.MAX_SAFE_INTEGER`. -/
def maxSafeInteger : Nat := 9007199254740991

/-- Whole đồng; VND is the only currency. -/
structure Money where
  amount : Nat
  safe : amount ≤ maxSafeInteger
  deriving DecidableEq, Repr

/-- What the code throws, and what Postgres raises. -/
inductive Failure where
  /-- The connection is lost, or the transaction was chosen as a deadlock's victim. -/
  | lost
  /-- The gateway call threw. -/
  | gateway
  | uniqueViolation (constraint : String)
  | checkViolation (constraint : String)
  | moneySumOutOfRange (sum : Nat)
  | bookingReferenceExhausted (attempts : Nat)
  | heldSeatCount (seats passengers : Nat)
  | missingFare (flightId : Uuid) (fareClass : FareClass) (seat : SeatPosition)
  | passengerWithoutSeat (position : Nat) (bookingId : Uuid)
  | seatNotBooked (seat : SeatPosition) (bookingId : Uuid)
  | cancelMatchedNoRow (status : String)
  | cancelledNotReadBack (bookingId : Uuid)
  | changedNotReadBack (bookingId : Uuid)
  | confirmedNotReadBack (bookingId : Uuid)
  | confirmedWithoutSeat (bookingId : Uuid)
  | cannotMovePayment (paymentId : Uuid) (before after : String)
  | cannotReschedule (paymentId : Uuid) (status : String)
  | keyWithoutResponse (key : String)
  | keyNotClaimed (key : String) (attempts : Nat)
  | keyNotInProgress (key : String)
  | keyOfPaymentNotInProgress (paymentId : Uuid)
  | noPaymentMethodToken (paymentId : Uuid)
  | noProviderReference (paymentId : Uuid)
  deriving DecidableEq, Repr

/-- The texts of the errors the code throws itself. -/
def Failure.message : Failure → String
  | .lost => "Connection terminated"
  | .gateway => "Payment gateway call failed"
  | .uniqueViolation constraint =>
      "duplicate key value violates unique constraint " ++ constraint
  | .checkViolation constraint => "new row violates check constraint " ++ constraint
  | .moneySumOutOfRange sum => s!"Money sum is out of the safe integer range: {sum}"
  | .bookingReferenceExhausted attempts =>
      s!"No free booking reference after {attempts} attempts"
  | .heldSeatCount seats passengers =>
      s!"holdSeats returned {seats} seats for {passengers} passengers"
  | .missingFare flightId fareClass seat =>
      s!"Flight {flightId} has no {fareClass.name} fare for seat " ++ formatSeatPosition seat ++
        " (BR-FLT-09)"
  | .passengerWithoutSeat position bookingId =>
      s!"Passenger {position} of CONFIRMED booking {bookingId} has no seat"
  | .seatNotBooked seat bookingId =>
      "Seat " ++ formatSeatPosition seat ++ s!" is not BOOKED for booking {bookingId}"
  | .cancelMatchedNoRow status => s!"Booking is {status} but cancel matched no row"
  | .cancelledNotReadBack bookingId => s!"Cancelled booking {bookingId} could not be read back"
  | .changedNotReadBack bookingId =>
      s!"Booking {bookingId} could not be read back after a seat change"
  | .confirmedNotReadBack _ => "Could not find any entity of type BookingEntity"
  | .confirmedWithoutSeat bookingId =>
      s!"Confirmed booking {bookingId} has a passenger without a seat"
  | .cannotMovePayment paymentId before after =>
      s!"Payment {paymentId} is not {before}; cannot move it to {after}"
  | .cannotReschedule paymentId status =>
      s!"Payment {paymentId} is not {status}; cannot reschedule it"
  | .keyWithoutResponse key => s!"Completed idempotency key {key} has no response"
  | .keyNotClaimed key attempts =>
      s!"Idempotency key {key} could not be claimed after {attempts} attempts"
  | .keyNotInProgress key => s!"Idempotency key {key} is not in progress"
  | .keyOfPaymentNotInProgress paymentId =>
      s!"The idempotency key of payment {paymentId} is not in progress"
  | .noPaymentMethodToken paymentId =>
      s!"PROCESSING payment {paymentId} has no payment method token"
  | .noProviderReference paymentId =>
      s!"REFUND_PENDING payment {paymentId} has no provider reference"

def addMoney (left right : Money) : Except Failure Money :=
  if safe : left.amount + right.amount ≤ maxSafeInteger then
    .ok ⟨left.amount + right.amount, safe⟩
  else .error (.moneySumOutOfRange (left.amount + right.amount))

/-- An empty list is zero, so a total never needs a special case. -/
def sumMoney (items : List Money) : Except Failure Money :=
  items.foldlM addMoney ⟨0, Nat.zero_le _⟩

theorem addMoney_ok {left right sum : Money} (h : addMoney left right = .ok sum) :
    sum.amount = left.amount + right.amount := by
  unfold addMoney at h
  split at h
  · cases h
    rfl
  · cases h

theorem foldlM_addMoney {items : List Money} {first sum : Money}
    (h : items.foldlM addMoney first = .ok sum) :
    sum.amount = first.amount + (items.map (·.amount)).sum := by
  induction items generalizing first with
  | nil =>
      cases h
      simp
  | cons item items ih =>
      rw [List.foldlM_cons] at h
      cases added : addMoney first item with
      | error e =>
          rw [added] at h
          cases h
      | ok next =>
          rw [added] at h
          rw [ih h, addMoney_ok added, List.map_cons, List.sum_cons, Nat.add_assoc]

/-- A sum throws for one reason. -/
theorem sumMoney_error {items : List Money} {e : Failure} (h : sumMoney items = .error e) :
    ∃ sum, e = .moneySumOutOfRange sum := by
  unfold sumMoney at h
  generalize (⟨0, Nat.zero_le _⟩ : Money) = first at h
  induction items generalizing first with
  | nil => cases h
  | cons item items ih =>
      rw [List.foldlM_cons] at h
      cases added : addMoney first item with
      | ok next =>
          rw [added] at h
          exact ih next h
      | error e' =>
          rw [added] at h
          cases h
          unfold addMoney at added
          split at added
          · cases added
          · cases added
            exact ⟨_, rfl⟩

/-- A sum that does not throw is the sum. -/
theorem sumMoney_ok {items : List Money} {sum : Money} (h : sumMoney items = .ok sum) :
    sum.amount = (items.map (·.amount)).sum := by
  simpa using foldlM_addMoney h

theorem foldlM_addMoney_within {items : List Money} {first : Money}
    (within : first.amount + (items.map (·.amount)).sum ≤ maxSafeInteger) :
    ∃ sum, items.foldlM addMoney first = .ok sum := by
  induction items generalizing first with
  | nil => exact ⟨first, rfl⟩
  | cons item items ih =>
      rw [List.map_cons, List.sum_cons, ← Nat.add_assoc] at within
      have safe : first.amount + item.amount ≤ maxSafeInteger :=
        Nat.le_trans (Nat.le_add_right ..) within
      obtain ⟨sum, added⟩ := @ih ⟨first.amount + item.amount, safe⟩ within
      refine ⟨sum, ?_⟩
      rw [List.foldlM_cons, addMoney, dif_pos safe]
      exact added

/-- A sum is made exactly when it is itself a safe amount. -/
theorem sumMoney_ok_iff {items : List Money} :
    (∃ sum, sumMoney items = .ok sum) ↔ (items.map (·.amount)).sum ≤ maxSafeInteger := by
  constructor
  · rintro ⟨sum, made⟩
    rw [← sumMoney_ok made]
    exact sum.safe
  · intro within
    exact foldlM_addMoney_within (by simpa using within)

end FlightBooking
