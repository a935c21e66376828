import FlightBooking.Bookings.Repository

/-!
The payment repository. Every transition is one UPDATE on the status it leaves:
clearing the token, setting `next_attempt_at` and starting the attempts from 0
are part of it. The row it writes is checked against the table's constraints.
-/

namespace FlightBooking

open Relational ReadCommitted

/-! ### Constraints -/

/-- The CHECK constraints of `payments`. -/
def checkPayment (p : Payment) : Option Failure :=
  if p.amount.amount = 0 then some (.checkViolation "CHK_payments_amount_positive")
  else if p.providerReference = none ∧
      (p.status = .succeeded ∨ p.status = .refundPending ∨ p.status = .refunded ∨
        p.status = .refundFailed) then
    some (.checkViolation "CHK_payments_provider_reference")
  else if p.status = .failed ∧ p.failureReason = none then
    some (.checkViolation "CHK_payments_failure_reason")
  else if ¬ (p.status = .processing ↔ p.paymentMethodToken.isSome) then
    some (.checkViolation "CHK_payments_token")
  else if ¬ ((p.status = .processing ∨ p.status = .refundPending) ↔ p.nextAttemptAt.isSome) then
    some (.checkViolation "CHK_payments_next_attempt")
  else none

/-- Write the row if its table admits it. -/
def writePayment {ρ : Type} (p : Payment) (reply : ρ) (locks : List (Row × LockMode)) :
    Except Failure (Outcome postgres ρ) :=
  match checkPayment p with
  | some e => .error e
  | none => .ok { reply, writes := { payments := [p] }, locks }

/-! ### Start -/

/-- What phase 1 records. -/
structure NewPayment where
  id : Uuid
  bookingId : Uuid
  accountId : Uuid
  amount : Money
  paymentMethodToken : String
  nextAttemptAt : Instant
  createdAt : Instant
  deriving DecidableEq, Repr

def NewPayment.toPayment (p : NewPayment) : Payment where
  id := p.id
  bookingId := p.bookingId
  accountId := p.accountId
  amount := p.amount
  status := .processing
  providerReference := none
  failureReason := none
  paymentMethodToken := some p.paymentMethodToken
  attempts := 0
  nextAttemptAt := some p.nextAttemptAt
  createdAt := p.createdAt
  updatedAt := p.createdAt

/-- `ON CONFLICT (booking_id) WHERE status = 'PROCESSING' DO NOTHING`: `false` is
"payment-in-progress". -/
def insertPayment (payment : NewPayment) : Statement postgres Bool :=
  fun _ _ cur =>
    if cur.payments.rows.any fun p =>
        p.bookingId = payment.bookingId && p.status = .processing then
      .ok { reply := false }
    else if (cur.payments.find? payment.id).isSome then
      .error (.uniqueViolation "PK_payments")
    else writePayment payment.toPayment true [(.processingPayment payment.bookingId, .update)]

/-! ### Transitions -/

/-- The row after a transition. -/
def Payment.moved (p : Payment) (after : PaymentStatus) (now : Instant)
    (providerReference failureReason : Option String) : Payment :=
  { p with
    status := after
    updatedAt := now
    providerReference := providerReference <|> p.providerReference
    failureReason := failureReason <|> p.failureReason
    paymentMethodToken := none
    nextAttemptAt := if after = .refundPending then some now else none
    attempts := 0 }

/-- `UPDATE payments … WHERE id AND status`; `false` is "no row". -/
def movePayment (paymentId : Uuid) (before after : PaymentStatus) (now : Instant)
    (providerReference failureReason : Option String) : Statement postgres Bool :=
  fun _ snap cur =>
    match (snap.payments.find? paymentId).filter (·.status = before) with
    | none => .ok { reply := false }
    | some _ =>
        let locks := [(.payment paymentId, .noKeyUpdate)]
        match (cur.payments.find? paymentId).filter (·.status = before) with
        | none => .ok { reply := false, locks }
        | some p =>
            if after = .succeeded ∧ (cur.payments.rows.any fun q =>
                q.bookingId = p.bookingId && q.status = .succeeded && q.id ≠ p.id) then
              .error (.uniqueViolation "UQ_payments_booking_succeeded")
            else
              writePayment (p.moved after now providerReference failureReason) true
                (if after = .succeeded then locks ++ [(.succeededPayment p.bookingId, .update)]
                  else locks)

def transition (paymentId : Uuid) (before after : PaymentStatus) (now : Instant)
    (providerReference failureReason : Option String) : Prog postgres Unit := do
  if ← query (movePayment paymentId before after now providerReference failureReason) then pure ()
  else raise (.cannotMovePayment paymentId before.name after.name)

def markSucceeded (paymentId : Uuid) (providerReference : String) (now : Instant) :
    Prog postgres Unit :=
  transition paymentId .processing .succeeded now (some providerReference) none

def markFailed (paymentId : Uuid) (reason : String) (now : Instant) : Prog postgres Unit :=
  transition paymentId .processing .failed now none (some reason)

def markRefundPending (paymentId : Uuid) (providerReference : String) (now : Instant) :
    Prog postgres Unit :=
  transition paymentId .processing .refundPending now (some providerReference) none

def markRefunded (paymentId : Uuid) (now : Instant) : Prog postgres Unit :=
  transition paymentId .refundPending .refunded now none none

def markRefundFailed (paymentId : Uuid) (reason : String) (now : Instant) : Prog postgres Unit :=
  transition paymentId .refundPending .refundFailed now none (some reason)

def isPaidFor (bookingId : Uuid) (p : Payment) : Bool :=
  p.bookingId = bookingId && p.status = .succeeded

/-- The row of a paid payment whose booking was cancelled. -/
def Payment.refundStarted (p : Payment) (now : Instant) : Payment :=
  { p with status := .refundPending, updatedAt := now, nextAttemptAt := some now, attempts := 0 }

/-- SUCCEEDED → REFUND_PENDING for the booking's paid payment. -/
def markRefundPendingForCancelledBooking (bookingId : Uuid) (now : Instant) :
    Statement postgres (Option Payment) :=
  fun _ snap cur =>
    let updated := (snap.payments.recheck cur.payments (isPaidFor bookingId)).map fun p =>
      p.refundStarted now
    match updated.findSome? checkPayment with
    | some e => .error e
    | none => .ok
        { reply := updated.head?
          writes := { payments := updated }
          locks := (snap.payments.rows.filter (isPaidFor bookingId)).map fun p =>
            (.payment p.id, .noKeyUpdate) }

/-! ### Reconciliation -/

def isPaymentDue (now : Instant) (p : Payment) : Bool :=
  (p.status = .processing || p.status = .refundPending) && p.nextAttemptAt.any fun at' => at' ≤ now

/-- `ORDER BY next_attempt_at, id`. -/
def Payment.dueBefore (a b : Payment) : Prop :=
  a.nextAttemptAt.getD 0 < b.nextAttemptAt.getD 0 ∨
    (a.nextAttemptAt.getD 0 = b.nextAttemptAt.getD 0 ∧ a.id ≤ b.id)

instance : DecidableRel Payment.dueBefore := fun _ _ => inferInstanceAs (Decidable (_ ∨ _))

/-- The due payments in the order in which they were found, each as it is once locked. -/
def duePayments (now : Instant) (limit : Nat) (skip : List Row) (snap cur : Db) : List Payment :=
  let found := (snap.payments.rows.filter (isPaymentDue now)).insertionSort Payment.dueBefore
  ((cur.payments.again (isPaymentDue now) found).filter fun p => Row.payment p.id ∉ skip).take limit

/-- The row after a claim: leased, and its attempt counted. -/
def Payment.claimed (p : Payment) (now leaseMs : Int) : Payment :=
  { p with nextAttemptAt := some (now + leaseMs), attempts := p.attempts + 1 }

/-- Up to `limit` due payments, locked ones passed over, ordered by id. -/
def claimDue (now : Instant) (leaseMs : Int) (limit : Nat) : Statement postgres (List Payment) :=
  fun skip snap cur =>
    let due := duePayments now limit skip snap cur
    let claimed := due.map fun p => p.claimed now leaseMs
    .ok
      { reply := claimed.insertionSort fun p q => p.id ≤ q.id
        writes := { payments := claimed }
        locks := due.map fun p => (.payment p.id, .update) }

/-- `UPDATE payments SET next_attempt_at … WHERE id AND status`. -/
def postponePayment (paymentId : Uuid) (status : PaymentStatus) (nextAttemptAt : Instant) :
    Statement postgres Bool :=
  fun _ snap cur =>
    match (snap.payments.find? paymentId).filter (·.status = status) with
    | none => .ok { reply := false }
    | some _ =>
        let locks := [(.payment paymentId, .noKeyUpdate)]
        match (cur.payments.find? paymentId).filter (·.status = status) with
        | none => .ok { reply := false, locks }
        | some p => writePayment { p with nextAttemptAt := some nextAttemptAt } true locks

def reschedule (paymentId : Uuid) (status : PaymentStatus) (nextAttemptAt : Instant) :
    Prog postgres Unit := do
  if ← query (postponePayment paymentId status nextAttemptAt) then pure ()
  else raise (.cannotReschedule paymentId status.name)

end FlightBooking
