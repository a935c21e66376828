import FlightBooking.Payments.Repository
import FlightBooking.Idempotency.Repository

/-!
The transactions around a payment: phase 1 of a request, the settlement shared
by the request and the job, and the job's recordings.
-/

namespace FlightBooking

open ReadCommitted

/-! ### Phase 1 -/

/-- The request as the route validated it. -/
structure PaymentRequest where
  idempotencyKey : String
  fingerprint : String
  paymentMethodToken : String
  amount : Money
  deriving DecidableEq, Repr

/-- What paying for a booking answers. -/
inductive PayForBookingResult where
  | answered (response : StoredResponse) (replayed : Bool)
  | idempotencyKeyReused
  | idempotencyKeyInProgress
  | amountMismatch (total : Money)
  | paymentInProgress
  | processing (payment : Payment)
  deriving DecidableEq, Repr

/-- Phase 1 answers, or hands the payment it started to phase 2. -/
inductive Started where
  | result (r : PayForBookingResult)
  | started (payment : Payment)
  deriving DecidableEq, Repr

def canStartPayment (booking : Booking) (now : Instant) : Bool :=
  booking.status = .held &&
    booking.holdExpiresAt.any fun deadline => deadline > now + PAYMENT_START_MARGIN_MS

/-- Store a final outcome with the key, inside the caller's transaction. -/
def answerKey (accountId : Uuid) (keyText : String) (decision : PaymentDecision) (now : Instant) :
    Prog postgres Started := do
  let response := toStoredResponse decision
  complete accountId keyText response now
  pure (.result (.answered response false))

/-- The booking of a request; a path id that is no UUID finds none. -/
def findRequested (bookingId : Option Uuid) (scope : BookingAccessScope) :
    Prog postgres (Option Booking) :=
  match bookingId with
  | some id => findById id scope
  | none => pure none

/-- Phase 1 once the key is claimed. `bookingId` is `none` when it is no UUID. -/
def startClaimed (bookingId : Option Uuid) (scope : BookingAccessScope) (actor : Uuid)
    (request : PaymentRequest) (paymentId : Uuid) (reconcileAfterMs : Int) (now : Instant) :
    Prog postgres Started := do
  match ← findRequested bookingId scope with
  | none => answerKey actor request.idempotencyKey .notFound now
  | some booking =>
      if ¬ canStartPayment booking now then
        let reason : NotPayableReason :=
          if booking.status = .held ∧ (booking.holdExpiresAt.any fun deadline => deadline > now)
          then .underMargin else .notHeld
        answerKey actor request.idempotencyKey (.notPayable reason) now
      else if request.amount ≠ booking.total then
        query (release actor request.idempotencyKey)
        pure (.result (.amountMismatch booking.total))
      else
        let payment : NewPayment :=
          { id := paymentId
            bookingId := booking.id
            accountId := actor
            amount := booking.total
            paymentMethodToken := request.paymentMethodToken
            nextAttemptAt := now + reconcileAfterMs
            createdAt := now }
        if ← query (insertPayment payment) then
          attachPayment actor request.idempotencyKey payment.id
          pure (.started payment.toPayment)
        else
          query (release actor request.idempotencyKey)
          pure (.result .paymentInProgress)

def startPayment (bookingId : Option Uuid) (scope : BookingAccessScope) (actor : Uuid)
    (request : PaymentRequest) (paymentId : Uuid) (reconcileAfterMs : Int) (now : Instant) :
    Prog postgres Started := do
  match ← claim actor request.idempotencyKey request.fingerprint now with
  | .claimed => startClaimed bookingId scope actor request paymentId reconcileAfterMs now
  | .inProgress fingerprint =>
      if fingerprint ≠ request.fingerprint then pure (.result .idempotencyKeyReused)
      else pure (.result .idempotencyKeyInProgress)
  | .completed fingerprint response =>
      if fingerprint ≠ request.fingerprint then pure (.result .idempotencyKeyReused)
      else pure (.result (.answered response true))

/-! ### Settlement -/

/-- What a settlement generates. -/
structure SettleIds where
  auditId : Uuid
  eventId : Uuid
  requestId : Option Uuid
  deriving DecidableEq, Repr

/-- Store the final response with the payment's key, and return it. -/
def answerPayment (payment : Payment) (decision : PaymentDecision) (now : Instant) :
    Prog postgres StoredResponse := do
  let response := toStoredResponse decision
  completeForPayment payment.id response now
  pure response

/-- The gateway declined: FAILED, the booking stays HELD. -/
def declined (payment : Payment) (reason : String) (actor : AuditActor) (ids : SettleIds)
    (now : Instant) : Prog postgres StoredResponse := do
  markFailed payment.id reason now
  query (recordAudit
    { id := ids.auditId
      action := .paymentFailed
      actor
      target := .payment payment.id
      requestId := ids.requestId
      occurredAt := now
      metadata :=
        [("bookingId", .id payment.bookingId), ("amountVnd", .number payment.amount.amount),
          ("reason", .text reason)] })
  answerPayment payment (.declined
    { payment with
      status := .failed, failureReason := some reason, paymentMethodToken := none,
      nextAttemptAt := none, updatedAt := now }) now

/-- A passenger in the confirmed event; only legacy bookings lack a seat. -/
def toEventPassenger (bookingId : Uuid) (p : BookingPassenger) : Except Failure EventPassenger :=
  match p.seat, p.fareClass, p.price with
  | some seat, some fareClass, some price => .ok ⟨p.name, seat, fareClass, price⟩
  | _, _, _ => .error (.confirmedWithoutSeat bookingId)

/-- The charge came too late: REFUND_PENDING, which the job refunds. -/
def chargedTooLate (payment : Payment) (providerReference : String) (actor : AuditActor)
    (ids : SettleIds) (now : Instant) : Prog postgres StoredResponse := do
  markRefundPending payment.id providerReference now
  query (recordAudit
    { id := ids.auditId
      action := .paymentRefundPending
      actor
      target := .payment payment.id
      requestId := ids.requestId
      occurredAt := now
      metadata :=
        [("bookingId", .id payment.bookingId), ("amountVnd", .number payment.amount.amount),
          ("providerReference", .text providerReference)] })
  answerPayment payment (.notPayable .refunded) now

/-- The gateway charged: confirm the hold at this transaction's own `now`. -/
def charged (payment : Payment) (providerReference : String) (actor : AuditActor)
    (ids : SettleIds) (now : Instant) : Prog postgres StoredResponse := do
  match ← confirmHold payment.bookingId (.owner payment.accountId) now with
  | none => chargedTooLate payment providerReference actor ids now
  | some confirmed =>
      markSucceeded payment.id providerReference now
      let correlationId := resolveCorrelationId ids.requestId ids.eventId
      query (recordAudit
        { id := ids.auditId
          action := .bookingConfirmed
          actor
          target := .booking confirmed.id
          requestId := ids.requestId
          occurredAt := now
          metadata :=
            [("flightId", .id confirmed.flightId), ("reference", .text confirmed.reference),
              ("paymentId", .id payment.id), ("amountVnd", .number payment.amount.amount),
              ("correlationId", .id correlationId)] })
      let passengers ← orThrow (confirmed.passengers.mapM (toEventPassenger confirmed.id))
      query (enqueue
        { id := ids.eventId
          eventType := .bookingConfirmed
          payload := ⟨ids.eventId, correlationId, now,
            .bookingConfirmed confirmed.id confirmed.reference confirmed.flightId passengers
              confirmed.total payment.id payment.amount⟩
          createdAt := now })
      answerPayment payment (.confirmed confirmed
        { payment with
          status := .succeeded, providerReference := some providerReference,
          paymentMethodToken := none, nextAttemptAt := none, updatedAt := now }) now

/-! ### Refund recordings -/

inductive RefundRecord where
  | refunded
  | refundFailed (reason : String)
  deriving DecidableEq, Repr

def markRefund (paymentId : Uuid) (record : RefundRecord) (now : Instant) : Prog postgres Unit :=
  match record with
  | .refunded => markRefunded paymentId now
  | .refundFailed reason => markRefundFailed paymentId reason now

def recordRefund (payment : Payment) (record : RefundRecord) (auditId : Uuid) (now : Instant) :
    Prog postgres Unit := do
  markRefund payment.id record now
  query (recordAudit
    { id := auditId
      action := match record with
        | .refunded => .paymentRefunded
        | .refundFailed _ => .paymentRefundFailed
      actor := PAYMENT_RECONCILIATION_ACTOR
      target := .payment payment.id
      requestId := none
      occurredAt := now
      metadata :=
        [("bookingId", .id payment.bookingId), ("amountVnd", .number payment.amount.amount),
          ("providerReference", .ofText? payment.providerReference),
          ("attempts", .number payment.attempts)] ++
        match record with
        | .refunded => []
        | .refundFailed reason => [("reason", .text reason)] })

end FlightBooking
