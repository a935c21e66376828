import FlightBooking.System.Application
import FlightBooking.Library.Sessions

/-!
The use cases and jobs as threads: transactions and calls in the order the code
makes them. A crash is a thread that never moves again.
-/

namespace FlightBooking

open Interaction ReadCommitted Relational

/-- What a thread returns. -/
inductive UseCaseResult where
  | paid (r : PayForBookingResult)
  | booked (r : Except HoldRefusal Booking)
  | cancelled (r : Except NotCancelled CancelledBooking)
  | seatChanged (r : Except SeatChangeRefusal SeatSet)
  | flightCreated (r : Except (List ValidationIssue) FlightInserted)
  | flightOpened (r : Except FlightStatus ChangeFlightStatusResult)
  | registered (r : Option Aircraft)
  | expired (count batches : Nat) (exhausted : Bool)
  | reconciled (outcomes : List Reconciled) (batches : Nat) (exhausted : Bool)
  | cleaned (deleted batches : Nat) (exhausted : Bool)
  | done

abbrev UseCase (α : Type) : Type := App.Thread app α

/-- A call's answer, or the error it threw. -/
def orRethrow {α : Type} (r : Except Failure α) : UseCase α := Tree.ofExcept r

/-! ### Requests -/

/-- A path id is `none` when it is no UUID. -/
def createBooking (flightId : Option Uuid) (request : CreateBookingInput) (actor : Uuid)
    (ids : CreateBookingIds) (requestId : Option Uuid) : UseCase (Except HoldRefusal Booking) :=
  match flightId with
  | none => pure (.error .flightNotFound)
  | some flightId => app.run (.createBooking flightId request actor ids requestId)

def cancelBooking (bookingId : Option Uuid) (scope : BookingAccessScope) (actor : Uuid)
    (ids : CancelIds) (requestId : Option Uuid) :
    UseCase (Except NotCancelled CancelledBooking) :=
  match bookingId with
  | none => pure (.error .notFound)
  | some bookingId => do
      let now ← app.ask .readClock
      app.run (.cancelBooking bookingId scope actor ids requestId now)

def changeSeat (bookingId : Option Uuid) (position : Nat) (seat : SeatPosition)
    (scope : BookingAccessScope) (actor auditId : Uuid) (requestId : Option Uuid) :
    UseCase (Except SeatChangeRefusal SeatSet) :=
  match bookingId with
  | none => pure (.error .notFound)
  | some bookingId => do
      let now ← app.ask .readClock
      app.run (.changeSeat bookingId position seat scope actor auditId requestId now)

def createFlight (input : CreateFlightInput) (flightId actor auditId eventId : Uuid)
    (requestId : Option Uuid) : UseCase (Except (List ValidationIssue) FlightInserted) := do
  let origin ← app.run (.findAirport input.origin)
  let destination ← app.run (.findAirport input.destination)
  let aircraft ← app.run (.findAircraft input.aircraftRegistration)
  match resolveFlight flightId input origin destination aircraft with
  | .error issues => pure (.error issues)
  | .ok flight =>
      let inserted ← app.run (.createFlight flight actor auditId eventId requestId)
      pure (if inserted = .referenceNotFound then
        .error [⟨"body", "UNKNOWN_REFERENCE", "An airport or the aircraft no longer exists"⟩]
        else .ok inserted)

/-- `error` is "invalid-status", with the status the flight has now. -/
def openFlight (flightId : Option Uuid) (actor auditId : Uuid) (requestId : Option Uuid) :
    UseCase (Except FlightStatus ChangeFlightStatusResult) := do
  match flightId with
  | none => pure (.ok .notFound)
  | some flightId =>
      match ← app.run (.findFlight flightId) with
      | none => pure (.ok .notFound)
      | some flight =>
          let now ← app.ask .readClock
          let currentStatus := effectiveFlightStatus flight.status flight.departureAt now
          match transitionFlight currentStatus .open flight.departureAt now with
          | .error _ => pure (.error currentStatus)
          | .ok () =>
              let r ← app.run (.openFlight flight actor auditId requestId now)
              pure (.ok r)

/-- What paying for a booking generates and is configured with. -/
structure PayForBookingContext where
  paymentId : Uuid
  settleIds : SettleIds
  reconcileAfterMs : Int
  deriving DecidableEq, Repr

/-- Three phases around the gateway. An unknown outcome and a call that throws
both leave the payment PROCESSING and the key in progress. -/
def payForBooking (bookingId : Option Uuid) (scope : BookingAccessScope) (actor : Uuid)
    (request : PaymentRequest) (ctx : PayForBookingContext) : UseCase PayForBookingResult := do
  match ← app.run (.startPayment bookingId scope actor request ctx.paymentId ctx.reconcileAfterMs)
    with
  | .result r => pure r
  | .started payment =>
      let answer ← app.ask (.charge ⟨payment.id, payment.amount, request.paymentMethodToken⟩)
      match ← orRethrow answer with
      | .declined reason =>
          let response ← app.run (.settleDeclined payment reason (.account actor) ctx.settleIds)
          pure (.answered response false)
      | .unknown _ => pure (.processing payment)
      | .succeeded providerReference =>
          let response ← app.run
            (.settleCharged payment providerReference (.account actor) ctx.settleIds)
          pure (.answered response false)

/-! ### Jobs -/

/-- Batches `from 1` on, at most `left` of them, until a short one. -/
def expireBatches (now : Instant) (batchSize : Nat) (ids : Nat → ExpiryIds) :
    Nat → Nat → Nat → UseCase UseCaseResult
  | 0, done, expired => pure (.expired expired done true)
  | left + 1, done, expired => do
      let count ← app.run (.expireBatch now batchSize (ids done))
      if count < batchSize then pure (.expired (expired + count) (done + 1) false)
      else expireBatches now batchSize ids left (done + 1) (expired + count)

/-- `now` is read once per run. -/
def expireHolds (batchSize maxBatches : Nat) (ids : Nat → ExpiryIds) : UseCase UseCaseResult := do
  let now ← app.ask .readClock
  expireBatches now batchSize ids maxBatches 0 0

def cleanupBatches (cutoff : Instant) (batchSize : Nat) :
    Nat → Nat → Nat → UseCase UseCaseResult
  | 0, done, deleted => pure (.cleaned deleted done true)
  | left + 1, done, deleted => do
      let count ← app.run (.deleteCompletedBefore cutoff batchSize)
      if count < batchSize then pure (.cleaned (deleted + count) (done + 1) false)
      else cleanupBatches cutoff batchSize left (done + 1) (deleted + count)

def cleanupIdempotencyKeys (batchSize maxBatches : Nat) : UseCase UseCaseResult := do
  let now ← app.ask .readClock
  cleanupBatches (now - IDEMPOTENCY_KEY_RETENTION_MS) batchSize maxBatches 0 0

def retryLater (payment : Payment) (delayMs : Int) : UseCase Reconciled := do
  let now ← app.ask .readClock
  app.run (.reschedule payment.id
    (if payment.status = .processing then .processing else .refundPending) (now + delayMs))
  pure .retryLater

def reconcileCharge (payment : Payment) (ids : SettleIds) : UseCase Reconciled :=
  match payment.paymentMethodToken with
  | none => throw (.noPaymentMethodToken payment.id)
  | some token => do
      let answer ← app.ask (.charge ⟨payment.id, payment.amount, token⟩)
      match ← orRethrow answer with
      | .succeeded providerReference =>
          let _ ← app.run (.settleCharged payment providerReference PAYMENT_RECONCILIATION_ACTOR ids)
          pure .settled
      | .declined reason =>
          let _ ← app.run (.settleDeclined payment reason PAYMENT_RECONCILIATION_ACTOR ids)
          pure .settled
      | .unknown _ =>
          retryLater payment (min (retryDelayMs payment.attempts) MAX_CHARGE_RETRY_DELAY_MS)

/-- A refund that did not come through: give up, or try again later. -/
def refundRefused (payment : Payment) (reason : String) (retryable : Bool) (auditId : Uuid) :
    UseCase Reconciled :=
  if ¬ retryable ∨ payment.attempts ≥ MAX_REFUND_ATTEMPTS then do
    app.run (.recordRefund payment (.refundFailed reason) auditId)
    pure .refundFailed
  else retryLater payment (retryDelayMs payment.attempts)

def reconcileRefund (payment : Payment) (auditId : Uuid) : UseCase Reconciled :=
  match payment.providerReference with
  | none => throw (.noProviderReference payment.id)
  | some providerReference => do
      let answer ← app.ask (.refund ⟨payment.id, providerReference, payment.amount⟩)
      match ← orRethrow answer with
      | .refunded =>
          app.run (.recordRefund payment .refunded auditId)
          pure .refunded
      | .unknown reason => refundRefused payment reason true auditId
      | .failed reason retryable => refundRefused payment reason retryable auditId

/-- One claimed payment; a payment that throws is skipped, the others go on. -/
def reconcile (payment : Payment) (ids : SettleIds) : UseCase Reconciled :=
  Tree.tryCatch
    (if payment.status = .processing then reconcileCharge payment ids
      else reconcileRefund payment ids.auditId)
    fun _ => pure .failed

/-- One of the concurrent promises of a batch: `claimed.map(reconcile)`. -/
def reconcileWorker (ids : SettleIds) : UseCase UseCaseResult := do
  let job ← app.ask .take
  let outcome ← reconcile job.2 ids
  app.ask (.report job.1 outcome)
  pure .done

def reconcileBatches (leaseMs : Int) (batchSize : Nat) :
    Nat → Nat → List Reconciled → UseCase UseCaseResult
  | 0, done, tally => pure (.reconciled tally done true)
  | left + 1, done, tally => do
      let claimed ← app.run (.claimDue leaseMs batchSize)
      let batch ← app.ask (.dispatch claimed)
      let outcomes ← app.ask (.collect batch claimed.length)
      if claimed.length < batchSize then pure (.reconciled (tally ++ outcomes) (done + 1) false)
      else reconcileBatches leaseMs batchSize left (done + 1) (tally ++ outcomes)

def reconcilePayments (leaseMs : Int) (batchSize maxBatches : Nat) : UseCase UseCaseResult :=
  reconcileBatches leaseMs batchSize maxBatches 0 []

/-- Publish in order; the first failure ends the tick. -/
def relayEntries : List OutboxEntry → UseCase UseCaseResult
  | [] => pure .done
  | entry :: rest => do
      let stopped ← Tree.tryCatch
        (do
          let answer ← app.ask (.publish entry)
          orRethrow answer
          app.run (.markPublished entry.id)
          pure false)
        fun _ => pure true
      if stopped then pure .done else relayEntries rest

def outboxRelayTick (batchSize : Nat) (storage : Uuid → Nat) : UseCase UseCaseResult := do
  let pending ← app.run (.findUnpublished batchSize storage)
  relayEntries pending

/-! ### Who may run -/

/-- A request, a run of a job, one of its promises, or the provider acting late. -/
inductive Invocation where
  | registerAircraft (aircraft : Aircraft) (actor auditId : Uuid) (requestId : Option Uuid)
  | createFlight (input : CreateFlightInput) (flightId actor auditId eventId : Uuid)
      (requestId : Option Uuid)
  | openFlight (flightId : Option Uuid) (actor auditId : Uuid) (requestId : Option Uuid)
  | createBooking (flightId : Option Uuid) (request : CreateBookingInput) (actor : Uuid)
      (ids : CreateBookingIds) (requestId : Option Uuid)
  | cancelBooking (bookingId : Option Uuid) (scope : BookingAccessScope) (actor : Uuid)
      (ids : CancelIds) (requestId : Option Uuid)
  | changeSeat (bookingId : Option Uuid) (position : Nat) (seat : SeatPosition)
      (scope : BookingAccessScope) (actor auditId : Uuid) (requestId : Option Uuid)
  | payForBooking (bookingId : Option Uuid) (scope : BookingAccessScope) (actor : Uuid)
      (request : PaymentRequest) (ctx : PayForBookingContext)
  | expireHolds (batchSize maxBatches : Nat) (ids : Nat → ExpiryIds)
  | cleanupIdempotencyKeys (batchSize maxBatches : Nat)
  | reconcilePayments (leaseMs : Int) (batchSize maxBatches : Nat)
  | reconcileWorker (ids : SettleIds)
  | outboxRelayTick (batchSize : Nat) (storage : Uuid → Nat)
  | lateCharge (paymentId : Uuid)
  | lateRefund (paymentId : Uuid)

def Invocation.code : Invocation → UseCase UseCaseResult
  | .registerAircraft aircraft actor auditId requestId =>
      .registered <$> app.run (.registerAircraft aircraft actor auditId requestId)
  | .createFlight input flightId actor auditId eventId requestId =>
      .flightCreated <$> FlightBooking.createFlight input flightId actor auditId eventId requestId
  | .openFlight flightId actor auditId requestId =>
      .flightOpened <$> FlightBooking.openFlight flightId actor auditId requestId
  | .createBooking flightId request actor ids requestId =>
      .booked <$> FlightBooking.createBooking flightId request actor ids requestId
  | .cancelBooking bookingId scope actor ids requestId =>
      .cancelled <$> FlightBooking.cancelBooking bookingId scope actor ids requestId
  | .changeSeat bookingId position seat scope actor auditId requestId =>
      .seatChanged <$>
        FlightBooking.changeSeat bookingId position seat scope actor auditId requestId
  | .payForBooking bookingId scope actor request ctx =>
      .paid <$> FlightBooking.payForBooking bookingId scope actor request ctx
  | .expireHolds batchSize maxBatches ids => FlightBooking.expireHolds batchSize maxBatches ids
  | .cleanupIdempotencyKeys batchSize maxBatches =>
      FlightBooking.cleanupIdempotencyKeys batchSize maxBatches
  | .reconcilePayments leaseMs batchSize maxBatches =>
      FlightBooking.reconcilePayments leaseMs batchSize maxBatches
  | .reconcileWorker ids => FlightBooking.reconcileWorker ids
  | .outboxRelayTick batchSize storage => FlightBooking.outboxRelayTick batchSize storage
  | .lateCharge paymentId => (fun _ => .done) <$> app.ask (.deliver paymentId)
  | .lateRefund paymentId => (fun _ => .done) <$> app.ask (.deliverRefund paymentId)

/-! ### A small world

One flight with two seats, open for sale, and a first booking: account 7 holds
seat 1A under booking 5. Runs of `more` threads, from number 4 on, start here. -/

def sampleAircraft : Aircraft where
  id := 1
  registration := "VN-A321"
  seats := [⟨⟨1, 'A'⟩, .economy⟩, ⟨⟨1, 'B'⟩, .economy⟩]
  distinct := by decide
  createdAt := 0

def sampleAirports : Table Airport where
  rows := [⟨1, "HAN", "Asia/Ho_Chi_Minh"⟩, ⟨2, "SGN", "Asia/Ho_Chi_Minh"⟩]
  nodup := by decide

def sampleFare : Money := ⟨1500000, by decide⟩

/-- One passenger, in seat 1A. -/
def sampleRequest : CreateBookingInput :=
  .chosen [("NGUYEN VAN AN", ⟨1, 'A'⟩)] (by decide) (by decide)

def sampleBooking : Invocation :=
  .createBooking (some 1) sampleRequest 7 ⟨5, fun _ => "ABC234", 4, 2⟩ none

/-- Account 7 pays for booking 5. -/
def samplePayment : Invocation :=
  .payForBooking (some 5) (.owner 7) 7 ⟨"key-1", "fingerprint-1", "tok_visa", sampleFare⟩
    ⟨9, ⟨10, 11, none⟩, 40000⟩

/-- Account 7 cancels booking 5. -/
def sampleCancel : Invocation := .cancelBooking (some 5) (.owner 7) 7 ⟨20, 21, 22⟩ none

/-- Account 7 moves its passenger to seat 1B. -/
def sampleSeatChange : Invocation := .changeSeat (some 5) 1 ⟨1, 'B'⟩ (.owner 7) 7 23 none

def sampleThreads (more : Nat → Invocation) : Nat → Invocation
  | 0 => .registerAircraft sampleAircraft 1 1 none
  | 1 => .createFlight ⟨"VN1", "HAN", "SGN", "VN-A321", 1000000000, 1007200000,
      ⟨some sampleFare, none⟩⟩ 1 1 2 1 none
  | 2 => .openFlight (some 1) 1 3 none
  | 3 => sampleBooking
  | t + 4 => more t

def sampleStart (env : Env) (more : Nat → Invocation) : Pool app UseCaseResult :=
  Pool.initial { airports := sampleAirports } env fun t => (sampleThreads more t).code

/-- The flight is laid out, opened and booked, all at instant 0. -/
def sampleMoves : List (Nat × Move app) :=
  Pool.wholly 0 0 2 ++ Pool.wholly 1 0 1 ++ Pool.wholly 1 0 1 ++ Pool.wholly 1 0 1 ++
    Pool.wholly 1 0 5 ++ Pool.wholly 2 0 1 ++ [(2, Move.call (A := app) (.time 0))] ++ Pool.wholly 2 0 2 ++
    Pool.wholly 3 0 5

end FlightBooking
