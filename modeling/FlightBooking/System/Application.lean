import FlightBooking.Bookings.Transactions
import FlightBooking.Payments.Transactions
import FlightBooking.Flights.Transactions
import FlightBooking.Outbox.Repository

/-!
The application: its transactions by name, and the world around the database.

The environment is the clock, the payment provider, the message publisher, and
the promises a reconciliation run waits for. It answers a call in any way its
rules allow, chosen by the step's input.
-/

namespace FlightBooking

open ReadCommitted

/-! ### Transactions -/

/-- Every transaction the use cases and jobs run, with its arguments. -/
inductive Transaction where
  | findAirport (code : String)
  | findAircraft (registration : String)
  | findFlight (flightId : Uuid)
  | registerAircraft (aircraft : Aircraft) (actor auditId : Uuid) (requestId : Option Uuid)
  | createFlight (flight : Flight) (actor auditId eventId : Uuid) (requestId : Option Uuid)
  | openFlight (flight : FlightRow) (actor auditId : Uuid) (requestId : Option Uuid) (now : Instant)
  | createBooking (flightId : Uuid) (request : CreateBookingInput) (actor : Uuid)
      (ids : CreateBookingIds) (requestId : Option Uuid)
  | cancelBooking (bookingId : Uuid) (scope : BookingAccessScope) (actor : Uuid) (ids : CancelIds)
      (requestId : Option Uuid) (now : Instant)
  | changeSeat (bookingId : Uuid) (position : Nat) (seat : SeatPosition)
      (scope : BookingAccessScope) (actor auditId : Uuid) (requestId : Option Uuid) (now : Instant)
  | expireBatch (now : Instant) (batchSize : Nat) (ids : ExpiryIds)
  | startPayment (bookingId : Option Uuid) (scope : BookingAccessScope) (actor : Uuid)
      (request : PaymentRequest) (paymentId : Uuid) (reconcileAfterMs : Int)
  | settleDeclined (payment : Payment) (reason : String) (actor : AuditActor) (ids : SettleIds)
  | settleCharged (payment : Payment) (providerReference : String) (actor : AuditActor)
      (ids : SettleIds)
  | claimDue (leaseMs : Int) (limit : Nat)
  | recordRefund (payment : Payment) (record : RefundRecord) (auditId : Uuid)
  | reschedule (paymentId : Uuid) (status : PaymentStatus) (nextAttemptAt : Instant)
  | deleteCompletedBefore (cutoff : Instant) (limit : Nat)
  | findUnpublished (limit : Nat) (storage : Uuid → Nat)
  | markPublished (id : Uuid)

abbrev Transaction.Result : Transaction → Type
  | .findAirport _ => Option Airport
  | .findAircraft _ => Option Aircraft
  | .findFlight _ => Option FlightRow
  | .registerAircraft .. => Option Aircraft
  | .createFlight .. => FlightInserted
  | .openFlight .. => ChangeFlightStatusResult
  | .createBooking .. => Except HoldRefusal Booking
  | .cancelBooking .. => Except NotCancelled CancelledBooking
  | .changeSeat .. => Except SeatChangeRefusal SeatSet
  | .expireBatch .. => Nat
  | .startPayment .. => Started
  | .settleDeclined .. => StoredResponse
  | .settleCharged .. => StoredResponse
  | .claimDue .. => List Payment
  | .recordRefund .. => Unit
  | .reschedule .. => Unit
  | .deleteCompletedBefore .. => Nat
  | .findUnpublished .. => List OutboxEntry
  | .markPublished _ => Unit

/-- The text of a transaction; `now` is the clock as it reads it itself. -/
def Transaction.body : (x : Transaction) → Instant → Prog postgres x.Result
  | .findAirport code, _ => query (findAirportByCode code)
  | .findAircraft registration, _ => query (findAircraftByRegistration registration)
  | .findFlight flightId, _ => query (FlightBooking.findFlight flightId)
  | .registerAircraft aircraft actor auditId requestId, _ =>
      registerAircraftTransaction aircraft actor auditId requestId
  | .createFlight flight actor auditId eventId requestId, now =>
      createFlightTransaction flight actor auditId eventId requestId now
  | .openFlight flight actor auditId requestId now, _ =>
      openFlightTransaction flight actor auditId requestId now
  | .createBooking flightId request actor ids requestId, now =>
      createBookingTransaction flightId request actor ids requestId now
  | .cancelBooking bookingId scope actor ids requestId now, _ =>
      cancelBookingTransaction bookingId scope actor ids requestId now
  | .changeSeat bookingId position seat scope actor auditId requestId now, _ =>
      changeSeatTransaction bookingId position seat scope actor auditId requestId now
  | .expireBatch now batchSize ids, _ => expireBatchTransaction now batchSize ids
  | .startPayment bookingId scope actor request paymentId reconcileAfterMs, now =>
      FlightBooking.startPayment bookingId scope actor request paymentId reconcileAfterMs now
  | .settleDeclined payment reason actor ids, now => declined payment reason actor ids now
  | .settleCharged payment providerReference actor ids, now =>
      charged payment providerReference actor ids now
  | .claimDue leaseMs limit, now => query (FlightBooking.claimDue now leaseMs limit)
  | .recordRefund payment record auditId, now =>
      FlightBooking.recordRefund payment record auditId now
  | .reschedule paymentId status nextAttemptAt, _ =>
      FlightBooking.reschedule paymentId status nextAttemptAt
  | .deleteCompletedBefore cutoff limit, _ =>
      query (FlightBooking.deleteCompletedBefore cutoff limit)
  | .findUnpublished limit storage, _ => query (FlightBooking.findUnpublished limit storage)
  | .markPublished id, now => query (FlightBooking.markPublished id now)

/-! ### The provider -/

inductive ChargeResult where
  | succeeded (providerReference : String)
  | declined (reason : String)
  | unknown (reason : String)
  deriving DecidableEq, Repr

inductive RefundResult where
  | refunded
  | failed (reason : String) (retryable : Bool)
  | unknown (reason : String)
  deriving DecidableEq, Repr

structure ChargeRequest where
  paymentId : Uuid
  amount : Money
  paymentMethodToken : String
  deriving DecidableEq, Repr

structure RefundRequest where
  paymentId : Uuid
  providerReference : String
  amount : Money
  deriving DecidableEq, Repr

/-- What a provider decided on a payment id, once and for all. -/
inductive Verdict where
  | succeeded (providerReference : String)
  | declined (reason : String)
  deriving DecidableEq, Repr

def Verdict.result : Verdict → ChargeResult
  | .succeeded providerReference => .succeeded providerReference
  | .declined reason => .declined reason

/-- The provider's books: its verdicts, the money it took and gave back, and the
requests it has received but not acted on. -/
structure Provider where
  verdicts : List (Uuid × Verdict) := []
  charged : List (Uuid × Money) := []
  refunded : List (Uuid × Money) := []
  sent : List (Uuid × Money) := []
  sentRefunds : List (Uuid × Money) := []
  deriving DecidableEq, Repr

namespace Provider

def verdict? (p : Provider) (id : Uuid) : Option Verdict :=
  (p.verdicts.find? fun v => v.1 = id).map (·.2)

/-- Take the money for `id` unless it is taken. -/
def take (p : Provider) (id : Uuid) (amount : Money) : Provider :=
  if p.charged.any fun c => c.1 = id then p
  else { p with charged := p.charged ++ [(id, amount)] }

/-- Act on a charge: the first time `wanted` becomes the verdict. -/
def charge (p : Provider) (id : Uuid) (amount : Money) (wanted : Verdict) : Verdict × Provider :=
  let v := (p.verdict? id).getD wanted
  let p := if (p.verdict? id).isSome then p else { p with verdicts := p.verdicts ++ [(id, v)] }
  match v with
  | .succeeded _ => (v, p.take id amount)
  | .declined _ => (v, p)

/-- Give the money of `id` back, if it was taken and not given back. -/
def refund (p : Provider) (id : Uuid) (amount : Money) : Provider :=
  if (p.charged.any fun c => c.1 = id) && !(p.refunded.any fun c => c.1 = id) then
    { p with refunded := p.refunded ++ [(id, amount)] }
  else p

end Provider

/-! ### The environment -/

/-- What one reconciliation attempt came to. -/
inductive Reconciled where
  | settled
  | refunded
  | refundFailed
  | retryLater
  | failed
  deriving DecidableEq, Repr

/-- `idempotent` says whether the provider keeps the port's promise; `steady`,
whether the clock never goes back. The logs record every answer to a charge,
every refund call and every batch dispatched with the thread that made it, and
every event handed to the publisher. -/
structure Env where
  clock : Instant := 0
  steady : Bool := true
  idempotent : Bool := true
  provider : Provider := {}
  chargeAnswers : List (Uuid × ChargeResult) := []
  refundCalls : List (Nat × Uuid) := []
  handed : List OutboxEntry := []
  queue : List (Nat × Payment) := []
  taken : List (Nat × Payment) := []
  reports : List (Nat × Reconciled) := []
  dispatched : List (Nat × List Payment) := []
  batches : Nat := 0

/-- Calls a thread makes besides transactions. `dispatch`, `take`, `report` and
`collect` are the concurrent promises of one reconciliation batch. -/
inductive Call where
  | readClock
  | charge (request : ChargeRequest)
  | refund (request : RefundRequest)
  | publish (entry : OutboxEntry)
  | dispatch (payments : List Payment)
  | take
  | report (batch : Nat) (outcome : Reconciled)
  | collect (batch count : Nat)
  | deliver (paymentId : Uuid)
  | deliverRefund (paymentId : Uuid)

abbrev Call.Answer : Call → Type
  | .readClock => Instant
  | .charge _ => Except Failure ChargeResult
  | .refund _ => Except Failure RefundResult
  | .publish _ => Except Failure Unit
  | .dispatch _ => Nat
  | .take => Nat × Payment
  | .report .. => Unit
  | .collect .. => List Reconciled
  | .deliver _ => Unit
  | .deliverRefund _ => Unit

/-- How a call is answered. `acts` is whether the provider acts before it
answers; a definite answer needs that, `unknown` and a thrown error do not. -/
inductive Choice where
  | time (now : Instant)
  | definite (wanted : Verdict)
  | unclear (acts : Option Verdict) (answer : Except Failure String)
  | anyCharge (answer : Except Failure ChargeResult)
  | refund (acts : Bool) (answer : Except Failure RefundResult)
  | published (ok : Except Failure Unit)
  | pick (index : Nat)
  | go
  deriving Repr

namespace Env

/-- The clock shows `now`, if it can. -/
def tick (env : Env) (now : Instant) : Option Env :=
  if env.steady ∧ now < env.clock then none else some { env with clock := now }

def logCharge (env : Env) (id : Uuid) : Except Failure ChargeResult → Env
  | .ok r => { env with chargeAnswers := env.chargeAnswers ++ [(id, r)] }
  | .error _ => env

/-- Answer a charge. -/
def answerCharge (env : Env) (request : ChargeRequest) :
    Choice → Option (Except Failure ChargeResult × Env)
  | .definite wanted =>
      let (v, provider) := env.provider.charge request.paymentId request.amount wanted
      some (.ok v.result, ({ env with provider }).logCharge request.paymentId (.ok v.result))
  | .unclear acts answer =>
      let provider := match acts with
        | some wanted => (env.provider.charge request.paymentId request.amount wanted).2
        | none => { env.provider with
            sent := env.provider.sent ++ [(request.paymentId, request.amount)] }
      let answer := answer.map ChargeResult.unknown
      some (answer, ({ env with provider }).logCharge request.paymentId answer)
  | .anyCharge answer =>
      if env.idempotent then none else some (answer, env.logCharge request.paymentId answer)
  | _ => none

/-- Answer a refund: `refunded` only when the money is back. -/
def answerRefund (thread : Nat) (env : Env) (request : RefundRequest) :
    Choice → Option (Except Failure RefundResult × Env)
  | .refund acts answer =>
      let provider := if acts then env.provider.refund request.paymentId request.amount
        else { env.provider with
          sentRefunds := env.provider.sentRefunds ++ [(request.paymentId, request.amount)] }
      if answer matches .ok .refunded ∧ env.idempotent ∧
          ¬ provider.refunded.any (fun c => c.1 = request.paymentId) then none
      else some (answer, { env with
        provider, refundCalls := env.refundCalls ++ [(thread, request.paymentId)] })
  | _ => none

def perform (thread : Nat) (env : Env) : (c : Call) → Choice → Option (c.Answer × Env)
  | .readClock, .time now => (env.tick now).map fun env => (now, env)
  | .charge request, choice => env.answerCharge request choice
  | .refund request, choice => env.answerRefund thread request choice
  | .publish entry, .published ok => some (ok, { env with handed := env.handed ++ [entry] })
  | .dispatch payments, .go =>
      some (env.batches, { env with
        queue := env.queue ++ payments.map fun p => (env.batches, p)
        dispatched := env.dispatched ++ [(thread, payments)]
        batches := env.batches + 1 })
  | .take, .pick index =>
      env.queue[index]?.map fun job => (job, { env with
        queue := env.queue.eraseIdx index
        taken := env.taken ++ [(thread, job.2)] })
  | .report batch outcome, .go =>
      some ((), { env with reports := env.reports ++ [(batch, outcome)] })
  | .collect batch count, .go =>
      let done := (env.reports.filter fun r => r.1 = batch).map (·.2)
      if done.length = count then some (done, env) else none
  -- A request the provider received earlier takes effect now.
  | .deliver paymentId, .definite wanted =>
      (env.provider.sent.find? fun s => s.1 = paymentId).map fun s =>
        ((), { env with provider := (env.provider.charge s.1 s.2 wanted).2 })
  | .deliverRefund paymentId, .go =>
      (env.provider.sentRefunds.find? fun s => s.1 = paymentId).map fun s =>
        ((), { env with provider := env.provider.refund s.1 s.2 })
  | _, _ => none

end Env

/-- The booking service. -/
abbrev app : App postgres where
  Tx := Transaction
  Result := Transaction.Result
  body := Transaction.body
  Call := Call
  Answer := Call.Answer
  Env := Env
  Choice := Choice
  perform := Env.perform
  tick := Env.tick
  lost := .lost

end FlightBooking
