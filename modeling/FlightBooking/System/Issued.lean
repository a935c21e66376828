import FlightBooking.Library.Issues
import FlightBooking.System.Knowledge

/-!
Which transactions each request and job asks for, and so who stands behind a commit.
-/

namespace FlightBooking

open Interaction ReadCommitted Relational

/-- A flight as a request describes it, not open yet. -/
structure Flight.Of (flight : Flight) (id : Uuid) (input : CreateFlightInput) : Prop where
  id : flight.id = id
  flightNumber : flight.flightNumber = input.flightNumber
  departureAt : flight.departureAt = input.departureAt
  arrivalAt : flight.arrivalAt = input.arrivalAt
  fares : flight.fares = input.fares
  status : flight.status = .scheduled

/-- The transactions of a request, or of a run of a job, after what its earlier ones
answered. -/
inductive Invocation.Asks : Invocation → Trail app → Transaction → Prop where
  | registerAircraft {aircraft actor auditId requestId trail} :
      Asks (.registerAircraft aircraft actor auditId requestId) trail
        (.registerAircraft aircraft actor auditId requestId)
  | findAirport {input flightId actor auditId eventId requestId trail code} :
      Asks (.createFlight input flightId actor auditId eventId requestId) trail (.findAirport code)
  | findAircraft {input flightId actor auditId eventId requestId trail} :
      Asks (.createFlight input flightId actor auditId eventId requestId) trail
        (.findAircraft input.aircraftRegistration)
  | createFlight {input flightId actor auditId eventId requestId trail flight} :
      Flight.Of flight flightId input → ⟨.findAirport input.origin, some flight.origin⟩ ∈ trail →
      ⟨.findAirport input.destination, some flight.destination⟩ ∈ trail →
      ⟨.findAircraft input.aircraftRegistration, some flight.aircraft⟩ ∈ trail →
      Asks (.createFlight input flightId actor auditId eventId requestId) trail
        (.createFlight flight actor auditId eventId requestId)
  | findFlight {id actor auditId requestId trail} :
      Asks (.openFlight (some id) actor auditId requestId) trail (.findFlight id)
  | openFlight {id actor auditId requestId trail flight now} :
      ⟨.findFlight id, some flight⟩ ∈ trail →
      transitionFlight (effectiveFlightStatus flight.status flight.departureAt now) .open
        flight.departureAt now = .ok () →
      Asks (.openFlight (some id) actor auditId requestId) trail
        (.openFlight flight actor auditId requestId now)
  | createBooking {flightId request actor ids requestId trail} :
      Asks (.createBooking (some flightId) request actor ids requestId) trail
        (.createBooking flightId request actor ids requestId)
  | cancelBooking {id scope actor ids requestId trail now} :
      Asks (.cancelBooking (some id) scope actor ids requestId) trail
        (.cancelBooking id scope actor ids requestId now)
  | changeSeat {id position seat scope actor auditId requestId trail now} :
      Asks (.changeSeat (some id) position seat scope actor auditId requestId) trail
        (.changeSeat id position seat scope actor auditId requestId now)
  | startPayment {bookingId scope actor request ctx trail} :
      Asks (.payForBooking bookingId scope actor request ctx) trail
        (.startPayment bookingId scope actor request ctx.paymentId ctx.reconcileAfterMs)
  | settleDeclined {bookingId scope actor request ctx trail payment reason} :
      ⟨.startPayment bookingId scope actor request ctx.paymentId ctx.reconcileAfterMs,
        .started payment⟩ ∈ trail →
      Asks (.payForBooking bookingId scope actor request ctx) trail
        (.settleDeclined payment reason (.account actor) ctx.settleIds)
  | settleCharged {bookingId scope actor request ctx trail payment reference} :
      ⟨.startPayment bookingId scope actor request ctx.paymentId ctx.reconcileAfterMs,
        .started payment⟩ ∈ trail →
      Asks (.payForBooking bookingId scope actor request ctx) trail
        (.settleCharged payment reference (.account actor) ctx.settleIds)
  | expireBatch {now batchSize maxBatches ids n trail} :
      Asks (.expireHolds batchSize maxBatches ids) trail (.expireBatch now batchSize (ids n))
  | deleteCompletedBefore {cutoff batchSize maxBatches trail} :
      Asks (.cleanupIdempotencyKeys batchSize maxBatches) trail
        (.deleteCompletedBefore cutoff batchSize)
  | claimDue {leaseMs batchSize maxBatches trail} :
      Asks (.reconcilePayments leaseMs batchSize maxBatches) trail (.claimDue leaseMs batchSize)
  | reconcileDeclined {ids trail payment reason} :
      Asks (.reconcileWorker ids) trail
        (.settleDeclined payment reason PAYMENT_RECONCILIATION_ACTOR ids)
  | reconcileCharged {ids trail payment reference} :
      Asks (.reconcileWorker ids) trail
        (.settleCharged payment reference PAYMENT_RECONCILIATION_ACTOR ids)
  | recordRefund {ids trail payment record} :
      Asks (.reconcileWorker ids) trail (.recordRefund payment record ids.auditId)
  | reschedule {ids trail paymentId status at'} :
      Asks (.reconcileWorker ids) trail (.reschedule paymentId status at')
  | findUnpublished {batchSize storage trail} :
      Asks (.outboxRelayTick batchSize storage) trail (.findUnpublished batchSize storage)
  | markPublished {batchSize storage trail id} :
      Asks (.outboxRelayTick batchSize storage) trail (.markPublished id)

theorem resolveFlight_of {id : Uuid} {input : CreateFlightInput}
    {origin destination : Option Airport} {aircraft : Option Aircraft} {flight : Flight}
    (h : resolveFlight id input origin destination aircraft = .ok flight) :
    flight.Of id input ∧ origin = some flight.origin ∧ destination = some flight.destination ∧
      aircraft = some flight.aircraft := by
  unfold resolveFlight at h
  extract_lets unknown at h
  cases origin with
  | none => cases h
  | some origin =>
      cases destination with
      | none => cases h
      | some destination =>
          cases aircraft with
          | none => cases h
          | some aircraft =>
              dsimp only at h
              split at h <;> cases h
              exact ⟨⟨rfl, rfl, rfl, rfl, rfl, rfl⟩, rfl, rfl, rfl⟩

variable {trail : Trail app}

theorem issues_rethrow {α β : Type} {P : Trail app → app.Tx → Prop} {r : Except Failure β}
    {f : β → UseCase α} (rest : ∀ b, Issues P trail (f b)) :
    Issues P trail (orRethrow r >>= f) := by
  cases r with
  | ok b => exact rest b
  | error e => trivial

section Requests

theorem createFlight_issues (input : CreateFlightInput) (flightId actor auditId eventId : Uuid)
    (requestId : Option Uuid) :
    Issues (Invocation.createFlight input flightId actor auditId eventId requestId).Asks trail
      (createFlight input flightId actor auditId eventId requestId) := by
  refine Issues.run .findAirport fun origin => ?_
  refine Issues.run .findAirport fun destination => ?_
  refine Issues.run .findAircraft fun aircraft => ?_
  cases resolved : resolveFlight flightId input origin destination aircraft with
  | error issues => exact .ret _
  | ok flight =>
      obtain ⟨of, rfl, rfl, rfl⟩ := resolveFlight_of resolved
      refine Issues.run (.createFlight of ?_ ?_ ?_) fun inserted => .ret _
      · simp
      · simp
      · simp

theorem openFlight_issues (flightId : Option Uuid) (actor auditId : Uuid)
    (requestId : Option Uuid) :
    Issues (Invocation.openFlight flightId actor auditId requestId).Asks trail
      (openFlight flightId actor auditId requestId) := by
  cases flightId with
  | none => exact .ret _
  | some flightId =>
      refine Issues.run .findFlight fun found => ?_
      cases found with
      | none => exact .ret _
      | some flight =>
          refine Issues.ask fun now => ?_
          dsimp only
          cases allowed : transitionFlight
              (effectiveFlightStatus flight.status flight.departureAt now) .open
              flight.departureAt now with
          | error rejection => exact .ret _
          | ok _ => exact Issues.run (.openFlight (by simp) allowed) fun r => .ret _

theorem createBooking_issues (flightId : Option Uuid) (request : CreateBookingInput)
    (actor : Uuid) (ids : CreateBookingIds) (requestId : Option Uuid) :
    Issues (Invocation.createBooking flightId request actor ids requestId).Asks trail
      (createBooking flightId request actor ids requestId) := by
  cases flightId with
  | none => exact .ret _
  | some flightId => exact .run_end .createBooking

theorem cancelBooking_issues (bookingId : Option Uuid) (scope : BookingAccessScope) (actor : Uuid)
    (ids : CancelIds) (requestId : Option Uuid) :
    Issues (Invocation.cancelBooking bookingId scope actor ids requestId).Asks trail
      (cancelBooking bookingId scope actor ids requestId) := by
  cases bookingId with
  | none => exact .ret _
  | some bookingId => exact Issues.ask fun now => .run_end .cancelBooking

theorem changeSeat_issues (bookingId : Option Uuid) (position : Nat) (seat : SeatPosition)
    (scope : BookingAccessScope) (actor auditId : Uuid) (requestId : Option Uuid) :
    Issues (Invocation.changeSeat bookingId position seat scope actor auditId requestId).Asks trail
      (changeSeat bookingId position seat scope actor auditId requestId) := by
  cases bookingId with
  | none => exact .ret _
  | some bookingId => exact Issues.ask fun now => .run_end .changeSeat

theorem payForBooking_issues (bookingId : Option Uuid) (scope : BookingAccessScope) (actor : Uuid)
    (request : PaymentRequest) (ctx : PayForBookingContext) :
    Issues (Invocation.payForBooking bookingId scope actor request ctx).Asks trail
      (payForBooking bookingId scope actor request ctx) := by
  refine Issues.run .startPayment fun started => ?_
  cases started with
  | result r => exact .ret _
  | started payment =>
      refine Issues.ask fun answer => issues_rethrow fun charge => ?_
      cases charge with
      | declined reason => exact Issues.run (.settleDeclined (by simp)) fun response => .ret _
      | unknown reason => exact .ret _
      | succeeded reference => exact Issues.run (.settleCharged (by simp)) fun response => .ret _

end Requests

section Jobs

theorem expireHolds_issues (batchSize maxBatches : Nat) (ids : Nat → ExpiryIds) :
    Issues (Invocation.expireHolds batchSize maxBatches ids).Asks trail
      (expireHolds batchSize maxBatches ids) := by
  refine Issues.ask fun now => ?_
  have batches : ∀ left trail done expired,
      Issues (Invocation.expireHolds batchSize maxBatches ids).Asks trail
        (expireBatches now batchSize ids left done expired) := by
    intro left
    induction left with
    | zero => exact fun trail done expired => .ret _
    | succ left ih =>
        refine fun trail done expired => Issues.run .expireBatch fun count => ?_
        dsimp only
        split
        · exact .ret _
        · exact ih _ _ _
  exact batches _ _ _ _

theorem cleanupIdempotencyKeys_issues (batchSize maxBatches : Nat) :
    Issues (Invocation.cleanupIdempotencyKeys batchSize maxBatches).Asks trail
      (cleanupIdempotencyKeys batchSize maxBatches) := by
  refine Issues.ask fun now => ?_
  have batches : ∀ left trail done deleted,
      Issues (Invocation.cleanupIdempotencyKeys batchSize maxBatches).Asks trail
        (cleanupBatches (now - IDEMPOTENCY_KEY_RETENTION_MS) batchSize left done deleted) := by
    intro left
    induction left with
    | zero => exact fun trail done deleted => .ret _
    | succ left ih =>
        refine fun trail done deleted => Issues.run .deleteCompletedBefore fun count => ?_
        dsimp only
        split
        · exact .ret _
        · exact ih _ _ _
  exact batches _ _ _ _

theorem reconcilePayments_issues (leaseMs : Int) (batchSize maxBatches : Nat) :
    Issues (Invocation.reconcilePayments leaseMs batchSize maxBatches).Asks trail
      (reconcilePayments leaseMs batchSize maxBatches) := by
  have batches : ∀ left trail done tally,
      Issues (Invocation.reconcilePayments leaseMs batchSize maxBatches).Asks trail
        (reconcileBatches leaseMs batchSize left done tally) := by
    intro left
    induction left with
    | zero => exact fun trail done tally => .ret _
    | succ left ih =>
        refine fun trail done tally => Issues.run .claimDue fun claimed => ?_
        refine Issues.ask fun batch => Issues.ask fun outcomes => ?_
        dsimp only
        split
        · exact .ret _
        · exact ih _ _ _
  exact batches _ _ _ _

variable (ids : SettleIds)

theorem retryLater_issues (payment : Payment) (delayMs : Int) :
    Issues (Invocation.reconcileWorker ids).Asks trail (retryLater payment delayMs) :=
  Issues.ask fun _ => Issues.run .reschedule fun _ => .ret _

theorem reconcileCharge_issues (payment : Payment) :
    Issues (Invocation.reconcileWorker ids).Asks trail (reconcileCharge payment ids) := by
  unfold reconcileCharge
  cases payment.paymentMethodToken with
  | none => exact .fail _
  | some token =>
      refine Issues.ask fun answer => issues_rethrow fun charge => ?_
      cases charge with
      | succeeded reference => exact Issues.run .reconcileCharged fun response => .ret _
      | declined reason => exact Issues.run .reconcileDeclined fun response => .ret _
      | unknown reason => exact retryLater_issues ids payment _

theorem refundRefused_issues (payment : Payment) (reason : String) (retryable : Bool) :
    Issues (Invocation.reconcileWorker ids).Asks trail
      (refundRefused payment reason retryable ids.auditId) := by
  unfold refundRefused
  split
  · exact Issues.run .recordRefund fun _ => .ret _
  · exact retryLater_issues ids payment _

theorem reconcileRefund_issues (payment : Payment) :
    Issues (Invocation.reconcileWorker ids).Asks trail (reconcileRefund payment ids.auditId) := by
  unfold reconcileRefund
  cases payment.providerReference with
  | none => exact .fail _
  | some reference =>
      refine Issues.ask fun answer => issues_rethrow fun refund => ?_
      cases refund with
      | refunded => exact Issues.run .recordRefund fun _ => .ret _
      | unknown reason => exact refundRefused_issues ids payment reason true
      | failed reason retryable => exact refundRefused_issues ids payment reason retryable

theorem reconcileWorker_issues :
    Issues (Invocation.reconcileWorker ids).Asks trail (reconcileWorker ids) := by
  refine Issues.ask fun job => ?_
  have body : Issues (Invocation.reconcileWorker ids).Asks trail (reconcile job.2 ids) := by
    refine Issues.tryCatch ?_ fun e _ _ => .ret _
    split
    · exact reconcileCharge_issues ids job.2
    · exact reconcileRefund_issues ids job.2
  exact body.bind fun outcome _ _ => Issues.ask fun _ => .ret _

theorem outboxRelayTick_issues (batchSize : Nat) (storage : Uuid → Nat) :
    Issues (Invocation.outboxRelayTick batchSize storage).Asks trail
      (outboxRelayTick batchSize storage) := by
  refine Issues.run .findUnpublished fun pending => ?_
  have entries : ∀ pending trail, Issues (Invocation.outboxRelayTick batchSize storage).Asks trail
      (relayEntries pending) := by
    intro pending
    induction pending with
    | nil => exact fun trail => .ret _
    | cons entry rest ih =>
        refine fun trail => Issues.bind (Issues.tryCatch ?_ fun e _ _ => .ret _)
          fun stopped trail' _ => ?_
        · exact Issues.ask fun answer => issues_rethrow fun _ =>
            Issues.run .markPublished fun _ => .ret _
        · cases stopped with
          | true => exact .ret _
          | false => exact ih trail'
  exact entries pending _

end Jobs

/-- Every request and job runs only the transactions it asks for. -/
theorem Invocation.issues (invocation : Invocation) :
    Issues invocation.Asks [] invocation.code := by
  cases invocation with
  | registerAircraft => exact (Issues.run_end .registerAircraft).map
  | createFlight => exact (createFlight_issues ..).map
  | openFlight => exact (openFlight_issues ..).map
  | createBooking => exact (createBooking_issues ..).map
  | cancelBooking => exact (cancelBooking_issues ..).map
  | changeSeat => exact (changeSeat_issues ..).map
  | payForBooking => exact (payForBooking_issues ..).map
  | expireHolds batchSize maxBatches ids => exact expireHolds_issues batchSize maxBatches ids
  | cleanupIdempotencyKeys batchSize maxBatches =>
      exact cleanupIdempotencyKeys_issues batchSize maxBatches
  | reconcilePayments leaseMs batchSize maxBatches =>
      exact reconcilePayments_issues leaseMs batchSize maxBatches
  | reconcileWorker ids => exact reconcileWorker_issues ids
  | outboxRelayTick batchSize storage => exact outboxRelayTick_issues batchSize storage
  | lateCharge => exact Issues.ask fun _ => .ret _
  | lateRefund => exact Issues.ask fun _ => .ret _

/-- Every commit was asked for by the request or job of its thread. -/
theorem asked_of_service {airports : Table Airport} {clock : Instant} {steady idempotent : Bool}
    {invocations : Nat → Invocation} {p : Pool app UseCaseResult}
    (h : (service airports clock steady idempotent invocations).Reachable p) :
    ∀ c ∈ p.world.commits, ∃ trail, p.world.Trailed c.thread trail ∧
      (invocations c.thread).Asks trail c.tx :=
  (issued_of_reachable (fun t => (invocations t).issues) h).commits

/-- Every transaction that failed was asked for by the request or job of its thread. -/
theorem asked_failure {airports : Table Airport} {clock : Instant} {steady idempotent : Bool}
    {invocations : Nat → Invocation} {p : Pool app UseCaseResult}
    (h : (service airports clock steady idempotent invocations).Reachable p) :
    ∀ f ∈ p.failures, ∃ trail, p.world.Trailed f.thread trail ∧
      (invocations f.thread).Asks trail f.tx :=
  (issued_of_reachable (fun t => (invocations t).issues) h).failures

end FlightBooking
