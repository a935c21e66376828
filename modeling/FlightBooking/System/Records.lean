import FlightBooking.System.Application
import FlightBooking.Payments.Outcomes
import FlightBooking.Flights.Outcomes

/-!
The audit log and the outbox only grow: every transaction but the relay's own
appends new rows to them, whatever else it writes. Only `recordAudit` and
`enqueue` write there, and both refuse an id that is taken.
-/

namespace FlightBooking

open Relational ReadCommitted

variable {T : Timeline postgres} {n i : Nat} {c c' : Cursor postgres} {now : Instant}
  {skip : List Row} {snap cur : Db} {α : Type}

/-- The records among the changes are new rows. -/
structure Changes.Appends (db : Db) (w : Changes) : Prop where
  audit : (w.audit.map key).Nodup
  auditNew : ∀ a ∈ w.audit, db.audit.find? (key a) = none
  outbox : (w.outbox.map key).Nodup
  outboxNew : ∀ o ∈ w.outbox, db.outbox.find? (key o) = none
  unpublished : ∀ o ∈ w.outbox, o.publishedAt = none

/-- Changes without records. -/
def Changes.Silent (w : Changes) : Prop := w.audit = [] ∧ w.outbox = []

theorem Changes.Silent.appends {w : Changes} (h : w.Silent) (db : Db) : w.Appends db := by
  obtain ⟨audit, outbox⟩ := h
  exact ⟨by simp [audit], by simp [audit], by simp [outbox], by simp [outbox], by simp [outbox]⟩

theorem Changes.silent_none : Changes.Silent {} := ⟨rfl, rfl⟩

theorem Changes.Appends.frame {a b : Db} {w : Changes} (h : w.Appends a)
    (agree : ∀ r ∈ w.touched, Db.Agree r a b) : w.Appends b :=
  { h with
    auditNew := fun v mem => (agree _ (Changes.audit_touched mem)).symm.trans (h.auditNew v mem)
    outboxNew := fun v mem => (agree _ (Changes.outbox_touched mem)).symm.trans (h.outboxNew v mem) }

theorem Changes.Appends.append {db : Db} {c d : Changes} (hc : c.Appends db)
    (hd : d.Appends (c.apply db)) : (Changes.append c d).Appends db where
  audit := by
    rw [Changes.append, List.map_append, List.nodup_append]
    refine ⟨hc.audit, hd.audit, fun k mem k' mem' same => ?_⟩
    obtain ⟨v, memV, rfl⟩ := List.mem_map.mp mem
    obtain ⟨u, memU, rfl⟩ := List.mem_map.mp mem'
    have new : (db.audit.putAll c.audit).find? (key u) = none := hd.auditNew u memU
    rw [← same, Table.find?_putAll_of_mem hc.audit memV] at new
    cases new
  auditNew v mem := by
    rcases List.mem_append.mp mem with mem | mem
    · exact hc.auditNew v mem
    · have new : (db.audit.putAll c.audit).find? (key v) = none := hd.auditNew v mem
      exact (Table.find?_putAll_none new).1
  outbox := by
    rw [Changes.append, List.map_append, List.nodup_append]
    refine ⟨hc.outbox, hd.outbox, fun k mem k' mem' same => ?_⟩
    obtain ⟨v, memV, rfl⟩ := List.mem_map.mp mem
    obtain ⟨u, memU, rfl⟩ := List.mem_map.mp mem'
    have new : (db.outbox.putAll c.outbox).find? (key u) = none := hd.outboxNew u memU
    rw [← same, Table.find?_putAll_of_mem hc.outbox memV] at new
    cases new
  outboxNew v mem := by
    rcases List.mem_append.mp mem with mem | mem
    · exact hc.outboxNew v mem
    · have new : (db.outbox.putAll c.outbox).find? (key v) = none := hd.outboxNew v mem
      exact (Table.find?_putAll_none new).1
  unpublished v mem := (List.mem_append.mp mem).elim (hc.unpublished v) (hd.unpublished v)

/-! ### Statements -/

theorem appends_query {ρ : Type} {s : Statement postgres ρ}
    (h : ∀ skip snap cur out, s skip snap cur = .ok out → out.writes.Silent) :
    Writes Changes.Appends (query s) :=
  writes_query fun skip snap cur out done => (h skip snap cur out done).appends cur

theorem recordAudit_appends (input : AuditRecordInput) :
    Writes Changes.Appends (query (recordAudit input)) :=
  writes_query fun skip snap cur out done => by
    obtain ⟨writes, fresh⟩ := recordAudit_ok done
    rw [writes]
    exact ⟨by simp, fun a mem => List.mem_singleton.mp mem ▸ fresh, by simp, by simp, by simp⟩

theorem enqueue_appends (entry : OutboxEntry) : Writes Changes.Appends (query (enqueue entry)) :=
  writes_query fun skip snap cur out done => by
    obtain ⟨writes, fresh⟩ := enqueue_ok done
    rw [writes]
    exact ⟨by simp, by simp, by simp, fun o mem => List.mem_singleton.mp mem ▸ fresh, by simp⟩

theorem orThrow_appends (v : Except Failure α) : Writes Changes.Appends (orThrow v) := by
  cases v <;> trivial

theorem raise_appends (e : Failure) : Writes Changes.Appends (raise e : Prog postgres α) := trivial

/-! ### Bookings -/

theorem findById_appends (id : Uuid) (scope : BookingAccessScope) :
    Writes Changes.Appends (findById id scope) := by
  refine writes_bind (appends_query fun _ _ _ _ h => (findBooking_ok h).2 ▸ Changes.silent_none)
    fun found => ?_
  cases found with
  | none => trivial
  | some row =>
      exact writes_bind (appends_query fun _ _ _ _ h => (findPassengers_ok h).2 ▸ Changes.silent_none)
        fun passengers => writes_bind (orThrow_appends _) fun _ => trivial

theorem holdChosen_silent {flightId id : Uuid} {requested : List SeatPosition} {out}
    (h : holdChosen flightId id requested now skip snap cur = .ok out) : out.writes.Silent := by
  unfold holdChosen at h
  extract_lets locked locks verdict at h
  split at h <;> cases h <;> exact ⟨rfl, rfl⟩

theorem findFlight_appends (flightId : Uuid) :
    Writes Changes.Appends (query (findFlight flightId)) :=
  appends_query fun _ _ _ _ h => by cases h; exact Changes.silent_none

theorem classifyNothingHeld_appends (flightId : Uuid) :
    Writes Changes.Appends (classifyNothingHeld flightId now) := by
  refine writes_bind (findFlight_appends flightId) fun found => ?_
  cases found with
  | none => trivial
  | some flight =>
      dsimp only
      split <;> trivial

theorem classifyRefusal_appends (flightId : Uuid) (requested : List SeatPosition)
    (rows : List PricedSeat) :
    Writes Changes.Appends (classifyRefusal flightId requested rows now) := by
  have first : Writes Changes.Appends (classifyRefusal.classifyIfEmpty flightId rows now) := by
    unfold classifyRefusal.classifyIfEmpty
    split
    · exact classifyNothingHeld_appends flightId
    · trivial
  refine writes_bind first fun reason => ?_
  cases reason with
  | some reason => trivial
  | none =>
      dsimp only
      split <;> trivial

theorem holdSeats_appends (flightId id : Uuid) (request : SeatHoldRequest) :
    Writes Changes.Appends (holdSeats flightId id request now) := by
  cases request with
  | auto count fareClass =>
      refine writes_bind (appends_query fun _ _ _ _ h => ?_) fun held => ?_
      · rcases holdAuto_ok h with ⟨-, writes⟩ | ⟨free, -, -, -, -, -, writes⟩ <;> rw [writes] <;>
          exact ⟨rfl, rfl⟩
      · split
        · exact writes_bind (orThrow_appends _) fun _ => trivial
        · refine writes_bind (classifyNothingHeld_appends flightId) fun reason => ?_
          cases reason with
          | some reason => trivial
          | none =>
              exact writes_bind (appends_query fun _ _ _ _ h => by cases h; exact ⟨rfl, rfl⟩)
                fun _ => trivial
  | chosen seats =>
      refine writes_bind (appends_query fun _ _ _ _ => holdChosen_silent) fun result => ?_
      obtain ⟨rows, held⟩ := result
      dsimp only
      split
      · exact writes_bind (orThrow_appends _) fun _ => trivial
      · exact writes_bind (classifyRefusal_appends ..) fun _ => trivial

theorem insertBooking_appends (booking : Booking) :
    Writes Changes.Appends (insertBooking booking) := by
  refine writes_bind (appends_query fun _ _ _ _ h => ?_) fun inserted => ?_
  · rcases insertBookingRow_ok h with ⟨-, writes⟩ | ⟨-, writes, -⟩ <;> rw [writes] <;>
      exact ⟨rfl, rfl⟩
  · cases inserted with
    | false => trivial
    | true =>
        exact writes_bind (appends_query fun _ _ _ _ h => (insertPassengers_ok h).1 ▸ ⟨rfl, rfl⟩)
          fun _ => trivial

theorem createWithFreeReference_appends (held : Booking) (references : Nat → String)
    (left attempt : Nat) :
    Writes Changes.Appends (createWithFreeReference held references left attempt) := by
  induction left generalizing attempt with
  | zero => trivial
  | succ left ih =>
      refine writes_bind (insertBooking_appends _) fun inserted => ?_
      cases inserted with
      | true => trivial
      | false => exact ih (attempt + 1)

theorem createBooking_appends (flightId : Uuid) (request : CreateBookingInput) (actor : Uuid)
    (ids : CreateBookingIds) (requestId : Option Uuid) :
    Writes Changes.Appends (createBookingTransaction flightId request actor ids requestId now) := by
  refine writes_bind (holdSeats_appends _ _ _) fun held => ?_
  cases held with
  | error refusal => trivial
  | ok seats =>
      exact writes_bind (orThrow_appends _) fun _ => writes_bind (orThrow_appends _) fun _ =>
        writes_bind (createWithFreeReference_appends ..) fun _ =>
        writes_bind (recordAudit_appends _) fun _ => writes_bind (enqueue_appends _) fun _ => trivial

theorem cancelInTransaction_appends (id : Uuid) (scope : BookingAccessScope) :
    Writes Changes.Appends (cancelInTransaction id scope now) := by
  refine writes_bind (appends_query fun _ _ _ _ h => (lockCancellable_ok h).1 ▸ Changes.silent_none)
    fun _ => writes_bind (appends_query fun _ _ _ _ h => ?_) fun cancelled => ?_
  · rcases cancelBookingRow_ok h with ⟨-, writes, -⟩ | ⟨_, _, _, -, -, -, -, writes, -⟩ <;>
      rw [writes] <;> exact ⟨rfl, rfl⟩
  · cases cancelled with
    | some row => trivial
    | none =>
        refine writes_bind (appends_query fun _ _ _ _ h => by cases h; exact ⟨rfl, rfl⟩)
          fun found => ?_
        cases found with
        | none => trivial
        | some pair => exact writes_bind (orThrow_appends _) fun _ => trivial

theorem cancelBooking_appends (id : Uuid) (scope : BookingAccessScope) (actor : Uuid)
    (ids : CancelIds) (requestId : Option Uuid) :
    Writes Changes.Appends (cancelBookingTransaction id scope actor ids requestId now) := by
  refine writes_bind (cancelInTransaction_appends id scope) fun result => ?_
  cases result with
  | error reason => trivial
  | ok cancelled =>
      refine writes_bind (appends_query fun _ _ _ _ h => ?_) fun payment =>
        writes_bind (recordAudit_appends _) fun _ => writes_bind ?_ fun _ =>
        writes_bind (enqueue_appends _) fun _ => writes_bind (findById_appends _ _) fun found => ?_
      · exact (markRefundPendingForCancelledBooking_ok h).2 ▸ ⟨rfl, rfl⟩
      · cases payment with
        | none => trivial
        | some p => exact recordAudit_appends _
      · cases found <;> trivial

theorem moveBetweenSeats_appends (id : Uuid) (position : Nat) (flightId : Uuid)
    (current target : SeatPosition) :
    Writes Changes.Appends (moveBetweenSeats id position flightId current target) := by
  have update : ∀ at' assign, Writes Changes.Appends (query (updateSeat flightId at' assign)) :=
    fun _ _ => appends_query fun _ _ _ _ h => by cases h; exact ⟨rfl, rfl⟩
  refine writes_bind (appends_query fun _ _ _ _ h => (lockSeats_ok h).1 ▸ Changes.silent_none)
    fun locked => writes_bind (orThrow_appends _) fun verdict => ?_
  cases verdict with
  | some reason => trivial
  | none =>
      exact writes_bind (update ..) fun _ => writes_bind (update ..) fun _ => writes_bind
        (appends_query fun _ _ _ _ h => updatePassengerSeat_ok h ▸ ⟨rfl, rfl⟩) fun _ => trivial

theorem changeSeat_appends (id : Uuid) (position : Nat) (target : SeatPosition)
    (scope : BookingAccessScope) (actor auditId : Uuid) (requestId : Option Uuid) :
    Writes Changes.Appends
      (changeSeatTransaction id position target scope actor auditId requestId now) := by
  have readBack : ∀ changed,
      Writes Changes.Appends (changeSeatTransaction.readBack id scope changed) := fun changed => by
    refine writes_bind (findById_appends _ _) fun found => ?_
    cases found <;> trivial
  have body : Writes Changes.Appends (changeSeatInTransaction id position target scope now) := by
    refine writes_bind (appends_query fun _ _ _ _ h =>
      lockBookingAndFlight_writes h ▸ Changes.silent_none) fun found => ?_
    cases found with
    | none => trivial
    | some pair =>
        refine writes_bind (appends_query fun _ _ _ _ h => by cases h; exact ⟨rfl, rfl⟩)
          fun passenger => ?_
        cases passenger with
        | none => trivial
        | some passenger =>
            dsimp only
            split
            · trivial
            · cases passenger.seat with
              | none => trivial
              | some current =>
                  dsimp only
                  split
                  · trivial
                  · split
                    · trivial
                    · exact moveBetweenSeats_appends ..
  refine writes_bind body fun result => ?_
  cases result with
  | refused reason => trivial
  | unchanged => exact readBack false
  | changed old new => exact writes_bind (recordAudit_appends _) fun _ => readBack true

theorem recordExpiries_appends (ids : ExpiryIds) (index : Nat) (holds : List ExpiredHold) :
    Writes Changes.Appends (recordExpiries ids now index holds) := by
  induction holds generalizing index with
  | nil => trivial
  | cons hold holds ih =>
      exact writes_bind (writes_bind (recordAudit_appends _) fun _ => enqueue_appends _)
        fun _ => ih (index + 1)

theorem confirmHold_appends (id : Uuid) (scope : BookingAccessScope) :
    Writes Changes.Appends (confirmHold id scope now) := by
  refine writes_bind (appends_query fun _ _ _ _ h => ?_) fun won => ?_
  · rcases confirmHoldRow_ok h with ⟨-, writes⟩ | ⟨_, _, -, -, -, -, -, writes, -⟩ <;>
      rw [writes] <;> exact ⟨rfl, rfl⟩
  · cases won with
    | false => trivial
    | true =>
        refine writes_bind (findById_appends _ _) fun found => ?_
        cases found <;> trivial

/-! ### Payments -/

theorem transition_appends (id : Uuid) (before after : PaymentStatus)
    (reference reason : Option String) :
    Writes Changes.Appends (transition id before after now reference reason) := by
  refine writes_bind (appends_query fun _ _ _ _ h => ?_) fun won => ?_
  · rcases movePayment_ok h with ⟨-, writes⟩ | ⟨_, -, -, -, writes, -⟩ <;> rw [writes] <;>
      exact ⟨rfl, rfl⟩
  · cases won <;> trivial

theorem updateKeyOrThrow_appends (accountId : Uuid) (keyText : String)
    (assign : IdempotencyKey → IdempotencyKey) :
    Writes Changes.Appends (updateKeyOrThrow accountId keyText assign) := by
  refine writes_bind (appends_query fun _ _ _ _ h => ?_) fun won => ?_
  · rcases updateKey_ok h with ⟨-, writes⟩ | ⟨_, -, -, -, writes, -⟩ <;> rw [writes] <;>
      exact ⟨rfl, rfl⟩
  · cases won <;> trivial

theorem answerKey_appends (accountId : Uuid) (keyText : String) (decision : PaymentDecision) :
    Writes Changes.Appends (answerKey accountId keyText decision now) :=
  writes_bind (updateKeyOrThrow_appends ..) fun _ => trivial

theorem release_appends (accountId : Uuid) (keyText : String) :
    Writes Changes.Appends (query (release accountId keyText)) :=
  appends_query fun _ _ _ _ h => by
    rcases release_ok h with writes | ⟨_, -, -, writes⟩ <;> rw [writes] <;> exact ⟨rfl, rfl⟩

theorem claimWithin_appends (attempts : Nat) (accountId : Uuid) (keyText fingerprint : String) :
    Writes Changes.Appends (claimWithin attempts accountId keyText fingerprint now) := by
  induction attempts with
  | zero => trivial
  | succ attempts ih =>
      refine writes_bind (appends_query fun _ _ _ _ h => ?_) fun inserted => ?_
      · rcases insertKey_ok h with ⟨-, writes⟩ | ⟨-, -, writes⟩ <;> rw [writes] <;> exact ⟨rfl, rfl⟩
      · cases inserted with
        | true => trivial
        | false =>
            refine writes_bind (appends_query fun _ _ _ _ h => by cases h; exact ⟨rfl, rfl⟩)
              fun found => ?_
            cases found with
            | none => exact ih
            | some row =>
                dsimp only
                cases row.status with
                | inProgress => trivial
                | completed => cases row.response <;> trivial

theorem startPayment_appends (bookingId : Option Uuid) (scope : BookingAccessScope) (actor : Uuid)
    (request : PaymentRequest) (paymentId : Uuid) (reconcileAfterMs : Int) :
    Writes Changes.Appends
      (startPayment bookingId scope actor request paymentId reconcileAfterMs now) := by
  have find : Writes Changes.Appends (findRequested bookingId scope) := by
    cases bookingId with
    | none => trivial
    | some id => exact findById_appends _ _
  refine writes_bind (claimWithin_appends ..) fun claim => ?_
  cases claim with
  | inProgress fingerprint =>
      dsimp only
      split <;> trivial
  | completed fingerprint response =>
      dsimp only
      split <;> trivial
  | claimed =>
      refine writes_bind find fun found => ?_
      cases found with
      | none => exact answerKey_appends ..
      | some booking =>
          dsimp only
          split
          · exact answerKey_appends ..
          · split
            · exact writes_bind (release_appends ..) fun _ => trivial
            · refine writes_bind (appends_query fun _ _ _ _ h => ?_) fun inserted => ?_
              · rcases insertPayment_ok h with ⟨-, writes⟩ | ⟨-, writes, -⟩ <;> rw [writes] <;>
                  exact ⟨rfl, rfl⟩
              · cases inserted with
                | true => exact writes_bind (updateKeyOrThrow_appends ..) fun _ => trivial
                | false => exact writes_bind (release_appends ..) fun _ => trivial

theorem answerPayment_appends (payment : Payment) (decision : PaymentDecision) :
    Writes Changes.Appends (answerPayment payment decision now) := by
  refine writes_bind (writes_bind (appends_query fun _ _ _ _ h => ?_) fun updated => ?_)
    fun _ => trivial
  · obtain ⟨found, -, -, writes, -⟩ := completeKeyOfPayment_ok h
    exact writes ▸ ⟨rfl, rfl⟩
  · split <;> trivial

theorem declined_appends (payment : Payment) (reason : String) (actor : AuditActor)
    (ids : SettleIds) : Writes Changes.Appends (declined payment reason actor ids now) :=
  writes_bind (transition_appends ..) fun _ => writes_bind (recordAudit_appends _) fun _ =>
    answerPayment_appends ..

theorem charged_appends (payment : Payment) (reference : String) (actor : AuditActor)
    (ids : SettleIds) : Writes Changes.Appends (charged payment reference actor ids now) := by
  refine writes_bind (confirmHold_appends _ _) fun confirmed => ?_
  cases confirmed with
  | none =>
      exact writes_bind (transition_appends ..) fun _ => writes_bind (recordAudit_appends _) fun _ =>
        answerPayment_appends ..
  | some confirmed =>
      exact writes_bind (transition_appends ..) fun _ => writes_bind (recordAudit_appends _) fun _ =>
        writes_bind (orThrow_appends _) fun _ => writes_bind (enqueue_appends _) fun _ =>
        answerPayment_appends ..

theorem recordRefund_appends (payment : Payment) (record : RefundRecord) (auditId : Uuid) :
    Writes Changes.Appends (recordRefund payment record auditId now) := by
  refine writes_bind ?_ fun _ => recordAudit_appends _
  cases record <;> exact transition_appends ..

/-! ### Sweeps and flights -/

theorem expireBatch_appends (batchSize : Nat) (ids : ExpiryIds) :
    Writes Changes.Appends (expireBatchTransaction now batchSize ids) :=
  writes_bind (appends_query fun _ _ _ _ h => by cases h; exact ⟨rfl, rfl⟩) fun _ =>
    writes_bind (recordExpiries_appends ..) fun _ => trivial

theorem registerAircraft_appends (aircraft : Aircraft) (actor auditId : Uuid)
    (requestId : Option Uuid) :
    Writes Changes.Appends (registerAircraftTransaction aircraft actor auditId requestId) := by
  refine writes_bind (appends_query fun _ _ _ _ h => ?_) fun inserted => ?_
  · unfold insertAircraft at h
    split at h
    · cases h
    · split at h <;> cases h <;> exact ⟨rfl, rfl⟩
  · cases inserted with
    | false => trivial
    | true => exact writes_bind (recordAudit_appends _) fun _ => trivial

theorem insertFlightRow_silent {flight : FlightRow} {out}
    (h : insertFlightRow flight skip snap cur = .ok out) : out.writes.Silent := by
  unfold insertFlightRow at h
  split at h
  · cases h
  split at h
  · cases h
  split at h
  · cases h
    exact ⟨rfl, rfl⟩
  split at h
  · cases h
    exact ⟨rfl, rfl⟩
  split at h <;> cases h <;> exact ⟨rfl, rfl⟩

theorem insertFlight_appends (flight : Flight) :
    Writes Changes.Appends (insertFlight flight) := by
  refine writes_bind (appends_query fun _ _ _ _ => insertFlightRow_silent) fun inserted => ?_
  cases inserted with
  | created =>
      refine writes_bind (appends_query fun _ _ _ _ h => ?_) fun _ =>
        writes_bind (appends_query fun _ _ _ _ h => ?_) fun _ => trivial
      · unfold copySeats at h
        extract_lets seats at h
        split at h <;> cases h
        exact ⟨rfl, rfl⟩
      · unfold insertFares at h
        extract_lets rows at h
        split at h
        · cases h
        · split at h <;> cases h
          exact ⟨rfl, rfl⟩
  | duplicate => trivial
  | aircraftUnavailable => trivial
  | referenceNotFound => trivial

theorem createFlight_appends (flight : Flight) (actor auditId eventId : Uuid)
    (requestId : Option Uuid) :
    Writes Changes.Appends
      (createFlightTransaction flight actor auditId eventId requestId now) := by
  refine writes_bind (insertFlight_appends flight) fun inserted => ?_
  cases inserted with
  | created =>
      exact writes_bind (recordAudit_appends _) fun _ => writes_bind (enqueue_appends _)
        fun _ => trivial
  | duplicate => trivial
  | aircraftUnavailable => trivial
  | referenceNotFound => trivial

theorem openFlight_appends (flight : FlightRow) (actor auditId : Uuid) (requestId : Option Uuid) :
    Writes Changes.Appends (openFlightTransaction flight actor auditId requestId now) := by
  refine writes_bind (writes_bind (appends_query fun _ _ _ _ h => ?_) fun updated => ?_)
    fun result => ?_
  · unfold updateFlightStatus at h
    split at h
    · cases h
      exact ⟨rfl, rfl⟩
    · extract_lets locks at h
      split at h <;> cases h <;> exact ⟨rfl, rfl⟩
  · cases updated with
    | true => trivial
    | false =>
        refine writes_bind (findFlight_appends _) fun found => ?_
        cases found <;> trivial
  · cases result with
    | changed => exact writes_bind (recordAudit_appends _) fun _ => trivial
    | notFound => trivial
    | statusChanged current => trivial

/-! ### Every transaction -/

/-- Every transaction but the relay's recording of a hand-over. -/
def Transaction.Appending : Transaction → Prop
  | .markPublished _ => False
  | _ => True

theorem Transaction.body_appends {x : Transaction} (appending : x.Appending) :
    Writes Changes.Appends (x.body now) := by
  have reads : ∀ {ρ : Type} {s : Statement postgres ρ},
      (∀ skip snap cur out, s skip snap cur = .ok out → out.writes = {}) →
      Writes Changes.Appends (query s) := fun none =>
    appends_query fun skip snap cur out done => none skip snap cur out done ▸ Changes.silent_none
  cases x with
  | findAirport => exact reads fun _ _ _ _ h => by cases h; rfl
  | findAircraft => exact reads fun _ _ _ _ h => by cases h; rfl
  | findFlight => exact reads fun _ _ _ _ h => by cases h; rfl
  | findUnpublished => exact reads fun _ _ _ _ h => by cases h; rfl
  | registerAircraft => exact registerAircraft_appends ..
  | createFlight => exact createFlight_appends ..
  | openFlight => exact openFlight_appends ..
  | createBooking => exact createBooking_appends ..
  | cancelBooking => exact cancelBooking_appends ..
  | changeSeat => exact changeSeat_appends ..
  | expireBatch => exact expireBatch_appends ..
  | startPayment => exact startPayment_appends ..
  | settleDeclined => exact declined_appends ..
  | settleCharged => exact charged_appends ..
  | claimDue => exact appends_query fun _ _ _ _ h => by cases h; exact ⟨rfl, rfl⟩
  | recordRefund => exact recordRefund_appends ..
  | reschedule =>
      refine writes_bind (appends_query fun _ _ _ _ h => ?_) fun won => ?_
      · rcases postponePayment_ok h with ⟨-, writes⟩ | ⟨_, -, -, -, writes⟩ <;> rw [writes] <;>
          exact ⟨rfl, rfl⟩
      · cases won <;> trivial
  | deleteCompletedBefore => exact appends_query fun _ _ _ _ h => by cases h; exact ⟨rfl, rfl⟩
  | markPublished => exact appending.elim

/-- A commit's records are new: no audit entry or event is ever overwritten. -/
theorem appends_of_commits (framed : T.Framed) {x : Transaction} (appending : x.Appending)
    {r : x.Result} (h : Commits T n (x.body now) (.start i) r c') :
    c'.log.Appends (T.state n) :=
  h.writes framed (fun _ _ _ h agree => h.frame agree) (fun _ _ _ h h' => h.append h')
    (Transaction.body_appends appending) (Changes.silent_none.appends _)

end FlightBooking
