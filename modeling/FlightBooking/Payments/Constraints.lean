import FlightBooking.Bookings.CancelAnswers
import FlightBooking.Payments.StartAlone
import FlightBooking.Payments.Validity

/-!
Settling never trips a constraint of the payments table.

A transition is refused by the table only if the row it would write is invalid, or a
second payment of the booking would have succeeded. The first cannot be while every
stored row is valid; the second cannot be because a settlement that gets so far has
found the booking HELD and keeps it locked, and the booking of a payment that succeeded
is CONFIRMED.
-/

namespace FlightBooking

open Relational ReadCommitted

variable {T : Timeline postgres} {n i : Nat} {x : Transaction} {now : Instant} {c c' : Cursor postgres}
  {id : Uuid} {e : Failure}

/-! ### The constraints -/

/-- The constraints and unique indexes of `payments`. -/
def paymentConstraints : List String :=
  ["PK_payments", "UQ_payments_booking_processing", "UQ_payments_booking_succeeded",
    "CHK_payments_status", "CHK_payments_amount_positive", "CHK_payments_amount_safe",
    "CHK_payments_provider_reference", "CHK_payments_failure_reason", "CHK_payments_token",
    "CHK_payments_next_attempt", "CHK_payments_attempts"]

/-- The error is a violation of one of them. -/
def Failure.OfPayments (e : Failure) : Prop :=
  ∃ c ∈ paymentConstraints, e = .uniqueViolation c ∨ e = .checkViolation c

/-- The error is something else. -/
def Failure.Elsewhere (e : Failure) : Prop := ¬ e.OfPayments

theorem elsewhere_unique {constraint : String} (other : constraint ∉ paymentConstraints) :
    (Failure.uniqueViolation constraint).Elsewhere := by
  rintro ⟨c, mem, same | same⟩
  · cases same
    exact other mem
  · cases same

theorem recordAudit_elsewhere (input : AuditRecordInput) :
    Throws Failure.Elsewhere (query (recordAudit input)) :=
  (recordAudit_throws input).mono fun e same =>
    same ▸ elsewhere_unique (by simp [paymentConstraints])

theorem enqueue_elsewhere (entry : OutboxEntry) :
    Throws Failure.Elsewhere (query (enqueue entry)) :=
  (enqueue_throws entry).mono fun e same =>
    same ▸ elsewhere_unique (by simp [paymentConstraints])

theorem findById_elsewhere (id : Uuid) (scope : BookingAccessScope) :
    Throws Failure.Elsewhere (findById id scope) := by
  refine (findById_throws id scope).mono ?_
  rintro e ⟨sum, rfl⟩ ⟨c, -, same | same⟩ <;> cases same

theorem passengers_elsewhere (bookingId : Uuid) (passengers : List BookingPassenger) :
    Throws Failure.Elsewhere (orThrow (passengers.mapM (toEventPassenger bookingId))) := by
  cases mapped : passengers.mapM (toEventPassenger bookingId) with
  | ok _ => trivial
  | error e =>
      cases mapM_toEventPassenger_error mapped
      rintro ⟨c, -, same | same⟩ <;> cases same

theorem answerPayment_elsewhere (payment : Payment) (decision : PaymentDecision) :
    Throws Failure.Elsewhere (answerPayment payment decision now) := by
  refine throws_bind (throws_bind (throws_query fun _ _ _ _ h => by cases h) fun updated => ?_)
    fun _ => trivial
  split
  · rintro ⟨c, -, same | same⟩ <;> cases same
  · trivial

theorem confirmHold_elsewhere (id : Uuid) (scope : BookingAccessScope) :
    Throws Failure.Elsewhere (confirmHold id scope now) := by
  refine throws_bind (throws_query fun skip snap cur e h => ?_) fun won => ?_
  · unfold confirmHoldRow at h
    split at h
    · cases h
    · extract_lets locks at h
      split at h <;> cases h
  · cases won with
    | false => trivial
    | true =>
        refine throws_bind (findById_elsewhere _ _) fun found => ?_
        cases found with
        | none => rintro ⟨c, -, same | same⟩ <;> cases same
        | some booking => trivial

/-! ### The payment statements -/

/-- A transition of a valid row is refused only for a second success. -/
theorem transition_aborts {before after : PaymentStatus} {reference reason : Option String}
    (transits : Transits before after reference reason) (unwritten : c.log.payments = [])
    (valid : ∀ m ≤ n, PaymentsValid (T.state m))
    (h : Aborts T n (transition id before after now reference reason) c e c') (of : e.OfPayments) :
    after = .succeeded ∧ ∃ cur, c.pos ≤ cur ∧ cur ≤ n ∧ ∃ p ∈ (T.state cur).payments, p.id = id ∧
      p.status = before ∧ ∃ q ∈ (T.state cur).payments, q.bookingId = p.bookingId ∧
        q.status = .succeeded := by
  rcases aborts_bind.mp h with failed | ⟨won, c₁, -, rest⟩
  · obtain ⟨skip, snap, cur, le, le', le'', failed, -⟩ := aborts_query failed
    unfold movePayment at failed
    split at failed
    · cases failed
    · extract_lets locks at failed
      split at failed
      · cases failed
      · rename_i p newest
        obtain ⟨found, status⟩ := Option.filter_eq_some_iff.mp newest
        rw [view_payments unwritten] at found
        have status : p.status = before := by simpa using status
        split at failed
        · rename_i taken
          obtain ⟨q, mem, isPaid⟩ := List.any_eq_true.mp taken.2
          simp only [Bool.and_eq_true, decide_eq_true_eq] at isPaid
          refine ⟨taken.1, cur, Nat.le_trans le le', le'', p, Table.mem_of_find? found,
            Table.key_of_find? found, status, q, ?_, isPaid.1.1, isPaid.1.2⟩
          rw [← view_payments unwritten cur]
          exact mem
        · have sound : (p.moved _ now _ _).Sound :=
            ((valid cur le'').sound p (Table.mem_of_find? found)).moved status transits
          rw [writePayment, sound.check] at failed
          cases failed
  · cases won with
    | true => exact rest.elim
    | false =>
        obtain ⟨rfl, -⟩ := rest
        obtain ⟨_, -, same | same⟩ := of <;> cases same

/-! ### The transactions -/

theorem declined_elsewhere {payment : Payment} {reason : String} {actor : AuditActor} {ids : SettleIds}
    (valid : ∀ m ≤ n, PaymentsValid (T.state m))
    (h : Aborts T n (declined payment reason actor ids now) (.start i) e c') : e.Elsewhere := by
  intro of
  rcases aborts_bind.mp h with failed | ⟨_, c₁, -, rest⟩
  · obtain ⟨same, -⟩ := transition_aborts (.failed reason) rfl valid failed of
    cases same
  · exact rest.throws (throws_bind (recordAudit_elsewhere _) fun _ => answerPayment_elsewhere ..) of

theorem chargedTooLate_elsewhere {payment : Payment} {reference : String} {actor : AuditActor}
    {ids : SettleIds} (valid : ∀ m ≤ n, PaymentsValid (T.state m)) (clean : c.log = {})
    (h : Aborts T n (chargedTooLate payment reference actor ids now) c e c') : e.Elsewhere := by
  intro of
  rcases aborts_bind.mp h with failed | ⟨_, c₁, -, rest⟩
  · obtain ⟨same, -⟩ := transition_aborts (.chargedTooLate reference) (by rw [clean]) valid failed of
    cases same
  · exact rest.throws (throws_bind (recordAudit_elsewhere _) fun _ => answerPayment_elsewhere ..) of

/-- A settlement that found the booking HELD keeps it so: nothing succeeded for it. -/
theorem charged_elsewhere {payment : Payment} {reference : String} {actor : AuditActor}
    {ids : SettleIds} (framed : T.Framed) (unfolds : Unfolds T n)
    (valid : ∀ m ≤ n, PaymentsValid (T.state m)) (copy : (T.state n).HasBill payment)
    (h : Aborts T n (charged payment reference actor ids now) (.start i) e c') : e.Elsewhere := by
  intro of
  rcases aborts_bind.mp h with failed | ⟨confirmed, c₁, confirms, rest⟩
  · exact failed.throws (confirmHold_elsewhere ..) of
  rcases confirmHold_commits framed confirms with ⟨rfl, log⟩ |
    ⟨booking, confirmed', snap, cur, at', on, begun, spans, locked, rfl, log, le, le', -⟩
  · exact chargedTooLate_elsewhere valid log rest of
  rcases aborts_bind.mp rest with failed | ⟨_, c₂, -, rest⟩
  · obtain ⟨-, cur', le, le', p, mem, id, -, q, memQ, same, succeeded⟩ :=
      transition_aborts (.succeeded reference) (by rw [log]) valid failed of
    have booked : p.bookingId = payment.bookingId := by
      obtain ⟨p₁, found, bill⟩ := unfolds.bill_stays le' (Nat.le_refl n) (Table.find?_of_mem mem)
      obtain ⟨p₀, found₀, bill₀⟩ := copy
      rw [show key p = payment.id from id, found₀] at found
      cases found
      exact (Payment.bill_iff.mp (bill.symm.trans bill₀)).2.1
    have here := (valid cur' le').confirmed q memQ succeeded
    have passed : cur ≤ c₁.pos := confirms.span_le (by simp) (snap, cur) (spans.subset (by simp))
    have held : (T.state cur').bookings.find? payment.bookingId = some booking := by
      have kept := framed.agree (Nat.le_trans passed le) (on.kept.mono le')
      exact (Eq.symm kept).trans on.newest
    rw [same, booked, Db.bookingStatus, held] at here
    cases (Option.some.inj here).symm.trans (isConfirmable_held on.confirmable)
  · exact rest.throws (throws_bind (recordAudit_elsewhere _) fun _ => throws_bind
      (passengers_elsewhere ..) fun _ => throws_bind (enqueue_elsewhere _) fun _ => answerPayment_elsewhere ..) of

theorem recordRefund_elsewhere {payment : Payment} {record : RefundRecord} {auditId : Uuid}
    (valid : ∀ m ≤ n, PaymentsValid (T.state m))
    (h : Aborts T n (recordRefund payment record auditId now) (.start i) e c') : e.Elsewhere := by
  intro of
  rcases aborts_bind.mp h with failed | ⟨_, c₁, -, rest⟩
  · have moved : Aborts T n
        (transition payment.id .refundPending record.status now none record.reason) (.start i) e c' := by
      cases record with
      | refunded => exact failed
      | refundFailed reason => exact failed
    obtain ⟨same, -⟩ := transition_aborts record.transits rfl valid moved of
    cases record <;> cases same
  · exact rest.throws (recordAudit_elsewhere _) of

/-- Only payments that wait are put off, so the row stays valid. -/
theorem reschedule_elsewhere {status : PaymentStatus} {at' : Instant}
    (waits : status = .processing ∨ status = .refundPending)
    (valid : ∀ m ≤ n, PaymentsValid (T.state m))
    (h : Aborts T n (reschedule id status at') (.start i) e c') : e.Elsewhere := by
  intro of
  rcases aborts_bind.mp h with failed | ⟨won, c₁, -, rest⟩
  · obtain ⟨skip, snap, cur, le, le', le'', failed, -⟩ := aborts_query failed
    simp only [Cursor.start_view] at failed
    unfold postponePayment at failed
    split at failed
    · cases failed
    · extract_lets locks at failed
      split at failed
      · cases failed
      · rename_i p newest
        obtain ⟨found, same⟩ := Option.filter_eq_some_iff.mp newest
        have same : p.status = status := by simpa using same
        have sound := ((valid cur le'').sound p (Table.mem_of_find? found)).postponed
          (same ▸ waits) at' p.attempts
        rw [writePayment, sound.check] at failed
        cases failed
  · cases won with
    | true => exact rest.elim
    | false =>
        obtain ⟨rfl, -⟩ := rest
        obtain ⟨_, -, same | same⟩ := of <;> cases same

theorem cancelInTransaction_elsewhere (id : Uuid) (scope : BookingAccessScope)
    (h : Aborts T n (cancelInTransaction id scope now) (.start i) e c') : e.Elsewhere := by
  obtain ⟨_, _, _, _, _, _, b, f, -, -, -, -, -, -, failed⟩ := cancelInTransaction_threw h
  obtain ⟨name, rfl⟩ := classifyNotCancelled_throws failed
  rintro ⟨c, -, same | same⟩ <;> cases same

theorem cancelBooking_elsewhere {scope : BookingAccessScope} {actor : Uuid} {ids : CancelIds}
    {requestId : Option Uuid} (framed : T.Framed) (valid : ∀ m ≤ n, PaymentsValid (T.state m))
    (h : Aborts T n (cancelBookingTransaction id scope actor ids requestId now) (.start i) e c') :
    e.Elsewhere := by
  intro of
  rcases aborts_bind.mp h with failed | ⟨result, c₁, cancelled, rest⟩
  · exact cancelInTransaction_elsewhere id scope failed of
  cases result with
  | error reason => exact rest.elim
  | ok row =>
      have unwritten : c₁.log.payments = [] := by
        rcases cancelInTransaction_commits framed cancelled with ⟨_, _, log⟩ |
          ⟨_, _, _, _, _, _, _, _, _, _, _, _, log⟩ <;> rw [log]
      rcases aborts_bind.mp rest with failed | ⟨payment, c₂, -, rest⟩
      · obtain ⟨skip, snap, cur, -, -, le, failed, -⟩ := aborts_query failed
        unfold markRefundPendingForCancelledBooking at failed
        extract_lets updated at failed
        split at failed
        · rename_i invalid
          obtain ⟨p', mem, invalid⟩ := List.exists_of_findSome?_eq_some invalid
          obtain ⟨p, taken, rfl⟩ := List.mem_map.mp mem
          obtain ⟨here, pays, -⟩ := Table.mem_recheck.mp taken
          rw [view_payments unwritten] at here
          rw [(((valid cur le).sound p here).refundStarted (isPaidFor_iff.mp pays).2).check] at invalid
          cases invalid
        · cases failed
      · have started : Throws Failure.Elsewhere
            (recordStartedRefund payment id actor ids.refundAuditId requestId now) := by
          cases payment with
          | none => trivial
          | some p => exact recordAudit_elsewhere _
        refine rest.throws (throws_bind (recordAudit_elsewhere _) fun _ => throws_bind started fun _ =>
          throws_bind (enqueue_elsewhere _) fun _ => throws_bind (findById_elsewhere ..) fun found => ?_)
          of
        cases found with
        | none => rintro ⟨c, -, same | same⟩ <;> cases same
        | some booking => trivial

/-! ### Every interleaving -/

/-- The transactions that settle, cancel, claim, refund or put off a payment. -/
def Transaction.MovesPayments : Transaction → Prop
  | .settleDeclined .. | .settleCharged .. | .cancelBooking .. | .claimDue .. | .recordRefund ..
  | .reschedule .. => True
  | _ => False

theorem moves_elsewhere {x : Transaction} (moves : x.MovesPayments) (framed : T.Framed)
    (unfolds : Unfolds T n) (valid : ∀ m ≤ n, PaymentsValid (T.state m))
    (informed : x.Informed (T.state n)) (h : Aborts T n (x.body now) (.start i) e c') :
    e.Elsewhere := by
  cases x with
  | settleDeclined => exact declined_elsewhere valid h
  | settleCharged => exact charged_elsewhere framed unfolds valid informed h
  | cancelBooking => exact cancelBooking_elsewhere framed valid h
  | claimDue =>
      obtain ⟨_, _, _, -, -, -, failed, -⟩ := aborts_query h
      cases failed
  | recordRefund => exact recordRefund_elsewhere valid h
  | reschedule => exact reschedule_elsewhere informed valid h
  | _ => exact moves.elim

/-- A commit writes a payment once. -/
theorem Effect.payments_distinct {r : x.Result} (effect : Effect T n i x now r c') :
    (c'.log.payments.map key).Nodup := by
  cases effect with
  | nothing _ log => simp [log]
  | laidOut _ on => simp [on.quiet.payments]
  | created _ _ log => simp [log]
  | cancelled _ _ _ _ _ _ _ isPaid _ log =>
      rw [log, List.map_map]
      exact isPaid ▸ Table.nodup_recheck ..
  | reseated _ _ _ _ log => simp [log]
  | expired _ _ _ _ log => simp [log]
  | paid _ _ on =>
      cases on with
      | answered _ log => simp [log]
      | released _ log => simp [log]
      | started _ _ log => simp [log]
  | declined _ _ _ log => simp [log]
  | chargedTooLate _ _ _ log => simp [log]
  | confirmed _ _ _ _ _ _ _ log => simp [log]
  | claimed distinct _ log =>
      rw [log, List.map_map]
      exact distinct
  | refundRecorded _ _ log => simp [log]
  | rescheduled _ _ log => simp [log]
  | cleaned _ log => simp [log]
  | published _ _ log => simp [log]

/-- A row that a commit writes is valid, and has not been attempted in a new status. -/
theorem Committed.payment_written {r : x.Result} (h : Committed T n i x now r c')
    (informed : x.Informed (T.state n)) (valid : PaymentsValid (T.state n)) {payment : Payment}
    (mem : payment ∈ c'.log.payments) : payment.Sound ∧
      (((T.state n).payments.find? payment.id).map (·.status) ≠ some payment.status →
        payment.attempts = 0) := by
  have change := h.effect.payment payment.id
  have after : (c'.log.apply (T.state n)).payments.find? payment.id = some payment := by
    rw [Changes.apply_payments]
    exact Table.find?_putAll_of_mem h.effect.payments_distinct mem
  rw [after] at change
  refine ⟨change.sound informed fun p found => valid.sound p (Table.mem_of_find? found), ?_⟩
  cases before : (T.state n).payments.find? payment.id with
  | none =>
      rw [before] at change
      exact fun _ => change.created.2
  | some p =>
      rw [before] at change
      intro moved
      rcases change.edge with same | ⟨-, restarted⟩
      · exact absurd (congrArg some same.symm) moved
      · exact restarted

/-- A payment in a final state stays as it is. -/
theorem Informed.final_stays (informed : Informed T n) {id : Uuid} {a m : Nat} (le : a ≤ m)
    (le' : m ≤ n) {p : Payment} (found : (T.state a).payments.find? id = some p)
    (final : p.status.Final) : (T.state m).payments.find? id = some p := by
  induction m, le using Nat.le_induction with
  | base => exact found
  | succ m le ih =>
      obtain ⟨i, x, now, r, c', committed, knew⟩ := informed m (by omega)
      have change := committed.effect.payment id
      rw [ih (by omega), ← committed.next] at change
      exact change.final knew final

/-- What a claim answers was waiting. -/
theorem Effect.claimed_waited {r : x.Result} (effect : Effect T n i x now r c')
    {payments : List Payment} (claimed : x.claimed? r = some payments) {payment : Payment}
    (mem : payment ∈ payments) : ∃ p ∈ (T.state n).payments, p.id = payment.id ∧
      (p.status = .processing ∨ p.status = .refundPending) := by
  cases x with
  | claimDue =>
      cases claimed
      cases effect with
      | nothing idle => exact idle.elim
      | laidOut on => exact on.elim
      | claimed distinct isDue log reply =>
          obtain ⟨p, memP, rfl⟩ := List.mem_map.mp (reply.mem_iff.mp mem)
          exact ⟨p, (isDue p memP).1, rfl, isPaymentDue_status (isDue p memP).2⟩
  | _ => cases claimed

section Service

variable {airports : Table Airport} {clock : Instant} {steady idempotent : Bool}
  {invocations : Nat → Invocation} {p : Pool app UseCaseResult}

theorem paymentsValid_of_service
    (h : (service airports clock steady idempotent invocations).Reachable p) :
    ∀ n ≤ p.world.commits.length, PaymentsValid (p.world.state n) := by
  refine (informed_of_service h).paymentsValid (paymentsValid_of_empty ?_)
  rw [show p.world.timeline.state 0 = p.world.initial from World.state_zero _, h.initial_eq]
  rfl

/-- In every version of every interleaving the payments are valid, whatever row a commit
writes is valid and starts its attempts from 0 in a new status, a payment in a final
state stays as it is and is never claimed, and no transaction that settles, cancels,
claims, refunds or puts off a payment fails on a constraint of the table. Phase 1 for a
booking with a payment in progress is answered so. -/
theorem payments_never_violate
    (h : (service airports clock steady idempotent invocations).Reachable p) :
    (∀ n ≤ p.world.commits.length, PaymentsValid (p.world.state n) ∧
      ∀ payment ∈ (p.world.state n).payments, checkPayment payment = none) ∧
    (∀ (n : Nat) (lt : n < p.world.commits.length),
      (∀ payment ∈ p.world.commits[n].log.payments, payment.Sound ∧
        (((p.world.state n).payments.find? payment.id).map (·.status) ≠ some payment.status →
          payment.attempts = 0)) ∧
      ∀ payments, p.world.commits[n].tx.claimed? p.world.commits[n].result = some payments →
        ∀ payment ∈ payments, ∃ row ∈ (p.world.state n).payments, row.id = payment.id ∧
          (row.status = .processing ∨ row.status = .refundPending)) ∧
    (∀ n m, n ≤ m → m ≤ p.world.commits.length → ∀ id payment,
      (p.world.state n).payments.find? id = some payment → payment.status.Final →
        (p.world.state m).payments.find? id = some payment) ∧
    (∀ f ∈ p.failures, f.tx.MovesPayments → ¬ f.error.OfPayments) ∧
    ∀ id scope account booking (request : PaymentRequest) paymentId reconcileAfterMs now,
      p.world.db.keys.find? (account, request.idempotencyKey) = none →
      execute (S := postgres) [] p.world.db (findById id scope) {} = .ok (some booking, {}) →
      canStartPayment booking now = true → request.amount = booking.total →
      (∃ q ∈ p.world.db.payments, q.bookingId = booking.id ∧ q.status = .processing) →
      ∃ log, execute (S := postgres) [] p.world.db
          (startPayment (some id) scope account request paymentId reconcileAfterMs now) {} =
          .ok (.result .paymentInProgress, log) ∧
        (log.apply p.world.db).payments = p.world.db.payments ∧
        (log.apply p.world.db).keys.find? (account, request.idempotencyKey) = none := by
  have good := (service_kept airports clock steady idempotent invocations).reachable h |>.good
  have informed := informed_of_service h
  have valid := paymentsValid_of_service h
  refine ⟨?_, ?_, ?_, ?_, ?_⟩
  · intro n le
    exact ⟨valid n le, fun payment mem => ((valid n le).sound payment mem).check⟩
  · intro n lt
    obtain ⟨c', committed, log, -⟩ := committed_of_sound good.sound lt
    constructor
    · intro payment mem
      rw [← log] at mem
      exact committed.payment_written (informed_commit h lt) (valid n (Nat.le_of_lt lt)) mem
    · intro payments claimed payment mem
      exact committed.effect.claimed_waited claimed mem
  · intro n m le le' id payment found final
    exact informed.final_stays le le' found final
  · intro f mem moves
    obtain ⟨-, le, lost | aborts⟩ := good.failures f mem
    · rw [lost]
      rintro ⟨c, -, same | same⟩ <;> cases same
    · obtain ⟨c', aborts, -⟩ := aborts _ (.refl _ _)
      exact moves_elsewhere moves good.framed (informed.unfolds.mono le)
        (fun m le' => valid m (Nat.le_trans le' le)) (informed_failure h f mem) aborts
  · intro id scope account booking request paymentId reconcileAfterMs now free reads can amount busy
    exact execute_startPayment_conflict free reads can amount busy

end Service

/-- A payment of the sample booking: started, claimed by nobody, charged and final for
the settlement. -/
theorem payments_never_violate_sample : ∃ p, Pool.run (sampleMoves ++ Pool.wholly 4 1 5 ++
      [(4, .call (.definite (.succeeded "ch_1")))] ++ Pool.wholly 4 2 7)
      (service sampleAirports 0 true true (sampleThreads fun _ => samplePayment)) = some p ∧
    (p.world.state 9).payments.rows.map (·.status) = [.processing] ∧
    p.world.db.payments.rows.map (·.status) = [.succeeded] ∧
    ∀ n ≤ p.world.commits.length, PaymentsValid (p.world.state n) := by
  have statuses : ((Pool.run (sampleMoves ++ Pool.wholly 4 1 5 ++
      [(4, .call (.definite (.succeeded "ch_1")))] ++ Pool.wholly 4 2 7)
      (service sampleAirports 0 true true (sampleThreads fun _ => samplePayment))).map fun p =>
        ((p.world.state 9).payments.rows.map (·.status),
          p.world.db.payments.rows.map (·.status))) =
      some ([.processing], [.succeeded]) := by decide +kernel
  obtain ⟨p, ran, statuses⟩ := Option.map_eq_some_iff.mp statuses
  obtain ⟨before, after⟩ := Prod.ext_iff.mp statuses
  exact ⟨p, ran, before, after, fun n le =>
    ((payments_never_violate (Pool.run_reachable ran)).1 n le).1⟩

end FlightBooking
