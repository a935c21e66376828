import FlightBooking.Payments.Copies

/-!
What holds of the payments in every version.

A payment's row satisfies the CHECKs of its table in every status it can be in
(`Payment.Sound`), and moves along the edges of its lifecycle only (`PaymentEdge`).
Over a whole run a booking has at most one payment in progress and at most one that
succeeded, and a payment that succeeded has a confirmed booking
(`Informed.paymentsValid`). The first is what the unique index on PROCESSING payments
is locked for; the second rests on the booking's row, which a settlement and a cancel
both lock.
-/

namespace FlightBooking

open Relational ReadCommitted

variable {T : Timeline postgres} {n i : Nat} {x : Transaction} {now : Instant} {r : x.Result}
  {c' : Cursor postgres}

/-! ### Rows -/

/-- What every stored payment satisfies: the CHECKs of its table, and that a refund
that failed has a reason too. -/
structure Payment.Sound (p : Payment) : Prop where
  amount : p.amount.amount ≠ 0
  token : p.status = .processing ↔ p.paymentMethodToken.isSome
  nextAttempt : (p.status = .processing ∨ p.status = .refundPending) ↔ p.nextAttemptAt.isSome
  reference : p.status = .succeeded ∨ p.status = .refundPending ∨ p.status = .refunded ∨
    p.status = .refundFailed → p.providerReference.isSome
  reason : p.status = .failed ∨ p.status = .refundFailed → p.failureReason.isSome

theorem Payment.Sound.check {p : Payment} (h : p.Sound) : checkPayment p = none := by
  have reference : ¬ (p.providerReference = none ∧ (p.status = .succeeded ∨
      p.status = .refundPending ∨ p.status = .refunded ∨ p.status = .refundFailed)) := by
    rintro ⟨missing, status⟩
    have there := h.reference status
    rw [missing] at there
    cases there
  have reason : ¬ (p.status = .failed ∧ p.failureReason = none) := by
    rintro ⟨status, missing⟩
    have there := h.reason (.inl status)
    rw [missing] at there
    cases there
  rw [checkPayment, if_neg h.amount, if_neg reference, if_neg reason, if_neg (not_not.mpr h.token),
    if_neg (not_not.mpr h.nextAttempt)]

/-- The transitions of one payment, with what each records. -/
inductive Transits : PaymentStatus → PaymentStatus → Option String → Option String → Prop where
  | succeeded (reference : String) : Transits .processing .succeeded (some reference) none
  | failed (reason : String) : Transits .processing .failed none (some reason)
  | chargedTooLate (reference : String) : Transits .processing .refundPending (some reference) none
  | refunded : Transits .refundPending .refunded none none
  | refundFailed (reason : String) : Transits .refundPending .refundFailed none (some reason)

theorem RefundRecord.transits (record : RefundRecord) :
    Transits .refundPending record.status none record.reason := by
  cases record with
  | refunded => exact .refunded
  | refundFailed reason => exact .refundFailed reason

theorem Payment.Sound.moved {p : Payment} (h : p.Sound) {before after : PaymentStatus}
    {reference reason : Option String} (status : p.status = before)
    (transits : Transits before after reference reason) :
    (p.moved after now reference reason).Sound := by
  have amount : (p.moved after now reference reason).amount.amount ≠ 0 := h.amount
  cases transits with
  | succeeded text | chargedTooLate text | failed text =>
      exact ⟨amount, by simp [Payment.moved], by simp [Payment.moved], by simp [Payment.moved],
        by simp [Payment.moved]⟩
  | refunded | refundFailed text =>
      have there := h.reference (.inr (.inl status))
      exact ⟨amount, by simp [Payment.moved], by simp [Payment.moved],
        by simpa [Payment.moved] using there, by simp [Payment.moved]⟩

theorem Payment.Sound.refundStarted {p : Payment} (h : p.Sound) (paid : p.status = .succeeded) :
    (p.refundStarted now).Sound := by
  have token := h.token
  have there := h.reference (.inl paid)
  rw [paid] at token
  exact ⟨h.amount, by simpa [Payment.refundStarted] using token, by simp [Payment.refundStarted],
    by simpa [Payment.refundStarted] using there, by simp [Payment.refundStarted]⟩

/-- A payment that waits is put off, by a claim or by its holder. -/
theorem Payment.Sound.postponed {p : Payment} (h : p.Sound)
    (waits : p.status = .processing ∨ p.status = .refundPending) (at' : Instant) (attempts : Nat) :
    ({ p with nextAttemptAt := some at', attempts } : Payment).Sound :=
  ⟨h.amount, h.token, by simpa using waits, h.reference, h.reason⟩

theorem PaymentChange.sound {id : Uuid} {o : Option Payment} {p' : Payment}
    (h : PaymentChange T n i id x now r o (some p')) (informed : x.Informed (T.state n))
    (before : ∀ p, o = some p → p.Sound) : p'.Sound := by
  cases h with
  | same => exact before p' rfl
  | started on =>
      rw [on.payment]
      exact ⟨on.positive, by simp [NewPayment.toPayment], by simp [NewPayment.toPayment],
        by simp [NewPayment.toPayment], by simp [NewPayment.toPayment]⟩
  | declined _ status => exact (before _ rfl).moved status (.failed _)
  | chargedTooLate _ status => exact (before _ rfl).moved status (.chargedTooLate _)
  | confirmed _ status _ => exact (before _ rfl).moved status (.succeeded _)
  | cancelled _ paid => exact (before _ rfl).refundStarted paid
  | claimed due => exact (before _ rfl).postponed (isPaymentDue_status due) _ _
  | refundRecorded _ status => exact (before _ rfl).moved status (RefundRecord.transits _)
  | rescheduled status =>
      have waits : _ ∨ _ := informed
      rw [← status] at waits
      exact (before _ rfl).postponed waits _ _

/-! ### Statuses -/

/-- The lifecycle of a payment. -/
inductive PaymentEdge : PaymentStatus → PaymentStatus → Prop where
  | succeeded : PaymentEdge .processing .succeeded
  | failed : PaymentEdge .processing .failed
  | chargedTooLate : PaymentEdge .processing .refundPending
  | cancelled : PaymentEdge .succeeded .refundPending
  | refunded : PaymentEdge .refundPending .refunded
  | refundFailed : PaymentEdge .refundPending .refundFailed

/-- A payment keeps its status, or takes an edge and starts its attempts from 0. -/
theorem PaymentChange.edge {id : Uuid} {p p' : Payment}
    (h : PaymentChange T n i id x now r (some p) (some p')) :
    p'.status = p.status ∨ (PaymentEdge p.status p'.status ∧ p'.attempts = 0) := by
  cases h with
  | same => exact .inl rfl
  | declined _ status => exact .inr ⟨status ▸ .failed, rfl⟩
  | chargedTooLate _ status => exact .inr ⟨status ▸ .chargedTooLate, rfl⟩
  | confirmed _ status _ => exact .inr ⟨status ▸ .succeeded, rfl⟩
  | cancelled _ status => exact .inr ⟨status ▸ .cancelled, rfl⟩
  | claimed => exact .inl rfl
  | @refundRecorded _ record _ _ _ _ _ status =>
      cases record with
      | refunded => exact .inr ⟨status ▸ .refunded, rfl⟩
      | refundFailed => exact .inr ⟨status ▸ .refundFailed, rfl⟩
  | rescheduled => exact .inl rfl

/-- A payment that is created is in progress, and has not been attempted. -/
theorem PaymentChange.created {id : Uuid} {p' : Payment}
    (h : PaymentChange T n i id x now r none (some p')) :
    p'.status = .processing ∧ p'.attempts = 0 := by
  cases h with
  | started on =>
      rw [on.payment]
      exact ⟨rfl, rfl⟩

/-- No edge leaves these. -/
def PaymentStatus.Final (s : PaymentStatus) : Prop :=
  s = .failed ∨ s = .refunded ∨ s = .refundFailed

theorem PaymentEdge.not_final {s s' : PaymentStatus} (h : PaymentEdge s s') : ¬ s.Final := by
  cases h <;> rintro (final | final | final) <;> cases final

/-- A payment in a final state is left as it is. -/
theorem PaymentChange.final {id : Uuid} {p : Payment} {o : Option Payment}
    (h : PaymentChange T n i id x now r (some p) o) (informed : x.Informed (T.state n))
    (final : p.status.Final) : o = some p := by
  have moves : ∀ {s : PaymentStatus}, p.status = s → s = .processing ∨ s = .succeeded ∨
      s = .refundPending → o = some p := by
    intro s is from'
    rw [is] at final
    rcases from' with rfl | rfl | rfl <;> rcases final with end' | end' | end' <;> cases end'
  cases h with
  | same => rfl
  | declined _ status => exact moves status (.inl rfl)
  | chargedTooLate _ status => exact moves status (.inl rfl)
  | confirmed _ status _ => exact moves status (.inl rfl)
  | cancelled _ status => exact moves status (.inr (.inl rfl))
  | claimed due =>
      rcases isPaymentDue_status due with status | status
      · exact moves status (.inl rfl)
      · exact moves status (.inr (.inr rfl))
  | refundRecorded _ status => exact moves status (.inr (.inr rfl))
  | rescheduled status =>
      have waits : _ ∨ _ := informed
      rcases waits with waits | waits
      · exact moves (status.trans waits) (.inl rfl)
      · exact moves (status.trans waits) (.inr (.inr rfl))

/-! ### One commit -/

/-- Phase 1 that started a payment: what it saw, and the lock it took. -/
theorem Effect.startedOn (effect : Effect T n i x now r c') {p : Payment}
    (started : x.started? r = some p) : ∃ bookingId actor request reconcileAfterMs row s₁ s₂ cur,
    StartedOn T n i bookingId actor request p.id reconcileAfterMs now p row s₁ s₂ cur ∧
      p.bookingId = row.id ∧ .processingPayment row.id ∈ exclusiveRows c'.held := by
  cases x with
  | startPayment =>
      cases r with
      | result answer => cases started
      | started q =>
          cases started
          cases effect with
          | nothing idle =>
              obtain ⟨answer, same⟩ := idle
              cases same
          | laidOut on => exact on.elim
          | paid fresh held on =>
              cases on with
              | started on locked _ =>
                  have booking := congrArg Payment.bookingId on.payment
                  obtain rfl := congrArg Payment.id on.payment
                  exact ⟨_, _, _, _, _, _, _, _, on, booking, locked⟩
  | _ => cases started

/-- A settlement that confirms: the booking was HELD and is CONFIRMED, and was locked. -/
theorem Effect.confirms {payment : Payment} {reference : String} {actor : AuditActor}
    {ids : SettleIds} {r : StoredResponse}
    (effect : Effect T n i (.settleCharged payment reference actor ids) now r c') {p' : Payment}
    (after : (c'.log.apply (T.state n)).payments.find? payment.id = some p')
    (succeeded : p'.status = .succeeded) :
    (T.state n).bookingStatus payment.bookingId = some .held ∧
      (c'.log.apply (T.state n)).bookingStatus payment.bookingId = some .confirmed ∧
      .booking payment.bookingId ∈ exclusiveRows c'.held := by
  cases effect with
  | nothing idle => exact idle.elim
  | laidOut on => exact on.elim
  | @chargedTooLate _ _ _ _ _ _ p _ _ _ on _ _ log =>
      have own : p.id = payment.id := Table.key_of_find? on.payment
      have moved : (c'.log.apply (T.state n)).payments.find? payment.id =
          some (p.moved .refundPending now (some reference) none) := by
        rw [Changes.apply_payments, log, ← own]
        exact (Table.find?_put ..).trans (if_pos rfl)
      cases after.symm.trans moved
      cases succeeded
  | @confirmed _ _ _ _ _ _ _ _ booking _ _ _ _ _ _ on _ _ _ locked _ log =>
      have own : key booking = payment.bookingId := Table.key_of_find? on.current
      refine ⟨?_, ?_, locked⟩
      · rw [Db.bookingStatus, on.current]
        exact congrArg some (isConfirmable_held on.confirmable)
      · rw [Db.bookingStatus, Changes.apply_bookings, log, ← own]
        exact congrArg _ ((Table.find?_put ..).trans (if_pos rfl))

/-- A payment in progress was in progress before, or was just started. -/
theorem Effect.processing_origin (effect : Effect T n i x now r c') {p' : Payment}
    (mem : p' ∈ (c'.log.apply (T.state n)).payments) (processing : p'.status = .processing) :
    (∃ p ∈ (T.state n).payments, p.bill = p'.bill ∧ p.status = .processing) ∨
      x.started? r = some p' := by
  have change := effect.payment p'.id
  rw [show (c'.log.apply (T.state n)).payments.find? p'.id = some p' from
    Table.find?_of_mem mem] at change
  generalize before : (T.state n).payments.find? p'.id = o at change
  cases change with
  | same => exact .inl ⟨p', Table.mem_of_find? before, rfl, processing⟩
  | started on => exact .inr rfl
  | declined | chargedTooLate | confirmed | cancelled => cases processing
  | claimed => exact .inl ⟨_, Table.mem_of_find? before, rfl, processing⟩
  | @refundRecorded _ record => cases record <;> cases processing
  | rescheduled => exact .inl ⟨_, Table.mem_of_find? before, rfl, processing⟩

/-- A payment that succeeded was so before, or a settlement just confirmed its booking. -/
theorem Effect.succeeded_origin (effect : Effect T n i x now r c')
    (informed : x.Informed (T.state n)) {p' : Payment}
    (mem : p' ∈ (c'.log.apply (T.state n)).payments) (succeeded : p'.status = .succeeded) :
    p' ∈ (T.state n).payments ∨
      ((T.state n).bookingStatus p'.bookingId = some .held ∧
        (c'.log.apply (T.state n)).bookingStatus p'.bookingId = some .confirmed ∧
        .booking p'.bookingId ∈ exclusiveRows c'.held ∧
        ∃ p ∈ (T.state n).payments, p.bill = p'.bill ∧ p.status = .processing) := by
  have change := effect.payment p'.id
  have after : (c'.log.apply (T.state n)).payments.find? p'.id = some p' := Table.find?_of_mem mem
  rw [after] at change
  generalize before : (T.state n).payments.find? p'.id = o at change
  cases change with
  | same => exact .inl (Table.mem_of_find? before)
  | started on =>
      have status : p'.status = .processing := by rw [on.payment]; rfl
      cases succeeded.symm.trans status
  | declined | chargedTooLate | cancelled => cases succeeded
  | @confirmed payment _ _ _ _ _ p _ _ _ same status on =>
      obtain ⟨p₀, found, bill⟩ : (T.state n).HasBill payment := informed
      rw [same, before] at found
      cases found
      have booking : payment.bookingId = p.bookingId := (Payment.bill_iff.mp bill).2.1.symm
      rw [← same] at after
      have confirms := effect.confirms after succeeded
      rw [booking] at confirms
      exact .inr ⟨confirms.1, confirms.2.1, confirms.2.2, p, Table.mem_of_find? before, rfl, status⟩
  | claimed due =>
      rcases isPaymentDue_status due with status | status <;> cases succeeded.symm.trans status
  | @refundRecorded _ record => cases record <;> cases succeeded
  | rescheduled status =>
      have waits : _ ∨ _ := informed
      rcases waits with waits | waits <;> cases succeeded.symm.trans (status.trans waits)

/-! ### Every version -/

/-- While the entry for a booking's payment in progress is locked, none comes. -/
theorem Unfolds.alone_stays (unfolds : Unfolds T n) {id : Uuid} {a m : Nat} (le : a ≤ m) (le' : m ≤ n)
    (kept : T.Keeps (.processingPayment id) a m)
    (alone : ∀ q ∈ (T.state a).payments, q.bookingId = id → q.status ≠ .processing) :
    ∀ q ∈ (T.state m).payments, q.bookingId = id → q.status ≠ .processing := by
  induction m, le using Nat.le_induction with
  | base => exact alone
  | succ m le ih =>
      intro q mem own processing
      obtain ⟨i, x, now, r, c', committed⟩ := unfolds m (by omega)
      rw [committed.next] at mem
      rcases committed.effect.processing_origin mem processing with ⟨p, memP, bill, before⟩ | started
      · obtain ⟨-, booking, -⟩ := Payment.bill_iff.mp bill
        exact ih (by omega) (kept.mono (by omega)) p memP (booking.trans own) before
      · obtain ⟨_, _, _, _, row, _, _, _, -, booking, locked⟩ := committed.effect.startedOn started
        refine kept m le (Nat.lt_succ_self m) ?_
        rw [committed.locked, ← own, booking]
        exact locked

/-- While a booking is locked, its payments that succeeded stay as they are. -/
theorem Informed.paid_stays (informed : Informed T n) {id : Uuid} {a m : Nat} (le : a ≤ m)
    (le' : m ≤ n) (kept : T.Keeps (.booking id) a m) {q : Payment} (own : q.bookingId = id)
    (succeeded : q.status = .succeeded) (mem : q ∈ (T.state m).payments) :
    q ∈ (T.state a).payments := by
  induction m, le using Nat.le_induction with
  | base => exact mem
  | succ m le ih =>
      obtain ⟨i, x, now, r, c', committed, knew⟩ := informed m (by omega)
      rw [committed.next] at mem
      rcases committed.effect.succeeded_origin knew mem succeeded with before | ⟨-, -, locked, -⟩
      · exact ih (by omega) (kept.mono (by omega)) before
      · refine (kept m le (Nat.lt_succ_self m) ?_).elim
        rw [committed.locked, ← own]
        exact locked

/-- What holds of the payments of a version. -/
structure PaymentsValid (db : Db) : Prop where
  sound : ∀ p ∈ db.payments, p.Sound
  processing : ∀ p ∈ db.payments, ∀ q ∈ db.payments, p.bookingId = q.bookingId →
    p.status = .processing → q.status = .processing → p = q
  confirmed : ∀ p ∈ db.payments, p.status = .succeeded →
    db.bookingStatus p.bookingId = some .confirmed
  succeeded : ∀ p ∈ db.payments, ∀ q ∈ db.payments, p.bookingId = q.bookingId →
    p.status = .succeeded → q.status = .succeeded → p = q

/-- A cancel that cancels moves the payment that succeeded for the booking. -/
theorem Effect.cancel_moves {id : Uuid} {scope : BookingAccessScope} {actor : Uuid} {ids : CancelIds}
    {requestId : Option Uuid} {now' : Instant} {r : Except NotCancelled CancelledBooking}
    (effect : Effect T n i (.cancelBooking id scope actor ids requestId now') now r c')
    (informed : Informed T n)
    (ends : (c'.log.apply (T.state n)).bookingStatus id ≠ (T.state n).bookingStatus id)
    {q : Payment} (own : q.bookingId = id) (succeeded : q.status = .succeeded)
    (mem : q ∈ (T.state n).payments) : q ∉ (c'.log.apply (T.state n)).payments := by
  intro stays
  cases effect with
  | nothing idle log =>
      refine ends ?_
      rw [log]
      rfl
  | laidOut on => exact on.elim
  | @cancelled _ _ _ _ _ _ _ _ _ _ _ _ _ cur snap' cur' paid _ _ _ on _ _ _ le le' le'' isPaid current
      log =>
      have there : ∀ m, cur ≤ m → m ≤ n → q ∈ (T.state m).payments := by
        intro m from' to'
        exact informed.paid_stays to' (Nat.le_refl n) (fun j h => on.kept j (Nat.le_trans from' h)) own
          succeeded mem
      have pays : q ∈ paid := by
        rw [isPaid]
        exact Table.mem_recheck.mpr ⟨there cur' (by omega) le'', isPaidFor_iff.mpr ⟨own, succeeded⟩,
          q, there snap' le (by omega), rfl, isPaidFor_iff.mpr ⟨own, succeeded⟩⟩
      have distinct : (paid.map key).Nodup := isPaid ▸ Table.nodup_recheck ..
      have moved : (c'.log.apply (T.state n)).payments.find? (key (q.refundStarted now')) =
          some (q.refundStarted now') := by
        rw [Changes.apply_payments, log]
        refine Table.find?_putAll_of_mem ?_ (List.mem_map_of_mem pays)
        rw [List.map_map]
        exact distinct
      have here : (c'.log.apply (T.state n)).payments.find? (key q) = some q :=
        Table.find?_of_mem stays
      have same : q = q.refundStarted now' := Option.some.inj (here.symm.trans moved)
      rw [same] at succeeded
      cases succeeded

theorem PaymentsValid.step (valid : PaymentsValid (T.state n)) (unfolds : Informed T n)
    (h : Committed T n i x now r c') (informed : x.Informed (T.state n)) :
    PaymentsValid (T.state (n + 1)) := by
  have effect := h.effect
  have stays : ∀ p ∈ (T.state n).payments, p ∈ (c'.log.apply (T.state n)).payments →
      p.status = .succeeded →
      (c'.log.apply (T.state n)).bookingStatus p.bookingId = some .confirmed := by
    intro p mem after succeeded
    have confirmed := valid.confirmed p mem succeeded
    by_contra changed
    have booking := effect.booking p.bookingId
    rw [Db.bookingStatus] at confirmed changed
    generalize before : (T.state n).bookings.find? p.bookingId = o at confirmed booking
    generalize now' : (c'.log.apply (T.state n)).bookings.find? p.bookingId = o' at changed booking
    cases booking with
    | same => exact changed confirmed
    | created => cases confirmed
    | cancelled =>
        refine effect.cancel_moves unfolds ?_ rfl succeeded mem after
        rw [Db.bookingStatus, Db.bookingStatus, before, now', confirmed]
        intro same
        cases same
    | expired on due =>
        have held := isDue_held (on.isDue _ due)
        cases (Option.some.inj confirmed).symm.trans held
    | confirmed => exact changed rfl
  rw [h.next]
  refine ⟨?_, ?_, ?_, ?_⟩
  · intro p' mem
    have change := effect.payment p'.id
    rw [show (c'.log.apply (T.state n)).payments.find? p'.id = some p' from
      Table.find?_of_mem mem] at change
    exact change.sound informed fun p found => valid.sound p (Table.mem_of_find? found)
  · -- Whoever is started finds nobody in progress.
    have apart : ∀ p' q' : Payment, x.started? r = some p' → (∃ q ∈ (T.state n).payments,
        q.bill = q'.bill ∧ q.status = .processing) → p'.bookingId ≠ q'.bookingId := by
      rintro p' q' started ⟨q, memQ, bill, processing⟩ same
      obtain ⟨_, _, _, _, row, s₁, s₂, cur, on, booking, -⟩ := effect.startedOn started
      have alone := unfolds.unfolds.alone_stays on.cur_le (Nat.le_refl n) on.kept on.alone
      have own : q.bookingId = q'.bookingId := (Payment.bill_iff.mp bill).2.1
      exact alone q memQ (own.trans (same.symm.trans booking)) processing
    intro p' memP q' memQ same processingP processingQ
    rcases effect.processing_origin memP processingP with before | started <;>
      rcases effect.processing_origin memQ processingQ with before' | started'
    · obtain ⟨p, mem, bill, processing⟩ := before
      obtain ⟨q, mem', bill', processing'⟩ := before'
      obtain ⟨id, booking, -⟩ := Payment.bill_iff.mp bill
      obtain ⟨id', booking', -⟩ := Payment.bill_iff.mp bill'
      have one := valid.processing p mem q mem' (booking.trans (same.trans booking'.symm)) processing
        processing'
      exact Table.eq_of_key memP memQ (id.symm.trans ((congrArg Payment.id one).trans id'))
    · exact absurd same.symm (apart q' p' started' before)
    · exact absurd same (apart p' q' started before')
    · exact Option.some.inj (started.symm.trans started')
  · intro p' mem succeeded
    rcases effect.succeeded_origin informed mem succeeded with before | ⟨-, confirmed, -⟩
    · exact stays p' before mem succeeded
    · exact confirmed
  · intro p' memP q' memQ same succeededP succeededQ
    have one : ∀ p' q' : Payment, p'.bookingId = q'.bookingId →
        (T.state n).bookingStatus p'.bookingId = some .held → q' ∈ (T.state n).payments →
        q'.status = .succeeded → False := by
      intro p' q' same held before succeeded
      have confirmed := valid.confirmed q' before succeeded
      rw [← same, held] at confirmed
      cases confirmed
    rcases effect.succeeded_origin informed memP succeededP with before |
        ⟨held, -, -, p, mem, bill, processing⟩ <;>
      rcases effect.succeeded_origin informed memQ succeededQ with before' |
        ⟨held', -, -, q, mem', bill', processing'⟩
    · exact valid.succeeded p' before q' before' same succeededP succeededQ
    · exact (one q' p' same.symm held' before succeededP).elim
    · exact (one p' q' same held before' succeededQ).elim
    · obtain ⟨id, booking, -⟩ := Payment.bill_iff.mp bill
      obtain ⟨id', booking', -⟩ := Payment.bill_iff.mp bill'
      have one := valid.processing p mem q mem' (booking.trans (same.trans booking'.symm)) processing
        processing'
      exact Table.eq_of_key memP memQ (id.symm.trans ((congrArg Payment.id one).trans id'))

theorem paymentsValid_of_empty {db : Db} (payments : db.payments = ∅) : PaymentsValid db := by
  constructor
  · exact fun p mem => by simp [payments] at mem
  · exact fun p mem => by simp [payments] at mem
  · exact fun p mem => by simp [payments] at mem
  · exact fun p mem => by simp [payments] at mem

theorem Informed.paymentsValid (informed : Informed T n) (first : PaymentsValid (T.state 0)) :
    ∀ m ≤ n, PaymentsValid (T.state m) := by
  intro m le
  induction m with
  | zero => exact first
  | succ m ih =>
      obtain ⟨i, x, now, r, c', committed, knew⟩ := informed m le
      exact (ih (by omega)).step (informed.mono (by omega)) committed knew

end FlightBooking
