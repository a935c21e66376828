import FlightBooking.Bookings.Sweep
import FlightBooking.Bookings.CancelAnswers
import FlightBooking.Bookings.References
import FlightBooking.Payments.StartAlone

/-!
What a caller can tell about whether the expiry job has run.

Every operation that looks at a hold decides by the deadline and the clock: a due hold
that is still stored HELD and one that was swept get the same answers and the same
changes. What the sweep does change is the inventory, and one call about another
booking sees it: a change to a seat that the sweep released.
-/

namespace FlightBooking

open Relational ReadCommitted

variable {a b : Db} {t₀ t : Instant} {ids : Nat → ExpiryIds} {due : List Uuid} {id : Uuid}
  {scope : BookingAccessScope}

/-! ### Reads -/

theorem isDue_lapsed {row : BookingRow} (isDue : isDue t₀ row = true) :
    row.status = .held ∧ ∃ deadline, row.holdExpiresAt = some deadline ∧ deadline ≤ t₀ := by
  simp only [FlightBooking.isDue, holdIsDue, Bool.and_eq_true, decide_eq_true_eq,
    Option.any_eq_true] at isDue
  exact isDue

/-- A due hold reads EXPIRED, swept or not. -/
theorem shown_expire {row : BookingRow} (isDue : isDue t₀ row = true) (le : t₀ ≤ t) :
    row.expire.shown t = row.shown t := by
  obtain ⟨held, deadline, at', past⟩ := isDue_lapsed isDue
  have lapsed : isHoldLapsed deadline t = true := decide_eq_true (le_trans past le)
  simp only [BookingRow.shown, BookingRow.expire, effectiveBookingStatus, held, at', lapsed, if_true]

theorem SweptTo.seenAlike (swept : SweptTo t₀ ids due a b) (le : t₀ ≤ t) :
    SeenAlike scope t a b := by
  constructor
  · intro id
    rcases swept.bookings.find? key_expire id with same | ⟨row, found, ⟨isDue, -⟩, found'⟩
    · rw [visible, visible, same]
    · rw [visible, visible, found, found']
      by_cases admitted : scope.admits row.ownerAccountId = true
      · have admitted' : scope.admits row.expire.ownerAccountId = true := admitted
        simp only [Option.filter_some, admitted, admitted', if_true, Option.map_some,
          shown_expire isDue le]
      · have admitted' : ¬ scope.admits row.expire.ownerAccountId = true := admitted
        simp only [Option.filter_some, admitted, admitted', Bool.false_eq_true, if_false]
  · intro id _ position
    rw [swept.passengers]

/-! ### Statements about a booking that is not due -/

namespace SweptTo

variable (swept : SweptTo t₀ ids due a b)

include swept

theorem visible_same (out : id ∉ due) : visible b scope id = visible a scope id := by
  rw [visible, visible, swept.booking_same out]

theorem lockedSeats_same (out : id ∉ due) : lockedSeats [id] b b = lockedSeats [id] a a := by
  rw [lockedSeats, lockedSeats, Table.recheck_self, Table.recheck_self]
  refine swept.seats.filter fun s released => ⟨?_, rfl⟩
  obtain ⟨other, mem, own⟩ := seatsOf_iff.mp released
  rw [Bool.eq_false_iff]
  intro ours
  obtain ⟨id', mem', own'⟩ := seatsOf_iff.mp ours
  cases own.symm.trans own'
  exact out (List.mem_singleton.mp mem' ▸ mem)

theorem seatLocks_same (out : id ∉ due) : seatLocks [id] b = seatLocks [id] a := by
  have same := swept.lockedSeats_same out
  rw [lockedSeats, lockedSeats, Table.recheck_self, Table.recheck_self] at same
  rw [seatLocks, seatLocks, same]

theorem cancelTarget_same (out : id ∉ due) :
    cancelTarget id scope t b b = cancelTarget id scope t a a := by
  rw [cancelTarget, cancelTarget, swept.booking_same out, swept.flights]

theorem cancelBookingRow_same (out : id ∉ due) :
    cancelBookingRow id scope t [] a a = cancelBookingRow id scope t [] b b := by
  unfold cancelBookingRow
  rw [swept.cancelTarget_same out, swept.booking_same out, swept.lockedSeats_same out,
    swept.seatLocks_same out]

theorem confirmHoldRow_same (out : id ∉ due) :
    confirmHoldRow id scope t [] a a = confirmHoldRow id scope t [] b b := by
  unfold confirmHoldRow
  rw [swept.booking_same out, swept.lockedSeats_same out, swept.seatLocks_same out]

end SweptTo

/-! ### Transactions about a booking that is not due -/

theorem orThrow_oblivious {α : Type} {R : Db → Db → Prop} (v : Except Failure α) :
    Oblivious (S := postgres) R (orThrow v) := by
  cases v <;> trivial

theorem findById_oblivious (out : id ∉ due) :
    Oblivious (SweptTo t₀ ids due) (findById id scope) := by
  refine oblivious_bind (oblivious_query fun a b swept => ?_) fun found => ?_
  · rw [findBooking, findBooking, swept.booking_same out]
  · cases found with
    | none => trivial
    | some row =>
        refine oblivious_bind (oblivious_query fun a b swept => ?_) fun passengers => ?_
        · rw [findPassengers, findPassengers, swept.passengers]
        · exact oblivious_bind (orThrow_oblivious _) fun _ => trivial

theorem recordAudit_oblivious {input : AuditRecordInput} (free : AuditFree ids input.id) :
    Oblivious (SweptTo t₀ ids due) (query (recordAudit input)) :=
  oblivious_query fun a b swept => by rw [recordAudit, recordAudit, swept.audit _ free]

theorem enqueue_oblivious {entry : OutboxEntry} (free : EventFree ids entry.id) :
    Oblivious (SweptTo t₀ ids due) (query (enqueue entry)) :=
  oblivious_query fun a b swept => by rw [enqueue, enqueue, swept.outbox _ free]

theorem cancelInTransaction_oblivious (out : id ∉ due) :
    Oblivious (SweptTo t₀ ids due) (cancelInTransaction id scope t) := by
  refine oblivious_bind (oblivious_query fun a b swept => ?_) fun _ =>
    oblivious_bind (oblivious_query fun a b swept => swept.cancelBookingRow_same out) fun found => ?_
  · rw [lockCancellable, lockCancellable, swept.cancelTarget_same out]
  · cases found with
    | some cancelled => trivial
    | none =>
        refine oblivious_bind (oblivious_query fun a b swept => ?_) fun read => ?_
        · rw [readForCancel, readForCancel, swept.booking_same out, swept.flights]
        · cases read with
          | none => trivial
          | some row => exact oblivious_bind (orThrow_oblivious _) fun _ => trivial

theorem cancelBooking_oblivious (out : id ∉ due) {actor : Uuid} {own : CancelIds}
    {requestId : Option Uuid} (audit : AuditFree ids own.auditId)
    (refund : AuditFree ids own.refundAuditId) (event : EventFree ids own.eventId) :
    Oblivious (SweptTo t₀ ids due)
      (cancelBookingTransaction id scope actor own requestId t) := by
  refine oblivious_bind (cancelInTransaction_oblivious out) fun cancelled => ?_
  cases cancelled with
  | error reason => trivial
  | ok row =>
      refine oblivious_bind (oblivious_query fun a b swept => ?_) fun payment =>
        oblivious_bind (recordAudit_oblivious audit) fun _ =>
        oblivious_bind ?_ fun _ =>
        oblivious_bind (enqueue_oblivious event) fun _ =>
        oblivious_bind (findById_oblivious out) fun found => ?_
      · rw [markRefundPendingForCancelledBooking, markRefundPendingForCancelledBooking,
          swept.payments]
      · cases payment with
        | none => trivial
        | some payment => exact recordAudit_oblivious refund
      · cases found <;> trivial

/-! ### Payments -/

theorem movePayment_oblivious {paymentId : Uuid} {before after : PaymentStatus}
    {providerReference failureReason : Option String} :
    Oblivious (SweptTo t₀ ids due)
      (transition paymentId before after t providerReference failureReason) := by
  refine oblivious_bind (oblivious_query fun a b swept => ?_) fun moved => ?_
  · unfold movePayment
    rw [swept.payments]
  · cases moved <;> trivial

theorem answerPayment_oblivious {payment : Payment} {decision : PaymentDecision} :
    Oblivious (SweptTo t₀ ids due) (answerPayment payment decision t) := by
  refine oblivious_bind (oblivious_bind (oblivious_query fun a b swept => ?_) fun updated => ?_)
    fun _ => trivial
  · unfold completeKeyOfPayment
    rw [swept.keys]
  · by_cases one : updated ≠ 1
    · rw [if_pos one]
      trivial
    · rw [if_neg one]
      trivial

theorem chargedTooLate_oblivious {payment : Payment} {reference : String} {actor : AuditActor}
    {own : SettleIds} (audit : AuditFree ids own.auditId) :
    Oblivious (SweptTo t₀ ids due) (chargedTooLate payment reference actor own t) :=
  oblivious_bind movePayment_oblivious fun _ =>
    oblivious_bind (recordAudit_oblivious audit) fun _ => answerPayment_oblivious

theorem confirmHold_oblivious (out : id ∉ due) :
    Oblivious (SweptTo t₀ ids due) (confirmHold id scope t) := by
  refine oblivious_bind (oblivious_query fun a b swept => swept.confirmHoldRow_same out)
    fun confirmed => ?_
  cases confirmed with
  | false => trivial
  | true =>
      refine oblivious_bind (findById_oblivious out) fun found => ?_
      cases found <;> trivial

theorem charged_oblivious {payment : Payment} (out : payment.bookingId ∉ due) {reference : String}
    {actor : AuditActor} {own : SettleIds} (audit : AuditFree ids own.auditId)
    (event : EventFree ids own.eventId) :
    Oblivious (SweptTo t₀ ids due) (charged payment reference actor own t) := by
  refine oblivious_bind (confirmHold_oblivious out) fun confirmed => ?_
  cases confirmed with
  | none => exact chargedTooLate_oblivious audit
  | some booking =>
      exact oblivious_bind movePayment_oblivious fun _ =>
        oblivious_bind (recordAudit_oblivious audit) fun _ =>
        oblivious_bind (orThrow_oblivious _) fun _ =>
        oblivious_bind (enqueue_oblivious event) fun _ => answerPayment_oblivious

theorem updateKey_oblivious {account : Uuid} {keyText : String}
    {assign : IdempotencyKey → IdempotencyKey} :
    Oblivious (SweptTo t₀ ids due) (updateKeyOrThrow account keyText assign) := by
  refine oblivious_bind (oblivious_query fun a b swept => ?_) fun updated => ?_
  · unfold updateKey
    rw [swept.keys]
  · cases updated <;> trivial

theorem answerKey_oblivious {account : Uuid} {keyText : String} {decision : PaymentDecision} :
    Oblivious (SweptTo t₀ ids due) (answerKey account keyText decision t) :=
  oblivious_bind updateKey_oblivious fun _ => trivial

theorem release_oblivious {account : Uuid} {keyText : String} :
    Oblivious (SweptTo t₀ ids due) (query (release account keyText)) :=
  oblivious_query fun a b swept => by
    unfold release
    rw [swept.keys]

/-- Phase 1 from the booking on. -/
theorem startClaimed_oblivious {bookingId : Option Uuid} (out : ∀ id ∈ bookingId, id ∉ due)
    {account : Uuid} {request : PaymentRequest} {paymentId : Uuid} {reconcileAfterMs : Int} :
    Oblivious (SweptTo t₀ ids due)
      (startClaimed bookingId scope account request paymentId reconcileAfterMs t) := by
  refine oblivious_bind ?_ fun found => ?_
  · cases bookingId with
    | none => trivial
    | some id => exact findById_oblivious (out id rfl)
  · cases found with
    | none => exact answerKey_oblivious
    | some booking =>
        dsimp only
        split
        · exact answerKey_oblivious
        · split
          · exact oblivious_bind release_oblivious fun _ => trivial
          · refine oblivious_bind (oblivious_query fun a b swept => ?_) fun started => ?_
            · unfold insertPayment
              rw [swept.payments]
            · cases started with
              | true => exact oblivious_bind updateKey_oblivious fun _ => trivial
              | false => exact oblivious_bind release_oblivious fun _ => trivial

/-! ### A due hold -/

/-- The booking, if there is one, reads EXPIRED at `t`. -/
def Lapsed (t : Instant) (db : Db) (id : Uuid) : Prop :=
  ∀ row, db.bookings.find? id = some row →
    effectiveBookingStatus row.status row.holdExpiresAt t = .expired

theorem lapsed_cases {row : BookingRow}
    (lapsed : effectiveBookingStatus row.status row.holdExpiresAt t = .expired) :
    row.status = .expired ∨
      row.status = .held ∧ ∃ deadline, row.holdExpiresAt = some deadline ∧ deadline ≤ t := by
  unfold effectiveBookingStatus at lapsed
  split at lapsed
  · rename_i deadline held at'
    split at lapsed
    · rename_i past
      exact .inr ⟨held, deadline, at', of_decide_eq_true past⟩
    · cases lapsed
  · exact .inl lapsed

theorem not_valid_of_past {deadline : Instant} (past : deadline ≤ t) :
    holdIsValid (some deadline) t = false := by
  simpa [holdIsValid] using past

/-- A due hold is in the list, and reads EXPIRED in both versions. -/
theorem SweptTo.lapsed (swept : SweptTo t₀ ids (dueIds t₀ a) a b) (mem : id ∈ dueIds t₀ a)
    (le : t₀ ≤ t) : Lapsed t a id ∧ Lapsed t b id := by
  obtain ⟨row, found, isDue⟩ := mem_dueIds.mp mem
  have expired := congrArg BookingRow.status (shown_expire isDue le)
  have lapsed : effectiveBookingStatus row.status row.holdExpiresAt t = .expired := expired.symm
  constructor
  · intro row' found'
    cases found.symm.trans found'
    exact lapsed
  · intro row' found'
    rcases swept.bookings.find? key_expire id with same | ⟨row₀, found₀, -, found₀'⟩
    · cases (found.symm.trans same.symm).trans found'
      exact lapsed
    · cases found₀'.symm.trans found'
      rfl

theorem isCancellable_lapsed {row : BookingRow} {flight : FlightRow}
    (lapsed : effectiveBookingStatus row.status row.holdExpiresAt t = .expired) :
    isCancellable row flight scope t = false := by
  rcases lapsed_cases lapsed with expired | ⟨held, deadline, at', past⟩
  · simp [isCancellable, expired]
  · simp [isCancellable, held, at', not_valid_of_past past]

theorem isConfirmable_lapsed {row : BookingRow}
    (lapsed : effectiveBookingStatus row.status row.holdExpiresAt t = .expired) :
    isConfirmable scope t row = false := by
  rcases lapsed_cases lapsed with expired | ⟨held, deadline, at', past⟩
  · simp [isConfirmable, expired]
  · simp [isConfirmable, at', not_valid_of_past past]

theorem execute_cancelBooking_lapsed {db : Db} (lapsed : Lapsed t db id) {actor : Uuid}
    {own : CancelIds} {requestId : Option Uuid} :
    execute (S := postgres) [] db (cancelBookingTransaction id scope actor own requestId t) {} =
      .ok (.error (if (foundForCancel id scope db).isSome then .expired else .notFound), {}) := by
  have target : cancelTarget id scope t db db = none := by
    rw [cancelTarget, Option.bind_eq_none_iff]
    intro row found
    rw [Option.bind_eq_none_iff]
    intro flight _
    rw [isCancellable_lapsed (lapsed row found)]
    rfl
  have lock : lockCancellable id scope t [] db db = .ok { reply := () } := by
    rw [lockCancellable, target]
  have cancel : cancelBookingRow id scope t [] db db = .ok { reply := none } := by
    rw [cancelBookingRow, target]
  have read : readForCancel id scope [] db db = .ok { reply := foundForCancel id scope db } := rfl
  rw [cancelBookingTransaction, execute_bind, cancelInTransaction, execute_read_bind lock,
    execute_read_bind cancel]
  dsimp only
  rw [execute_read_bind read]
  cases seen : foundForCancel id scope db with
  | none => rfl
  | some pair =>
      obtain ⟨row, flight⟩ := pair
      have expired := lapsed row (foundForCancel_eq_some.mp seen).1
      have reason : classifyNotCancelled row.status row.holdExpiresAt flight.departureAt t =
          .ok .expired := by
        rw [classifyNotCancelled, expired]
        rfl
      dsimp only
      rw [reason]
      rfl

theorem lockBookingAndFlight_alone {db : Db} : lockBookingAndFlight id scope [] db db = .ok
    { reply := foundForCancel id scope db
      locks := (foundForCancel id scope db).elim [] fun found =>
        [(.booking id, .update), (.flight found.2.id, .share)] } := by
  unfold lockBookingAndFlight
  cases seen : foundForCancel id scope db <;>
    unfold foundForCancel at seen <;> simp only [seen] <;> rfl

/-- What a change of seat finds before it looks at seats. -/
theorem execute_changeSeat_lapsed {db : Db} (lapsed : Lapsed t db id) {position : Nat}
    {seat : SeatPosition} {actor auditId : Uuid} {requestId : Option Uuid} :
    execute (S := postgres) [] db
      (changeSeatTransaction id position seat scope actor auditId requestId t) {} =
      .ok (.error (match foundForCancel id scope db, db.passengers.find? (id, position) with
        | none, _ => .notFound
        | some _, none => .passengerNotFound
        | some _, some _ => .notChangeable), {}) := by
  have lock := @lockBookingAndFlight_alone id scope db
  have read : findPassenger id position [] db db = .ok
      { reply := db.passengers.find? (id, position) } := rfl
  rw [changeSeatTransaction, execute_bind, changeSeatInTransaction, execute_read_bind lock]
  cases seen : foundForCancel id scope db with
  | none => rfl
  | some pair =>
      obtain ⟨row, flight⟩ := pair
      dsimp only
      rw [execute_read_bind read]
      cases db.passengers.find? (id, position) with
      | none => rfl
      | some passenger =>
          have changed : row.status ≠ .confirmed := by
            rcases lapsed_cases (lapsed row (foundForCancel_eq_some.mp seen).1) with
              expired | ⟨held, -⟩
            · simp [expired]
            · simp [held]
          dsimp only
          rw [if_pos changed]
          rfl

theorem confirmHoldRow_lapsed {db : Db} (lapsed : Lapsed t db id) :
    confirmHoldRow id scope t [] db db = .ok { reply := false } := by
  unfold confirmHoldRow
  cases found : db.bookings.find? id with
  | none => rfl
  | some row =>
      rw [Option.filter_some, isConfirmable_lapsed (lapsed row found)]
      rfl

theorem execute_charged_lapsed {db : Db} {payment : Payment} (lapsed : Lapsed t db payment.bookingId)
    {reference : String} {actor : AuditActor} {own : SettleIds} :
    execute (S := postgres) [] db (charged payment reference actor own t) {} =
      execute (S := postgres) [] db (chargedTooLate payment reference actor own t) {} := by
  rw [charged, execute_bind, confirmHold, execute_read_bind (confirmHoldRow_lapsed lapsed)]
  rfl

/-- Paying for a booking that the scope does not see. -/
theorem execute_startClaimed_unseen {db : Db} {log : Changes}
    (unseen : visible (log.apply db) scope id = none) {account : Uuid} {request : PaymentRequest}
    {paymentId : Uuid} {reconcileAfterMs : Int} :
    execute (S := postgres) [] db
      (startClaimed (some id) scope account request paymentId reconcileAfterMs t) log =
      execute (S := postgres) [] db (answerKey account request.idempotencyKey .notFound t) log := by
  rw [startClaimed, execute_bind, findRequested, execute_findById, unseen]
  rfl

/-- Paying for a booking that reads EXPIRED: the key is answered, once its total has
been summed. -/
theorem execute_startClaimed_lapsed {db : Db} {log : Changes} {row : BookingRow}
    (seen : visible (log.apply db) scope id = some row)
    (lapsed : effectiveBookingStatus row.status row.holdExpiresAt t = .expired) {account : Uuid}
    {request : PaymentRequest} {paymentId : Uuid} {reconcileAfterMs : Int} :
    execute (S := postgres) [] db
      (startClaimed (some id) scope account request paymentId reconcileAfterMs t) log =
      (bookingTotal ((passengersOf (log.apply db) id).map mapPassenger)).bind fun _ =>
        execute (S := postgres) [] db
          (answerKey account request.idempotencyKey (.notPayable .notHeld) t) log := by
  rw [startClaimed, execute_bind, findRequested, execute_findById, seen]
  dsimp only
  rw [mapBooking]
  cases bookingTotal ((passengersOf (log.apply db) id).map mapPassenger) with
  | error e => rfl
  | ok total =>
      have isPast : ∀ deadline, row.status = .held → row.holdExpiresAt = some deadline →
          deadline ≤ t := fun deadline held at' => by
        rcases lapsed_cases lapsed with expired | ⟨-, deadline', at'', past⟩
        · rw [held] at expired
          cases expired
        · cases at'.symm.trans at''
          exact past
      have margin : (0 : Int) ≤ PAYMENT_START_MARGIN_MS := by decide
      have notStartable : ¬ (decide (row.status = .held) && row.holdExpiresAt.any fun deadline =>
          decide (deadline > t + PAYMENT_START_MARGIN_MS)) = true := fun startable => by
        simp only [Bool.and_eq_true, decide_eq_true_eq, Option.any_eq_true] at startable
        obtain ⟨held, deadline, at', later⟩ := startable
        have past := isPast deadline held at'
        unfold Instant at *
        omega
      have notUnderMargin : ¬ (row.status = .held ∧
          (row.holdExpiresAt.any fun deadline => decide (deadline > t)) = true) := by
        rintro ⟨held, later⟩
        obtain ⟨deadline, at', later⟩ := (Option.any_eq_true _ _).mp later
        have past := isPast deadline held at'
        exact absurd (of_decide_eq_true later) (not_lt.mpr past)
      change execute (S := postgres) [] db (if ¬ ((decide (row.status = .held) &&
        row.holdExpiresAt.any fun deadline => decide (deadline > t + PAYMENT_START_MARGIN_MS)) =
          true) then answerKey account request.idempotencyKey (.notPayable (if row.status = .held ∧
            (row.holdExpiresAt.any fun deadline => decide (deadline > t)) = true then .underMargin
            else .notHeld)) t else _) log = _
      rw [if_pos notStartable, if_neg notUnderMargin]
      rfl

/-! ### A change of seat -/

/-- The two versions agree on two seats, and a sweep is all that is between them. -/
def SweptBeside (t₀ : Instant) (ids : Nat → ExpiryIds) (due : List Uuid)
    (k k' : Uuid × SeatPosition) (a b : Db) : Prop :=
  SweptTo t₀ ids due a b ∧ b.seats.find? k = a.seats.find? k ∧ b.seats.find? k' = a.seats.find? k'

theorem SweptBeside.apply {k k' : Uuid × SeatPosition} (beside : SweptBeside t₀ ids due k k' a b)
    (log : Changes) : SweptBeside t₀ ids due k k' (log.apply a) (log.apply b) :=
  ⟨beside.1.apply log, Table.find?_putAll_congr beside.2.1 _, Table.find?_putAll_congr beside.2.2 _⟩

theorem updateSeat_same {k : Uuid × SeatPosition} {assign : FlightSeat → FlightSeat}
    (swept : SweptTo t₀ ids due a b) (same : b.seats.find? k = a.seats.find? k) :
    updateSeat k.1 k.2 assign [] a a = updateSeat k.1 k.2 assign [] b b := by
  have rows : (b.seats.rows.filter fun s => decide (s.flightId = k.1) && decide (s.position = k.2)) =
      a.seats.rows.filter fun s => decide (s.flightId = k.1) && decide (s.position = k.2) :=
    swept.seats.filter_key (q := fun x => decide (x.1 = k.1) && decide (x.2 = k.2))
      key_releaseSeat fun x sel => by
        simp only [Bool.and_eq_true, decide_eq_true_eq] at sel
        rw [Prod.ext sel.1 sel.2, same]
  rw [updateSeat, updateSeat, Table.recheck_self, Table.recheck_self, rows]

theorem updatePassengerSeat_same {position : Nat} {seat : SeatPosition}
    (swept : SweptTo t₀ ids due a b) :
    updatePassengerSeat id position seat [] a a = updatePassengerSeat id position seat [] b b := by
  unfold updatePassengerSeat
  rw [swept.passengers]

/-- What the checks on the two seats make of them, looked up by their codes. -/
def verdictOn (id : Uuid) (old : SeatPosition) (own? wanted? : Option FlightSeat) :
    Except Failure (Option SeatChangeRefusal) :=
  match own?.filter fun s => s.bookingId = some id && s.status = .booked with
  | none => .error (.seatNotBooked old id)
  | some own =>
      match wanted? with
      | none => .ok (some .unknownSeat)
      | some wanted =>
          if wanted.fareClass ≠ own.fareClass then
            .ok (some (.fareClassMismatch own.fareClass wanted.fareClass))
          else if wanted.status ≠ .available then .ok (some .seatUnavailable)
          else .ok none

/-- The rows `lockSeats` answers. -/
def lockedPair (db : Db) (flightId : Uuid) (current target : SeatPosition) : List FlightSeat :=
  db.seats.rows.filter fun s => s.flightId = flightId && s.position ∈ [current, target]

theorem find?_lockedPair {db : Db} {flightId : Uuid} {current target code : SeatPosition}
    (mem : code ∈ [current, target]) :
    ((lockedPair db flightId current target).find? fun s => s.position = code) =
      db.seats.find? (flightId, code) := by
  rw [lockedPair, List.find?_filter, Table.find?]
  refine congrArg (fun p => db.seats.rows.find? p) (funext fun s => ?_)
  rw [Bool.eq_iff_iff]
  simp only [Bool.and_eq_true, decide_eq_true_eq]
  constructor
  · rintro ⟨⟨flight, -⟩, here⟩
    exact Prod.ext flight here
  · intro here
    have flight : s.flightId = flightId := congrArg Prod.fst here
    have position : s.position = code := congrArg Prod.snd here
    exact ⟨⟨flight, position ▸ mem⟩, position⟩

theorem seatVerdict_lockedPair {db : Db} {flightId : Uuid} {current target : SeatPosition} :
    seatVerdict id current target (lockedPair db flightId current target) =
      verdictOn id current (db.seats.find? (flightId, current)) (db.seats.find? (flightId, target)) := by
  rw [seatVerdict, find?_lockedPair List.mem_cons_self,
    find?_lockedPair (List.mem_cons_of_mem _ List.mem_cons_self)]
  rfl

/-- Whoever holds the seat, the sweep released it. -/
def SeatSwept (t₀ : Instant) (db : Db) (k : Uuid × SeatPosition) : Prop :=
  ∃ s, db.seats.find? k = some s ∧ seatsOf (dueIds t₀ db) s = true

/-- The two seats are as they were; or the verdict is, and is no consent; or the sweep
released the wanted seat, which was unavailable before. -/
theorem verdictOn_swept (swept : SweptTo t₀ ids (dueIds t₀ a) a b) (free : a.FreeSeats)
    (out : id ∉ dueIds t₀ a) {flightId : Uuid} {current target : SeatPosition}
    {before after : Except Failure (Option SeatChangeRefusal)}
    (isBefore : verdictOn id current (a.seats.find? (flightId, current))
      (a.seats.find? (flightId, target)) = before)
    (isAfter : verdictOn id current (b.seats.find? (flightId, current))
      (b.seats.find? (flightId, target)) = after) :
    (b.seats.find? (flightId, current) = a.seats.find? (flightId, current) ∧
      b.seats.find? (flightId, target) = a.seats.find? (flightId, target)) ∨
    (after = before ∧ before ≠ .ok none) ∨
    (SeatSwept t₀ a (flightId, target) ∧ before = .ok (some .seatUnavailable)) := by
  subst isBefore isAfter
  rcases swept.seats.find? key_releaseSeat (flightId, current) with same | ⟨s, found, released, found'⟩
  · rcases swept.seats.find? key_releaseSeat (flightId, target) with same' | ⟨s, found, released, found'⟩
    · exact .inl ⟨same, same'⟩
    · -- The wanted seat was held by a due hold.
      obtain ⟨holder, -, owned⟩ := seatsOf_iff.mp released
      have taken : s.status ≠ .available := fun available => by
        rw [free _ s found available] at owned
        cases owned
      rw [same, found, found']
      unfold verdictOn
      cases own : (a.seats.find? (flightId, current)).filter fun s =>
          s.bookingId = some id && s.status = .booked with
      | none => exact .inr (.inl ⟨rfl, by simp⟩)
      | some mine =>
          dsimp only
          by_cases other : s.fareClass ≠ mine.fareClass
          · rw [if_pos other, if_pos (show (releaseSeat s).fareClass ≠ mine.fareClass from other)]
            exact .inr (.inl ⟨rfl, by simp⟩)
          · rw [if_neg other, if_pos taken]
            exact .inr (.inr ⟨⟨s, found, released⟩, rfl⟩)
  · -- The passenger's own seat was another booking's.
    obtain ⟨holder, mem, owned⟩ := seatsOf_iff.mp released
    have others : ¬ s.bookingId = some id := fun mine => by
      cases owned.symm.trans mine
      exact out mem
    rw [found, found', verdictOn, verdictOn]
    simp [Option.filter_some, others, releaseSeat]

/-- The writes of a change of seat that was allowed. -/
theorem writeSeats_oblivious {flightId : Uuid} {current target : SeatPosition} {position : Nat} :
    Oblivious (SweptBeside t₀ ids due (flightId, current) (flightId, target)) (do
      query (updateSeat flightId current releaseSeat)
      query (updateSeat flightId target (takeSeat id))
      query (updatePassengerSeat id position target)
      pure (ChangeSeatResult.changed current target)) :=
  oblivious_bind (oblivious_query fun _ _ beside => updateSeat_same beside.1 beside.2.1) fun _ =>
    oblivious_bind (oblivious_query fun _ _ beside => updateSeat_same beside.1 beside.2.2) fun _ =>
    oblivious_bind (oblivious_query fun _ _ beside => updatePassengerSeat_same beside.1) fun _ =>
    trivial

theorem execute_moveBetweenSeats {db : Db} {position : Nat} {flightId : Uuid}
    {current target : SeatPosition} :
    execute (S := postgres) [] db (moveBetweenSeats id position flightId current target) {} =
      (verdictOn id current (db.seats.find? (flightId, current))
        (db.seats.find? (flightId, target))).bind fun verdict =>
        match verdict with
        | some reason => .ok (.refused reason, {})
        | none => execute (S := postgres) [] db (do
            query (updateSeat flightId current releaseSeat)
            query (updateSeat flightId target (takeSeat id))
            query (updatePassengerSeat id position target)
            pure (ChangeSeatResult.changed current target)) {} := by
  have lock : lockSeats flightId [current, target] [] db db = .ok
      { reply := lockedPair db flightId current target
        locks := (lockedPair db flightId current target).map fun s => (.seat (key s), .update) } := by
    rw [lockSeats, Table.recheck_self]
    rfl
  rw [moveBetweenSeats, execute_read_bind lock, execute_orThrow_bind, seatVerdict_lockedPair]
  refine congrArg (Except.bind _) (funext fun verdict => ?_)
  cases verdict <;> rfl

theorem moveBetweenSeats_swept (swept : SweptTo t₀ ids (dueIds t₀ a) a b) (free : a.FreeSeats)
    (out : id ∉ dueIds t₀ a) {position : Nat} {flightId : Uuid} {current target : SeatPosition} :
    execute (S := postgres) [] a (moveBetweenSeats id position flightId current target) {} =
      execute (S := postgres) [] b (moveBetweenSeats id position flightId current target) {} ∨
    (SeatSwept t₀ a (flightId, target) ∧
      execute (S := postgres) [] a (moveBetweenSeats id position flightId current target) {} =
        .ok (.refused .seatUnavailable, {})) := by
  rw [execute_moveBetweenSeats, execute_moveBetweenSeats]
  rcases verdictOn_swept swept free out rfl rfl with ⟨own, wanted⟩ | ⟨same, decided⟩ |
    ⟨released, unavailable⟩
  · rw [own, wanted]
    have related : ∀ log : Changes, SweptBeside t₀ ids (dueIds t₀ a) (flightId, current)
        (flightId, target) (log.apply a) (log.apply b) :=
      fun log => SweptBeside.apply ⟨swept, own, wanted⟩ log
    rw [writeSeats_oblivious.execute_eq related]
    exact .inl rfl
  · rw [same]
    cases verdict : verdictOn id current (a.seats.find? (flightId, current))
        (a.seats.find? (flightId, target)) with
    | error e => exact .inl rfl
    | ok reason =>
        cases reason with
        | none => exact absurd verdict decided
        | some reason => exact .inl rfl
  · rw [unavailable]
    exact .inr ⟨released, rfl⟩

/-- The flight and the seat that a change of seat asks for. -/
def wantedSeat (db : Db) (id : Uuid) (target : SeatPosition) : Option (Uuid × SeatPosition) :=
  (db.bookings.find? id).map fun row => (row.flightId, target)

theorem changeSeatInTransaction_swept (swept : SweptTo t₀ ids (dueIds t₀ a) a b)
    (free : a.FreeSeats) (out : id ∉ dueIds t₀ a) {position : Nat} {target : SeatPosition} :
    execute (S := postgres) [] a (changeSeatInTransaction id position target scope t) {} =
      execute (S := postgres) [] b (changeSeatInTransaction id position target scope t) {} ∨
    ((∃ k ∈ wantedSeat a id target, SeatSwept t₀ a k) ∧
      execute (S := postgres) [] a (changeSeatInTransaction id position target scope t) {} =
        .ok (.refused .seatUnavailable, {})) := by
  have sameFound : foundForCancel id scope b = foundForCancel id scope a := by
    rw [foundForCancel, foundForCancel, swept.booking_same out, swept.flights]
  have lock := @lockBookingAndFlight_alone id scope a
  have lock' := @lockBookingAndFlight_alone id scope b
  have read : findPassenger id position [] a a = .ok
      { reply := a.passengers.find? (id, position) } := rfl
  have read' : findPassenger id position [] b b = .ok
      { reply := a.passengers.find? (id, position) } := by
    rw [findPassenger, swept.passengers]
  rw [sameFound] at lock'
  rw [changeSeatInTransaction, execute_read_bind lock, execute_read_bind lock']
  cases seen : foundForCancel id scope a with
  | none => exact .inl rfl
  | some pair =>
      obtain ⟨row, flight⟩ := pair
      dsimp only
      rw [execute_read_bind read, execute_read_bind read']
      cases a.passengers.find? (id, position) with
      | none => exact .inl rfl
      | some passenger =>
          dsimp only
          split
          · exact .inl rfl
          · cases passenger.seat with
            | none => exact .inl rfl
            | some current =>
                dsimp only
                split
                · exact .inl rfl
                · split
                  · exact .inl rfl
                  · refine (moveBetweenSeats_swept swept free out).imp (fun same => same) ?_
                    rintro ⟨released, refused⟩
                    refine ⟨⟨(row.flightId, target), ?_, released⟩, refused⟩
                    rw [wantedSeat, (foundForCancel_eq_some.mp seen).1]
                    rfl

theorem readBack_oblivious (out : id ∉ due) {changed : Bool} :
    Oblivious (SweptTo t₀ ids due) (changeSeatTransaction.readBack id scope changed) := by
  refine oblivious_bind (findById_oblivious out) fun found => ?_
  cases found <;> trivial

theorem changeSeat_swept (swept : SweptTo t₀ ids (dueIds t₀ a) a b) (free : a.FreeSeats)
    (out : id ∉ dueIds t₀ a) {position : Nat} {target : SeatPosition} {actor auditId : Uuid}
    {requestId : Option Uuid} (audit : AuditFree ids auditId) :
    execute (S := postgres) [] a
        (changeSeatTransaction id position target scope actor auditId requestId t) {} =
      execute (S := postgres) [] b
        (changeSeatTransaction id position target scope actor auditId requestId t) {} ∨
    ((∃ k ∈ wantedSeat a id target, SeatSwept t₀ a k) ∧
      execute (S := postgres) [] a
        (changeSeatTransaction id position target scope actor auditId requestId t) {} =
        .ok (.error .seatUnavailable, {})) := by
  rw [changeSeatTransaction, execute_bind, execute_bind]
  rcases @changeSeatInTransaction_swept _ _ _ t _ _ scope swept free out position target with
    same | ⟨released, refused⟩
  · refine .inl ?_
    rw [same]
    refine congrArg (Except.bind _) (funext fun done => ?_)
    refine Oblivious.execute_eq (R := SweptTo t₀ ids (dueIds t₀ a)) ?_ fun log => swept.apply log
    cases done.1 with
    | refused reason => trivial
    | unchanged => exact readBack_oblivious out
    | changed old new =>
        exact oblivious_bind (recordAudit_oblivious audit) fun _ => readBack_oblivious out
  · rw [refused]
    exact .inr ⟨released, rfl⟩

/-! ### The calls -/

/-- The transactions that look at a hold. -/
inductive BookingCall where
  | cancelBooking (bookingId : Uuid) (scope : BookingAccessScope) (actor : Uuid) (own : CancelIds)
      (requestId : Option Uuid)
  | changeSeat (bookingId : Uuid) (position : Nat) (seat : SeatPosition)
      (scope : BookingAccessScope) (actor auditId : Uuid) (requestId : Option Uuid)
  | startPayment (bookingId : Option Uuid) (scope : BookingAccessScope) (actor : Uuid)
      (request : PaymentRequest) (paymentId : Uuid) (reconcileAfterMs : Int)
  | settleCharged (payment : Payment) (providerReference : String) (actor : AuditActor)
      (own : SettleIds)

/-- The call's transaction at instant `t`. -/
def BookingCall.at (t : Instant) : BookingCall → Transaction
  | .cancelBooking bookingId scope actor own requestId =>
      .cancelBooking bookingId scope actor own requestId t
  | .changeSeat bookingId position seat scope actor auditId requestId =>
      .changeSeat bookingId position seat scope actor auditId requestId t
  | .startPayment bookingId scope actor request paymentId reconcileAfterMs =>
      .startPayment bookingId scope actor request paymentId reconcileAfterMs
  | .settleCharged payment providerReference actor own =>
      .settleCharged payment providerReference actor own

/-- The ids the call generates are none of the sweep's. -/
def BookingCall.FreshIds (ids : Nat → ExpiryIds) : BookingCall → Prop
  | .cancelBooking _ _ _ own _ =>
      AuditFree ids own.auditId ∧ AuditFree ids own.refundAuditId ∧ EventFree ids own.eventId
  | .changeSeat _ _ _ _ _ auditId _ => AuditFree ids auditId
  | .startPayment .. => True
  | .settleCharged _ _ _ own => AuditFree ids own.auditId ∧ EventFree ids own.eventId

/-- The call run by itself at `t`: its answer and its changes, or its error. -/
def BookingCall.run (call : BookingCall) (t : Instant) (db : Db) :
    Except Failure ((call.at t).Result × Changes) :=
  execute (S := postgres) [] db ((call.at t).body t) {}

/-- A change to a seat that was a due hold's. -/
def BookingCall.WantsSwept (t₀ : Instant) (db : Db) : BookingCall → Prop
  | .changeSeat bookingId _ seat .. => ∃ k ∈ wantedSeat db bookingId seat, SeatSwept t₀ db k
  | _ => False

/-- The call was told that the seat is unavailable. -/
def BookingCall.FindsUnavailable (t : Instant) :
    (call : BookingCall) → Except Failure ((call.at t).Result × Changes) → Prop
  | .changeSeat .., r => r = .ok (.error .seatUnavailable, {})
  | _, _ => False

/-- The same bookings, payments and keys, but for due holds that `b` has as EXPIRED. -/
structure UpToSweep (t₀ : Instant) (a b : Db) : Prop where
  bookings : ∀ id, b.bookings.find? id = a.bookings.find? id ∨ ∃ row,
    a.bookings.find? id = some row ∧ isDue t₀ row = true ∧
      b.bookings.find? id = some { row with status := .expired }
  payments : b.payments = a.payments
  keys : b.keys = a.keys

theorem SweptTo.upTo (swept : SweptTo t₀ ids due a b) : UpToSweep t₀ a b where
  bookings id := (swept.bookings.find? key_expire id).imp (fun same => same)
    fun ⟨row, found, isSwept, found'⟩ => ⟨row, found, isSwept.1, found'⟩
  payments := swept.payments
  keys := swept.keys

theorem SeenAlike.foundForCancel (alike : SeenAlike scope t a b) (flights : b.flights = a.flights) :
    (FlightBooking.foundForCancel id scope b).isSome =
      (FlightBooking.foundForCancel id scope a).isSome := by
  change ((visible b scope id).bind fun row => (b.flights.find? row.flightId).map _).isSome =
    ((visible a scope id).bind fun row => (a.flights.find? row.flightId).map _).isSome
  rcases alike.cases id with ⟨here, there⟩ | ⟨row, row', here, there, shown, -⟩
  · rw [here, there]
    rfl
  · have flight := congrArg BookingRow.flightId shown
    have same : row.flightId = row'.flightId := flight
    rw [here, there, Option.bind_some, Option.bind_some, Option.isSome_map, Option.isSome_map, same,
      flights]

theorem startPayment_swept (swept : SweptTo t₀ ids (dueIds t₀ a) a b) (le : t₀ ≤ t)
    {bookingId : Option Uuid} {account : Uuid} {request : PaymentRequest} {paymentId : Uuid}
    {reconcileAfterMs : Int} :
    execute (S := postgres) [] a
        (startPayment bookingId scope account request paymentId reconcileAfterMs t) {} =
      execute (S := postgres) [] b
        (startPayment bookingId scope account request paymentId reconcileAfterMs t) {} := by
  cases found : a.keys.find? (account, request.idempotencyKey) with
  | some row =>
      exact (execute_startPayment_repeat found).trans
        (execute_startPayment_repeat (swept.keys ▸ found)).symm
  | none =>
      have free : b.keys.find? (account, request.idempotencyKey) = none := swept.keys ▸ found
      rw [startPayment, execute_bind, execute_bind, execute_claim_free found,
        execute_claim_free free]
      set log : Changes :=
        { keys := [.put (claimedKey account request.idempotencyKey request.fingerprint t)] }
      change execute (S := postgres) [] a
          (startClaimed bookingId scope account request paymentId reconcileAfterMs t) log =
        execute (S := postgres) [] b
          (startClaimed bookingId scope account request paymentId reconcileAfterMs t) log
      by_cases out : ∀ id ∈ bookingId, id ∉ dueIds t₀ a
      · exact (startClaimed_oblivious out).execute_eq fun log => swept.apply log
      · push Not at out
        obtain ⟨id, rfl, mem⟩ := out
        have alike : SeenAlike scope t (log.apply a) (log.apply b) := (swept.apply log).seenAlike le
        obtain ⟨lapsed, lapsed'⟩ := swept.lapsed mem le
        rcases alike.cases id with ⟨here, there⟩ | ⟨row, row', here, there, -, passengers⟩
        · rw [execute_startClaimed_unseen here, execute_startClaimed_unseen there]
          exact answerKey_oblivious.execute_eq fun log => swept.apply log
        · have answer : execute (S := postgres) [] a
              (answerKey account request.idempotencyKey (.notPayable .notHeld) t) log =
              execute (S := postgres) [] b
              (answerKey account request.idempotencyKey (.notPayable .notHeld) t) log :=
            answerKey_oblivious.execute_eq fun log => swept.apply log
          rw [execute_startClaimed_lapsed here (lapsed row (Option.filter_eq_some_iff.mp here).1),
            execute_startClaimed_lapsed there (lapsed' row' (Option.filter_eq_some_iff.mp there).1),
            answer, passengers]

/-- A call's answer and changes are the same before and after the sweep, unless it is a
change to a seat the sweep released. -/
theorem BookingCall.swept (call : BookingCall) (swept : SweptTo t₀ ids (dueIds t₀ a) a b)
    (free : a.FreeSeats) (le : t₀ ≤ t) (fresh : call.FreshIds ids) :
    call.run t a = call.run t b ∨
      (call.WantsSwept t₀ a ∧ call.FindsUnavailable t (call.run t a)) := by
  cases call with
  | cancelBooking id scope actor own requestId =>
      obtain ⟨audit, refund, event⟩ := fresh
      refine .inl ?_
      by_cases mem : id ∈ dueIds t₀ a
      · obtain ⟨lapsed, lapsed'⟩ := swept.lapsed mem le
        have found : (foundForCancel id scope b).isSome = (foundForCancel id scope a).isSome :=
          (swept.seenAlike le).foundForCancel swept.flights
        exact (execute_cancelBooking_lapsed lapsed).trans
          ((execute_cancelBooking_lapsed lapsed').trans (by rw [found])).symm
      · exact (cancelBooking_oblivious mem audit refund event).execute_eq fun log => swept.apply log
  | changeSeat id position seat scope actor auditId requestId =>
      by_cases mem : id ∈ dueIds t₀ a
      · obtain ⟨lapsed, lapsed'⟩ := swept.lapsed mem le
        have found : (foundForCancel id scope b).isSome = (foundForCancel id scope a).isSome :=
          (swept.seenAlike le).foundForCancel swept.flights
        refine .inl ((execute_changeSeat_lapsed lapsed).trans
          ((execute_changeSeat_lapsed lapsed').trans ?_).symm)
        rw [swept.passengers]
        cases here : foundForCancel id scope a <;> cases there : foundForCancel id scope b <;>
          simp only [here, there, Option.isSome_none, Option.isSome_some, Bool.false_eq_true,
            Bool.true_eq_false] at found
        · rfl
        · cases a.passengers.find? (id, position) <;> rfl
      · exact changeSeat_swept swept free mem fresh
  | startPayment bookingId scope actor request paymentId reconcileAfterMs =>
      exact .inl (startPayment_swept swept le)
  | settleCharged payment reference actor own =>
      obtain ⟨audit, event⟩ := fresh
      refine .inl ?_
      by_cases mem : payment.bookingId ∈ dueIds t₀ a
      · obtain ⟨lapsed, lapsed'⟩ := swept.lapsed mem le
        have same : execute (S := postgres) [] a (chargedTooLate payment reference actor own t) {} =
            execute (S := postgres) [] b (chargedTooLate payment reference actor own t) {} :=
          (chargedTooLate_oblivious audit).execute_eq fun log => swept.apply log
        exact ((execute_charged_lapsed lapsed).trans same).trans (execute_charged_lapsed lapsed').symm
      · exact (charged_oblivious mem audit event).execute_eq fun log => swept.apply log

/-- Whether the expiry job has run shows in the inventory alone. In every scope the
bookings read the same; and a call that looks at a hold answers the same and leaves the
same rows, unless it changes a seat for one that the sweep released. -/
theorem sweep_unobservable {α : Type} {airports : Table Airport} {env : Env}
    {threads : Nat → App.Thread app α} {p : Pool app α}
    (h : (Pool.initial { airports } env threads : Pool app α).Reachable p) {t₀ t : Instant}
    (le : t₀ ≤ t) {batchSize maxBatches : Nat} {ids : Nat → ExpiryIds}
    {r : Except Failure UseCaseResult} {after : Db}
    (ran : app.alone t₀ (clockAt t₀) (expireHolds batchSize maxBatches ids) p.world.db =
      some (r, after)) :
    (∀ scope : BookingAccessScope,
      (∀ id, execute (S := postgres) [] p.world.db (getBooking id scope t) {} =
        execute (S := postgres) [] after (getBooking id scope t) {}) ∧
      (∀ reference, execute (S := postgres) [] p.world.db (getBookingByReference reference scope t) {} =
        execute (S := postgres) [] after (getBookingByReference reference scope t) {}) ∧
      ∀ q, execute (S := postgres) [] p.world.db (listBookings scope q t) {} =
        execute (S := postgres) [] after (listBookings scope q t) {}) ∧
    ∀ call : BookingCall, call.FreshIds ids →
      (call.run t p.world.db = call.run t after ∧ ∀ r log, call.run t p.world.db = .ok (r, log) →
        UpToSweep t₀ (log.apply p.world.db) (log.apply after)) ∨
      (call.WantsSwept t₀ p.world.db ∧ call.FindsUnavailable t (call.run t p.world.db)) := by
  have swept := sweptTo_of_alone ran
  have good := (Pool.initial_good _ env threads).reachable h
  have unfolds := unfolds_of_sound good.sound
  have start : p.world.state 0 = { airports } := by
    rw [World.state_zero, h.initial_eq]
    rfl
  have none : ∀ k, (p.world.timeline.state 0).seats.find? k = none := fun k => by
    rw [show p.world.timeline.state 0 = _ from start]
    rfl
  have free : p.world.db.FreeSeats := by
    rw [← p.world.state_length]
    exact unfolds.free_seats (fun k s found => by rw [none k] at found; cases found) _ (Nat.le_refl _)
  constructor
  · intro scope
    have alike : SeenAlike scope t p.world.db after := swept.seenAlike le
    exact ⟨alike.getBooking, alike.getBookingByReference (references_unique h), alike.listBookings⟩
  · intro call fresh
    rcases call.swept swept free le fresh with same | released
    · exact .inl ⟨same, fun r log done => (swept.apply log).upTo⟩
    · exact .inr released

/-- Account 8 books seat 1B and pays for it; booking 5 of account 7 still holds 1A. -/
def reseatThreads : Nat → Invocation
  | 0 => .createBooking (some 1) (.chosen [("TRAN THI BINH", ⟨1, 'B'⟩)] (by decide) (by decide)) 8
      ⟨6, fun _ => "DEF567", 14, 12⟩ none
  | _ => .payForBooking (some 6) (.owner 8) 8 ⟨"key-2", "fingerprint-2", "tok_visa", sampleFare⟩
      ⟨9, ⟨10, 11, none⟩, 40000⟩

def reseatMoves : List (Nat × Move app) :=
  sampleMoves ++ Pool.wholly 4 0 5 ++ Pool.wholly 5 1 5 ++
    [(5, .call (.definite (.succeeded "ch_1")))] ++ Pool.wholly 5 2 7

/-- Account 8 asks for seat 1A instead. -/
def reseat : BookingCall := .changeSeat 6 1 ⟨1, 'A'⟩ (.owner 8) 8 23 none

def reseatIds (_ : Nat) : ExpiryIds := ⟨fun k => 100 + k, fun k => 200 + k⟩

/-- The reason of a refused change, or `none` when it was made. -/
def reseatRefusal (r : Except Failure (Except SeatChangeRefusal SeatSet × Changes)) :
    Option (Option SeatChangeRefusal) :=
  match r with
  | .ok (.error reason, _) => some (some reason)
  | .ok (.ok _, _) => some none
  | .error _ => none

theorem reseatRefusal_some {r : Except Failure (Except SeatChangeRefusal SeatSet × Changes)}
    {reason : SeatChangeRefusal} (h : reseatRefusal r = some (some reason)) :
    ∃ log, r = .ok (.error reason, log) := by
  rcases r with e | ⟨reason' | set, log⟩ <;> cases h
  exact ⟨log, rfl⟩

theorem reseatRefusal_none {r : Except Failure (Except SeatChangeRefusal SeatSet × Changes)}
    (h : reseatRefusal r = some none) : ∃ set log, r = .ok (.ok set, log) := by
  rcases r with e | ⟨reason | set, log⟩ <;> cases h
  exact ⟨set, log, rfl⟩

/-- The sweep at the deadline of booking 5. -/
def reseatSweep (db : Db) : Option (Except Failure UseCaseResult × Db) :=
  app.alone HOLD_DURATION_MS (clockAt HOLD_DURATION_MS) (expireHolds 50 20 reseatIds) db

theorem reseat_runs : ∃ p ran, (sampleStart {} reseatThreads).Reachable p ∧
    reseatSweep p.world.db = some ran ∧
    reseatRefusal (reseat.run HOLD_DURATION_MS p.world.db) = some (some .seatUnavailable) ∧
    reseatRefusal (reseat.run HOLD_DURATION_MS ran.2) = some none := by
  have ends : (Pool.run reseatMoves (sampleStart {} reseatThreads)).map (fun p =>
      (reseatRefusal (reseat.run HOLD_DURATION_MS p.world.db),
        (reseatSweep p.world.db).map fun ran => reseatRefusal (reseat.run HOLD_DURATION_MS ran.2))) =
      some (some (some .seatUnavailable), some (some none)) := by
    decide +kernel
  obtain ⟨p, ran, ends⟩ := Option.map_eq_some_iff.mp ends
  obtain ⟨before, swept⟩ := Prod.ext_iff.mp ends
  obtain ⟨r, sweeps, after⟩ := Option.map_eq_some_iff.mp swept
  exact ⟨p, r, Pool.run_reachable ran, sweeps, before, after⟩

/-- At the deadline of booking 5, account 8's call is refused before the sweep and
accepted after it. -/
theorem sweep_observed : ∃ p r after, (sampleStart {} reseatThreads).Reachable p ∧
    reseatSweep p.world.db = some (r, after) ∧
    (∃ log, reseat.run HOLD_DURATION_MS p.world.db = .ok (.error .seatUnavailable, log)) ∧
    ∃ set log, reseat.run HOLD_DURATION_MS after = .ok (.ok set, log) := by
  obtain ⟨p, ⟨r, after⟩, reachable, sweeps, refused, changed⟩ := reseat_runs
  exact ⟨p, r, after, reachable, sweeps, reseatRefusal_some refused, reseatRefusal_none changed⟩

theorem sweep_unobservable_sample : ∃ p r after, (sampleStart {} reseatThreads).Reachable p ∧
    reseatSweep p.world.db = some (r, after) ∧
    (∀ id, execute (S := postgres) [] p.world.db (getBooking id .admin HOLD_DURATION_MS) {} =
      execute (S := postgres) [] after (getBooking id .admin HOLD_DURATION_MS) {}) ∧
    reseat.WantsSwept HOLD_DURATION_MS p.world.db := by
  obtain ⟨p, ⟨r, after⟩, reachable, sweeps, refused, changed⟩ := reseat_runs
  obtain ⟨reads, calls⟩ := sweep_unobservable reachable (le_refl HOLD_DURATION_MS) sweeps
  have fresh : reseat.FreshIds reseatIds := fun _ k same => by
    change 23 = 100 + k at same
    omega
  refine ⟨p, r, after, reachable, sweeps, (reads .admin).1, ?_⟩
  rcases calls reseat fresh with ⟨same, -⟩ | ⟨wants, -⟩
  · rw [same, changed] at refused
    cases refused
  · exact wants

end FlightBooking
