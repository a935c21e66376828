import FlightBooking.System.Effects

/-!
What a commit did to one row: the payment, the key or the booking of an id,
before and after. Nothing else in a commit matters to an invariant of that row.
-/

namespace FlightBooking

open Relational ReadCommitted

variable {T : Timeline postgres} {n i : Nat} {x : Transaction} {now : Instant} {r : x.Result}
  {c' : Cursor postgres}

/-! ### Payments -/

/-- The payment `id` before and after a commit. -/
inductive PaymentChange (T : Timeline postgres) (n i : Nat) (id : Uuid) :
    (x : Transaction) → Instant → x.Result → Option Payment → Option Payment → Prop where
  | same {x : Transaction} {now r o} : PaymentChange T n i id x now r o o
  | started {bookingId scope actor request reconcileAfterMs now p row s₁ s₂ cur} :
      StartedOn T n i bookingId actor request id reconcileAfterMs now p row s₁ s₂ cur →
      PaymentChange T n i id (.startPayment bookingId scope actor request id reconcileAfterMs) now
        (.started p) none (some p)
  | declined {payment reason actor ids now r p} : payment.id = id → p.status = .processing →
      PaymentChange T n i id (.settleDeclined payment reason actor ids) now r (some p)
        (some (p.moved .failed now none (some reason)))
  | chargedTooLate {payment reference actor ids now r p} : payment.id = id →
      p.status = .processing →
      PaymentChange T n i id (.settleCharged payment reference actor ids) now r (some p)
        (some (p.moved .refundPending now (some reference) none))
  | confirmed {payment reference actor ids now r p booking snap cur} : payment.id = id →
      p.status = .processing →
      ConfirmedOn T n payment.bookingId (.owner payment.accountId) now booking snap cur →
      PaymentChange T n i id (.settleCharged payment reference actor ids) now r (some p)
        (some (p.moved .succeeded now (some reference) none))
  | cancelled {bookingId scope actor ids requestId now' now r p} : p.bookingId = bookingId →
      p.status = .succeeded →
      PaymentChange T n i id (.cancelBooking bookingId scope actor ids requestId now') now r (some p)
        (some (p.refundStarted now'))
  | claimed {leaseMs limit now r p} : isPaymentDue now p = true →
      PaymentChange T n i id (.claimDue leaseMs limit) now r (some p) (some (p.claimed now leaseMs))
  | refundRecorded {payment record auditId now r p} : payment.id = id →
      p.status = .refundPending →
      PaymentChange T n i id (.recordRefund payment record auditId) now r (some p)
        (some (p.moved record.status now none record.reason))
  | rescheduled {status at' now r p} : p.status = status →
      PaymentChange T n i id (.reschedule id status at') now r (some p)
        (some { p with nextAttemptAt := some at' })

/-- What a commit did to payment `id`. -/
theorem Effect.payment (effect : Effect T n i x now r c') (id : Uuid) :
    PaymentChange T n i id x now r ((T.state n).payments.find? id)
      ((c'.log.apply (T.state n)).payments.find? id) := by
  rw [Changes.apply_payments]
  have untouched : c'.log.payments = [] → PaymentChange T n i id x now r
      ((T.state n).payments.find? id) (((T.state n).payments.putAll c'.log.payments).find? id) := by
    intro unwritten
    rw [unwritten]
    exact .same
  have rewritten : ∀ {p q : Payment} {k : Uuid}, (T.state n).payments.find? k = some p →
      c'.log.payments = [q] → q.id = p.id →
      (k = id → PaymentChange T n i id x now r (some p) (some q)) →
      PaymentChange T n i id x now r ((T.state n).payments.find? id)
        (((T.state n).payments.putAll c'.log.payments).find? id) := by
    intro p q k found log same change
    have here : key q = k := same.trans (Table.key_of_find? found)
    rw [log, Table.putAll_cons, Table.putAll_nil, Table.find?_put]
    by_cases at' : id = key q
    · rw [if_pos at', at', here, found, ← here, ← at']
      exact change (here.symm.trans at'.symm)
    · rw [if_neg at']
      exact .same
  cases effect with
  | nothing _ log => exact untouched (by rw [log])
  | laidOut _ on => exact untouched on.quiet.payments
  | created _ _ log => exact untouched (by rw [log])
  | @cancelled bookingId _ _ _ _ now' _ _ _ _ _ _ _ _ _ _ paid _ _ _ _ _ _ _ _ _ _ isPaid current
      log =>
      have distinct : (paid.map key).Nodup := isPaid ▸ Table.nodup_recheck ..
      rw [show c'.log.payments = paid.map (·.refundStarted now') by rw [log]]
      rcases Table.find?_putAll_map (f := (·.refundStarted now')) distinct current (fun _ => rfl) id
        with same | ⟨p, mem, before, after⟩
      · rw [same]
        exact .same
      · rw [before, after]
        rw [isPaid] at mem
        obtain ⟨-, pays, -⟩ := Table.mem_recheck.mp mem
        obtain ⟨of, paid⟩ := isPaidFor_iff.mp pays
        exact .cancelled of paid
  | reseated _ _ _ _ log => exact untouched (by rw [log])
  | expired _ _ _ _ log => exact untouched (by rw [log])
  | @paid _ _ _ _ paymentId _ _ _ _ _ _ on =>
      cases on with
      | answered _ log => exact untouched (by rw [log])
      | released _ log => exact untouched (by rw [log])
      | @started _ p _ _ _ _ on _ log =>
          have own : key p = paymentId := by rw [on.payment]; rfl
          rw [show c'.log.payments = [p] by rw [log], Table.putAll_cons, Table.putAll_nil,
            Table.find?_put]
          by_cases same : id = paymentId
          · subst same
            rw [on.fresh, if_pos own.symm]
            exact .started on
          · rw [if_neg fun h => same (h.trans own)]
            exact .same
  | declined on _ _ log =>
      exact rewritten on.payment (congrArg Changes.payments log) rfl fun same => .declined same on.processing
  | chargedTooLate on _ _ log =>
      exact rewritten on.payment (congrArg Changes.payments log) rfl fun same => .chargedTooLate same on.processing
  | confirmed on confirms _ _ _ _ _ log =>
      exact rewritten on.payment (congrArg Changes.payments log) rfl fun same => .confirmed same on.processing confirms
  | @claimed leaseMs _ _ _ _ due distinct isDue log =>
      rw [show c'.log.payments = due.map (·.claimed now leaseMs) by rw [log]]
      rcases Table.find?_putAll_map (f := (·.claimed now leaseMs)) distinct
        (fun p mem => (isDue p mem).1) (fun _ => rfl) id with same | ⟨p, mem, before, after⟩
      · rw [same]
        exact .same
      · rw [before, after]
        exact .claimed (isDue p mem).2
  | refundRecorded found status log =>
      exact rewritten found (congrArg Changes.payments log) rfl fun same => .refundRecorded same status
  | rescheduled found status log =>
      exact rewritten found (congrArg Changes.payments log) rfl fun same => same ▸ .rescheduled status
  | cleaned _ log => exact untouched (by rw [log])
  | published _ _ log => exact untouched (by rw [log])

/-! ### Bookings -/

/-- The status of booking `id`, if there is one. -/
def Db.bookingStatus (db : Db) (id : Uuid) : Option BookingStatus :=
  (db.bookings.find? id).map (·.status)

/-- The seats of a list are free after the commit. -/
def Cursor.Frees (c : Cursor postgres) (T : Timeline postgres) (n : Nat) (seats : List FlightSeat) :
    Prop :=
  ∀ s ∈ seats, (c.log.apply (T.state n)).seats.find? (key s) = some (releaseSeat s)

/-- The booking `id` before and after a commit. -/
inductive BookingChange (T : Timeline postgres) (n : Nat) (c' : Cursor postgres) (id : Uuid) :
    (x : Transaction) → Instant → x.Result → Option BookingRow → Option BookingRow → Prop where
  | same {x : Transaction} {now r o} : BookingChange T n c' id x now r o o
  | created {flightId request actor ids requestId now b free} :
      CreatedOn T n flightId actor now b free → b.id = id →
      BookingChange T n c' id (.createBooking flightId request actor ids requestId) now (.ok b) none
        (some b.row)
  | cancelled {scope actor ids requestId now' now r b flight first locked snap cur} :
      CancelledOn T n id scope now' b flight first locked snap cur →
      [(first, locked), (snap, cur)] <+: c'.spans →
      Cursor.Frees c' T n (lockedSeats [id] (T.state snap) (T.state cur)) →
      BookingChange T n c' id (.cancelBooking id scope actor ids requestId now') now r (some b)
        (some { b with status := .cancelled })
  | expired {now' batchSize ids now r due snap cur b} : ExpiredOn T n now' due snap cur → b ∈ due →
      Cursor.Frees c' T n (lockedSeats (due.map (·.id)) (T.state snap) (T.state cur)) →
      BookingChange T n c' id (.expireBatch now' batchSize ids) now r (some b)
        (some { b with status := .expired })
  | confirmed {payment reference actor ids now r b snap cur} : payment.bookingId = id →
      ConfirmedOn T n id (.owner payment.accountId) now b snap cur →
      BookingChange T n c' id (.settleCharged payment reference actor ids) now r (some b)
        (some { b with status := .confirmed })

theorem frees_of_log {seats : List FlightSeat} (log : c'.log.seats = seats.map releaseSeat)
    (distinct : (seats.map key).Nodup) : Cursor.Frees c' T n seats := fun s mem => by
  have keys : ((seats.map releaseSeat).map key).Nodup := by
    simpa [Function.comp_def] using distinct
  rw [Changes.apply_seats, log, ← key_releaseSeat s]
  exact Table.find?_putAll_of_mem keys (List.mem_map_of_mem mem)

/-- What a commit did to booking `id`. -/
theorem Effect.booking (effect : Effect T n i x now r c') (id : Uuid) :
    BookingChange T n c' id x now r ((T.state n).bookings.find? id)
      ((c'.log.apply (T.state n)).bookings.find? id) := by
  rw [Changes.apply_bookings]
  have untouched : c'.log.bookings = [] → BookingChange T n c' id x now r
      ((T.state n).bookings.find? id)
      (((T.state n).bookings.putAll c'.log.bookings).find? id) := by
    intro unwritten
    rw [unwritten]
    exact .same
  have written : ∀ {b : BookingRow}, c'.log.bookings = [b] →
      (b.id = id → BookingChange T n c' id x now r ((T.state n).bookings.find? id) (some b)) →
      BookingChange T n c' id x now r ((T.state n).bookings.find? id)
        (((T.state n).bookings.putAll c'.log.bookings).find? id) := by
    intro b log change
    rw [log, Table.putAll_cons, Table.putAll_nil, Table.find?_put]
    by_cases here : id = key b
    · rw [if_pos here]
      exact change here.symm
    · rw [if_neg here]
      exact .same
  cases effect with
  | nothing _ log => exact untouched (by rw [log])
  | laidOut _ on => exact untouched on.quiet.bookings
  | @created _ _ _ _ _ _ booking _ _ _ _ on _ log =>
      refine written (congrArg Changes.bookings log) fun same => ?_
      have own : booking.id = id := same
      rw [← own, on.new.booking]
      exact .created on rfl
  | cancelled on _ spans _ _ _ _ _ _ log =>
      refine written (congrArg Changes.bookings log) fun same => ?_
      obtain rfl : _ = id := (Table.key_of_find? on.current).symm.trans same
      rw [on.current]
      exact .cancelled on spans (frees_of_log (congrArg Changes.seats log) (nodup_lockedSeats ..))
  | reseated _ _ _ _ log => exact untouched (by rw [log])
  | @expired now' _ _ _ _ due _ _ _ _ _ on _ _ _ log =>
      rw [show c'.log.bookings = due.map fun b => { b with status := .expired } by rw [log]]
      rcases Table.find?_putAll_map (f := fun b : BookingRow => { b with status := .expired })
        on.distinct on.current (fun _ => rfl) id with same | ⟨b, mem, before, after⟩
      · rw [same]
        exact .same
      · rw [before, after]
        exact .expired on mem (frees_of_log (congrArg Changes.seats log) (nodup_lockedSeats ..))
  | @paid _ _ _ _ _ _ _ _ _ _ _ on =>
      cases on with
      | answered _ log => exact untouched (by rw [log])
      | released _ log => exact untouched (by rw [log])
      | started _ _ log => exact untouched (by rw [log])
  | declined _ _ _ log => exact untouched (by rw [log])
  | chargedTooLate _ _ _ log => exact untouched (by rw [log])
  | @confirmed payment _ _ _ _ _ _ _ booking _ _ _ _ _ _ on _ _ _ _ _ log =>
      refine written (congrArg Changes.bookings log) fun same => ?_
      obtain rfl : payment.bookingId = id := (Table.key_of_find? on.current).symm.trans same
      rw [on.current]
      exact .confirmed rfl on
  | claimed _ _ log => exact untouched (by rw [log])
  | refundRecorded _ _ log => exact untouched (by rw [log])
  | rescheduled _ _ log => exact untouched (by rw [log])
  | cleaned _ log => exact untouched (by rw [log])
  | published _ _ log => exact untouched (by rw [log])

/-! ### Seats and flights -/

/-- A seat before and after a commit that holds `held` and leads to `after`. -/
inductive SeatChange (T : Timeline postgres) (n : Nat) (held : List Row) (after : Db) :
    Option FlightSeat → Option FlightSeat → Prop where
  | same {o} : SeatChange T n held after o o
  | laidOut {s : FlightSeat} : s.status = .available → s.bookingId = none →
      SeatChange T n held after none (some s)
  | held {s id} : s.status = .available → (T.state n).bookingStatus id = none →
      after.bookingStatus id = some .held → .booking id ∈ held →
      SeatChange T n held after (some s) (some (holdSeat id s))
  | released {s id} : s.bookingId = some id → after.bookingStatus id ≠ some .held →
      .booking id ∈ held → SeatChange T n held after (some s) (some (releaseSeat s))
  | taken {s id} : s.status = .available → (T.state n).bookingStatus id = some .confirmed →
      after.bookingStatus id = some .confirmed → .booking id ∈ held →
      SeatChange T n held after (some s) (some (takeSeat id s))
  | booked {s} : SeatChange T n held after (some s) (some (bookSeat s))

/-- What a commit did to seat `k`. -/
theorem Effect.seat (effect : Effect T n i x now r c')
    (covered : ∀ row ∈ c'.log.touched, row ∈ exclusiveRows c'.held) (k : Uuid × SeatPosition) :
    SeatChange T n (exclusiveRows c'.held) (c'.log.apply (T.state n)) ((T.state n).seats.find? k)
      ((c'.log.apply (T.state n)).seats.find? k) := by
  generalize reached : c'.log.apply (T.state n) = after
  have written : after.seats.find? k = ((T.state n).seats.putAll c'.log.seats).find? k := by
    rw [← reached, Changes.apply_seats]
  rw [written]
  have untouched : c'.log.seats = [] → SeatChange T n (exclusiveRows c'.held) after
      ((T.state n).seats.find? k) (((T.state n).seats.putAll c'.log.seats).find? k) := by
    intro unwritten
    rw [unwritten]
    exact .same
  have rewritten : ∀ {f : FlightSeat → FlightSeat} {rows : List FlightSeat},
      c'.log.seats = rows.map f → (rows.map key).Nodup → (∀ s ∈ rows, s ∈ (T.state n).seats) →
      (∀ s, key (f s) = key s) →
      (∀ s ∈ rows, SeatChange T n (exclusiveRows c'.held) after (some s) (some (f s))) →
      SeatChange T n (exclusiveRows c'.held) after
        ((T.state n).seats.find? k) (((T.state n).seats.putAll c'.log.seats).find? k) := by
    intro f rows log distinct current keeps change
    rw [log]
    rcases Table.find?_putAll_map distinct current keeps k with same | ⟨s, mem, before, now⟩
    · rw [same]
      exact .same
    · rw [before, now]
      exact change s mem
  have status : ∀ {b : BookingRow}, b ∈ c'.log.bookings → (c'.log.bookings.map key).Nodup →
      after.bookingStatus b.id = some b.status := by
    intro b mem distinct
    have found : after.bookings.find? (key b) = some b := by
      rw [← reached, Changes.apply_bookings]
      exact Table.find?_putAll_of_mem distinct mem
    exact congrArg (Option.map _) found
  cases effect with
  | nothing _ log => exact untouched (by rw [log])
  | laidOut _ on =>
      rcases Table.find?_putAll_cases (T.state n).seats c'.log.seats k with
        same | ⟨s, mem, rfl, now⟩
      · rw [same]
        exact .same
      · rw [now, on.fresh s mem]
        exact .laidOut (on.available s mem) (on.unowned s mem)
  | @created _ _ _ _ _ _ booking _ _ _ _ on _ log =>
      have mem : booking.row ∈ c'.log.bookings := by simp [log]
      have locked := covered _ (Changes.booking_touched mem)
      have before : (T.state n).bookingStatus booking.id = none := by
        rw [Db.bookingStatus, on.new.booking]
        rfl
      have now : after.bookingStatus booking.id = some .held :=
        (status mem (by simp [log])).trans (congrArg some on.status)
      exact rewritten (congrArg Changes.seats log) on.distinct on.current (fun _ => rfl)
        fun s mem => .held (on.available s mem) before now locked
  | @cancelled id _ _ _ _ _ _ _ booking _ _ _ _ _ _ _ _ _ _ _ on _ _ held _ _ _ _ _ log =>
      have own : booking.id = id := Table.key_of_find? on.current
      have now : after.bookingStatus id = some .cancelled :=
        own ▸ status (b := { booking with status := .cancelled }) (by simp [log]) (by simp [log])
      refine rewritten (congrArg Changes.seats log) (nodup_lockedSeats ..) on.seats (fun _ => rfl)
        fun s mem => ?_
      obtain ⟨id', mem', owned⟩ := seatsOf_iff.mp (mem_lockedSeats.mp mem).2.1
      obtain rfl := List.mem_singleton.mp mem'
      exact .released owned (by rw [now]; exact nofun) held
  | @expired _ _ _ _ _ due _ _ _ _ _ on _ _ held log =>
      refine rewritten (congrArg Changes.seats log) (nodup_lockedSeats ..) on.seats (fun _ => rfl)
        fun s mem => ?_
      obtain ⟨id, mem', owned⟩ := seatsOf_iff.mp (mem_lockedSeats.mp mem).2.1
      obtain ⟨b, memB, rfl⟩ := List.mem_map.mp mem'
      have now : after.bookingStatus b.id = some .expired := by
        refine status (b := { b with status := .expired }) ?_ ?_
        · rw [log]
          exact List.mem_map_of_mem memB
        · rw [log, List.map_map]
          exact on.distinct
      exact .released owned (by rw [now]; exact nofun) (held b memB)
  | paid _ _ on =>
      cases on with
      | answered _ log => exact untouched (by rw [log])
      | released _ log => exact untouched (by rw [log])
      | started _ _ log => exact untouched (by rw [log])
  | confirmed _ on _ _ _ held _ log =>
      exact rewritten (congrArg Changes.seats log) (nodup_lockedSeats ..) on.seats (fun _ => rfl)
        fun s mem => .booked
  | @reseated id _ _ _ _ _ _ _ _ _ booking _ own wanted _ _ _ _ _ on _ held _ log =>
      have between := on.between
      have confirmed : (T.state n).bookingStatus id = some .confirmed := by
        rw [Db.bookingStatus, on.current]
        exact congrArg some on.confirmed
      have stays : after.bookingStatus id = some .confirmed := by
        rw [← confirmed, ← reached, Db.bookingStatus, Changes.apply_bookings, log]
        rfl
      rw [log, Table.putAll_cons, Table.putAll_cons, Table.putAll_nil, Table.find?_put,
        Table.find?_put]
      by_cases atWanted : k = key (takeSeat id wanted)
      · rw [if_pos atWanted, atWanted, key_takeSeat, Table.find?_of_mem between.wanted_mem]
        exact .taken between.available confirmed stays held
      · rw [if_neg atWanted]
        by_cases atOwn : k = key (releaseSeat own)
        · rw [if_pos atOwn, atOwn, key_releaseSeat, Table.find?_of_mem between.own_mem]
          exact .released between.owned (by rw [stays]; exact nofun) held
        · rw [if_neg atOwn]
          exact .same
  | declined _ _ _ log => exact untouched (by rw [log])
  | chargedTooLate _ _ _ log => exact untouched (by rw [log])
  | claimed _ _ log => exact untouched (by rw [log])
  | refundRecorded _ _ log => exact untouched (by rw [log])
  | rescheduled _ _ log => exact untouched (by rw [log])
  | cleaned _ log => exact untouched (by rw [log])
  | published _ _ log => exact untouched (by rw [log])

/-- A commit leaves every flight's departure alone. -/
theorem Effect.punctual (effect : Effect T n i x now r c') : c'.log.Punctual (T.state n) := by
  cases effect with
  | laidOut _ on => exact on.punctual
  | paid _ _ on =>
      cases on with
      | answered _ log => exact Changes.punctual_of_flights (by rw [log])
      | released _ log => exact Changes.punctual_of_flights (by rw [log])
      | started _ _ log => exact Changes.punctual_of_flights (by rw [log])
  | nothing _ log => exact Changes.punctual_of_flights (by rw [log])
  | created _ _ log => exact Changes.punctual_of_flights (by rw [log])
  | cancelled _ _ _ _ _ _ _ _ _ log => exact Changes.punctual_of_flights (by rw [log])
  | reseated _ _ _ _ log => exact Changes.punctual_of_flights (by rw [log])
  | expired _ _ _ _ log => exact Changes.punctual_of_flights (by rw [log])
  | declined _ _ _ log => exact Changes.punctual_of_flights (by rw [log])
  | chargedTooLate _ _ _ log => exact Changes.punctual_of_flights (by rw [log])
  | confirmed _ _ _ _ _ _ _ log => exact Changes.punctual_of_flights (by rw [log])
  | claimed _ _ log => exact Changes.punctual_of_flights (by rw [log])
  | refundRecorded _ _ log => exact Changes.punctual_of_flights (by rw [log])
  | rescheduled _ _ log => exact Changes.punctual_of_flights (by rw [log])
  | cleaned _ log => exact Changes.punctual_of_flights (by rw [log])
  | published _ _ log => exact Changes.punctual_of_flights (by rw [log])

/-- A flight stays, and its departure with it. -/
theorem Effect.flight (effect : Effect T n i x now r c') {id : Uuid} {f : FlightRow}
    (found : (T.state n).flights.find? id = some f) :
    ∃ f', (c'.log.apply (T.state n)).flights.find? id = some f' ∧
      f'.departureAt = f.departureAt := by
  rw [Changes.apply_flights]
  rcases Table.find?_putAll_cases (T.state n).flights c'.log.flights id with
    same | ⟨f', mem, rfl, after⟩
  · exact ⟨f, same.trans found, rfl⟩
  · exact ⟨f', after, effect.punctual f' mem f found⟩

/-! ### Keys -/

/-- The payment a transaction settles. -/
def Transaction.settles? : Transaction → Option Uuid
  | .settleDeclined payment .. => some payment.id
  | .settleCharged payment .. => some payment.id
  | _ => none

/-- The final answer a transaction committed with. -/
def Transaction.answer? : (x : Transaction) → x.Result → Option StoredResponse
  | .startPayment .., .result (.answered response _) => some response
  | .settleDeclined .., response => some response
  | .settleCharged .., response => some response
  | _, _ => none

/-- The HTTP status that goes with the status a payment left PROCESSING for. -/
inductive Answers : PaymentStatus → Nat → Prop where
  | succeeded : Answers .succeeded 201
  | failed : Answers .failed 402
  | refundPending : Answers .refundPending 409

/-- The key `id` before and after a commit that led to `after`. -/
inductive KeyRowChange (T : Timeline postgres) (n i : Nat) (after : Db) (id : Uuid × String) :
    (x : Transaction) → Instant → x.Result → Option IdempotencyKey → Option IdempotencyKey → Prop
    where
  | same {x : Transaction} {now r o} : KeyRowChange T n i after id x now r o o
  | answered {bookingId scope actor request paymentId reconcileAfterMs now} (decision) :
      id = (actor, request.idempotencyKey) →
      KeyRowChange T n i after id
        (.startPayment bookingId scope actor request paymentId reconcileAfterMs) now
        (.result (.answered (toStoredResponse decision) false)) none
        (some ((claimedKey actor request.idempotencyKey request.fingerprint now).answered
          (toStoredResponse decision) now))
  | linked {bookingId scope actor request paymentId reconcileAfterMs now p row s₁ s₂ cur} :
      id = (actor, request.idempotencyKey) →
      StartedOn T n i bookingId actor request paymentId reconcileAfterMs now p row s₁ s₂ cur →
      after.payments.find? paymentId = some p →
      KeyRowChange T n i after id
        (.startPayment bookingId scope actor request paymentId reconcileAfterMs) now (.started p) none
        (some { claimedKey actor request.idempotencyKey request.fingerprint now with
          paymentId := some paymentId })
  | settled {x : Transaction} {now r response paymentId p p' k} : x.settles? = some paymentId →
      x.answer? r = some response → OpenOn T n paymentId p k → key k = id →
      after.payments.find? paymentId = some p' → Answers p'.status response.status →
      KeyRowChange T n i after id x now r (some k) (some (k.answered response now))
  | deleted {cutoff limit now r k} : k.status = .completed → k.createdAt < cutoff →
      KeyRowChange T n i after id (.deleteCompletedBefore cutoff limit) now r (some k) none

/-- Deleting rows of a table: each is gone, the others are as before. -/
theorem find?_deleteAll (t : Table IdempotencyKey) (old : List IdempotencyKey) (id : Uuid × String) :
    ((old.map fun k => KeyChange.delete (key k)).foldl KeyChange.apply t).find? id = t.find? id ∨
      (id ∈ old.map key ∧
        ((old.map fun k => KeyChange.delete (key k)).foldl KeyChange.apply t).find? id = none) := by
  induction old generalizing t with
  | nil => exact .inl rfl
  | cons k old ih =>
      rw [List.map_cons, List.foldl_cons]
      have erased : (KeyChange.apply t (.delete (key k))).find? id =
          if id = key k then none else t.find? id := Table.find?_erase ..
      by_cases same : id = key k
      · rw [if_pos same] at erased
        refine .inr ⟨by simp [same], ?_⟩
        rcases ih (KeyChange.apply t (.delete (key k))) with kept | ⟨-, gone⟩
        · rw [kept, erased]
        · exact gone
      · rw [if_neg same] at erased
        rcases ih (KeyChange.apply t (.delete (key k))) with kept | ⟨mem, gone⟩
        · exact .inl (kept.trans erased)
        · exact .inr ⟨by simp [mem], gone⟩

/-- What a commit did to key `id`. -/
theorem Effect.keyRow (effect : Effect T n i x now r c') (id : Uuid × String) :
    KeyRowChange T n i (c'.log.apply (T.state n)) id x now r ((T.state n).keys.find? id)
      ((c'.log.apply (T.state n)).keys.find? id) := by
  generalize db' : c'.log.apply (T.state n) = after
  have keys' : after.keys = c'.log.keys.foldl KeyChange.apply (T.state n).keys := by
    rw [← db', Changes.apply_keys]
  rw [keys']
  have untouched : c'.log.keys = [] → KeyRowChange T n i after id x now r
      ((T.state n).keys.find? id) ((c'.log.keys.foldl KeyChange.apply (T.state n).keys).find? id) := by
    intro unwritten
    rw [unwritten]
    exact .same
  have settles : ∀ {paymentId : Uuid} {response : StoredResponse} {p p' : Payment}
      {k : IdempotencyKey}, c'.log.keys = [.put (k.answered response now)] →
      c'.log.payments = [p'] → OpenOn T n paymentId p k → p'.id = p.id →
      x.settles? = some paymentId → x.answer? r = some response →
      Answers p'.status response.status →
      KeyRowChange T n i after id x now r ((T.state n).keys.find? id)
        ((c'.log.keys.foldl KeyChange.apply (T.state n).keys).find? id) := by
    intro paymentId response p p' k log log' on same settles answer answers
    rw [log]
    have put : ((T.state n).keys.put (k.answered response now)).find? id =
        if id = key k then some (k.answered response now)
        else (T.state n).keys.find? id := Table.find?_put ..
    rw [List.foldl_cons, List.foldl_nil, KeyChange.apply, put]
    by_cases at' : id = key k
    · have pays : key p' = paymentId := same.trans (Table.key_of_find? on.payment)
      rw [if_pos at', at', Table.find?_of_mem on.key, ← at']
      refine .settled settles answer on at'.symm ?_ answers
      rw [← db', Changes.apply_payments, log', ← pays]
      exact (Table.find?_put ..).trans (if_pos rfl)
    · rw [if_neg at']
      exact .same
  cases effect with
  | nothing _ log => exact untouched (by rw [log])
  | laidOut _ on => exact untouched on.quiet.keys
  | created _ _ log => exact untouched (by rw [log])
  | cancelled _ _ _ _ _ _ _ _ _ log => exact untouched (by rw [log])
  | reseated _ _ _ _ log => exact untouched (by rw [log])
  | expired _ _ _ _ log => exact untouched (by rw [log])
  | @paid _ _ actor request paymentId _ _ _ _ fresh _ on =>
      have own : ∀ k : IdempotencyKey, k.accountId = actor → k.key = request.idempotencyKey →
          key k = (actor, request.idempotencyKey) := fun k account text =>
        Prod.ext account text
      cases on with
      | answered decision log =>
          rw [show c'.log.keys = _ from congrArg Changes.keys log, List.foldl_cons, List.foldl_cons,
            List.foldl_nil, KeyChange.apply, KeyChange.apply, Table.find?_put, Table.find?_put]
          by_cases same : id = (actor, request.idempotencyKey)
          · rw [if_pos (same.trans (own _ rfl rfl).symm), same, fresh]
            exact .answered decision rfl
          · rw [if_neg fun h => same (h.trans (own _ rfl rfl)),
              if_neg fun h => same (h.trans (own _ rfl rfl))]
            exact .same
      | released _ log =>
          rw [show c'.log.keys = _ from congrArg Changes.keys log, List.foldl_cons, List.foldl_cons,
            List.foldl_nil, KeyChange.apply, KeyChange.apply, Table.find?_erase, Table.find?_put]
          by_cases same : id = (actor, request.idempotencyKey)
          · rw [if_pos (same.trans (own _ rfl rfl).symm), same, fresh]
            exact .same
          · rw [if_neg fun h => same (h.trans (own _ rfl rfl)),
              if_neg fun h => same (h.trans (own _ rfl rfl))]
            exact .same
      | @started _ p _ _ _ _ on _ log =>
          rw [show c'.log.keys = _ from congrArg Changes.keys log, List.foldl_cons, List.foldl_cons,
            List.foldl_nil, KeyChange.apply, KeyChange.apply, Table.find?_put, Table.find?_put]
          by_cases same : id = (actor, request.idempotencyKey)
          · rw [if_pos (same.trans (own _ rfl rfl).symm), same, fresh]
            refine .linked rfl on ?_
            have pays : key p = paymentId := by rw [on.payment]; rfl
            rw [← db', Changes.apply_payments, show c'.log.payments = [p] by rw [log], ← pays]
            exact (Table.find?_put ..).trans (if_pos rfl)
          · rw [if_neg fun h => same (h.trans (own _ rfl rfl)),
              if_neg fun h => same (h.trans (own _ rfl rfl))]
            exact .same
  | declined on _ status log =>
      exact settles (congrArg Changes.keys log) (congrArg Changes.payments log) on rfl rfl rfl
        (status ▸ .failed)
  | chargedTooLate on _ status log =>
      exact settles (congrArg Changes.keys log) (congrArg Changes.payments log) on rfl rfl rfl
        (status ▸ .refundPending)
  | confirmed on _ _ _ _ _ status log =>
      exact settles (congrArg Changes.keys log) (congrArg Changes.payments log) on rfl rfl rfl
        (status ▸ .succeeded)
  | claimed _ _ log => exact untouched (by rw [log])
  | refundRecorded _ _ log => exact untouched (by rw [log])
  | rescheduled _ _ log => exact untouched (by rw [log])
  | cleaned expired log =>
      rw [show c'.log.keys = _ from congrArg Changes.keys log]
      rcases find?_deleteAll (T.state n).keys _ id with kept | ⟨mem, gone⟩
      · rw [kept]
        exact .same
      · obtain ⟨k, memK, rfl⟩ := List.mem_map.mp mem
        obtain ⟨here, status, old⟩ := expired k memK
        rw [gone, Table.find?_of_mem here]
        exact .deleted status old
  | published _ _ log => exact untouched (by rw [log])

end FlightBooking
