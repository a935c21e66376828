import FlightBooking.Payments.Effects

/-!
What a booking transaction that committed did, as one equation for its changes.

`T` is the history it ran against and `n` the version it commits onto. A row it
changed or locked for update it also kept (`Timeline.Keeps`), so what it saw of
that row is what version `n` says.
-/

namespace FlightBooking

open Relational ReadCommitted

variable {T : Timeline postgres} {n i : Nat} {c c' : Cursor postgres} {now : Instant} {α : Type}

/-- The audit entries of changes: what happened, to what. -/
def Changes.records (log : Changes) : List (AuditAction × AuditTarget) :=
  log.audit.map fun a => (a.action, a.target)

/-- The events of changes: which, about which booking, and their `created_at`. -/
def Changes.events (log : Changes) : List (EventType × Option Uuid × Instant) :=
  log.outbox.map fun o => (o.entry.eventType, o.entry.payload.body.bookingId?, o.entry.createdAt)

/-! ### Records and reads -/

theorem recordAudit_commits {input : AuditRecordInput} {r : Unit}
    (h : Commits T n (query (recordAudit input)) c r c') :
    c'.log = c.log.append { audit := [input] } := by
  obtain ⟨skip, snap, cur, out, -, -, -, done, -, rfl, -⟩ := commits_query.mp h
  rw [Cursor.next_log, (recordAudit_ok done).1]

theorem enqueue_commits {entry : OutboxEntry} {r : Unit}
    (h : Commits T n (query (enqueue entry)) c r c') :
    c'.log = c.log.append { outbox := [⟨entry, none⟩] } := by
  obtain ⟨skip, snap, cur, out, -, -, -, done, -, rfl, -⟩ := commits_query.mp h
  rw [Cursor.next_log, (enqueue_ok done).1]

/-- A booking's passengers as a version has them, by position. -/
def passengersOf (db : Db) (id : Uuid) : List PassengerRow :=
  (db.passengers.rows.filter fun p => p.bookingId = id).insertionSort
    fun p q => p.position ≤ q.position

theorem mem_passengersOf {db : Db} {id : Uuid} {p : PassengerRow} :
    p ∈ passengersOf db id ↔ p ∈ db.passengers ∧ p.bookingId = id := by
  simp [passengersOf]

theorem findById_commits {id : Uuid} {scope : BookingAccessScope} {r : Option Booking}
    (h : Commits T n (findById id scope) c r c') :
    c'.log = c.log ∧ ∀ b, r = some b →
      ∃ s₁ s₂ row, c.pos ≤ s₁ ∧ s₁ ≤ s₂ ∧ s₂ ≤ n ∧
        (c.view T s₁).bookings.find? id = some row ∧ scope.admits row.ownerAccountId = true ∧
        mapBooking row ((passengersOf (c.view T s₂) id).map mapPassenger) = .ok b := by
  obtain ⟨found, c₁, read, rest⟩ := commits_bind.mp h
  obtain ⟨skip, s₁, cur, out, le₁, le₂, le₃, done, rfl, rfl, -⟩ := commits_query.mp read
  obtain ⟨reply, writes⟩ := findBooking_ok done
  cases row? : out.reply with
  | none =>
      rw [row?] at rest
      obtain ⟨rfl, rfl⟩ := rest
      exact ⟨by simp [writes, Changes.append], fun b some => by cases some⟩
  | some row =>
      rw [row?] at rest
      obtain ⟨ps, c₂, read₂, rest⟩ := commits_bind.mp rest
      obtain ⟨skip₂, s₂, cur₂, out₂, le₄, le₅, le₆, done₂, rfl, rfl, -⟩ := commits_query.mp read₂
      obtain ⟨reply₂, writes₂⟩ := findPassengers_ok done₂
      obtain ⟨b, mapped, rfl, rfl⟩ := commits_orThrow_bind.mp rest
      obtain ⟨row', admits⟩ := Option.filter_eq_some_iff.mp (reply.symm.trans row?)
      have log : (c.next s₁ cur out).log = c.log := by simp [writes, Changes.append]
      refine ⟨by simp [writes, writes₂, Changes.append], fun b some => ?_⟩
      cases some
      refine ⟨s₁, s₂, row, le₁, Nat.le_trans le₂ le₄, Nat.le_trans le₅ le₆, row', admits, ?_⟩
      rw [reply₂, Cursor.view, log] at mapped
      exact mapped

theorem mapBooking_error {row : BookingRow} {passengers : List BookingPassenger} {e : Failure}
    (h : mapBooking row passengers = .error e) : ∃ sum, e = .moneySumOutOfRange sum := by
  unfold mapBooking at h
  cases total : bookingTotal passengers with
  | ok sum =>
      rw [total] at h
      cases h
  | error e' =>
      rw [total] at h
      cases h
      exact sumMoney_error total

/-- Reading a booking can only fail on its total. -/
theorem findById_throws (id : Uuid) (scope : BookingAccessScope) :
    Throws (fun e : Failure => ∃ sum, e = .moneySumOutOfRange sum) (findById id scope) := by
  refine throws_bind (throws_query fun _ _ _ _ h => by cases h) fun found => ?_
  cases found with
  | none => trivial
  | some row =>
      refine throws_bind (throws_query fun _ _ _ _ h => by cases h) fun passengers => ?_
      refine throws_bind ?_ fun _ => trivial
      cases mapped : mapBooking row (passengers.map mapPassenger) with
      | ok booking => trivial
      | error e => exact mapBooking_error mapped

theorem recordAudit_throws (input : AuditRecordInput) :
    Throws (fun e : Failure => e = .uniqueViolation "PK_audit_logs") (query (recordAudit input)) :=
  throws_query fun skip snap cur e h => by
    unfold recordAudit at h
    split at h <;> cases h
    rfl

theorem enqueue_throws (entry : OutboxEntry) :
    Throws (fun e : Failure => e = .uniqueViolation "PK_outbox") (query (enqueue entry)) :=
  throws_query fun skip snap cur e h => by
    unfold enqueue at h
    split at h <;> cases h
    rfl

/-! ### Written rows are current -/

theorem seats_current {a b : Db} {out : Outcome postgres α} {seats : List FlightSeat}
    (assign : FlightSeat → FlightSeat)
    (agree : ∀ r ∈ exclusiveRows out.held, postgres.Agree r a b)
    (keeps : ∀ s, key (assign s) = key s) (writes : out.writes.seats = seats.map assign)
    {s : FlightSeat} (mem : s ∈ seats) (here : s ∈ a.seats) : s ∈ b.seats := by
  have written : assign s ∈ out.writes.seats := writes ▸ List.mem_map_of_mem mem
  have same := agree _ (out.touched_held (Changes.seat_touched written))
  rw [keeps] at same
  exact Table.mem_of_find?_eq same here

theorem bookings_current {a b : Db} {out : Outcome postgres α} {bookings : List BookingRow}
    (assign : BookingRow → BookingRow)
    (agree : ∀ r ∈ exclusiveRows out.held, postgres.Agree r a b)
    (keeps : ∀ s, key (assign s) = key s) (writes : out.writes.bookings = bookings.map assign)
    {s : BookingRow} (mem : s ∈ bookings) (here : s ∈ a.bookings) : s ∈ b.bookings := by
  have written : assign s ∈ out.writes.bookings := writes ▸ List.mem_map_of_mem mem
  have same := agree _ (out.touched_held (Changes.booking_touched written))
  rw [keeps] at same
  exact Table.mem_of_find?_eq same here

theorem payments_current {a b : Db} {out : Outcome postgres α} {payments : List Payment}
    (assign : Payment → Payment)
    (agree : ∀ r ∈ exclusiveRows out.held, postgres.Agree r a b)
    (keeps : ∀ s, key (assign s) = key s) (writes : out.writes.payments = payments.map assign)
    {s : Payment} (mem : s ∈ payments) (here : s ∈ a.payments) : s ∈ b.payments := by
  have written : assign s ∈ out.writes.payments := writes ▸ List.mem_map_of_mem mem
  have same := agree _ (out.touched_held (Changes.payment_touched written))
  rw [keeps] at same
  exact Table.mem_of_find?_eq same here

theorem passengers_current {a b : Db} {out : Outcome postgres α} {passengers : List PassengerRow}
    (assign : PassengerRow → PassengerRow)
    (agree : ∀ r ∈ exclusiveRows out.held, postgres.Agree r a b)
    (keeps : ∀ s, key (assign s) = key s) (writes : out.writes.passengers = passengers.map assign)
    {s : PassengerRow} (mem : s ∈ passengers) (here : s ∈ a.passengers) : s ∈ b.passengers := by
  have written : assign s ∈ out.writes.passengers := writes ▸ List.mem_map_of_mem mem
  have same := agree _ (out.touched_held (Changes.passenger_touched written))
  rw [keeps] at same
  exact Table.mem_of_find?_eq same here

/-! A transaction that has not written a table sees the committed rows. -/

theorem view_bookings (unwritten : c.log.bookings = []) (k : Nat) :
    (c.view T k).bookings = (T.state k).bookings := by
  change (T.state k).bookings.putAll c.log.bookings = _
  rw [unwritten, Table.putAll_nil]

theorem view_passengers (unwritten : c.log.passengers = []) (k : Nat) :
    (c.view T k).passengers = (T.state k).passengers := by
  change (T.state k).passengers.putAll c.log.passengers = _
  rw [unwritten, Table.putAll_nil]

theorem view_keys (unwritten : c.log.keys = []) (k : Nat) :
    (c.view T k).keys = (T.state k).keys := by
  change c.log.keys.foldl KeyChange.apply (T.state k).keys = _
  rw [unwritten, List.foldl_nil]

theorem view_payments (unwritten : c.log.payments = []) (k : Nat) :
    (c.view T k).payments = (T.state k).payments := by
  change (T.state k).payments.putAll c.log.payments = _
  rw [unwritten, Table.putAll_nil]

/-! ### Cancel -/

/-- A cancel that cancelled. Its pre-lock read version `first` and locked
`locked`; the cancel itself started on `snap` and locked `cur`. -/
structure CancelledOn (T : Timeline postgres) (n : Nat) (id : Uuid) (scope : BookingAccessScope)
    (now : Instant) (booking : BookingRow) (flight : FlightRow) (first locked snap cur : Nat) :
    Prop where
  first_le : first ≤ locked
  locked_le : locked ≤ snap
  snap_le : snap ≤ cur
  cur_le : cur ≤ n
  preLock : ∀ target, cancelTarget id scope now (T.state first) (T.state first) = some target →
    T.Keeps (.booking id) locked n
  target : ∃ found, cancelTarget id scope now (T.state snap) (T.state cur) = some (found, flight)
  newest : (T.state cur).bookings.find? id = some booking
  cancellable : isCancellable booking flight scope now = true
  kept : T.Keeps (.booking id) cur n
  current : (T.state n).bookings.find? id = some booking
  seats : ∀ s ∈ lockedSeats [id] (T.state snap) (T.state cur), s ∈ (T.state n).seats

theorem cancelInTransaction_commits (framed : T.Framed) {id : Uuid} {scope : BookingAccessScope}
    {r : Except NotCancelled CancelledRow}
    (h : Commits T n (cancelInTransaction id scope now) (.start i) r c') :
    (∃ reason, r = .error reason ∧ c'.log = {}) ∨
    ∃ booking flight first locked snap cur,
      CancelledOn T n id scope now booking flight first locked snap cur ∧ i ≤ first ∧
      c'.spans = [(first, locked), (snap, cur)] ∧ c'.pos = cur ∧
      .booking id ∈ exclusiveRows c'.held ∧
      r = .ok ⟨booking.flightId, booking.reference,
        sortedPositions (lockedSeats [id] (T.state snap) (T.state cur))⟩ ∧
      c'.log = { bookings := [{ booking with status := .cancelled }],
                 seats := (lockedSeats [id] (T.state snap) (T.state cur)).map releaseSeat } := by
  obtain ⟨u, c₁, pre, rest⟩ := commits_bind.mp h
  obtain ⟨skip₁, first, locked, out₁, le₁, le₂, le₃, done₁, -, rfl, kept₁⟩ := commits_query.mp pre
  obtain ⟨writes₁, locks₁⟩ := lockCancellable_ok done₁
  obtain ⟨found, c₂, main, rest⟩ := commits_bind.mp rest
  obtain ⟨skip₂, snap, cur, out₂, le₄, le₅, le₆, done₂, rfl, rfl, kept₂, agree₂⟩ :=
    (commits_query.mp main).outcome framed
  have log₁ : (Cursor.next (.start i) first locked out₁ : Cursor postgres).log = ({} : Changes) := by
    simp [writes₁, Changes.append]
  have view₁ : ∀ k, (Cursor.next (.start i) first locked out₁ : Cursor postgres).view T k =
      T.state k := fun k => by rw [Cursor.view, log₁]; rfl
  rw [view₁, view₁] at done₂
  rcases cancelBookingRow_ok done₂ with ⟨reply, writes, -⟩ |
    ⟨row, flight, booking, target, newest, cancellable, reply, writes, lock⟩
  · rw [reply] at rest
    have log₂ : (Cursor.next (Cursor.next (.start i) first locked out₁) snap cur out₂ :
        Cursor postgres).log = ({} : Changes) := by simp [writes₁, writes, Changes.append]
    obtain ⟨read, c₃, explain, rest⟩ := commits_bind.mp rest
    obtain ⟨skip₃, s₃, cur₃, out₃, -, -, -, done₃, rfl, rfl, -⟩ := commits_query.mp explain
    have log₃ : (Cursor.next (Cursor.next (Cursor.next (.start i) first locked out₁) snap cur out₂)
        s₃ cur₃ out₃ : Cursor postgres).log = ({} : Changes) := by
      cases done₃
      simp [writes₁, writes, Changes.append]
    cases seen : out₃.reply with
    | none =>
        rw [seen] at rest
        obtain ⟨rfl, rfl⟩ := rest
        exact .inl ⟨_, rfl, log₃⟩
    | some pair =>
        rw [seen] at rest
        obtain ⟨reason, -, rfl, rfl⟩ := commits_orThrow_bind.mp rest
        exact .inl ⟨_, rfl, log₃⟩
  · rw [reply] at rest
    obtain ⟨rfl, rfl⟩ := rest
    have exclusive : Row.booking id ∈ exclusiveRows out₂.held := out₂.locks_held lock rfl
    have current := agree₂ _ exclusive
    rw [view₁, view₁] at current
    refine .inr ⟨booking, flight, first, locked, snap, cur, ⟨le₂, le₄, le₅, le₆,
      fun target some => kept₁ _ (out₁.locks_held (locks₁ target (by simpa using some)) rfl),
      ⟨row, target⟩, newest, cancellable, kept₂ _ exclusive, ?_, fun s mem => ?_⟩, le₁, by simp, rfl,
      Cursor.mem_held_next (.inr exclusive), rfl, by simp [writes₁, writes, Changes.append]⟩
    · exact (current : (T.state cur).bookings.find? id = _).symm.trans newest
    · have seat := seats_current releaseSeat agree₂ key_releaseSeat (by rw [writes]) mem
      rw [view₁, view₁] at seat
      exact seat (lockedSeats_sub mem)

theorem recordStartedRefund_commits {payment : Option Payment} {bookingId actor auditId : Uuid}
    {requestId : Option Uuid} {r : Unit}
    (h : Commits T n (recordStartedRefund payment bookingId actor auditId requestId now) c r c') :
    ∃ audit : List AuditRecordInput, c'.log = c.log.append { audit } ∧
      audit.map (fun a => (a.action, a.target)) =
        payment.toList.map fun p => (.paymentRefundPending, .payment p.id) := by
  cases payment with
  | none =>
      obtain ⟨-, rfl⟩ := h
      exact ⟨[], by simp [Changes.append], rfl⟩
  | some p => exact ⟨[_], recordAudit_commits h, rfl⟩

theorem cancelBooking_commits (framed : T.Framed) {id : Uuid} {scope : BookingAccessScope}
    {actor : Uuid} {ids : CancelIds} {requestId : Option Uuid}
    {r : Except NotCancelled CancelledBooking}
    (h : Commits T n (cancelBookingTransaction id scope actor ids requestId now) (.start i) r c') :
    (∃ reason, r = .error reason ∧ c'.log = {}) ∨
    ∃ booking flight first locked snap cur snap' cur' paid audit outbox,
      CancelledOn T n id scope now booking flight first locked snap cur ∧ i ≤ first ∧
      [(first, locked), (snap, cur)] <+: c'.spans ∧ .booking id ∈ exclusiveRows c'.held ∧
      cur ≤ snap' ∧ snap' ≤ cur' ∧ cur' ≤ n ∧
      paid = (T.state snap').payments.recheck (T.state cur').payments (isPaidFor id) ∧
      (∀ p ∈ paid, p ∈ (T.state n).payments) ∧
      c'.log = { bookings := [{ booking with status := .cancelled }],
                 seats := (lockedSeats [id] (T.state snap) (T.state cur)).map releaseSeat,
                 payments := paid.map (·.refundStarted now), audit, outbox } ∧
      c'.log.records = (.bookingCancelled, .booking id) ::
        (paid.map fun p => (.paymentRefundPending, .payment p.id)).take 1 ∧
      c'.log.events = [(.bookingCancelled, some id, now)] := by
  obtain ⟨cancelled, c₁, main, rest⟩ := commits_bind.mp h
  rcases cancelInTransaction_commits framed main with ⟨reason, rfl, log⟩ |
    ⟨booking, flight, first, locked, snap, cur, on, le, spans, pos, held, rfl, log⟩
  · obtain ⟨rfl, rfl⟩ := rest
    exact .inl ⟨reason, rfl, log⟩
  obtain ⟨payment, c₂, mark, rest⟩ := commits_bind.mp rest
  obtain ⟨skip, snap', cur', out, le₁, le₂, le₃, done, rfl, rfl, kept, agree⟩ :=
    (commits_query.mp mark).outcome framed
  obtain ⟨reply, writes⟩ := markRefundPendingForCancelledBooking_ok done
  have spans' := Commits.spans_prefix rest
  have held' : ∀ row ∈ exclusiveRows (c₁.next snap' cur' out).held, row ∈ exclusiveRows c'.held :=
    fun row mem => Commits.held_mono rest mem
  rw [view_payments (by rw [log])] at reply writes
  rw [view_payments (by rw [log])] at reply writes
  have current : ∀ p ∈ ((T.state snap').payments.recheck (T.state cur').payments (isPaidFor id)),
      p ∈ (T.state n).payments := fun p mem => by
    have := payments_current (·.refundStarted now) agree (fun _ => rfl) (by rw [writes]) mem
    rw [view_payments (by rw [log]), view_payments (by rw [log])] at this
    exact this (Table.mem_recheck.mp mem).1
  obtain ⟨_, c₃, audit, rest⟩ := commits_bind.mp rest
  obtain ⟨_, c₄, audit', rest⟩ := commits_bind.mp rest
  obtain ⟨_, c₅, event, rest⟩ := commits_bind.mp rest
  obtain ⟨read, c₆, back, rest⟩ := commits_bind.mp rest
  have same : c' = c₆ := by
    cases read with
    | none => exact (commits_raise rest).elim
    | some booking => exact rest.2
  obtain ⟨A, log₄, records⟩ := recordStartedRefund_commits audit'
  have log' := (findById_commits back).1
  rw [enqueue_commits event, log₄, recordAudit_commits audit, Cursor.next_log, writes, log,
    ← same] at log'
  simp only [Changes.append, List.append_nil, List.nil_append, List.singleton_append] at log'
  refine .inr ⟨booking, flight, first, locked, snap, cur, snap', cur', _, _ :: A, _, on, le, ?_,
    held' _ (Cursor.mem_held_next (.inl held)), ?_, le₂, le₃, rfl, current, log', ?_, ?_⟩
  · rw [Cursor.next_spans, spans] at spans'
    exact (List.prefix_append _ _).trans spans'
  · exact Nat.le_trans (pos ▸ Nat.le_refl _) le₁
  · rw [log']
    refine congrArg (List.cons _) (records.trans ?_)
    rw [reply]
    cases (T.state snap').payments.recheck (T.state cur').payments (isPaidFor id) <;> rfl
  · rw [log']
    rfl

/-! ### Expire -/

/-- A batch of holds that was expired by a statement which started on `snap` and
locked `cur`. -/
structure ExpiredOn (T : Timeline postgres) (n : Nat) (now : Instant) (due : List BookingRow)
    (snap cur : Nat) : Prop where
  snap_le : snap ≤ cur
  cur_le : cur ≤ n
  distinct : (due.map key).Nodup
  isDue : ∀ b ∈ due, isDue now b = true
  found : ∀ b ∈ due, ∃ u ∈ (T.state snap).bookings, key u = key b ∧ FlightBooking.isDue now u = true
  newest : ∀ b ∈ due, b ∈ (T.state cur).bookings
  kept : ∀ b ∈ due, T.Keeps (.booking b.id) cur n
  current : ∀ b ∈ due, b ∈ (T.state n).bookings
  seats : ∀ s ∈ lockedSeats (due.map (·.id)) (T.state snap) (T.state cur), s ∈ (T.state n).seats

theorem recordExpiry_commits {hold : ExpiredHold} {auditId eventId : Uuid} {r : Unit}
    (h : Commits T n (recordExpiry hold auditId eventId now) c r c') :
    ∃ a o, c'.log = c.log.append { audit := [a], outbox := [o] } ∧
      (a.action, a.target) = (.bookingExpired, .booking hold.bookingId) ∧
      (o.entry.eventType, o.entry.payload.body.bookingId?, o.entry.createdAt) =
        (.bookingExpired, some hold.bookingId, now) := by
  obtain ⟨_, c₁, audit, event⟩ := commits_bind.mp h
  have log := enqueue_commits event
  rw [recordAudit_commits audit] at log
  simp only [Changes.append, List.append_nil] at log
  exact ⟨_, _, by simpa only [Changes.append, List.append_nil] using log, rfl, rfl⟩

theorem recordExpiries_commits {ids : ExpiryIds} {index : Nat} {holds : List ExpiredHold} {r : Unit}
    (h : Commits T n (recordExpiries ids now index holds) c r c') :
    ∃ audit outbox, c'.log = c.log.append { audit, outbox } ∧
      audit.map (fun a => (a.action, a.target)) =
        holds.map (fun b => (.bookingExpired, .booking b.bookingId)) ∧
      outbox.map (fun o => (o.entry.eventType, o.entry.payload.body.bookingId?, o.entry.createdAt)) =
        holds.map fun b => (.bookingExpired, some b.bookingId, now) := by
  induction holds generalizing index c with
  | nil =>
      obtain ⟨-, rfl⟩ := h
      exact ⟨[], [], by simp [Changes.append], rfl, rfl⟩
  | cons hold holds ih =>
      obtain ⟨_, c₁, first, rest⟩ := commits_bind.mp h
      obtain ⟨a, o, log₁, record, event⟩ := recordExpiry_commits first
      obtain ⟨A, O, log, records, events⟩ := ih rest
      refine ⟨a :: A, o :: O, ?_, ?_, ?_⟩
      · rw [log, log₁]
        simp [Changes.append]
      · rw [List.map_cons, List.map_cons, records, record]
      · rw [List.map_cons, List.map_cons, events, event]

theorem expireBatch_commits (framed : T.Framed) {batchSize : Nat} {ids : ExpiryIds} {r : Nat}
    (h : Commits T n (expireBatchTransaction now batchSize ids) (.start i) r c') :
    ∃ due snap cur audit outbox, ExpiredOn T n now due snap cur ∧ i ≤ snap ∧
      [(snap, cur)] <+: c'.spans ∧ r = due.length ∧
      (∀ b ∈ due, .booking b.id ∈ exclusiveRows c'.held) ∧
      c'.log = { bookings := due.map fun b => { b with status := .expired },
                 seats := (lockedSeats (due.map (·.id)) (T.state snap) (T.state cur)).map releaseSeat,
                 audit, outbox } ∧
      c'.log.records = due.map (fun b => (.bookingExpired, .booking b.id)) ∧
      c'.log.events = due.map fun b => (.bookingExpired, some b.id, now) := by
  obtain ⟨holds, c₁, main, rest⟩ := commits_bind.mp h
  obtain ⟨skip, snap, cur, out, le₁, le₂, le₃, done, rfl, rfl, kept, agree⟩ :=
    (commits_query.mp main).outcome framed
  have spans := rest.spans_prefix
  have held : ∀ row ∈ exclusiveRows out.held, row ∈ exclusiveRows c'.held :=
    fun row mem => rest.held_mono (Cursor.mem_held_next (.inr mem))
  obtain ⟨_, c₂, records, rfl, rfl⟩ := commits_bind.mp rest
  simp only [Cursor.start_view] at done agree
  obtain ⟨reply, writes, locks⟩ := expireDueHolds_ok done
  set due := dueHolds now batchSize skip (T.state snap) (T.state cur)
  obtain ⟨A, O, log, audit, events⟩ := recordExpiries_commits records
  rw [Cursor.next_log, Cursor.start_log, writes] at log
  simp only [Changes.append, List.append_nil, List.nil_append] at log
  have count : out.reply.length = due.length := by simpa using congrArg List.length reply
  have exclusive : ∀ b ∈ due, Row.booking b.id ∈ exclusiveRows out.held :=
    fun b mem => out.locks_held (locks b mem) rfl
  refine ⟨due, snap, cur, A, O, ⟨le₂, le₃, nodup_dueHolds .., fun b mem => (mem_dueHolds mem).2.1,
    fun b mem => (mem_dueHolds mem).2.2, fun b mem => (mem_dueHolds mem).1,
    fun b mem => kept _ (exclusive b mem), fun b mem => ?_, fun s mem => ?_⟩, le₁,
    by simpa using spans, count, fun b mem => held _ (exclusive b mem), log, ?_, ?_⟩
  · exact Table.mem_of_find?_eq (agree _ (exclusive b mem)) (mem_dueHolds mem).1
  · exact seats_current releaseSeat agree key_releaseSeat (by rw [writes]) mem
      (lockedSeats_sub mem)
  · have ids : out.reply.map (fun b => (AuditAction.bookingExpired, AuditTarget.booking b.bookingId)) =
        due.map fun b => (.bookingExpired, .booking b.id) := by
      simpa [Function.comp_def] using
        congrArg (List.map fun id => (AuditAction.bookingExpired, AuditTarget.booking id)) reply
    rw [log]
    exact audit.trans ids
  · have ids : out.reply.map (fun b => (EventType.bookingExpired, some b.bookingId, now)) =
        due.map fun b => (.bookingExpired, some b.id, now) := by
      simpa [Function.comp_def] using
        congrArg (List.map fun id => (EventType.bookingExpired, some id, now)) reply
    rw [log]
    exact events.trans ids

/-! ### Confirm -/

/-- A hold that was confirmed by a statement which started on `snap` and locked
`cur`. -/
structure ConfirmedOn (T : Timeline postgres) (n : Nat) (id : Uuid) (scope : BookingAccessScope)
    (now : Instant) (booking : BookingRow) (snap cur : Nat) : Prop where
  snap_le : snap ≤ cur
  cur_le : cur ≤ n
  found : ∃ u, (T.state snap).bookings.find? id = some u ∧ isConfirmable scope now u = true
  newest : (T.state cur).bookings.find? id = some booking
  confirmable : isConfirmable scope now booking = true
  kept : T.Keeps (.booking id) cur n
  current : (T.state n).bookings.find? id = some booking
  seats : ∀ s ∈ lockedSeats [id] (T.state snap) (T.state cur), s ∈ (T.state n).seats

theorem confirmHold_commits (framed : T.Framed) {id : Uuid} {scope : BookingAccessScope}
    {r : Option Booking} (h : Commits T n (confirmHold id scope now) (.start i) r c') :
    (r = none ∧ c'.log = {}) ∨
    ∃ booking confirmed snap cur at', ConfirmedOn T n id scope now booking snap cur ∧ i ≤ snap ∧
      [(snap, cur)] <+: c'.spans ∧ .booking id ∈ exclusiveRows c'.held ∧ r = some confirmed ∧
      c'.log = { bookings := [{ booking with status := .confirmed }],
                 seats := (lockedSeats [id] (T.state snap) (T.state cur)).map bookSeat } ∧
      cur ≤ at' ∧ at' ≤ n ∧
      mapBooking { booking with status := .confirmed }
        ((passengersOf (T.state at') id).map mapPassenger) = .ok confirmed := by
  obtain ⟨won, c₁, main, rest⟩ := commits_bind.mp h
  obtain ⟨skip, snap, cur, out, le₁, le₂, le₃, done, rfl, rfl, kept, agree⟩ :=
    (commits_query.mp main).outcome framed
  simp only [Cursor.start_view] at done agree
  rcases confirmHoldRow_ok done with ⟨reply, writes⟩ |
    ⟨found, booking, old, confirmable, newest, confirmable', reply, writes, lock⟩
  · rw [reply] at rest
    obtain ⟨rfl, rfl⟩ := rest
    exact .inl ⟨rfl, by simp [writes, Changes.append]⟩
  · rw [reply] at rest
    have spans := Commits.spans_prefix rest
    have held : ∀ row ∈ exclusiveRows out.held, row ∈ exclusiveRows c'.held :=
      fun row mem => Commits.held_mono rest (Cursor.mem_held_next (.inr mem))
    obtain ⟨read, c₂, back, rest⟩ := commits_bind.mp rest
    cases read with
    | none => exact (commits_raise rest).elim
    | some confirmed =>
        obtain ⟨rfl, rfl⟩ := rest
        obtain ⟨log, seen⟩ := findById_commits back
        rw [Cursor.next_log, Cursor.start_log, writes] at log
        simp only [Changes.append, List.append_nil, List.nil_append] at log
        have id' : booking.id = id := Table.key_of_find? newest
        have exclusive : Row.booking id ∈ exclusiveRows out.held := out.locks_held lock rfl
        obtain ⟨s₁, s₂, row, le₄, le₅, le₆, found', -, mapped⟩ := seen confirmed rfl
        have row' : row = { booking with status := .confirmed } := by
          rw [Cursor.view, Cursor.next_log, Cursor.start_log, writes] at found'
          change ((T.state s₁).bookings.put _).find? id = _ at found'
          rw [Table.find?_put, if_pos] at found'
          · exact (Option.some.inj found').symm
          · exact id'.symm
        have passengers : passengersOf ((Cursor.next (.start i) snap cur out).view T s₂) id =
            passengersOf (T.state s₂) id := by
          rw [Cursor.view, Cursor.next_log, Cursor.start_log, writes]
          rfl
        rw [row', passengers] at mapped
        exact .inr ⟨booking, confirmed, snap, cur, s₂, ⟨le₂, le₃, ⟨found, old, confirmable⟩, newest,
          confirmable', kept _ exclusive, (agree _ exclusive).symm.trans newest,
          fun s mem => seats_current bookSeat agree key_bookSeat (by rw [writes]) mem
            (lockedSeats_sub mem)⟩, le₁, by simpa using spans, held _ exclusive, rfl, log,
          Nat.le_trans le₄ le₅, le₆, mapped⟩

/-! ### Seat change -/

/-- A passenger's seat was changed from `own` to `wanted`, both as version `n` has
them. -/
structure MovedBetween (T : Timeline postgres) (n : Nat) (id : Uuid) (flightId : Uuid)
    (own wanted : FlightSeat) : Prop where
  own_mem : own ∈ (T.state n).seats
  own_flight : own.flightId = flightId
  owned : own.bookingId = some id
  booked : own.status = .booked
  wanted_mem : wanted ∈ (T.state n).seats
  wanted_flight : wanted.flightId = flightId
  available : wanted.status = .available
  sameClass : wanted.fareClass = own.fareClass

theorem moveBetweenSeats_commits (framed : T.Framed) {id : Uuid} {position : Nat}
    {flightId : Uuid} {current target : SeatPosition} (moves : current ≠ target)
    {r : ChangeSeatResult} (clean : c.log = {})
    (h : Commits T n (moveBetweenSeats id position flightId current target) c r c') :
    ((∃ reason, r = .refused reason) ∧ c'.log = {}) ∨
    ∃ own wanted at' moved, MovedBetween T n id flightId own wanted ∧ own.position = current ∧
      wanted.position = target ∧ r = .changed current target ∧ c.pos ≤ at' ∧ at' ≤ n ∧
      moved = ((T.state at').passengers.find? (id, position)).toList ∧
      (∀ p ∈ moved, p ∈ (T.state n).passengers) ∧
      c'.log = { seats := [releaseSeat own, takeSeat id wanted],
                 passengers := moved.map fun p => { p with seat := some target } } := by
  have view : ∀ k, c.view T k = T.state k := fun k => by rw [Cursor.view, clean]; rfl
  obtain ⟨locked, c₁, lock, rest⟩ := commits_bind.mp h
  obtain ⟨skip₁, s₁, cur₁, out₁, le₁, le₁', le₁'', done₁, rfl, rfl, kept⟩ := commits_query.mp lock
  rw [view, view] at done₁
  obtain ⟨writes₁, seats⟩ := lockSeats_ok done₁
  obtain ⟨verdict, ok, rest⟩ := commits_orThrow_bind.mp rest
  have log₁ : (c.next s₁ cur₁ out₁).log = ({} : Changes) := by
    simp [writes₁, clean, Changes.append]
  cases verdict with
  | some reason =>
      obtain ⟨rfl, rfl⟩ := rest
      exact .inl ⟨⟨reason, rfl⟩, log₁⟩
  | none =>
  obtain ⟨own, memOwn, wanted, memWanted, ownAt, owned, booked, wantedAt, available, sameClass⟩ :=
    seatVerdict_none ok
  obtain ⟨ownCur, ownFlight, -, ownLock⟩ := seats own memOwn
  obtain ⟨wantedCur, wantedFlight, -, wantedLock⟩ := seats wanted memWanted
  -- Both seats stay as they were locked until the commit.
  have stays : ∀ s : FlightSeat, s ∈ (T.state cur₁).seats → (.seat (key s), .update) ∈ out₁.locks →
      ∀ k, cur₁ ≤ k → k ≤ n → s ∈ (T.state k).seats := fun s mem lock k le le' =>
    Table.mem_of_find?_eq (framed.agree le ((kept _ (out₁.locks_held lock rfl)).mono le')) mem
  obtain ⟨_, c₂, free, rest⟩ := commits_bind.mp rest
  obtain ⟨skip₂, s₂, cur₂, out₂, le₂, le₂', le₂'', done₂, -, rfl, -⟩ := commits_query.mp free
  have view₁ : ∀ k, (c.next s₁ cur₁ out₁).view T k = T.state k :=
    fun k => by rw [Cursor.view, log₁]; rfl
  rw [view₁, view₁] at done₂
  have writes₂ := updateSeat_ok done₂ (stays own ownCur ownLock cur₂ (Nat.le_trans le₂ le₂') le₂'')
    (show (own.flightId, own.position) = _ by rw [ownFlight, ownAt])
    ⟨own, stays own ownCur ownLock s₂ le₂ (Nat.le_trans le₂' le₂''), rfl⟩
  have log₂ : ((c.next s₁ cur₁ out₁).next s₂ cur₂ out₂).log =
      ({ seats := [releaseSeat own] } : Changes) := by
    rw [Cursor.next_log, log₁, writes₂]
    rfl
  obtain ⟨_, c₃, take, rest⟩ := commits_bind.mp rest
  obtain ⟨skip₃, s₃, cur₃, out₃, le₃, le₃', le₃'', done₃, -, rfl, -⟩ := commits_query.mp take
  have apart : key wanted ≠ key (releaseSeat own) := fun same =>
    moves ((ownAt.symm.trans (congrArg Prod.snd same).symm).trans wantedAt)
  have view₂ : ∀ k, cur₁ ≤ k → k ≤ n →
      wanted ∈ (((c.next s₁ cur₁ out₁).next s₂ cur₂ out₂).view T k).seats := fun k le le' => by
    rw [Cursor.view, log₂]
    exact Table.mem_put.mpr (.inr ⟨stays wanted wantedCur wantedLock k le le', apart⟩)
  have le₄ : cur₁ ≤ s₃ := Nat.le_trans (Nat.le_trans le₂ le₂') le₃
  have writes₃ := updateSeat_ok done₃ (view₂ cur₃ (Nat.le_trans le₄ le₃') le₃'')
    (show (wanted.flightId, wanted.position) = _ by rw [wantedFlight, wantedAt])
    ⟨wanted, view₂ s₃ le₄ (Nat.le_trans le₃' le₃''), rfl⟩
  obtain ⟨_, c₄, copy, rest⟩ := commits_bind.mp rest
  obtain ⟨skip₄, s₅, cur₅, out₅, le₅, le₅', le₅'', done₅, -, rfl, -, agree⟩ :=
    (commits_query.mp copy).outcome framed
  obtain ⟨rfl, rfl⟩ := rest
  have log₃ : (((c.next s₁ cur₁ out₁).next s₂ cur₂ out₂).next s₃ cur₃ out₃).log =
      ({ seats := [releaseSeat own, takeSeat id wanted] } : Changes) := by
    rw [Cursor.next_log, log₂, writes₃]
    rfl
  have passengers : ∀ k, ((((c.next s₁ cur₁ out₁).next s₂ cur₂ out₂).next s₃ cur₃ out₃).view T
      k).passengers = (T.state k).passengers := fun k => by
    rw [Cursor.view, log₃]
    rfl
  have writes₅ := updatePassengerSeat_ok done₅
  rw [passengers] at writes₅
  have current := stays own ownCur ownLock n le₁'' (Nat.le_refl n)
  refine .inr ⟨own, wanted, cur₅, _, ⟨current, ownFlight, owned, booked,
    stays wanted wantedCur wantedLock n le₁'' (Nat.le_refl n), wantedFlight, available, sameClass⟩,
    ownAt, wantedAt, rfl, ?_, le₅'', rfl, fun p mem => ?_, ?_⟩
  · exact Nat.le_trans (Nat.le_trans (Nat.le_trans le₁ le₁') le₄)
      (Nat.le_trans (Nat.le_trans le₃' le₅) le₅')
  · have := passengers_current (fun p => { p with seat := some target }) agree (fun _ => rfl)
      (by rw [writes₅]) mem
    rw [passengers, passengers] at this
    exact this (Table.mem_of_find? (Option.mem_toList.mp mem))
  · rw [Cursor.next_log, log₃, writes₅]
    simp only [Changes.append, List.append_nil, List.nil_append]

/-- A seat change that changed something. The booking was locked on version
`lock` and the passenger read on version `read`. -/
structure ReseatedOn (T : Timeline postgres) (n : Nat) (id : Uuid) (position : Nat)
    (target : SeatPosition) (booking : BookingRow) (passenger : PassengerRow)
    (own wanted : FlightSeat) (lock read : Nat) : Prop where
  lock_le : lock ≤ read
  read_le : read ≤ n
  kept : T.Keeps (.booking id) lock n
  current : (T.state n).bookings.find? id = some booking
  confirmed : booking.status = .confirmed
  passenger_read : (T.state read).passengers.find? (id, position) = some passenger
  sits : passenger.seat = some own.position
  between : MovedBetween T n id booking.flightId own wanted
  arrives : wanted.position = target
  moves : own.position ≠ target

theorem changeSeatInTransaction_commits (framed : T.Framed) {id : Uuid} {position : Nat}
    {target : SeatPosition} {scope : BookingAccessScope} {r : ChangeSeatResult}
    (h : Commits T n (changeSeatInTransaction id position target scope now) (.start i) r c') :
    ((∀ old new, r ≠ .changed old new) ∧ c'.log = {}) ∨
    ∃ booking passenger own wanted lock read at' moved,
      ReseatedOn T n id position target booking passenger own wanted lock read ∧ i ≤ lock ∧
      .booking id ∈ exclusiveRows c'.held ∧ r = .changed own.position target ∧
      read ≤ at' ∧ at' ≤ n ∧
      moved = ((T.state at').passengers.find? (id, position)).toList ∧
      (∀ p ∈ moved, p ∈ (T.state n).passengers) ∧
      c'.log = { seats := [releaseSeat own, takeSeat id wanted],
                 passengers := moved.map fun p => { p with seat := some target } } := by
  obtain ⟨found, c₁, first, rest⟩ := commits_bind.mp h
  obtain ⟨skip₁, s₁, lock, out₁, le₁, le₂, le₃, done₁, rfl, rfl, kept₁, agree₁⟩ :=
    (commits_query.mp first).outcome framed
  simp only [Cursor.start_view] at done₁ agree₁
  have writes₁ := lockBookingAndFlight_writes done₁
  have log₁ : ((Cursor.start i).next s₁ lock out₁ : Cursor postgres).log = ({} : Changes) := by
    simp [writes₁, Changes.append]
  have view₁ : ∀ k, ((Cursor.start i).next s₁ lock out₁ : Cursor postgres).view T k = T.state k :=
    fun k => by rw [Cursor.view, log₁]; rfl
  cases reply₁ : out₁.reply with
  | none =>
      rw [reply₁] at rest
      obtain ⟨rfl, rfl⟩ := rest
      exact .inl ⟨fun _ _ => by simp, log₁⟩
  | some pair =>
  obtain ⟨booking, flight⟩ := pair
  rw [reply₁] at rest
  obtain ⟨newest, -, bookingLock⟩ := lockBookingAndFlight_some done₁ reply₁
  have bookingHeld : Row.booking id ∈ exclusiveRows out₁.held := out₁.locks_held bookingLock rfl
  obtain ⟨_, c₂, second, rest⟩ := commits_bind.mp rest
  obtain ⟨skip₂, read, cur₂, out₂, le₄, le₅, le₆, done₂, rfl, rfl, -⟩ := commits_query.mp second
  rw [view₁, view₁] at done₂
  have log₂ : (((Cursor.start i).next s₁ lock out₁).next read cur₂ out₂ : Cursor postgres).log =
      ({} : Changes) := by
    cases done₂
    simp [writes₁, Changes.append]
  have reply₂ : out₂.reply = (T.state read).passengers.find? (id, position) := by
    cases done₂
    rfl
  cases seen : out₂.reply with
  | none =>
      rw [seen] at rest
      obtain ⟨rfl, rfl⟩ := rest
      exact .inl ⟨fun _ _ => by simp, log₂⟩
  | some passenger =>
  rw [seen] at rest
  by_cases confirmed : booking.status = .confirmed
  · cases seat : passenger.seat with
    | none =>
        simp only [confirmed, seat] at rest
        exact (commits_raise rest).elim
    | some current =>
        simp only [confirmed, seat, ne_eq, not_true_eq_false, if_false] at rest
        by_cases same : current = target
        · rw [if_pos same] at rest
          obtain ⟨rfl, rfl⟩ := rest
          exact .inl ⟨fun _ _ => by simp, log₂⟩
        rw [if_neg same] at rest
        by_cases sale : isBookable flight.status flight.departureAt now = true
        · rw [if_neg (not_not.mpr sale)] at rest
          rcases moveBetweenSeats_commits framed same log₂ rest with ⟨⟨reason, rfl⟩, log⟩ |
            ⟨own, wanted, at', moved, between, ownAt, wantedAt, rfl, le₇, le₈, found, current', log⟩
          · exact .inl ⟨fun _ _ => by simp, log⟩
          · refine .inr ⟨booking, passenger, own, wanted, lock, read, at', moved,
              ⟨le₄, Nat.le_trans le₅ le₆, kept₁ _ bookingHeld,
                (agree₁ _ bookingHeld).symm.trans newest, confirmed, reply₂.symm.trans seen,
                by rw [seat, ownAt], between, wantedAt, fun eq => same (ownAt ▸ eq)⟩,
              Nat.le_trans le₁ le₂, ?_, by rw [ownAt], Nat.le_trans le₅ le₇, le₈, found,
              current', log⟩
            exact Commits.held_mono rest
              (Cursor.mem_held_next (.inl (Cursor.mem_held_next (.inr bookingHeld))))
        · rw [if_pos sale] at rest
          obtain ⟨rfl, rfl⟩ := rest
          exact .inl ⟨fun _ _ => by simp, log₂⟩
  · simp only [ne_eq, confirmed, not_false_eq_true, if_true] at rest
    obtain ⟨rfl, rfl⟩ := rest
    exact .inl ⟨fun _ _ => by simp, log₂⟩

theorem changeSeat_commits (framed : T.Framed) {id : Uuid} {position : Nat}
    {target : SeatPosition} {scope : BookingAccessScope} {actor auditId : Uuid}
    {requestId : Option Uuid} {r : Except SeatChangeRefusal SeatSet}
    (h : Commits T n (changeSeatTransaction id position target scope actor auditId requestId now)
      (.start i) r c') :
    c'.log = {} ∨
    ∃ booking passenger own wanted lock read at' moved audit,
      ReseatedOn T n id position target booking passenger own wanted lock read ∧ i ≤ lock ∧
      .booking id ∈ exclusiveRows c'.held ∧ read ≤ at' ∧ at' ≤ n ∧
      moved = ((T.state at').passengers.find? (id, position)).toList ∧
      (∀ p ∈ moved, p ∈ (T.state n).passengers) ∧
      c'.log = { seats := [releaseSeat own, takeSeat id wanted],
                 passengers := moved.map fun p => { p with seat := some target }, audit } ∧
      c'.log.records = [(.bookingSeatChanged, .booking id)] := by
  obtain ⟨result, c₁, main, rest⟩ := commits_bind.mp h
  have readBack : ∀ {c changed}, Commits T n
      (changeSeatTransaction.readBack id scope changed) c r c' → c'.log = c.log := by
    intro c changed h
    obtain ⟨read, c₂, back, rest⟩ := commits_bind.mp h
    cases read with
    | none => exact (commits_raise rest).elim
    | some booking =>
        obtain ⟨-, rfl⟩ := rest
        exact (findById_commits back).1
  rcases changeSeatInTransaction_commits framed main with ⟨unchanged, log⟩ |
    ⟨booking, passenger, own, wanted, lock, read, at', moved, on, le, held, rfl, le', le'', found,
      current, log⟩
  · cases result with
    | changed old new => exact (unchanged old new rfl).elim
    | unchanged => exact .inl ((readBack rest).trans log)
    | refused reason =>
        obtain ⟨-, rfl⟩ := rest
        exact .inl log
  · have held' := Commits.held_mono rest held
    obtain ⟨_, c₂, audit, rest⟩ := commits_bind.mp rest
    have log' := readBack rest
    rw [recordAudit_commits audit, log] at log'
    simp only [Changes.append, List.append_nil, List.nil_append] at log'
    refine .inr ⟨booking, passenger, own, wanted, lock, read, at', moved, _, on, le, held', le', le'',
      found, current, log', ?_⟩
    rw [log']
    rfl

/-! ### Create -/

/-- The free seats that were held for a new booking, as version `n` has them. -/
structure HeldOn (T : Timeline postgres) (n : Nat) (flightId : Uuid) (now : Instant)
    (free : List FlightSeat) (seats : List HeldSeat) : Prop where
  distinct : (free.map key).Nodup
  current : ∀ s ∈ free, s ∈ (T.state n).seats
  flight : ∀ s ∈ free, s.flightId = flightId
  available : ∀ s ∈ free, s.status = .available
  seats : (seats.map fun s => (s.seat, s.fareClass)).Perm
    (free.map fun s => (s.position, s.fareClass))
  onSale : ∃ m ≤ n, flightOnSale flightId now (T.state m) = true

theorem toHeldSeat_ok {flightId : Uuid} {row : PricedSeat} {s : HeldSeat}
    (h : toHeldSeat flightId row = .ok s) : (s.seat, s.fareClass) = (row.position, row.fareClass) := by
  unfold toHeldSeat at h
  split at h
  · cases h
  · cases h
    rfl

theorem mapM_toHeldSeat {flightId : Uuid} {rows : List PricedSeat} {seats : List HeldSeat}
    (h : rows.mapM (toHeldSeat flightId) = .ok seats) :
    seats.map (fun s => (s.seat, s.fareClass)) = rows.map fun r => (r.position, r.fareClass) := by
  have all := forall₂_of_mapM h
  clear h
  induction all with
  | nil => rfl
  | cons first _ ih => rw [List.map_cons, List.map_cons, toHeldSeat_ok first, ih]

theorem classifyNothingHeld_reads (flightId : Uuid) :
    Writes (fun _ w => w = ({} : Changes)) (classifyNothingHeld flightId now) := by
  refine writes_bind (writes_query ?_) fun found => ?_
  · intro skip snap cur out done
    cases done
    rfl
  · cases found with
    | none => trivial
    | some flight => dsimp only; split <;> trivial

theorem holdAutoSeats_commits (framed : T.Framed) {flightId id : Uuid} {count : Nat}
    {fareClass : FareClass} {r : Except HoldRefusal (List HeldSeat)} (positive : 0 < count)
    (h : Commits T n (holdAutoSeats flightId id count fareClass now) (.start i) r c') :
    ((∃ refusal, r = .error refusal) ∧ c'.log = {}) ∨
    ∃ free seats, HeldOn T n flightId now free seats ∧ r = .ok seats ∧
      c'.log = { seats := free.map (holdSeat id) } := by
  obtain ⟨held, c₁, main, rest⟩ := commits_bind.mp h
  obtain ⟨skip, snap, cur, out, le₁, le₂, le₃, done, rfl, rfl, kept, agree⟩ :=
    (commits_query.mp main).outcome framed
  simp only [Cursor.start_view] at done agree
  rcases holdAuto_ok done with ⟨reply, writes⟩ |
    ⟨free, distinct, length, isFree, sale, reply, writes⟩
  · rw [reply, if_neg (by simp)] at rest
    have log : ((Cursor.start i).next snap cur out : Cursor postgres).log = ({} : Changes) := by
      simp [writes, Changes.append]
    refine .inl ?_
    obtain ⟨reason, c₂, why, rest⟩ := commits_bind.mp rest
    have log₂ := (Commits.reads (classifyNothingHeld_reads flightId) why).trans log
    cases reason with
    | some reason =>
        obtain ⟨rfl, rfl⟩ := rest
        exact ⟨⟨reason, rfl⟩, log₂⟩
    | none =>
        obtain ⟨hasClass, c₃, look, rfl, rfl⟩ := commits_bind.mp rest
        have none : Writes (fun _ w => w = ({} : Changes)) (query (hasFareClass flightId fareClass)) :=
          writes_query fun skip snap cur out done => by cases done; rfl
        exact ⟨⟨_, rfl⟩, (Commits.reads none look).trans log₂⟩
  · have many : 0 < out.reply.length := by simp [reply, length, positive]
    rw [if_pos many] at rest
    obtain ⟨seats, ok, rfl, rfl⟩ := commits_orThrow_bind.mp rest
    refine .inr ⟨free, seats, ⟨distinct, fun s mem => ?_, fun s mem => (isFree s mem).2.1,
      fun s mem => (isFree s mem).2.2, ?_, cur, le₃, sale ?_⟩, rfl, ?_⟩
    · exact seats_current (holdSeat id) agree (key_holdSeat id) (by rw [writes]) mem (isFree s mem).1
    · rw [mapM_toHeldSeat ok, reply]
      simp [priceSeat, holdSeat, Function.comp_def]
    · exact List.ne_nil_of_length_pos (length ▸ positive)
    · rw [Cursor.next_log, Cursor.start_log, writes]
      simp only [Changes.append, List.append_nil, List.nil_append]

theorem classifyRefusal_reads (flightId : Uuid) (requested : List SeatPosition)
    (rows : List PricedSeat) :
    Writes (fun _ w => w = ({} : Changes)) (classifyRefusal flightId requested rows now) := by
  refine writes_bind ?_ fun reason => ?_
  · unfold classifyRefusal.classifyIfEmpty
    split
    · exact classifyNothingHeld_reads flightId
    · trivial
  · cases reason with
    | some reason => trivial
    | none => dsimp only; split <;> trivial

/-- The seats found for a list of codes, in its order, are the seats of those
codes: none twice, none missing. -/
theorem filterMap_find?_perm {requested : List SeatPosition} {rows : List PricedSeat}
    (distinct : (rows.map (·.position)).Nodup) (length : rows.length = requested.length)
    (wanted : ∀ r ∈ rows, r.position ∈ requested) :
    (requested.filterMap fun code => rows.find? fun row => row.position = code).Perm rows := by
  have positions : (rows.map (·.position)).Perm requested :=
    List.Subperm.perm_of_length_le (List.subperm_of_subset distinct fun code mem => by
      obtain ⟨r, memR, rfl⟩ := List.mem_map.mp mem
      exact wanted r memR) (by simp [length])
  have found : ∀ r ∈ rows, (rows.find? fun row => row.position = r.position) = some r := by
    intro r mem
    cases h : rows.find? fun row => row.position = r.position with
    | none => simpa using List.find?_eq_none.mp h r mem
    | some u =>
        have same : u.position = r.position := by simpa using List.find?_some h
        rw [List.inj_on_of_nodup_map distinct (List.mem_of_find?_eq_some h) mem same]
  refine (positions.symm.filterMap _).trans ?_
  rw [List.filterMap_map]
  have all : rows.filterMap ((fun code => rows.find? fun row => row.position = code) ∘
      fun r => r.position) = rows.filterMap some :=
    List.filterMap_congr fun r mem => found r mem
  rw [all, List.filterMap_some]

theorem holdChosenSeats_commits (framed : T.Framed) {flightId id : Uuid}
    {requested : List SeatPosition} {r : Except HoldRefusal (List HeldSeat)}
    (nonempty : requested ≠ [])
    (h : Commits T n (holdChosenSeats flightId id requested now) (.start i) r c') :
    ((∃ refusal, r = .error refusal) ∧ c'.log = {}) ∨
    ∃ free seats, HeldOn T n flightId now free seats ∧ r = .ok seats ∧
      c'.log = { seats := free.map (holdSeat id) } := by
  obtain ⟨held, c₁, main, rest⟩ := commits_bind.mp h
  obtain ⟨skip, snap, cur, out, le₁, le₂, le₃, done, rfl, rfl, kept, agree⟩ :=
    (commits_query.mp main).outcome framed
  simp only [Cursor.start_view] at done agree
  rcases holdChosen_ok done with ⟨reply, writes⟩ |
    ⟨free, distinct, length, isFree, sale, reply, writes⟩
  · have log : ((Cursor.start i).next snap cur out : Cursor postgres).log = ({} : Changes) := by
      simp [writes.resolve_right nonempty, Changes.append]
    cases answer : out.reply with
    | mk rows held =>
        rw [answer] at rest reply
        obtain rfl : held = false := reply
        simp only [Bool.false_eq_true, if_false] at rest
        obtain ⟨reason, c₂, why, rfl, rfl⟩ := commits_bind.mp rest
        exact .inl ⟨⟨reason, rfl⟩, (Commits.reads (classifyRefusal_reads ..) why).trans log⟩
  · rw [reply] at rest
    simp only [if_true] at rest
    obtain ⟨seats, ok, rfl, rfl⟩ := commits_orThrow_bind.mp rest
    refine .inr ⟨free, seats, ⟨distinct, fun s mem => ?_, fun s mem => (isFree s mem).2.1,
      fun s mem => (isFree s mem).2.2.2, ?_, cur, le₃, sale ?_⟩, rfl, ?_⟩
    · exact seats_current (holdSeat id) agree (key_holdSeat id) (by rw [writes]) mem (isFree s mem).1
    · have positions : (free.map (·.position)).Nodup := by
        refine List.Nodup.map_on (fun a memA b memB same => ?_) (List.Nodup.of_map _ distinct)
        refine List.inj_on_of_nodup_map distinct memA memB (Prod.ext ?_ same)
        exact (isFree a memA).2.1.trans (isFree b memB).2.1.symm
      have inOrder : (requested.filterMap fun code => (free.map (priceSeat (T.state cur))).find?
          fun row => row.position = code).Perm _ := filterMap_find?_perm
        (by simpa [priceSeat, Function.comp_def] using positions) (by simpa using length)
        (by simpa [priceSeat] using fun s mem => (isFree s mem).2.2.1)
      rw [mapM_toHeldSeat ok]
      refine (inOrder.map _).trans ?_
      simp [priceSeat, Function.comp_def]
    · refine List.ne_nil_of_length_pos (length ▸ List.length_pos_iff.mpr nonempty)
    · rw [Cursor.next_log, Cursor.start_log, writes]
      simp only [Changes.append, List.append_nil, List.nil_append]

theorem holdSeats_commits (framed : T.Framed) {flightId id : Uuid} {request : CreateBookingInput}
    {r : Except HoldRefusal (List HeldSeat)}
    (h : Commits T n (holdSeats flightId id (toHoldRequest request) now) (.start i) r c') :
    ((∃ refusal, r = .error refusal) ∧ c'.log = {}) ∨
    ∃ free seats, HeldOn T n flightId now free seats ∧ r = .ok seats ∧
      c'.log = { seats := free.map (holdSeat id) } := by
  cases request with
  | auto fareClass names count => exact holdAutoSeats_commits framed count.1 h
  | chosen passengers count distinct =>
      refine holdChosenSeats_commits framed (fun empty => ?_) h
      have length : 1 ≤ passengers.length := count.1
      rw [List.map_eq_nil_iff.mp empty] at length
      simp at length

/-- A booking was inserted with its passengers, or its reference was taken. -/
theorem insertBooking_commits (framed : T.Framed) {booking : Booking} {r : Bool}
    (unwritten : c.log.bookings = []) (unwritten' : c.log.passengers = [])
    (h : Commits T n (insertBooking booking) c r c') :
    (r = false ∧ c'.log = c.log) ∨
    (r = true ∧ (T.state n).bookings.find? booking.id = none ∧
      (∀ p ∈ passengerRows booking.id booking.passengers,
        (T.state n).passengers.find? (key p) = none) ∧
      c'.log = c.log.append {
        bookings := [⟨booking.id, booking.reference, booking.flightId, booking.ownerAccountId,
          booking.status, booking.createdAt, booking.holdExpiresAt⟩]
        passengers := passengerRows booking.id booking.passengers }) := by
  obtain ⟨inserted, c₁, main, rest⟩ := commits_bind.mp h
  obtain ⟨skip, snap, cur, out, le₁, le₂, le₃, done, rfl, rfl, kept, agree⟩ :=
    (commits_query.mp main).outcome framed
  rcases insertBookingRow_ok done with ⟨reply, writes⟩ | ⟨reply, writes, fresh, -⟩
  · rw [reply] at rest
    obtain ⟨rfl, rfl⟩ := rest
    exact .inl ⟨rfl, by simp [writes, Changes.append]⟩
  · rw [reply] at rest
    obtain ⟨_, c₂, second, rfl, rfl⟩ := commits_bind.mp rest
    obtain ⟨skip₂, snap₂, cur₂, out₂, -, -, -, done₂, -, rfl, -, agree₂⟩ :=
      (commits_query.mp second).outcome framed
    obtain ⟨writes₂, valid⟩ := insertPassengers_ok done₂
    refine .inr ⟨rfl, ?_, fun p mem => ?_, ?_⟩
    · have same := agree _ (out.touched_held (Changes.booking_touched
        (by rw [writes]; exact List.mem_singleton.mpr rfl)))
      rw [view_bookings unwritten] at fresh
      rw [← view_bookings (c := c) unwritten n, ← fresh, ← view_bookings (c := c) unwritten cur]
      exact same.symm
    · have same := agree₂ _ (out₂.touched_held (Changes.passenger_touched
        (by rw [writes₂]; exact mem)))
      have unwritten₂ : (c.next snap cur out).log.passengers = [] := by
        rw [Cursor.next_log, writes]
        simp [Changes.append, unwritten']
      have new := (checkPassengers_none valid).1 p mem
      rw [← view_passengers unwritten₂ n, ← new]
      exact same.symm
    · rw [Cursor.next_log, Cursor.next_log, writes, writes₂]
      simp only [Changes.append, List.append_nil]

def Booking.row (b : Booking) : BookingRow :=
  ⟨b.id, b.reference, b.flightId, b.ownerAccountId, b.status, b.createdAt, b.holdExpiresAt⟩

/-- The booking is new to version `n`, and so are its passengers. -/
structure Booking.New (b : Booking) (db : Db) : Prop where
  booking : db.bookings.find? b.id = none
  passengers : ∀ p ∈ passengerRows b.id b.passengers, db.passengers.find? (key p) = none

theorem createWithFreeReference_commits (framed : T.Framed) {held : Booking}
    {references : Nat → String} {left attempt : Nat} {r : Booking}
    (unwritten : c.log.bookings = []) (unwritten' : c.log.passengers = [])
    (h : Commits T n (createWithFreeReference held references left attempt) c r c') :
    ∃ reference, r = { held with reference } ∧ r.New (T.state n) ∧
      c'.log = c.log.append
        { bookings := [r.row], passengers := passengerRows r.id r.passengers } := by
  induction left generalizing attempt c with
  | zero => exact (commits_raise h).elim
  | succ left ih =>
      obtain ⟨inserted, c₁, main, rest⟩ := commits_bind.mp h
      rcases insertBooking_commits framed unwritten unwritten' main with ⟨rfl, log⟩ |
        ⟨rfl, fresh, fresh', log⟩
      · obtain ⟨reference, same, new, log'⟩ :=
          ih (by rw [log, unwritten]) (by rw [log, unwritten']) rest
        exact ⟨reference, same, new, log ▸ log'⟩
      · obtain ⟨rfl, rfl⟩ := rest
        exact ⟨references attempt, rfl, ⟨fresh, fresh'⟩, log⟩

/-- What storing a held booking throws: a constraint, or no reference was free. -/
def Failure.OfInsert (e : Failure) : Prop :=
  (∃ c, e = .uniqueViolation c) ∨ (∃ c, e = .checkViolation c) ∨
    e = .bookingReferenceExhausted MAX_REFERENCE_ATTEMPTS

theorem insertBooking_throws (booking : Booking) :
    Throws Failure.OfInsert (insertBooking booking) := by
  refine throws_bind (throws_query fun _ _ _ _ h => ?_) fun inserted => ?_
  · unfold insertBookingRow at h
    extract_lets at h
    split_ifs at h
    · cases h
      exact .inl ⟨_, rfl⟩
    · cases h
      exact .inr (.inl ⟨_, rfl⟩)
  · cases inserted with
    | false => trivial
    | true =>
        refine throws_bind (throws_query fun _ _ _ _ h => ?_) fun _ => trivial
        unfold insertPassengers checkPassengers at h
        split_ifs at h <;> cases h <;>
          first | exact .inl ⟨_, rfl⟩ | exact .inr (.inl ⟨_, rfl⟩)

theorem createWithFreeReference_throws (held : Booking) (references : Nat → String)
    (left attempt : Nat) :
    Throws Failure.OfInsert (createWithFreeReference held references left attempt) := by
  induction left generalizing attempt with
  | zero => exact .inr (.inr rfl)
  | succ left ih =>
      refine throws_bind (insertBooking_throws _) fun inserted => ?_
      cases inserted with
      | true => trivial
      | false => exact ih (attempt + 1)

/-- A hold became a booking: who sits where, and what is recorded. -/
structure CreatedOn (T : Timeline postgres) (n : Nat) (flightId : Uuid) (actor : Uuid)
    (now : Instant) (booking : Booking) (free : List FlightSeat) : Prop where
  flight : booking.flightId = flightId
  owner : booking.ownerAccountId = actor
  status : booking.status = .held
  createdAt : booking.createdAt = now
  deadline : booking.holdExpiresAt = some (now + HOLD_DURATION_MS)
  total : bookingTotal booking.passengers = .ok booking.total
  priced : ∀ p ∈ booking.passengers, p.price.isSome
  new : booking.New (T.state n)
  distinct : (free.map key).Nodup
  current : ∀ s ∈ free, s ∈ (T.state n).seats
  onFlight : ∀ s ∈ free, s.flightId = flightId
  available : ∀ s ∈ free, s.status = .available
  seated : (booking.passengers.map fun p => (p.seat, p.fareClass)).Perm
    (free.map fun s => (some s.position, some s.fareClass))
  onSale : ∃ m ≤ n, flightOnSale flightId now (T.state m) = true

theorem seatPassengers_ok {input : CreateBookingInput} {seats : List HeldSeat}
    {passengers : List EventPassenger} (h : seatPassengers input seats = .ok passengers) :
    passengers.map (fun p => (p.seat, p.fareClass)) = seats.map fun s => (s.seat, s.fareClass) := by
  unfold seatPassengers at h
  split at h
  · cases h
  · rename_i length
    cases h
    have right := @List.map_snd_zip _ _ input.names seats (by omega)
    rw [← List.map_uncurry_zip_eq_zipWith, List.map_map]
    conv_rhs => rw [← right, List.map_map]
    rfl

theorem createBooking_commits (framed : T.Framed) {flightId : Uuid} {request : CreateBookingInput}
    {actor : Uuid} {ids : CreateBookingIds} {requestId : Option Uuid}
    {r : Except HoldRefusal Booking}
    (h : Commits T n (createBookingTransaction flightId request actor ids requestId now)
      (.start i) r c') :
    ((∃ refusal, r = .error refusal) ∧ c'.log = {}) ∨
    ∃ booking free audit outbox, CreatedOn T n flightId actor now booking free ∧
      booking.id = ids.bookingId ∧ r = .ok booking ∧
      c'.log = { seats := free.map (holdSeat booking.id), bookings := [booking.row],
                 passengers := passengerRows booking.id booking.passengers, audit, outbox } ∧
      c'.log.records = [(.bookingCreated, .booking booking.id)] ∧
      c'.log.events = [(.bookingHeld, some booking.id, now)] := by
  obtain ⟨held, c₁, hold, rest⟩ := commits_bind.mp h
  rcases holdSeats_commits framed hold with ⟨⟨refusal, rfl⟩, log⟩ | ⟨free, seats, on, rfl, log⟩
  · obtain ⟨rfl, rfl⟩ := rest
    exact .inl ⟨⟨refusal, rfl⟩, log⟩
  obtain ⟨passengers, seated, rest⟩ := commits_orThrow_bind.mp rest
  obtain ⟨total, summed, rest⟩ := commits_orThrow_bind.mp rest
  obtain ⟨booking, c₂, create, rest⟩ := commits_bind.mp rest
  obtain ⟨reference, same, new, log₂⟩ :=
    createWithFreeReference_commits framed (by rw [log]) (by rw [log]) create
  obtain ⟨_, c₃, audit, rest⟩ := commits_bind.mp rest
  obtain ⟨_, c₄, event, rfl, last⟩ := commits_bind.mp rest
  subst last
  have log' := enqueue_commits event
  rw [recordAudit_commits audit, log₂, log] at log'
  simp only [Changes.append, List.append_nil, List.nil_append] at log'
  have id' : booking.id = ids.bookingId := by rw [same]
  refine .inr ⟨booking, free, c'.log.audit, c'.log.outbox, ⟨by rw [same], by rw [same], by rw [same], by rw [same],
    by rw [same], by rw [same]; exact summed, ?_, new, on.distinct, on.current, on.flight,
    on.available, ?_, on.onSale⟩, id', rfl, ?_, ?_, ?_⟩
  · rw [same]
    intro p mem
    obtain ⟨q, -, rfl⟩ := List.mem_map.mp mem
    rfl
  · have pairs := congrArg (List.map fun q : SeatPosition × FareClass => (some q.1, some q.2))
      (seatPassengers_ok seated)
    have perm := on.seats.map fun q : SeatPosition × FareClass => (some q.1, some q.2)
    rw [same]
    simp only [List.map_map, Function.comp_def, EventPassenger.toBookingPassenger] at pairs perm ⊢
    rw [pairs]
    exact perm
  · rw [log', id']
  · rw [log']
    rfl
  · rw [log']
    rfl

end FlightBooking
