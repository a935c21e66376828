import FlightBooking.System.Records
import FlightBooking.Library.Trace

/-!
What a committed transaction did: one constructor for each way a transaction of
the application can change the database. An invariant of every run is a case
analysis over `Effect`; no proof about runs looks at a transaction's text again.
-/

namespace FlightBooking

open Relational ReadCommitted

variable {T : Timeline postgres} {n i : Nat} {c' : Cursor postgres} {now : Instant}

/-- A result of `x` that may mean it changed nothing. -/
def Transaction.MayIdle : (x : Transaction) → x.Result → Prop
  | .findAirport _, _ | .findAircraft _, _ | .findFlight _, _ | .findUnpublished .., _ => True
  | .changeSeat .., _ => True
  | .createBooking .., r => ∃ refusal, r = .error refusal
  | .cancelBooking .., r => ∃ reason, r = .error reason
  | .startPayment .., r => ∃ answer, r = .result answer
  | _, _ => False

/-- The transactions on flights and aircraft. -/
def Transaction.OnFlights : Transaction → Prop
  | .registerAircraft .. | .createFlight .. | .openFlight .. => True
  | _ => False

/-- The transaction `x`, begun when `i` commits had been made, ran against `T` and
committed onto version `n` with changes `c'.log`. -/
inductive Effect (T : Timeline postgres) (n i : Nat) :
    (x : Transaction) → Instant → x.Result → Cursor postgres → Prop where
  | nothing {x : Transaction} {now r c'} : x.MayIdle r → c'.log = {} → Effect T n i x now r c'
  | laidOut {x : Transaction} {now r c'} : x.OnFlights → c'.log.LaysOut (T.state n) →
      Effect T n i x now r c'
  | created {flightId request actor ids requestId now booking free audit outbox c'} :
      CreatedOn T n flightId actor now booking free → booking.id = ids.bookingId →
      c'.log = { seats := free.map (holdSeat booking.id), bookings := [booking.row],
                 passengers := passengerRows booking.id booking.passengers, audit, outbox } →
      c'.log.records = [(.bookingCreated, .booking booking.id)] →
      c'.log.events = [(.bookingHeld, some booking.id, now)] →
      Effect T n i (.createBooking flightId request actor ids requestId) now (.ok booking) c'
  | cancelled {id scope actor ids requestId now' now r booking flight first locked snap cur snap'
      cur' paid audit outbox c'} :
      CancelledOn T n id scope now' booking flight first locked snap cur → i ≤ first →
      [(first, locked), (snap, cur)] <+: c'.spans → .booking id ∈ exclusiveRows c'.held →
      cur ≤ snap' → snap' ≤ cur' → cur' ≤ n →
      paid = (T.state snap').payments.recheck (T.state cur').payments (isPaidFor id) →
      (∀ p ∈ paid, p ∈ (T.state n).payments) →
      c'.log = { bookings := [{ booking with status := .cancelled }],
                 seats := (lockedSeats [id] (T.state snap) (T.state cur)).map releaseSeat,
                 payments := paid.map (·.refundStarted now'), audit, outbox } →
      c'.log.records = (.bookingCancelled, .booking id) ::
        (paid.map fun p => (.paymentRefundPending, .payment p.id)).take 1 →
      c'.log.events = [(.bookingCancelled, some id, now')] →
      Effect T n i (.cancelBooking id scope actor ids requestId now') now r c'
  | reseated {id position target scope actor auditId requestId now' now r booking passenger own
      wanted lock read audit c'} {moved : List PassengerRow} :
      ReseatedOn T n id position target booking passenger own wanted lock read → i ≤ lock →
      .booking id ∈ exclusiveRows c'.held → (∀ p ∈ moved, p ∈ (T.state n).passengers) →
      c'.log = { seats := [releaseSeat own, takeSeat id wanted],
                 passengers := moved.map fun p => { p with seat := some target }, audit } →
      c'.log.records = [(.bookingSeatChanged, .booking id)] →
      Effect T n i (.changeSeat id position target scope actor auditId requestId now') now r c'
  | expired {now' batchSize ids now r due snap cur audit outbox c'} :
      ExpiredOn T n now' due snap cur → i ≤ snap → [(snap, cur)] <+: c'.spans →
      (∀ b ∈ due, .booking b.id ∈ exclusiveRows c'.held) →
      c'.log = { bookings := due.map fun b => { b with status := .expired },
                 seats := (lockedSeats (due.map (·.id)) (T.state snap) (T.state cur)).map releaseSeat,
                 audit, outbox } →
      c'.log.records = due.map (fun b => (.bookingExpired, .booking b.id)) →
      c'.log.events = due.map (fun b => (.bookingExpired, some b.id, now')) →
      Effect T n i (.expireBatch now' batchSize ids) now r c'
  | paid {bookingId scope actor request paymentId reconcileAfterMs now r c'} :
      (T.state n).keys.find? (actor, request.idempotencyKey) = none →
      .key (actor, request.idempotencyKey) ∈ exclusiveRows c'.held →
      ClaimedOn T n i bookingId actor request paymentId reconcileAfterMs now
        (claimedKey actor request.idempotencyKey request.fingerprint now) r c' →
      Effect T n i (.startPayment bookingId scope actor request paymentId reconcileAfterMs) now r c'
  | declined {payment reason actor ids now r p k audit c'} :
      OpenOn T n payment.id p k → .payment payment.id ∈ exclusiveRows c'.held → r.status = 402 →
      c'.log = { payments := [p.moved .failed now none (some reason)], audit,
                 keys := [.put (k.answered r now)] } →
      c'.log.records = [(.paymentFailed, .payment payment.id)] →
      Effect T n i (.settleDeclined payment reason actor ids) now r c'
  | chargedTooLate {payment reference actor ids now r p k audit c'} :
      OpenOn T n payment.id p k → .payment payment.id ∈ exclusiveRows c'.held → r.status = 409 →
      c'.log = { payments := [p.moved .refundPending now (some reference) none], audit,
                 keys := [.put (k.answered r now)] } →
      c'.log.records = [(.paymentRefundPending, .payment payment.id)] →
      Effect T n i (.settleCharged payment reference actor ids) now r c'
  | confirmed {payment reference actor ids now r p k booking snap cur audit outbox c'} :
      OpenOn T n payment.id p k →
      ConfirmedOn T n payment.bookingId (.owner payment.accountId) now booking snap cur → i ≤ snap →
      [(snap, cur)] <+: c'.spans → .payment payment.id ∈ exclusiveRows c'.held →
      .booking payment.bookingId ∈ exclusiveRows c'.held → r.status = 201 →
      c'.log = { bookings := [{ booking with status := .confirmed }],
                 seats := (lockedSeats [payment.bookingId] (T.state snap) (T.state cur)).map bookSeat,
                 payments := [p.moved .succeeded now (some reference) none], audit, outbox,
                 keys := [.put (k.answered r now)] } →
      c'.log.records = [(.bookingConfirmed, .booking payment.bookingId)] →
      c'.log.events = [(.bookingConfirmed, some payment.bookingId, now)] →
      Effect T n i (.settleCharged payment reference actor ids) now r c'
  | claimed {leaseMs limit now r c'} {due : List Payment} :
      (due.map key).Nodup → (∀ p ∈ due, p ∈ (T.state n).payments ∧ isPaymentDue now p = true) →
      c'.log = { payments := due.map (·.claimed now leaseMs) } →
      r.Perm (due.map (·.claimed now leaseMs)) →
      Effect T n i (.claimDue leaseMs limit) now r c'
  | refundRecorded {payment record auditId now r p audit c'} :
      (T.state n).payments.find? payment.id = some p → p.status = .refundPending →
      c'.log = { payments := [p.moved record.status now none record.reason], audit } →
      c'.log.records = [(record.action, .payment payment.id)] →
      Effect T n i (.recordRefund payment record auditId) now r c'
  | rescheduled {paymentId status at' now r p c'} :
      (T.state n).payments.find? paymentId = some p → p.status = status →
      c'.log = { payments := [{ p with nextAttemptAt := some at' }] } →
      Effect T n i (.reschedule paymentId status at') now r c'
  | cleaned {cutoff limit now r c'} {old : List IdempotencyKey} :
      (∀ k ∈ old, k ∈ (T.state n).keys ∧ k.status = .completed ∧ k.createdAt < cutoff) →
      c'.log = { keys := old.map fun k => .delete (key k) } →
      Effect T n i (.deleteCompletedBefore cutoff limit) now r c'
  | published {id now r c'} {found : List OutboxRow} :
      (found.map key).Nodup → (∀ o ∈ found, o ∈ (T.state n).outbox ∧ o.entry.id = id) →
      c'.log = { outbox := found.map fun o => { o with publishedAt := some now } } →
      Effect T n i (.markPublished id) now r c'

theorem markPublished_commits (framed : T.Framed) {id : Uuid} {r : Unit}
    (h : Commits T n (query (markPublished id now)) (.start i) r c') :
    ∃ found : List OutboxRow, (found.map key).Nodup ∧
      (∀ o ∈ found, o ∈ (T.state n).outbox ∧ o.entry.id = id) ∧
      c'.log = { outbox := found.map fun o => { o with publishedAt := some now } } := by
  obtain ⟨skip, snap, cur, out, -, -, -, done, rfl, rfl, -, agree⟩ :=
    (commits_query.mp h).outcome framed
  simp only [Cursor.start_view] at done agree
  cases done
  refine ⟨(T.state snap).outbox.recheck (T.state cur).outbox fun r => r.entry.id = id,
    Table.nodup_recheck .., fun o mem => ?_, rfl⟩
  obtain ⟨here, same, -⟩ := Table.mem_recheck.mp mem
  have kept := agree _ (Outcome.touched_held _ (Changes.outbox_touched (List.mem_map_of_mem mem)))
  exact ⟨Table.mem_of_find?_eq kept here, by simpa using same⟩

theorem reads_nothing {α : Type} {p : Prog postgres α} {r : α}
    (h : Writes (fun _ w => w = ({} : Changes)) p) (ran : Commits T n p (.start i) r c') :
    c'.log = {} := ran.reads h

/-- Every committed transaction had one of these effects. -/
theorem effect_of_commits (framed : T.Framed) {x : Transaction} {r : x.Result}
    (h : Commits T n (x.body now) (.start i) r c') : Effect T n i x now r c' := by
  cases x with
  | findAirport code =>
      exact .nothing trivial (reads_nothing (writes_query fun _ _ _ _ done => by cases done; rfl) h)
  | findAircraft registration =>
      exact .nothing trivial (reads_nothing (writes_query fun _ _ _ _ done => by cases done; rfl) h)
  | findFlight flightId =>
      exact .nothing trivial (reads_nothing (writes_query fun _ _ _ _ done => by cases done; rfl) h)
  | findUnpublished limit storage =>
      exact .nothing trivial (reads_nothing (writes_query fun _ _ _ _ done => by cases done; rfl) h)
  | registerAircraft aircraft actor auditId requestId =>
      exact .laidOut trivial (untouched_of_writes framed (registerAircraft_untouched ..) h).laysOut
  | createFlight flight actor auditId eventId requestId =>
      exact .laidOut trivial (createFlight_commits framed h)
  | openFlight flight actor auditId requestId at' =>
      exact .laidOut trivial (untouched_of_writes framed (openFlight_untouched ..) h).laysOut
  | createBooking flightId request actor ids requestId =>
      rcases createBooking_commits framed h with ⟨refused, log⟩ |
        ⟨booking, free, audit, outbox, on, id, rfl, log, records, events⟩
      · exact .nothing refused log
      · exact .created on id log records events
  | cancelBooking id scope actor ids requestId now' =>
      rcases cancelBooking_commits framed h with ⟨reason, refused, log⟩ |
        ⟨booking, flight, first, locked, snap, cur, snap', cur', paid, audit, outbox, on, begun,
          spans, held, le, le', le'', isPaid, current, log, records, events⟩
      · exact .nothing ⟨reason, refused⟩ log
      · exact .cancelled on begun spans held le le' le'' isPaid current log records events
  | changeSeat id position target scope actor auditId requestId now' =>
      rcases changeSeat_commits framed h with log |
        ⟨booking, passenger, own, wanted, lock, read, at', moved, audit, on, begun, held, -, -, -,
          current, log, records⟩
      · exact .nothing trivial log
      · exact .reseated on begun held current log records
  | expireBatch now' batchSize ids =>
      obtain ⟨due, snap, cur, audit, outbox, on, begun, spans, -, held, log, records, events⟩ :=
        expireBatch_commits framed h
      exact .expired on begun spans held log records events
  | startPayment bookingId scope actor request paymentId reconcileAfterMs =>
      rcases startPayment_commits framed h with ⟨log, s, row, -, -, -, answer⟩ | ⟨fresh, held, on⟩
      · refine .nothing ?_ log
        rcases answer with ⟨-, rfl⟩ | ⟨-, -, rfl⟩ | ⟨response, -, -, -, rfl⟩ <;> exact ⟨_, rfl⟩
      · exact .paid fresh held on
  | settleDeclined payment reason actor ids =>
      obtain ⟨p, k, audit, on, held, status, log, records⟩ := declined_commits framed h
      exact .declined on held status log records
  | settleCharged payment reference actor ids =>
      rcases charged_commits framed h with ⟨p, k, audit, on, held, status, log, records⟩ |
        ⟨p, k, booking, snap, cur, audit, outbox, on, confirms, begun, spans, held, held', status,
          log, records, events⟩
      · exact .chargedTooLate on held status log records
      · exact .confirmed on confirms begun spans held held' status log records events
  | claimDue leaseMs limit =>
      obtain ⟨due, distinct, isDue, log, reply⟩ := claimDue_commits framed h
      exact .claimed distinct isDue log reply
  | recordRefund payment record auditId =>
      obtain ⟨p, audit, found, status, -, log, records⟩ := recordRefund_commits framed h
      exact .refundRecorded found status log records
  | reschedule paymentId status at' =>
      obtain ⟨p, found, same, log⟩ := reschedule_commits framed h
      exact .rescheduled found same log
  | deleteCompletedBefore cutoff limit =>
      obtain ⟨old, log, expired⟩ := deleteCompletedBefore_commits framed h
      exact .cleaned expired log
  | markPublished id =>
      obtain ⟨found, distinct, current, log⟩ := markPublished_commits framed h
      exact .published distinct current log

/-- The transaction `x`, begun when `i` commits had been made, is commit `n` of the
history: what it did, and what of that the history shows. -/
structure Committed (T : Timeline postgres) (n i : Nat) (x : Transaction) (now : Instant)
    (r : x.Result) (c' : Cursor postgres) : Prop where
  begun : i ≤ n
  effect : Effect T n i x now r c'
  next : T.state (n + 1) = c'.log.apply (T.state n)
  locked : T.locked n = exclusiveRows c'.held
  covered : ∀ row ∈ c'.log.touched, row ∈ exclusiveRows c'.held
  appends : x.Appending → c'.log.Appends (T.state n)

/-- The first `n` commits of the history are commits of the application. -/
def Unfolds (T : Timeline postgres) (n : Nat) : Prop :=
  ∀ m < n, ∃ i x now r c', Committed T m i x now r c'

theorem Unfolds.mono {T : Timeline postgres} {n m : Nat} (h : Unfolds T n) (le : m ≤ n) :
    Unfolds T m := fun j lt => h j (Nat.lt_of_lt_of_le lt le)

/-- Commit `n` of a sound history, with its own result and changes. -/
theorem committed_of_sound {w : World app} (sound : w.Sound) {n : Nat} (h : n < w.commits.length) :
    ∃ c', Committed w.timeline n w.commits[n].begun w.commits[n].tx w.commits[n].now
        w.commits[n].result c' ∧ c'.log = w.commits[n].log ∧ c'.spans = w.commits[n].spans := by
  obtain ⟨c', ran, log, spans, held⟩ := sound.commits h
  exact ⟨c', ⟨(sound.ran n h).1, effect_of_commits sound.framed ran, log ▸ w.state_succ h, held,
    fun _ => ran.covered fun _ mem => absurd mem List.not_mem_nil, fun appending => appends_of_commits sound.framed appending ran⟩, log, spans⟩

/-- The commit just made, between the databases it turns into one another. -/
theorem committed_last {w : World app} {c : Commit app} (sound : (w.commit c).Sound) :
    (∃ c', Committed (w.commit c).timeline w.commits.length c.begun c.tx c.now c.result c') ∧
      (w.commit c).timeline.state w.commits.length = w.db ∧
      (w.commit c).timeline.state (w.commits.length + 1) = (w.commit c).db := by
  have last : w.commits.length < (w.commit c).commits.length := by simp
  obtain ⟨c', committed, -⟩ := committed_of_sound sound last
  have own : (w.commit c).commits[w.commits.length] = c := List.getElem_concat_length rfl _
  rw [own] at committed
  refine ⟨⟨c', committed⟩, (w.commit_state c (Nat.le_refl _)).trans w.state_length, ?_⟩
  rw [← World.state_length]
  simp [World.timeline]

theorem unfolds_of_sound {w : World app} (sound : w.Sound) :
    Unfolds w.timeline w.commits.length := fun _ h =>
  let ⟨c', committed, _⟩ := committed_of_sound sound h
  ⟨_, _, _, _, c', committed⟩

end FlightBooking
