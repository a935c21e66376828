import FlightBooking.Bookings.CancelAnswers
import FlightBooking.Bookings.OtherAccounts
import FlightBooking.Payments.Copies
import FlightBooking.System.Issued

/-!
Who may change what: a booking, its passengers, its seats and its payments change only in
a commit that was asked for by a request whose scope admits the booking's owner, or by a job
(`changed_for_owner`).
-/

namespace FlightBooking

open Interaction ReadCommitted Relational

variable {T : Timeline postgres} {n i : Nat} {c c' : Cursor postgres} {now : Instant} {id : Uuid}
  {db : Db} {log : Changes}

/-! ### One booking in two databases -/

/-- Booking `id` is the same in both: its row, its passengers, its seats, its payments. -/
structure Db.SameBooking (id : Uuid) (a b : Db) : Prop where
  row : b.bookings.find? id = a.bookings.find? id
  passengers : ∀ position, b.passengers.find? (id, position) = a.passengers.find? (id, position)
  seats : ∀ k s, s.bookingId = some id → (b.seats.find? k = some s ↔ a.seats.find? k = some s)
  payments : ∀ k p, p.bookingId = id → (b.payments.find? k = some p ↔ a.payments.find? k = some p)

/-- Changes to the rows of other bookings. -/
structure Changes.Elsewhere (id : Uuid) (db : Db) (log : Changes) : Prop where
  bookings : ∀ b ∈ log.bookings, b.id ≠ id
  passengers : ∀ p ∈ log.passengers, p.bookingId ≠ id
  seats : ∀ s ∈ log.seats, s.bookingId ≠ some id ∧
    ∀ o, db.seats.find? (key s) = some o → o.bookingId ≠ some id
  payments : ∀ p ∈ log.payments, p.bookingId ≠ id ∧
    ∀ o, db.payments.find? (key p) = some o → o.bookingId ≠ id

/-- Rows that are not like `P`, put where there was none like `P`, leave those that are. -/
theorem find?_putAll_like {α κ : Type} [DecidableEq κ] [Keyed α κ] {t : Table α} {vs : List α}
    {P : α → Prop} (others : ∀ v ∈ vs, ¬ P v ∧ ∀ o, t.find? (key v) = some o → ¬ P o) (k : κ)
    {u : α} (like : P u) : (t.putAll vs).find? k = some u ↔ t.find? k = some u := by
  rcases Table.find?_putAll_cases t vs k with same | ⟨v, mem, rfl, found⟩
  · rw [same]
  · obtain ⟨not, before⟩ := others v mem
    rw [found]
    constructor
    · intro same
      cases same
      exact absurd like not
    · intro old
      exact absurd like (before u old)

theorem Changes.Elsewhere.same (h : log.Elsewhere id db) : db.SameBooking id (log.apply db) where
  row := Table.find?_putAll_of_notMem fun mem => by
    obtain ⟨b, written, own⟩ := List.mem_map.mp mem
    exact h.bookings b written own
  passengers := fun position => Table.find?_putAll_of_notMem fun mem => by
    obtain ⟨p, written, own⟩ := List.mem_map.mp mem
    exact h.passengers p written (Prod.ext_iff.mp own).1
  seats := fun k _ own => find?_putAll_like (P := fun s => s.bookingId = some id) h.seats k own
  payments := fun k _ own => find?_putAll_like (P := fun p => p.bookingId = id) h.payments k own

/-! ### What entitles a transaction -/

/-- Booking `id` has been stored, of an account in scope. -/
def InScope (T : Timeline postgres) (n : Nat) (id : Uuid) (scope : BookingAccessScope) : Prop :=
  ∃ s ≤ n, ∃ b, (T.state s).bookings.find? id = some b ∧ scope.admits b.ownerAccountId = true

/-- Why transaction `x`, commit `n`, may change booking `id`. -/
inductive Transaction.Entitled (T : Timeline postgres) (n : Nat) (id : Uuid) :
    (x : Transaction) → x.Result → Prop where
  | created {flightId request actor ids requestId b} : b.id = id → ids.bookingId = id →
      b.ownerAccountId = actor →
      (T.state (n + 1)).bookings.find? id = some b.row →
      Entitled T n id (.createBooking flightId request actor ids requestId) (.ok b)
  | cancelled {scope actor ids requestId now r} : InScope T n id scope →
      Entitled T n id (.cancelBooking id scope actor ids requestId now) r
  | reseated {position target scope actor auditId requestId now r} : InScope T n id scope →
      Entitled T n id (.changeSeat id position target scope actor auditId requestId now) r
  | started {scope actor request paymentId reconcileAfterMs p} : InScope T n id scope →
      Entitled T n id (.startPayment (some id) scope actor request paymentId reconcileAfterMs)
        (.started p)
  | declined {payment reason actor ids r p} :
      (T.state n).payments.find? payment.id = some p → p.bookingId = id →
      Entitled T n id (.settleDeclined payment reason actor ids) r
  | charged {payment reference actor ids r p} :
      (T.state n).payments.find? payment.id = some p → p.bookingId = id ∨ payment.bookingId = id →
      Entitled T n id (.settleCharged payment reference actor ids) r
  | expired {now batchSize ids r} : Entitled T n id (.expireBatch now batchSize ids) r
  | claimed {leaseMs limit r} : Entitled T n id (.claimDue leaseMs limit) r
  | refundRecorded {payment record auditId r} :
      Entitled T n id (.recordRefund payment record auditId) r
  | rescheduled {paymentId status at' r} : Entitled T n id (.reschedule paymentId status at') r

theorem lockBookingAndFlight_admits {scope : BookingAccessScope} {skip : List Row} {snap cur : Db}
    {out b f} (h : lockBookingAndFlight id scope skip snap cur = .ok out)
    (found : out.reply = some (b, f)) :
    cur.bookings.find? id = some b ∧ scope.admits b.ownerAccountId = true := by
  unfold lockBookingAndFlight at h
  extract_lets target at h
  split at h
  · cases h
    cases found
  · cases h
    obtain ⟨b', admitted, rest⟩ := Option.bind_eq_some_iff.mp found
    obtain ⟨f', flight, same⟩ := Option.map_eq_some_iff.mp rest
    cases same
    exact Option.filter_eq_some_iff.mp admitted

/-- A seat change that wrote anything had its booking in scope, and moved its passengers. -/
theorem changeSeat_scoped (framed : T.Framed) {position : Nat} {target : SeatPosition}
    {scope : BookingAccessScope} {actor auditId : Uuid} {requestId : Option Uuid}
    {r : Except SeatChangeRefusal SeatSet}
    (h : Commits T n (changeSeatTransaction id position target scope actor auditId requestId now)
      (.start i) r c') :
    c'.log = {} ∨ InScope T n id scope ∧ ∀ p ∈ c'.log.passengers, p.bookingId = id := by
  rcases changeSeat_commits framed h with log |
    ⟨booking, passenger, own, wanted, lock, read, at', moved, audit, -, -, -, -, le, found, -, log, -⟩
  · exact .inl log
  obtain ⟨result, c₁, main, rest⟩ := commits_bind.mp h
  obtain ⟨pair, c₂, first, body⟩ := commits_bind.mp main
  obtain ⟨skip, snap, cur, out, -, -, le', done, same, rfl, -⟩ := commits_query.mp first
  simp only [Cursor.start_view] at done
  refine .inr ⟨?_, ?_⟩
  · cases pair with
    | none =>
        -- A booking that is not found is not written.
        obtain ⟨rfl, rfl⟩ := body
        obtain ⟨-, rfl⟩ := rest
        rw [Cursor.next_log, Cursor.start_log, lockBookingAndFlight_writes done] at log
        cases congrArg Changes.seats log
    | some pair =>
        obtain ⟨booking, flight⟩ := pair
        obtain ⟨newest, admitted⟩ := lockBookingAndFlight_admits done same.symm
        exact ⟨cur, le', booking, newest, admitted⟩
  · rw [log]
    intro p mem
    obtain ⟨q, there, rfl⟩ := List.mem_map.mp mem
    rw [found] at there
    have own := Table.key_of_find? (Option.mem_toList.mp there)
    exact (Prod.ext_iff.mp own).1

/-- The booking a payment was started for was read in scope. -/
theorem startPayment_scoped (framed : T.Framed) {bookingId : Option Uuid}
    {scope : BookingAccessScope} {actor : Uuid} {request : PaymentRequest} {paymentId : Uuid}
    {reconcileAfterMs : Int} {p : Payment}
    (h : Commits T n (startPayment bookingId scope actor request paymentId reconcileAfterMs now)
      (.start i) (.started p) c') :
    ∃ id, bookingId = some id ∧ InScope T n id scope := by
  obtain ⟨claim, c₁, claimed, rest⟩ := commits_bind.mp h
  have log : c₁.log.bookings = [] := by
    rcases claimWithin_commits framed rfl claimed with ⟨-, -, -, log⟩ | ⟨log, -⟩ <;> rw [log]
  cases claim with
  | inProgress fingerprint =>
      dsimp only at rest
      split at rest <;> cases rest.1
  | completed fingerprint response =>
      dsimp only at rest
      split at rest <;> cases rest.1
  | claimed =>
      cases bookingId with
      | none =>
          obtain ⟨_, c₂, read, answer⟩ := commits_bind.mp rest
          obtain ⟨rfl, rfl⟩ := read
          obtain ⟨_, c₃, -, same, -⟩ := commits_bind.mp answer
          cases same
      | some id =>
          obtain ⟨found, c₂, read, answer⟩ := commits_bind.mp rest
          cases found with
          | none =>
              obtain ⟨_, c₃, -, same, -⟩ := commits_bind.mp answer
              cases same
          | some booking =>
              obtain ⟨s₁, s₂, row, -, le, le', there, admitted, -⟩ :=
                (findById_commits read).2 booking rfl
              have here : (c₁.view T s₁).bookings = (T.state s₁).bookings := by
                rw [Cursor.view, Changes.apply_bookings, log, Table.putAll_nil]
              rw [here] at there
              exact ⟨id, rfl, s₁, Nat.le_trans le le', row, there, admitted⟩

theorem startPayment_started (framed : T.Framed) {bookingId : Option Uuid}
    {scope : BookingAccessScope} {actor : Uuid} {request : PaymentRequest} {paymentId : Uuid}
    {reconcileAfterMs : Int} {p : Payment}
    (h : Commits T n (startPayment bookingId scope actor request paymentId reconcileAfterMs now)
      (.start i) (.started p) c') :
    bookingId = some p.bookingId ∧ InScope T n p.bookingId scope ∧ c'.log.payments = [p] ∧
      (T.state n).payments.find? p.id = none ∧ c'.log.bookings = [] ∧ c'.log.passengers = [] ∧
      c'.log.seats = [] := by
  obtain ⟨id, requested, inScope⟩ := startPayment_scoped framed h
  rcases startPayment_commits framed h with ⟨-, s, row, -, -, -, answer⟩ | ⟨-, -, on⟩
  · rcases answer with ⟨-, same⟩ | ⟨-, -, same⟩ | ⟨response, -, -, -, same⟩ <;> cases same
  · cases on with
    | @started _ _ row s₁ s₂ cur on _ log =>
        have theirs : p.bookingId = row.id := by rw [on.payment]; rfl
        have own : p.id = paymentId := by rw [on.payment]; rfl
        obtain rfl : id = p.bookingId :=
          Option.some.inj (requested.symm.trans (on.requested.trans (congrArg some theirs.symm)))
        exact ⟨requested, inScope, by rw [log], own ▸ on.fresh, by rw [log], by rw [log],
          by rw [log]⟩

/-- Seats rewritten in place that are not booking `id`'s, before or after. -/
theorem rewritten_elsewhere {rows : List FlightSeat} {f : FlightSeat → FlightSeat}
    (current : ∀ s ∈ rows, s ∈ db.seats) (keeps : ∀ s, key (f s) = key s)
    (before : ∀ s ∈ rows, s.bookingId ≠ some id) (after : ∀ s ∈ rows, (f s).bookingId ≠ some id) :
    ∀ s ∈ rows.map f, s.bookingId ≠ some id ∧
      ∀ o, db.seats.find? (key s) = some o → o.bookingId ≠ some id := by
  intro s mem
  obtain ⟨s, there, rfl⟩ := List.mem_map.mp mem
  refine ⟨after s there, fun o found => ?_⟩
  rw [keeps, Table.find?_of_mem (current s there)] at found
  exact Option.some.inj found ▸ before s there

/-- Payments rewritten in place that are not for booking `id`. -/
theorem moved_elsewhere {rows : List Payment} {f : Payment → Payment}
    (current : ∀ p ∈ rows, p ∈ db.payments) (keeps : ∀ p, (f p).id = p.id)
    (same : ∀ p, (f p).bookingId = p.bookingId) (others : ∀ p ∈ rows, p.bookingId ≠ id) :
    ∀ p ∈ rows.map f, p.bookingId ≠ id ∧
      ∀ o, db.payments.find? (key p) = some o → o.bookingId ≠ id := by
  intro p mem
  obtain ⟨p, there, rfl⟩ := List.mem_map.mp mem
  refine ⟨same p ▸ others p there, fun o found => ?_⟩
  rw [show key (f p) = key p from keeps p, Table.find?_of_mem (current p there)] at found
  exact Option.some.inj found ▸ others p there

theorem lockedSeats_elsewhere {b : Uuid} {snap cur : Db} (not : b ≠ id) :
    ∀ s ∈ lockedSeats [b] snap cur, s.bookingId ≠ some id := by
  intro s mem owned
  obtain ⟨b', one, own⟩ := seatsOf_iff.mp (mem_lockedSeats.mp mem).2.1
  rw [List.mem_singleton.mp one, owned] at own
  exact not (Option.some.inj own).symm

theorem settled_elsewhere {paymentId : Uuid} {p : Payment}
    (found : db.payments.find? paymentId = some p) (others : p.bookingId ≠ id)
    (status : PaymentStatus) (reference reason : Option String) :
    ∀ q ∈ [p.moved status now reference reason], q.bookingId ≠ id ∧
      ∀ o, db.payments.find? (key q) = some o → o.bookingId ≠ id := by
  have current : ∀ q ∈ [p], q ∈ db.payments := by
    intro q mem
    exact List.mem_singleton.mp mem ▸ Table.mem_of_find? found
  have apart : ∀ q ∈ [p], q.bookingId ≠ id := by
    intro q mem
    exact List.mem_singleton.mp mem ▸ others
  exact moved_elsewhere (f := fun p => p.moved status now reference reason) current
    (fun _ => rfl) (fun _ => rfl) apart

/-- A commit leaves booking `id` as it was, or is entitled to change it. -/
theorem entitled_of_commits (framed : T.Framed) (free : (T.state n).FreeSeats)
    (next : T.state (n + 1) = c'.log.apply (T.state n)) {x : Transaction} {r : x.Result}
    (h : Commits T n (x.body now) (.start i) r c') (id : Uuid) :
    c'.log.Elsewhere id (T.state n) ∨ x.Entitled T n id r := by
  have untouched : c'.log.bookings = [] → c'.log.passengers = [] → c'.log.seats = [] →
      c'.log.payments = [] → c'.log.Elsewhere id (T.state n) := by
    intro bookings passengers seats payments
    refine ⟨?_, ?_, ?_, ?_⟩ <;> simp [bookings, passengers, seats, payments]
  have unowned : ∀ s ∈ (T.state n).seats, s.status = .available → s.bookingId ≠ some id := by
    intro s mem available owned
    rw [free (key s) s (Table.find?_of_mem mem) available] at owned
    cases owned
  cases effect_of_commits framed h with
  | nothing _ log => exact .inl (untouched (by rw [log]) (by rw [log]) (by rw [log]) (by rw [log]))
  | laidOut _ lays =>
      refine .inl ⟨?_, ?_, ?_, ?_⟩
      · simp [lays.quiet.bookings]
      · simp [lays.quiet.passengers]
      · intro s mem
        rw [lays.unowned s mem, lays.fresh s mem]
        simp
      · simp [lays.quiet.payments]
  | @created flightId request actor ids requestId now booking free audit outbox c' on own log =>
      by_cases same : booking.id = id
      · have row : (T.state (n + 1)).bookings.find? id = some booking.row := by
          rw [next, Changes.apply_bookings, log, Table.putAll_cons, Table.putAll_nil,
            Table.find?_put]
          exact if_pos same.symm
        exact .inr (.created same (own ▸ same) on.owner row)
      · refine .inl ⟨?_, ?_, ?_, ?_⟩ <;> rw [log]
        · simpa [Booking.row] using same
        · intro p mem
          obtain ⟨k, lt, rfl⟩ := List.mem_mapIdx.mp mem
          exact same
        · refine rewritten_elsewhere on.current (fun _ => rfl)
            (fun s mem => unowned s (on.current s mem) (on.available s mem)) ?_
          intro s _
          simpa [holdSeat] using same
        · simp
  | @cancelled b scope actor ids requestId now' now r booking flight first locked snap cur snap'
      cur' paid audit outbox c' on _ _ _ _ _ le isPaid current log =>
      by_cases same : b = id
      · subst same
        exact .inr (.cancelled ⟨n, Nat.le_refl n, booking, on.current,
          isCancellable_admits on.cancellable⟩)
      · refine .inl ⟨?_, ?_, ?_, ?_⟩ <;> rw [log]
        · have own : booking.id = b := Table.key_of_find? on.current
          simpa [own] using same
        · simp
        · exact rewritten_elsewhere on.seats (fun _ => rfl) (lockedSeats_elsewhere same)
            fun s _ => by simp [releaseSeat]
        · refine moved_elsewhere current (fun _ => rfl) (fun _ => rfl) fun p mem => ?_
          rw [isPaid] at mem
          have for' := (Table.mem_recheck.mp mem).2.1
          simp only [isPaidFor, Bool.and_eq_true, decide_eq_true_eq] at for'
          rw [for'.1]
          exact same
  | @reseated b position target scope actor auditId requestId now' now r booking passenger own
      wanted lock read audit c' moved on _ _ _ log =>
      rcases changeSeat_scoped framed h with none | ⟨inScope, theirs⟩
      · rw [none] at log
        cases congrArg Changes.seats log
      by_cases same : b = id
      · subst same
        exact .inr (.reseated inScope)
      · refine .inl ⟨?_, ?_, ?_, ?_⟩
        · simp [log]
        · intro p mem
          rw [theirs p mem]
          exact same
        · rw [log]
          have owned : own.bookingId ≠ some id := by
            rw [on.between.owned]
            simpa using same
          have free := unowned wanted on.between.wanted_mem on.between.available
          intro s mem
          rcases List.mem_cons.mp mem with rfl | mem
          · refine ⟨by simp [releaseSeat], fun o found => ?_⟩
            rw [key_releaseSeat, Table.find?_of_mem on.between.own_mem] at found
            exact Option.some.inj found ▸ owned
          · obtain rfl := List.mem_singleton.mp mem
            refine ⟨by simpa [takeSeat] using same, fun o found => ?_⟩
            rw [key_takeSeat, Table.find?_of_mem on.between.wanted_mem] at found
            exact Option.some.inj found ▸ free
        · simp [log]
  | expired => exact .inr .expired
  | @paid bookingId scope actor request paymentId reconcileAfterMs now r c' _ _ on =>
      cases on with
      | answered _ log => exact .inl (untouched (by rw [log]) (by rw [log]) (by rw [log]) (by rw [log]))
      | released _ log => exact .inl (untouched (by rw [log]) (by rw [log]) (by rw [log]) (by rw [log]))
      | @started _ p row s₁ s₂ cur on _ log =>
          obtain ⟨rfl, inScope, written, fresh, bookings, passengers, seats⟩ :=
            startPayment_started framed h
          by_cases same : p.bookingId = id
          · subst same
            exact .inr (.started inScope)
          · refine .inl ⟨by simp [bookings], by simp [passengers], by simp [seats], ?_⟩
            rw [written]
            intro q mem
            obtain rfl := List.mem_singleton.mp mem
            rw [show (T.state n).payments.find? (key q) = none from fresh]
            exact ⟨same, fun o found => by cases found⟩
  | @declined payment reason actor ids now r p k audit c' on _ _ log =>
      by_cases same : p.bookingId = id
      · exact .inr (.declined on.payment same)
      · refine .inl ⟨by simp [log], by simp [log], by simp [log], ?_⟩
        rw [log]
        exact settled_elsewhere on.payment same _ _ _
  | @chargedTooLate payment reference actor ids now r p k audit c' on _ _ log =>
      by_cases same : p.bookingId = id
      · exact .inr (.charged on.payment (.inl same))
      · refine .inl ⟨by simp [log], by simp [log], by simp [log], ?_⟩
        rw [log]
        exact settled_elsewhere on.payment same _ _ _
  | @confirmed payment reference actor ids now r p k booking snap cur audit outbox c' on confirms _ _ _
      _ _ log =>
      by_cases same : p.bookingId = id ∨ payment.bookingId = id
      · exact .inr (.charged on.payment same)
      · obtain ⟨other, other'⟩ := not_or.mp same
        refine .inl ⟨?_, ?_, ?_, ?_⟩ <;> rw [log]
        · have own : booking.id = payment.bookingId := Table.key_of_find? confirms.current
          simpa [own] using other'
        · simp
        · exact rewritten_elsewhere confirms.seats (fun _ => rfl) (lockedSeats_elsewhere other')
            (lockedSeats_elsewhere other')
        · exact settled_elsewhere on.payment other _ _ _
  | claimed => exact .inr .claimed
  | refundRecorded => exact .inr .refundRecorded
  | rescheduled => exact .inr .rescheduled
  | cleaned _ log => exact .inl (untouched (by rw [log]) (by rw [log]) (by rw [log]) (by rw [log]))
  | published _ _ log =>
      exact .inl (untouched (by rw [log]) (by rw [log]) (by rw [log]) (by rw [log]))

/-! ### Runs -/

/-- A request that may change booking `id` of account `owner`. -/
inductive Invocation.ActsFor (id owner : Uuid) : Invocation → Prop where
  | createBooking {flightId request ids requestId} : ids.bookingId = id →
      ActsFor id owner (.createBooking flightId request owner ids requestId)
  | cancelBooking {scope actor ids requestId} : scope.admits owner = true →
      ActsFor id owner (.cancelBooking (some id) scope actor ids requestId)
  | changeSeat {position seat scope actor auditId requestId} : scope.admits owner = true →
      ActsFor id owner (.changeSeat (some id) position seat scope actor auditId requestId)
  | payForBooking {scope actor request ctx} : scope.admits owner = true →
      ActsFor id owner (.payForBooking (some id) scope actor request ctx)

/-- The jobs that act on bookings and payments, with nobody's request behind them. -/
def Invocation.IsJob : Invocation → Prop
  | .expireHolds .. | .reconcilePayments .. | .reconcileWorker .. => True
  | _ => False

section Service

variable {airports : Table Airport} {clock : Instant} {steady idempotent : Bool}
  {invocations : Nat → Invocation} {p : Pool app UseCaseResult}

/-- A payment a request started: for its booking, in its scope before it was stored, and
stored to the end. -/
theorem started_for {w : World app} (sound : w.Sound) {c₀ : Commit app} (mem : c₀ ∈ w.commits)
    {bookingId : Option Uuid} {scope : BookingAccessScope} {actor : Uuid}
    {request : PaymentRequest} {paymentId : Uuid} {reconcileAfterMs : Int} {payment : Payment}
    (own : (⟨.startPayment bookingId scope actor request paymentId reconcileAfterMs,
      .started payment⟩ : (x : app.Tx) × app.Result x) = ⟨c₀.tx, c₀.result⟩) :
    bookingId = some payment.bookingId ∧ ∀ k ≤ w.commits.length, ∀ q,
      (w.timeline.state k).payments.find? payment.id = some q →
      q.bookingId = payment.bookingId ∧ InScope w.timeline k payment.bookingId scope := by
  obtain ⟨m, lt, rfl⟩ := List.getElem_of_mem mem
  obtain ⟨c', ran, log, -⟩ := sound.commits lt
  have next : (w.timeline.state (m + 1)).payments = (w.timeline.state m).payments.putAll
      c'.log.payments := by
    rw [log]
    exact congrArg Db.payments (w.state_succ lt)
  clear log
  revert ran own
  generalize w.commits[m].result = r
  revert r
  generalize w.commits[m].tx = x
  intro r own ran
  cases own
  obtain ⟨requested, ⟨s, le, inScope⟩, written, fresh, -⟩ := startPayment_started sound.framed ran
  rw [written, Table.putAll_cons, Table.putAll_nil] at next
  refine ⟨requested, fun k le' q found => ?_⟩
  have unfolds := unfolds_of_sound sound
  have later : m < k := by
    by_contra before
    obtain ⟨q', there, -⟩ := unfolds.bill_stays (not_lt.mp before) (Nat.le_of_lt lt) found
    rw [fresh] at there
    cases there
  have stored : (w.timeline.state (m + 1)).payments.find? payment.id = some payment := by
    rw [next, Table.find?_put]
    exact if_pos rfl
  obtain ⟨q', there, bill⟩ := unfolds.bill_stays later le' stored
  obtain rfl := Option.some.inj (found.symm.trans there)
  exact ⟨(Payment.bill_iff.mp bill).2.1, s, by omega, inScope⟩

/-- Every commit leaves booking `id` as it was, or was asked for by a request whose scope admits
the booking's owner, or by a job. A new booking belongs to the account that asked for it. -/
theorem changed_for_owner
    (h : (service airports clock steady idempotent invocations).Reachable p) {n : Nat}
    (lt : n < p.world.commits.length) (id : Uuid) :
    (p.world.state n).SameBooking id (p.world.state (n + 1)) ∨
      (invocations p.world.commits[n].thread).IsJob ∨
      ∃ b, (p.world.state (n + 1)).bookings.find? id = some b ∧
        (invocations p.world.commits[n].thread).ActsFor id b.ownerAccountId := by
  have sound := ((service_kept ..).reachable h).good.sound
  have unfolds := unfolds_of_sound sound
  have free : (p.world.timeline.state n).FreeSeats :=
    unfolds.free_seats (by
      intro k s found
      change (p.world.state 0).seats.find? k = some s at found
      rw [World.state_zero, h.initial_eq] at found
      cases found) n (Nat.le_of_lt lt)
  obtain ⟨c', ran, log, -⟩ := sound.commits lt
  obtain ⟨trail, trailed, asked⟩ := asked_of_service h _ (List.getElem_mem lt)
  have next : p.world.timeline.state (n + 1) = c'.log.apply (p.world.timeline.state n) := by
    rw [log]
    exact p.world.state_succ lt
  clear log
  -- A booking that was in scope is there now, of the same account.
  have owned : ∀ {scope : BookingAccessScope}, InScope p.world.timeline n id scope →
      ∃ b, (p.world.state (n + 1)).bookings.find? id = some b ∧
        scope.admits b.ownerAccountId = true := by
    rintro scope ⟨s, le, b, found, admitted⟩
    obtain ⟨status, there⟩ := unfolds.booking_fixed found (m := n + 1) (by omega) lt
    exact ⟨_, there, admitted⟩
  rcases entitled_of_commits sound.framed free next ran id with elsewhere | entitled
  · left
    have same := elsewhere.same
    rw [← next] at same
    exact same
  right
  clear ran
  revert asked entitled
  generalize p.world.commits[n].result = r
  revert r
  generalize p.world.commits[n].tx = x
  generalize p.world.commits[n].thread = t at trailed
  generalize invocations t = invocation
  intro r asked entitled
  cases entitled with
  | created own named owner row =>
      cases asked
      exact .inr ⟨_, row, owner ▸ .createBooking named⟩
  | cancelled inScope =>
      cases asked
      obtain ⟨b, found, admitted⟩ := owned inScope
      exact .inr ⟨b, found, .cancelBooking admitted⟩
  | reseated inScope =>
      cases asked
      obtain ⟨b, found, admitted⟩ := owned inScope
      exact .inr ⟨b, found, .changeSeat admitted⟩
  | started inScope =>
      cases asked
      obtain ⟨b, found, admitted⟩ := owned inScope
      exact .inr ⟨b, found, .payForBooking admitted⟩
  | declined stored same =>
      cases asked with
      | reconcileDeclined => exact .inl trivial
      | settleDeclined started =>
          obtain ⟨c₀, mem, -, own⟩ := trailed _ started
          obtain ⟨rfl, before⟩ := started_for sound mem own
          obtain ⟨theirs, inScope⟩ := before n (Nat.le_of_lt lt) _ stored
          obtain rfl := theirs.symm.trans same
          obtain ⟨b, found, admitted⟩ := owned inScope
          exact .inr ⟨b, found, .payForBooking admitted⟩
  | charged stored same =>
      cases asked with
      | reconcileCharged => exact .inl trivial
      | settleCharged started =>
          obtain ⟨c₀, mem, -, own⟩ := trailed _ started
          obtain ⟨rfl, before⟩ := started_for sound mem own
          obtain ⟨theirs, inScope⟩ := before n (Nat.le_of_lt lt) _ stored
          rw [theirs, or_self] at same
          subst same
          obtain ⟨b, found, admitted⟩ := owned inScope
          exact .inr ⟨b, found, .payForBooking admitted⟩
  | expired | claimed | refundRecorded | rescheduled =>
      cases asked
      exact .inl trivial

end Service

end FlightBooking
