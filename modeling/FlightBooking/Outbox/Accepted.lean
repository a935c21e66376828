import FlightBooking.Bookings.CreateBooking
import FlightBooking.Flights.Effects
import FlightBooking.Inventory.Runs
import FlightBooking.Outbox.Payloads
import FlightBooking.System.Rows

/-!
Producers and parsers agree: what a run of the service enqueues, its consumer accepts.

A parser refuses an event without passengers, seats or names, so acceptance is a matter
of the state: `Presentable` says that every booking has a name to go by and somebody
travelling, and that every event in the outbox is one its parser accepts. Each
transaction keeps it when it runs alone. While transactions overlap it does not hold: a
cancel may then release no seat.
-/

namespace FlightBooking

open Relational ReadCommitted

/-! ### Runs -/

/-- What the validation in front of a transaction promises of its arguments. -/
def Transaction.InputValid : Transaction → Prop
  | .createFlight flight .. =>
      flight.flightNumber ≠ "" ∧ flight.origin.code ≠ "" ∧ flight.destination.code ≠ ""
  | .createBooking _ request _ ids _ =>
      (∀ name ∈ request.names, name ≠ "") ∧ ∀ k, ids.references k ≠ ""
  | _ => True

/-- One transaction of the service ran alone on `db` and committed. -/
def ServiceStep (db db' : Db) : Prop :=
  ∃ (x : Transaction) (now : Instant) (r : x.Result) (log : Changes), x.InputValid ∧
    execute (S := postgres) [] db (x.body now) {} = .ok (r, log) ∧ db' = log.apply db

/-- The databases that sequences of transactions reach from the empty one, which has its
airports only. -/
def ServiceReachable (db : Db) : Prop :=
  ∃ airports, Relation.ReflTransGen ServiceStep { airports } db

/-- An event for its queue, which the parser there accepts. -/
def OutboxRow.Accepted (o : OutboxRow) : Prop :=
  o.entry.eventType = o.entry.payload.body.queue ∧ o.entry.payload.body.Presentable

structure Presentable (db : Db) : Prop where
  inventory : Inventory db
  references : ∀ b ∈ db.bookings, b.reference ≠ ""
  names : ∀ p ∈ db.passengers, p.name ≠ ""
  carries : ∀ b ∈ db.bookings, ∃ p ∈ db.passengers, p.bookingId = b.id
  accepted : ∀ o ∈ db.outbox, o.Accepted

/-! ### What a transaction enqueues -/

variable {T : Timeline postgres} {db : Db} {n i : Nat} {c c' : Cursor postgres} {now : Instant}

/-- Every event among the changes satisfies `P`. -/
def Enqueues (P : OutboxRow → Prop) (_ : Db) (w : Changes) : Prop := ∀ o ∈ w.outbox, P o

theorem enqueues_of_commits {α : Type} {P : OutboxRow → Prop} (framed : T.Framed)
    {p : Prog postgres α} {r : α} (h : Writes (Enqueues P) p) (ran : Commits T n p c r c')
    (before : ∀ o ∈ c.log.outbox, P o) : ∀ o ∈ c'.log.outbox, P o :=
  ran.writes framed (fun _ _ _ h _ => h)
    (fun _ _ _ h h' o mem => (List.mem_append.mp mem).elim (h o) (h' o)) h before

section Statements

variable {P : OutboxRow → Prop} {α ρ : Type}

theorem enqueues_quiet {s : Statement postgres ρ}
    (h : ∀ skip snap cur out, s skip snap cur = .ok out → out.writes.outbox = []) :
    Writes (Enqueues P) (query s) :=
  writes_query fun skip snap cur out done o mem => by
    rw [h skip snap cur out done] at mem
    cases mem

theorem enqueues_recordAudit (input : AuditRecordInput) :
    Writes (Enqueues P) (query (recordAudit input)) :=
  enqueues_quiet fun _ _ _ _ done => by rw [(recordAudit_ok done).1]

theorem enqueues_enqueue {entry : OutboxEntry} (holds : P ⟨entry, none⟩) :
    Writes (Enqueues P) (query (enqueue entry)) :=
  writes_query fun skip snap cur out done o mem => by
    rw [(enqueue_ok done).1] at mem
    exact List.mem_singleton.mp mem ▸ holds

theorem enqueues_findById (id : Uuid) (scope : BookingAccessScope) :
    Writes (Enqueues P) (findById id scope) := by
  refine writes_bind (enqueues_quiet fun _ _ _ _ h => by rw [(findBooking_ok h).2]) fun found => ?_
  cases found with
  | none => trivial
  | some row =>
      refine writes_bind (enqueues_quiet fun _ _ _ _ h => by rw [(findPassengers_ok h).2])
        fun passengers => ?_
      cases mapBooking row (passengers.map mapPassenger) <;> trivial

end Statements

/-! ### The inventory, whatever ran -/

theorem Inventory.of_same (inv : Inventory db) {db' : Db} (seats : db'.seats = db.seats)
    (bookings : db'.bookings = db.bookings) (passengers : db'.passengers = db.passengers) :
    Inventory db' := by
  obtain ⟨free, owned, travels, seated, apart, occupied⟩ := inv
  refine ⟨?_, ?_, ?_, ?_, ?_, ?_⟩ <;> simpa only [seats, bookings, passengers]

/-- Changes to none of the inventory's tables. -/
theorem Inventory.of_quiet (inv : Inventory db) {w : Changes} (seats : w.seats = [])
    (bookings : w.bookings = []) (passengers : w.passengers = []) : Inventory (w.apply db) := by
  refine inv.of_same ?_ ?_ ?_
  · rw [Changes.apply_seats, seats, Table.putAll_nil]
  · rw [Changes.apply_bookings, bookings, Table.putAll_nil]
  · rw [Changes.apply_passengers, passengers, Table.putAll_nil]

theorem Transaction.inventory (inv : Inventory db) {x : Transaction} {r : x.Result}
    (ran : Commits (.still db) n (x.body now) (.start i) r c') : Inventory (c'.log.apply db) := by
  have effect := effect_of_commits (Timeline.still_framed (S := postgres) db) ran
  cases effect with
  | nothing _ log =>
      rw [log]
      exact inv
  | laidOut _ on => exact on.inventory inv
  | created => exact createBooking_inventory inv ran
  | cancelled => exact cancelBooking_inventory inv ran
  | reseated => exact changeSeat_inventory inv ran
  | expired => exact expireBatch_inventory inv ran
  | paid _ _ on =>
      cases on with
      | answered _ log => exact inv.of_quiet (by rw [log]) (by rw [log]) (by rw [log])
      | released _ log => exact inv.of_quiet (by rw [log]) (by rw [log]) (by rw [log])
      | started _ _ log => exact inv.of_quiet (by rw [log]) (by rw [log]) (by rw [log])
  | confirmed _ on _ _ _ _ _ log =>
      obtain ⟨mem, here⟩ := Table.find?_eq_some.mp on.current
      simp only [Timeline.still_state] at log
      refine inv.confirm mem (isConfirmable_held on.confirmable) (nodup_lockedSeats _ db db)
        (fun s => ?_) (by rw [log]) (by rw [log]) (by rw [log])
      rw [mem_lockedSeats_self, ← here]
      simp [key]
  | declined _ _ _ log => exact inv.of_quiet (by rw [log]) (by rw [log]) (by rw [log])
  | chargedTooLate _ _ _ log => exact inv.of_quiet (by rw [log]) (by rw [log]) (by rw [log])
  | claimed _ _ log => exact inv.of_quiet (by rw [log]) (by rw [log]) (by rw [log])
  | refundRecorded _ _ log => exact inv.of_quiet (by rw [log]) (by rw [log]) (by rw [log])
  | rescheduled _ _ log => exact inv.of_quiet (by rw [log]) (by rw [log]) (by rw [log])
  | cleaned _ log => exact inv.of_quiet (by rw [log]) (by rw [log]) (by rw [log])
  | published _ _ log => exact inv.of_quiet (by rw [log]) (by rw [log]) (by rw [log])

/-! ### The seats a booking releases -/

/-- Somebody travels with a live booking, and sits on a seat of it. -/
theorem Presentable.owned (inv : Presentable db) {b : BookingRow} (mem : b ∈ db.bookings)
    (live : b.status.Live) : ∃ s ∈ db.seats, s.bookingId = some b.id := by
  obtain ⟨p, memP, here⟩ := inv.carries b mem
  obtain ⟨s, memS, on⟩ := inv.inventory.seated b mem live p memP here
  exact ⟨s, memS, on.owned⟩

theorem sortedPositions_ne {seats : List FlightSeat} (some : seats ≠ []) :
    sortedPositions seats ≠ [] := by
  intro none
  have length := congrArg List.length none
  rw [sortedPositions, List.length_insertionSort, List.length_map] at length
  exact some (List.length_eq_zero_iff.mp length)

/-- The seats a live booking would release are some. -/
theorem Presentable.released (inv : Presentable db) {b : BookingRow} (mem : b ∈ db.bookings)
    (live : b.status.Live) : sortedPositions (lockedSeats [b.id] db db) ≠ [] := by
  obtain ⟨s, memS, owned⟩ := inv.owned mem live
  refine sortedPositions_ne (List.ne_nil_of_mem (mem_lockedSeats_self.mpr ⟨memS, b.id, ?_, owned⟩))
  exact List.mem_cons_self

/-! ### What each use case enqueues is accepted -/

theorem copySeats_outbox {flightId aircraftId : Uuid} {skip : List Row} {snap cur : Db} {out}
    (h : copySeats flightId aircraftId skip snap cur = .ok out) : out.writes.outbox = [] := by
  unfold copySeats at h
  extract_lets seats at h
  split at h <;> cases h
  rfl

theorem createFlight_accepted {flight : Flight} {actor auditId eventId : Uuid}
    {requestId : Option Uuid} {r : FlightInserted}
    (valid : (Transaction.createFlight flight actor auditId eventId requestId).InputValid)
    (ran : Commits (.still db) n
      (createFlightTransaction flight actor auditId eventId requestId now) (.start i) r c') :
    ∀ o ∈ c'.log.outbox, o.Accepted := by
  have framed := Timeline.still_framed (S := postgres) db
  obtain ⟨number, origin, destination⟩ := valid
  obtain ⟨inserted, c₁, first, rest⟩ := commits_bind.mp ran
  have quiet : ∀ P, Writes (Enqueues P) (insertFlight flight) := by
    intro P
    refine writes_bind (enqueues_quiet fun _ _ _ _ done => (insertFlightRow_silent done).2)
      fun inserted => ?_
    cases inserted with
    | duplicate | aircraftUnavailable | referenceNotFound => trivial
    | created =>
        exact writes_bind (enqueues_quiet fun _ _ _ _ done => copySeats_outbox done) fun _ =>
          writes_bind (enqueues_quiet fun _ _ _ _ done => by rw [(insertFares_ok done).1]) fun _ => trivial
  have before := enqueues_of_commits framed (quiet OutboxRow.Accepted) first (by simp)
  cases inserted with
  | duplicate | aircraftUnavailable | referenceNotFound =>
      obtain ⟨-, rfl⟩ := rest
      exact before
  | created =>
      have positive : ∀ fare ∈ flight.fares.entries, fare.2.amount ≠ 0 := by
        obtain ⟨inserted, c₂, -, first⟩ := commits_bind.mp first
        cases inserted with
        | duplicate | aircraftUnavailable | referenceNotFound =>
            obtain ⟨same, -⟩ := first
            cases same
        | created =>
            obtain ⟨_, c₃, -, first⟩ := commits_bind.mp first
            obtain ⟨_, c₄, fares, -⟩ := commits_bind.mp first
            obtain ⟨_, _, _, _, -, -, -, done, -⟩ := commits_query.mp fares
            exact (insertFares_ok done).2
      refine enqueues_of_commits framed ?_ rest before
      exact writes_bind (enqueues_recordAudit _) fun _ => writes_bind (enqueues_enqueue
        ⟨rfl, number, origin, destination, positive, _, rfl⟩) fun _ => trivial

theorem cancelBooking_accepted (inv : Presentable db) {id : Uuid} {scope : BookingAccessScope}
    {actor : Uuid} {ids : CancelIds} {requestId : Option Uuid}
    {r : Except NotCancelled CancelledBooking}
    (ran : Commits (.still db) n (cancelBookingTransaction id scope actor ids requestId now)
      (.start i) r c') : ∀ o ∈ c'.log.outbox, o.Accepted := by
  have framed := Timeline.still_framed (S := postgres) db
  obtain ⟨cancelled, c₁, main, rest⟩ := commits_bind.mp ran
  rcases cancelInTransaction_commits framed main with ⟨reason, rfl, log⟩ |
    ⟨booking, flight, first, locked, snap, cur, on, -, -, -, -, rfl, log⟩
  · obtain ⟨rfl, rfl⟩ := rest
    rw [log]
    simp
  · obtain ⟨mem, here⟩ := Table.find?_eq_some.mp on.current
    have here : booking.id = id := here
    have seats := inv.released mem (isCancellable_live on.cancellable)
    rw [here] at seats
    refine enqueues_of_commits framed (writes_bind (enqueues_quiet fun _ _ _ _ done => ?_) fun paid =>
      writes_bind (enqueues_recordAudit _) fun _ => writes_bind ?_ fun _ =>
      writes_bind (enqueues_enqueue ?_) fun _ =>
      writes_bind (enqueues_findById id scope) fun found => ?_) rest (by simp [log])
    · rw [(markRefundPendingForCancelledBooking_ok done).2]
    · cases paid with
      | none => trivial
      | some p => exact enqueues_recordAudit _
    · exact ⟨rfl, inv.references booking mem, seats⟩
    · cases found <;> trivial

theorem expireBatch_accepted (inv : Presentable db) {batchSize : Nat} {ids : ExpiryIds} {r : Nat}
    {log : Changes}
    (ran : execute (S := postgres) [] db (expireBatchTransaction now batchSize ids) {} =
      .ok (r, log)) : ∀ o ∈ log.outbox, o.Accepted := by
  obtain ⟨-, rfl⟩ := execute_expireBatch ran
  have all : ∀ (due : List BookingRow) (index : Nat),
      (∀ b ∈ due, b ∈ db.bookings ∧ isDue now b = true) →
      ∀ o ∈ expiryEvents now ids index (due.map (expiredHold db)), o.Accepted := by
    intro due
    induction due with
    | nil =>
        intro index _ o mem
        cases mem
    | cons b due ih =>
        intro index each o mem
        rcases List.mem_cons.mp mem with rfl | mem
        · obtain ⟨memB, isDue⟩ := each b List.mem_cons_self
          refine ⟨rfl, inv.references b memB, ?_⟩
          obtain ⟨s, memS, owned⟩ := inv.owned memB (.inl (isDue_held isDue))
          exact sortedPositions_ne (List.ne_nil_of_mem (List.mem_filter.mpr
            ⟨Table.mem_rows.mp memS, by simpa using owned⟩))
        · exact ih (index + 1) (fun b mem => each b (.tail _ mem)) o mem
  refine all _ 0 fun b mem => ?_
  obtain ⟨present, isDue, -⟩ := mem_dueHolds mem
  exact ⟨present, isDue⟩

/-- The passengers of a confirmed booking keep their names. -/
theorem mapM_toEventPassenger {id : Uuid} {passengers : List BookingPassenger}
    {written : List EventPassenger} (h : passengers.mapM (toEventPassenger id) = .ok written) :
    written.map (·.name) = passengers.map (·.name) := by
  induction passengers generalizing written with
  | nil =>
      cases h
      rfl
  | cons p passengers ih =>
      rw [List.mapM_cons] at h
      obtain ⟨first, one, h⟩ := Checks.bind_eq_ok.mp h
      obtain ⟨rest, others, h⟩ := Checks.bind_eq_ok.mp h
      cases h
      have name : first.name = p.name := by
        unfold toEventPassenger at one
        split at one <;> cases one
        rfl
      rw [List.map_cons, List.map_cons, ih others, name]

theorem charged_accepted (inv : Presentable db) {payment : Payment} {reference : String}
    {actor : AuditActor} {ids : SettleIds} {r : StoredResponse}
    (ran : Commits (.still db) n (charged payment reference actor ids now) (.start i) r c') :
    ∀ o ∈ c'.log.outbox, o.Accepted := by
  have framed := Timeline.still_framed (S := postgres) db
  obtain ⟨confirmed, c₁, confirms, rest⟩ := commits_bind.mp ran
  rcases confirmHold_commits framed confirms with ⟨rfl, log₁⟩ |
    ⟨booking, confirmed', snap, cur, at', on, -, -, -, rfl, log₁, -, -, mapped⟩
  · obtain ⟨p, k, audit, -, -, -, log, -⟩ := chargedTooLate_commits framed log₁ rest
    rw [log]
    simp
  · obtain ⟨_, c₂, moved, rest⟩ := commits_bind.mp rest
    obtain ⟨p, cur', -, -, log₂, -⟩ := transition_commits framed (by rw [log₁]) moved
    obtain ⟨_, c₃, recorded, rest⟩ := commits_bind.mp rest
    have log₃ := recordAudit_commits recorded
    obtain ⟨passengers, written, rest⟩ := commits_orThrow_bind.mp rest
    obtain ⟨_, c₄, enqueued, answered⟩ := commits_bind.mp rest
    have log₄ := enqueue_commits enqueued
    obtain ⟨-, k, -, -, -, log₅⟩ :=
      answerPayment_commits framed (by rw [log₄, log₃, log₂, log₁]; rfl) answered
    obtain ⟨present, here⟩ := Table.find?_eq_some.mp on.current
    have here : booking.id = payment.bookingId := here
    obtain ⟨reference, all⟩ : confirmed'.reference = booking.reference ∧
        confirmed'.passengers = (passengersOf db payment.bookingId).map mapPassenger := by
      unfold mapBooking at mapped
      cases total : bookingTotal ((passengersOf db payment.bookingId).map mapPassenger) with
      | error e =>
          rw [Timeline.still_state, total] at mapped
          cases mapped
      | ok money =>
          rw [Timeline.still_state, total] at mapped
          cases mapped
          exact ⟨rfl, rfl⟩
    have names := mapM_toEventPassenger written
    have accepted : EventBody.Presentable (.bookingConfirmed confirmed'.id confirmed'.reference
        confirmed'.flightId passengers confirmed'.total payment.id payment.amount) := by
      refine ⟨?_, ?_, ?_⟩
      · rw [reference]
        exact inv.references booking present
      · intro none
        obtain ⟨p, memP, own⟩ := inv.carries booking present
        have memP := mem_passengersOf.mpr ⟨memP, own.trans here⟩
        rw [none, all, List.map_nil, eq_comm, List.map_eq_nil_iff, List.map_eq_nil_iff] at names
        rw [names] at memP
        cases memP
      · intro p mem
        have name : p.name ∈ confirmed'.passengers.map (·.name) := names ▸ List.mem_map_of_mem mem
        rw [all, List.map_map] at name
        obtain ⟨row, memRow, is⟩ := List.mem_map.mp name
        rw [← is]
        exact inv.names row (mem_passengersOf.mp memRow).1
    rw [log₅, log₄, log₃, log₂, log₁]
    intro o mem
    cases List.mem_singleton.mp mem
    exact ⟨rfl, accepted⟩

theorem registerAircraft_enqueues {P : OutboxRow → Prop} (aircraft : Aircraft)
    (actor auditId : Uuid) (requestId : Option Uuid) :
    Writes (Enqueues P) (registerAircraftTransaction aircraft actor auditId requestId) := by
  refine writes_bind (enqueues_quiet fun _ _ _ _ done => ?_) fun inserted => ?_
  · unfold insertAircraft at done
    split at done
    · cases done
    · split at done <;> cases done <;> rfl
  · cases inserted with
    | false => trivial
    | true => exact writes_bind (enqueues_recordAudit _) fun _ => trivial

theorem openFlight_enqueues {P : OutboxRow → Prop} (flight : FlightRow) (actor auditId : Uuid)
    (requestId : Option Uuid) :
    Writes (Enqueues P) (openFlightTransaction flight actor auditId requestId now) := by
  refine writes_bind (writes_bind (enqueues_quiet fun _ _ _ _ done => ?_) fun changed => ?_)
    fun result => ?_
  · unfold updateFlightStatus at done
    split at done
    · cases done
      rfl
    · extract_lets locks at done
      split at done <;> cases done <;> rfl
  · cases changed with
    | true => trivial
    | false =>
        refine writes_bind (enqueues_quiet fun _ _ _ _ done => by cases done; rfl) fun found => ?_
        cases found <;> trivial
  · cases result with
    | changed => exact writes_bind (enqueues_recordAudit _) fun _ => trivial
    | notFound | statusChanged => trivial

theorem names_paired {request : CreateBookingInput} {held : List HeldSeat}
    (named : ∀ name ∈ request.names, name ≠ "") : ∀ p ∈ paired request held, p.name ≠ "" := by
  intro p mem
  rw [paired, ← List.map_uncurry_zip_eq_zipWith] at mem
  obtain ⟨⟨name, seat⟩, own, rfl⟩ := List.mem_map.mp mem
  exact named name (List.of_mem_zip own).1

/-- A booking that was made has a reference and passengers with names. -/
theorem createBooking_presentable {flightId : Uuid} {request : CreateBookingInput} {actor : Uuid}
    {ids : CreateBookingIds} {requestId : Option Uuid} {booking : Booking} {log : Changes}
    (valid : (Transaction.createBooking flightId request actor ids requestId).InputValid)
    (done : execute (S := postgres) [] db
      (createBookingTransaction flightId request actor ids requestId now) {} =
        .ok (.ok booking, log)) :
    booking.reference ≠ "" ∧ booking.passengers ≠ [] ∧ (∀ p ∈ booking.passengers, p.name ≠ "") ∧
      log.passengers = passengerRows booking.id booking.passengers ∧ ∀ o ∈ log.outbox, o.Accepted := by
  obtain ⟨named, references⟩ := valid
  rcases execute_createBooking done with ⟨⟨_, refused⟩, -⟩ |
    ⟨booking', picked, held, taken, same, -, booked, -, -, -, rfl⟩
  · cases refused
  · cases same
    obtain ⟨k, -, drawn, -⟩ := booked.drawn
    have reference : booking.reference ≠ "" := drawn ▸ references k
    have names := @names_paired request held named
    have travels : paired request held ≠ [] := by
      have count : 1 ≤ request.names.length := by
        cases request with
        | auto _ _ count => exact count.1
        | chosen passengers count => simpa [CreateBookingInput.names] using count.1
      intro none
      have length := congrArg List.length none
      rw [paired, List.length_zipWith, booked.length, Nat.min_self, List.length_nil] at length
      omega
    refine ⟨reference, ?_, ?_, rfl, ?_⟩
    · rw [booked.passengers]
      exact List.map_eq_nil_iff.not.mpr travels
    · rw [booked.passengers]
      intro p mem
      obtain ⟨p, own, rfl⟩ := List.mem_map.mp mem
      exact names p own
    · intro o mem
      cases List.mem_singleton.mp mem
      exact ⟨rfl, reference, travels, names⟩

/-- Every event a transaction writes is accepted, when it runs alone. -/
theorem Transaction.accepted (inv : Presentable db) {x : Transaction} (valid : x.InputValid)
    {r : x.Result} {log : Changes}
    (done : execute (S := postgres) [] db (x.body now) {} = .ok (r, log)) :
    ∀ o ∈ log.outbox, o.Accepted := by
  have framed := Timeline.still_framed (S := postgres) db
  obtain ⟨c', ran, rfl⟩ := commits_of_execute (c := .start 0) (Nat.le_refl 0) done
  have effect := effect_of_commits framed ran
  cases effect with
  | nothing _ log =>
      rw [log]
      simp
  | @laidOut x _ _ _ on =>
      cases x with
      | registerAircraft aircraft actor auditId requestId =>
          exact enqueues_of_commits framed (registerAircraft_enqueues ..) ran (by simp)
      | openFlight flight actor auditId requestId at' =>
          exact enqueues_of_commits framed (openFlight_enqueues ..) ran (by simp)
      | createFlight => exact createFlight_accepted valid ran
      | _ => cases on
  | created => exact (createBooking_presentable valid done).2.2.2.2
  | cancelled => exact cancelBooking_accepted inv ran
  | reseated _ _ _ _ log =>
      rw [log]
      simp
  | expired => exact expireBatch_accepted inv done
  | confirmed => exact charged_accepted inv ran
  | paid _ _ on =>
      cases on with
      | answered _ log | released _ log | started _ _ log =>
          rw [log]
          simp
  | declined _ _ _ log | chargedTooLate _ _ _ log | claimed _ _ log | refundRecorded _ _ log
    | rescheduled _ _ log | cleaned _ log =>
      rw [log]
      simp
  | published _ current log =>
      rw [log]
      intro o mem
      obtain ⟨o, own, rfl⟩ := List.mem_map.mp mem
      exact inv.accepted o (current o own).1

/-! ### The bookings and their passengers -/

theorem Table.mem_of_putAll {α κ : Type} [DecidableEq κ] [Keyed α κ] {t : Table α} {vs : List α}
    {u : α} (mem : u ∈ t.putAll vs) : u ∈ vs ∨ u ∈ t := by
  have found := Table.find?_of_mem mem
  rcases Table.find?_putAll_cases t vs (key u) with same | ⟨v, memV, -, found'⟩
  · exact .inr (Table.mem_of_find? (same ▸ found))
  · exact .inl (Option.some.inj (found'.symm.trans found) ▸ memV)

/-- What a transaction writes of passengers: of a new booking, or of the one who moved. -/
theorem Transaction.names (inv : Presentable db) {x : Transaction} (valid : x.InputValid)
    {r : x.Result} (done : execute (S := postgres) [] db (x.body now) {} = .ok (r, c'.log))
    (effect : Effect (.still db) n i x now r c') : ∀ p ∈ c'.log.passengers, p.name ≠ "" := by
  cases effect with
  | created _ _ log =>
      obtain ⟨-, -, names, -⟩ := createBooking_presentable valid done
      rw [log]
      intro p mem
      obtain ⟨j, lt, rfl⟩ := List.mem_mapIdx.mp mem
      exact names _ (List.getElem_mem lt)
  | reseated _ _ _ current log =>
      rw [log]
      intro p mem
      obtain ⟨p, own, rfl⟩ := List.mem_map.mp mem
      exact inv.names p (current p own)
  | laidOut _ on =>
      rw [on.quiet.passengers]
      simp
  | paid _ _ on =>
      cases on with
      | answered _ log | released _ log | started _ _ log =>
          rw [log]
          simp
  | nothing _ log | cancelled _ _ _ _ _ _ _ _ _ log | expired _ _ _ _ log | declined _ _ _ log
    | chargedTooLate _ _ _ log | confirmed _ _ _ _ _ _ _ log | claimed _ _ log
    | refundRecorded _ _ log | rescheduled _ _ log | cleaned _ log | published _ _ log =>
      rw [log]
      simp

/-- A transaction that runs alone keeps everything presentable. -/
theorem Presentable.step (inv : Presentable db) {x : Transaction} (valid : x.InputValid)
    {r : x.Result} {log : Changes}
    (done : execute (S := postgres) [] db (x.body now) {} = .ok (r, log)) :
    Presentable (log.apply db) := by
  obtain ⟨c', ran, rfl⟩ := commits_of_execute (c := .start 0) (Nat.le_refl 0) done
  have effect := effect_of_commits (Timeline.still_framed (S := postgres) db) ran
  have stays : ∀ p ∈ db.passengers, ∃ p' ∈ (c'.log.apply db).passengers,
      p'.bookingId = p.bookingId := by
    intro p mem
    rw [Changes.apply_passengers]
    rcases Table.find?_putAll_cases db.passengers c'.log.passengers (key p) with
      same | ⟨p', -, here, found⟩
    · exact ⟨p, Table.mem_of_find? (same.trans (Table.find?_of_mem mem)), rfl⟩
    · exact ⟨p', Table.mem_of_find? found, congrArg Prod.fst here⟩
  -- Each booking is as it was but for its status, or has just been made.
  have each : ∀ b ∈ (c'.log.apply db).bookings, b.reference ≠ "" ∧
      ∃ p ∈ (c'.log.apply db).passengers, p.bookingId = b.id := by
    intro b mem
    have found : (c'.log.apply db).bookings.find? b.id = some b := Table.find?_of_mem mem
    have old : ∀ b' ∈ db.bookings, b'.id = b.id → b'.reference = b.reference →
        b.reference ≠ "" ∧ ∃ p ∈ (c'.log.apply db).passengers, p.bookingId = b.id := by
      intro b' mem' here reference
      obtain ⟨p, memP, own⟩ := inv.carries b' mem'
      obtain ⟨p', memP', own'⟩ := stays p memP
      exact ⟨reference ▸ inv.references b' mem', p', memP', own'.trans (own.trans here)⟩
    have change : BookingChange (.still db) 0 c' b.id x now r (db.bookings.find? b.id)
        ((c'.log.apply db).bookings.find? b.id) := effect.booking b.id
    rw [found] at change
    generalize before : db.bookings.find? b.id = o at change
    cases change with
    | same => exact old b (Table.mem_of_find? before) rfl rfl
    | cancelled | expired | confirmed => exact old _ (Table.mem_of_find? before) rfl rfl
    | @created _ _ _ _ _ _ booking =>
        obtain ⟨reference, some, -, written, -⟩ := createBooking_presentable valid done
        refine ⟨reference, ?_⟩
        have rows : passengerRows booking.id booking.passengers ≠ [] := fun none =>
          some (List.mapIdx_eq_nil_iff.mp none)
        obtain ⟨p, memP⟩ := List.exists_mem_of_ne_nil _ rows
        refine ⟨p, ?_, passengerRows_ids _ _ p memP⟩
        rw [Changes.apply_passengers, written]
        exact Table.mem_of_find? (Table.find?_putAll_of_mem (passengerRows_nodup _ _) memP)
  refine ⟨Transaction.inventory inv.inventory ran, fun b mem => (each b mem).1, ?_,
    fun b mem => (each b mem).2, ?_⟩
  · intro p mem
    rw [Changes.apply_passengers] at mem
    rcases Table.mem_of_putAll mem with new | old
    · exact Transaction.names inv valid done effect p new
    · exact inv.names p old
  · intro o mem
    rw [Changes.apply_outbox] at mem
    rcases Table.mem_of_putAll mem with new | old
    · exact Transaction.accepted inv valid done o new
    · exact inv.accepted o old

theorem ServiceReachable.presentable (h : ServiceReachable db) : Presentable db := by
  obtain ⟨airports, run⟩ := h
  induction run with
  | refl => exact ⟨inventory_empty _ rfl rfl rfl, by simp, by simp, by simp, by simp⟩
  | tail _ step inv =>
      obtain ⟨x, now, r, log, valid, done, rfl⟩ := step
      exact inv.step valid done

/-- Every event in the outbox of a run reaches its consumer whole, through the column and
the message, and the consumer's parser accepts it; and what any of the parsers gave, it
gives again. -/
theorem events_accepted {text : Uuid → List Char} (named : ∀ id, text id ≠ [])
    (h : ServiceReachable db) :
    (∀ o ∈ db.outbox, (delivered (o.entry.payload.contract text).toJson).map
        (ContractEvent.parse o.entry.eventType) = some (.ok (o.entry.payload.contract text))) ∧
    ∀ queue payload e, ContractEvent.parse queue payload = .ok e →
      ContractEvent.parse queue e.toJson = .ok e := by
  constructor
  · intro o mem
    obtain ⟨queue, presentable⟩ := h.presentable.accepted o mem
    rw [queue, ← EventPayload.contract_queue text]
    exact (EventPayload.contract_valid named presentable).arrives
  · intro queue payload e read
    exact ContractEvent.reparse read

/-! A flight, a booking on it, and its end. -/

theorem ServiceReachable.commitAlone {db db' : Db} (h : ServiceReachable db) (x : Transaction)
    (now : Instant) (valid : x.InputValid)
    (ran : FlightBooking.commitAlone (x.body now) db = some db') : ServiceReachable db' := by
  obtain ⟨airports, run⟩ := h
  unfold FlightBooking.commitAlone at ran
  split at ran
  · rename_i r log done
    cases ran
    exact ⟨airports, run.tail ⟨x, now, r, log, valid, done, rfl⟩⟩
  · cases ran

def sampleEventsDb : Option Db :=
  (sampleBookingDb 0).bind
    (commitAlone (cancelBookingTransaction 5 .admin 7 ⟨6, 7, 8⟩ none 1))

theorem sampleEventsDb_reachable {db : Db} (h : sampleEventsDb = some db) : ServiceReachable db := by
  obtain ⟨db₄, rest, cancelled⟩ := Option.bind_eq_some_iff.mp h
  obtain ⟨db₃, rest, booked⟩ := Option.bind_eq_some_iff.mp rest
  obtain ⟨db₂, rest, opened⟩ := Option.bind_eq_some_iff.mp rest
  obtain ⟨db₁, registered, created⟩ := Option.bind_eq_some_iff.mp rest
  have start : ServiceReachable { airports := sampleAirports } := ⟨_, .refl⟩
  have reference : "ABC234" ≠ "" := by decide
  have flight := (start.commitAlone (.registerAircraft ..) 0 trivial registered).commitAlone
    (.createFlight ..) 0 ⟨by decide, by decide, by decide⟩ created
  have booking := (flight.commitAlone (.openFlight ..) 0 trivial opened).commitAlone
    (.createBooking ..) 0 ⟨by decide, fun _ => reference⟩ booked
  exact booking.commitAlone (.cancelBooking ..) 1 trivial cancelled

theorem events_accepted_sample : ∃ db, sampleEventsDb = some db ∧
    db.outbox.rows.map (·.entry.eventType) = [.flightCreated, .bookingHeld, .bookingCancelled] ∧
    ∀ o ∈ db.outbox, (delivered (o.entry.payload.contract uuidText).toJson).map
      (ContractEvent.parse o.entry.eventType) = some (.ok (o.entry.payload.contract uuidText)) := by
  have events : (sampleEventsDb.map fun db => db.outbox.rows.map (·.entry.eventType)) =
      some [.flightCreated, .bookingHeld, .bookingCancelled] := by decide +kernel
  obtain ⟨db, found, events⟩ := Option.map_eq_some_iff.mp events
  have named : ∀ id, uuidText id ≠ [] := by
    intro id none
    rw [uuidText, List.append_eq_nil_iff] at none
    cases none.2
  exact ⟨db, found, events, (events_accepted named (sampleEventsDb_reachable found)).1⟩

end FlightBooking
