import FlightBooking.Bookings.AfterSweep
import FlightBooking.Bookings.Totals

/-!
A change of seat, as one atomic step: when it changes anything, what it changes, and
what a client may rely on who has no idempotency key.

Each outcome has its condition on the stored rows, in the code's order. A change writes
two seats, one display copy and one audit entry; everything else writes nothing. A
repeat finds the passenger on the seat, and changing back puts every row where it was.
-/

namespace FlightBooking

open Relational ReadCommitted

/-- What a caller asks for. -/
structure SeatChangeRequest where
  bookingId : Uuid
  position : Nat
  seat : SeatPosition
  scope : BookingAccessScope
  deriving DecidableEq, Repr

variable {q : SeatChangeRequest} {now : Instant} {db : Db}

namespace SeatChangeRequest

/-- The call by itself at `now`: its answer and its changes, or its error. -/
def run (q : SeatChangeRequest) (actor auditId : Uuid) (requestId : Option Uuid) (now : Instant)
    (db : Db) : Except Failure (Except SeatChangeRefusal SeatSet × Changes) :=
  execute (S := postgres) [] db (changeSeatTransaction q.bookingId q.position q.seat q.scope actor
    auditId requestId now) {}

/-! ### Outcomes -/

/-- The booking is in scope, with its flight, and has the passenger. -/
structure Finds (q : SeatChangeRequest) (db : Db) (booking : BookingRow) (flight : FlightRow)
    (passenger : PassengerRow) : Prop where
  found : db.bookings.find? q.bookingId = some booking
  inScope : q.scope.admits booking.ownerAccountId = true
  flown : db.flights.find? booking.flightId = some flight
  read : db.passengers.find? (q.bookingId, q.position) = some passenger

/-- A seat of the booking's flight by its code. -/
def seatAt (db : Db) (booking : BookingRow) (code : SeatPosition) : Option FlightSeat :=
  db.seats.find? (booking.flightId, code)

/-- The passenger of a confirmed booking asks for another seat while the flight is on
sale. -/
structure Asks (q : SeatChangeRequest) (now : Instant) (db : Db) (booking : BookingRow)
    (flight : FlightRow) (passenger : PassengerRow) (own : FlightSeat) : Prop where
  finds : q.Finds db booking flight passenger
  confirmed : booking.status = .confirmed
  sits : passenger.seat = some own.position
  own_found : seatAt db booking own.position = some own
  differs : own.position ≠ q.seat
  onSale : isBookable flight.status flight.departureAt now = true

/-- A change that is to be made. -/
structure Reseating (q : SeatChangeRequest) (now : Instant) (db : Db) where
  booking : BookingRow
  flight : FlightRow
  passenger : PassengerRow
  own : FlightSeat
  wanted : FlightSeat
  asks : q.Asks now db booking flight passenger own
  wanted_found : seatAt db booking q.seat = some wanted
  sameClass : wanted.fareClass = own.fareClass
  available : wanted.status = .available

/-- The outcomes in the order the code decides them: each is reached past those above
it. -/
inductive Outcome (q : SeatChangeRequest) (now : Instant) (db : Db) : ChangeSeatResult → Prop where
  | notFound (unseen : foundForCancel q.bookingId q.scope db = none) :
      Outcome q now db (.refused .notFound)
  | passengerNotFound {found : BookingRow × FlightRow}
      (seen : foundForCancel q.bookingId q.scope db = some found)
      (none : db.passengers.find? (q.bookingId, q.position) = none) :
      Outcome q now db (.refused .passengerNotFound)
  | notChangeable {booking flight passenger} (finds : q.Finds db booking flight passenger)
      (other : booking.status ≠ .confirmed) : Outcome q now db (.refused .notChangeable)
  | unchanged {booking flight passenger} (finds : q.Finds db booking flight passenger)
      (confirmed : booking.status = .confirmed) (there : passenger.seat = some q.seat) :
      Outcome q now db .unchanged
  | salesClosed {booking flight passenger} (finds : q.Finds db booking flight passenger)
      (confirmed : booking.status = .confirmed) (differs : passenger.seat ≠ some q.seat)
      (closed : isBookable flight.status flight.departureAt now = false) :
      Outcome q now db (.refused .salesClosed)
  | unknownSeat {booking flight passenger own} (asks : q.Asks now db booking flight passenger own)
      (unknown : seatAt db booking q.seat = none) : Outcome q now db (.refused .unknownSeat)
  | fareClassMismatch {booking flight passenger own wanted}
      (asks : q.Asks now db booking flight passenger own)
      (wanted_found : seatAt db booking q.seat = some wanted)
      (other : wanted.fareClass ≠ own.fareClass) :
      Outcome q now db (.refused (.fareClassMismatch own.fareClass wanted.fareClass))
  | seatUnavailable {booking flight passenger own wanted}
      (asks : q.Asks now db booking flight passenger own)
      (wanted_found : seatAt db booking q.seat = some wanted)
      (sameClass : wanted.fareClass = own.fareClass) (taken : wanted.status ≠ .available) :
      Outcome q now db (.refused .seatUnavailable)
  | changed (c : q.Reseating now db) : Outcome q now db (.changed c.own.position q.seat)

variable {booking : BookingRow} {flight : FlightRow} {passenger : PassengerRow}

theorem Finds.seen (finds : q.Finds db booking flight passenger) :
    foundForCancel q.bookingId q.scope db = some (booking, flight) :=
  foundForCancel_eq_some.mpr ⟨finds.found, finds.inScope, finds.flown⟩

theorem Finds.travels (finds : q.Finds db booking flight passenger) :
    passenger ∈ db.passengers ∧ passenger.bookingId = q.bookingId := by
  obtain ⟨mem, at'⟩ := Table.find?_eq_some.mp finds.read
  exact ⟨mem, congrArg Prod.fst at'⟩

theorem Finds.booking_id (finds : q.Finds db booking flight passenger) :
    booking.id = q.bookingId := Table.key_of_find? finds.found

theorem seatAt_eq {code : SeatPosition} {s : FlightSeat} (found : seatAt db booking code = some s) :
    s ∈ db.seats ∧ s.flightId = booking.flightId ∧ s.position = code := by
  obtain ⟨mem, at'⟩ := Table.find?_eq_some.mp found
  exact ⟨mem, congrArg Prod.fst at', congrArg Prod.snd at'⟩

/-- A confirmed booking's passenger sits on a seat that is booked for it. -/
theorem Finds.own (finds : q.Finds db booking flight passenger) (seated : Seated db)
    (confirmed : booking.status = .confirmed) : ∃ own : FlightSeat,
    passenger.seat = some own.position ∧ seatAt db booking own.position = some own ∧
      own.bookingId = some q.bookingId ∧ own.status = .booked := by
  obtain ⟨memP, at'⟩ := finds.travels
  obtain ⟨own, mem, on, flight', status⟩ := seated.seated booking
    (Table.mem_of_find? finds.found) (.inr confirmed) passenger memP
    (at'.trans finds.booking_id.symm)
  refine ⟨own, on.seat, ?_, finds.booking_id ▸ on.owned, ?_⟩
  · rw [seatAt, ← flight']
    exact Table.find?_of_mem mem
  · rw [status, confirmed]
    rfl

/-- In every version some outcome's condition holds. -/
theorem exists_outcome (seated : Seated db) (q : SeatChangeRequest) (now : Instant) :
    ∃ result, q.Outcome now db result := by
  cases seen : foundForCancel q.bookingId q.scope db with
  | none => exact ⟨_, .notFound seen⟩
  | some pair =>
      obtain ⟨booking, flight⟩ := pair
      cases read : db.passengers.find? (q.bookingId, q.position) with
      | none => exact ⟨_, .passengerNotFound seen read⟩
      | some passenger =>
          obtain ⟨found, inScope, flown⟩ := foundForCancel_eq_some.mp seen
          have finds : q.Finds db booking flight passenger := ⟨found, inScope, flown, read⟩
          by_cases confirmed : booking.status = .confirmed
          · obtain ⟨own, sits, own_found, -, -⟩ := finds.own seated confirmed
            by_cases there : own.position = q.seat
            · exact ⟨_, .unchanged finds confirmed (there ▸ sits)⟩
            · have differs : passenger.seat ≠ some q.seat := fun same =>
                there (Option.some.inj (sits.symm.trans same))
              cases onSale : isBookable flight.status flight.departureAt now with
              | false => exact ⟨_, .salesClosed finds confirmed differs onSale⟩
              | true =>
                  have asks : q.Asks now db booking flight passenger own :=
                    ⟨finds, confirmed, sits, own_found, there, onSale⟩
                  cases wanted_found : seatAt db booking q.seat with
                  | none => exact ⟨_, .unknownSeat asks wanted_found⟩
                  | some wanted =>
                      by_cases sameClass : wanted.fareClass = own.fareClass
                      · by_cases available : wanted.status = .available
                        · exact ⟨_, .changed ⟨booking, flight, passenger, own, wanted, asks,
                            wanted_found, sameClass, available⟩⟩
                        · exact ⟨_, .seatUnavailable asks wanted_found sameClass available⟩
                      · exact ⟨_, .fareClassMismatch asks wanted_found sameClass⟩
          · exact ⟨_, .notChangeable finds confirmed⟩

/-! ### What is written -/

variable {own : FlightSeat}

theorem Asks.own_booked (asks : q.Asks now db booking flight passenger own) (seated : Seated db) :
    own.bookingId = some q.bookingId ∧ own.status = .booked := by
  obtain ⟨memP, at'⟩ := asks.finds.travels
  obtain ⟨mem, flight', -⟩ := seatAt_eq asks.own_found
  obtain ⟨on, status⟩ := seated.seat_eq (Table.mem_of_find? asks.finds.found)
    (.inr asks.confirmed) memP (at'.trans asks.finds.booking_id.symm) mem flight' asks.sits
  refine ⟨asks.finds.booking_id ▸ on.owned, ?_⟩
  rw [status, asks.confirmed]
  rfl

theorem Asks.owns (asks : q.Asks now db booking flight passenger own) (seated : Seated db) :
    (seatAt db booking own.position).filter
      (fun s => s.bookingId = some q.bookingId && s.status = .booked) = some own := by
  obtain ⟨owned, booked⟩ := asks.own_booked seated
  rw [asks.own_found, Option.filter_some, if_pos (by simp [owned, booked])]

/-- A code no seat of the flight has. -/
theorem Asks.verdict_unknown (asks : q.Asks now db booking flight passenger own)
    (seated : Seated db) : verdictOn q.bookingId own.position (seatAt db booking own.position) none =
      .ok (some .unknownSeat) := by
  rw [verdictOn, asks.owns seated]

theorem Asks.verdict (asks : q.Asks now db booking flight passenger own) (seated : Seated db)
    (wanted : FlightSeat) :
    verdictOn q.bookingId own.position (seatAt db booking own.position) (some wanted) =
      if wanted.fareClass ≠ own.fareClass then
        .ok (some (.fareClassMismatch own.fareClass wanted.fareClass))
      else if wanted.status ≠ .available then .ok (some .seatUnavailable)
      else .ok none := by
  rw [verdictOn, asks.owns seated]

/-- Two seats and the display copy. -/
def Reseating.writes (c : q.Reseating now db) : Changes where
  seats := [releaseSeat c.own, takeSeat q.bookingId c.wanted]
  passengers := [{ c.passenger with seat := some q.seat }]

theorem updateSeat_alone {k : Uuid × SeatPosition} {s : FlightSeat}
    {assign : FlightSeat → FlightSeat} (found : db.seats.find? k = some s) :
    updateSeat k.1 k.2 assign [] db db =
      .ok { reply := (), writes := { seats := [assign s] } } := by
  obtain ⟨mem, here⟩ := Table.find?_eq_some.mp found
  have writes := @updateSeat_ok [] db db k.1 k.2 assign _ rfl s mem here ⟨s, mem, rfl⟩
  exact congrArg (fun w => Except.ok (ReadCommitted.Outcome.mk (S := postgres) () w [])) writes

theorem Reseating.apart (c : q.Reseating now db) : key c.wanted ≠ key c.own := by
  intro same
  obtain ⟨-, -, own⟩ := seatAt_eq c.asks.own_found
  obtain ⟨-, -, wanted⟩ := seatAt_eq c.wanted_found
  exact c.asks.differs ((congrArg Prod.snd same).symm.trans wanted)

/-- Nobody of the booking sits on the free seat yet. -/
theorem Reseating.unseated (c : q.Reseating now db) (seated : Seated db) {p : PassengerRow}
    (mem : p ∈ db.passengers) (here : p.bookingId = q.bookingId) : p.seat ≠ some q.seat := by
  intro sits
  obtain ⟨memW, flight, position⟩ := seatAt_eq c.wanted_found
  obtain ⟨on, -⟩ := seated.seat_eq (Table.mem_of_find? c.asks.finds.found)
    (.inr c.asks.confirmed) mem (here.trans c.asks.finds.booking_id.symm) memW flight
    (sits.trans (congrArg some position.symm))
  have unowned := seated.unowned memW c.available
  rw [on.owned] at unowned
  cases unowned

theorem Reseating.execute_move (c : q.Reseating now db) (seated : Seated db) :
    execute (S := postgres) [] db
      (moveBetweenSeats q.bookingId q.position c.booking.flightId c.own.position q.seat) {} =
      .ok (.changed c.own.position q.seat, c.writes) := by
  have release := @updateSeat_alone db (c.booking.flightId, c.own.position) c.own releaseSeat
    c.asks.own_found
  set freed : Changes := { seats := [releaseSeat c.own] } with hFreed
  have still : (freed.apply db).seats.find? (c.booking.flightId, q.seat) = some c.wanted := by
    have found := c.wanted_found
    rw [seatAt] at found
    rw [Changes.apply_seats, hFreed, Table.find?_putAll_of_notMem, found]
    simp only [List.map_cons, List.map_nil, List.mem_singleton, key_releaseSeat]
    intro same
    exact c.apart ((Table.key_of_find? found).trans same)
  have take := @updateSeat_alone (freed.apply db) (c.booking.flightId, q.seat) c.wanted
    (takeSeat q.bookingId) still
  set taken : Changes := freed.append { seats := [takeSeat q.bookingId c.wanted] } with hTaken
  have copy : updatePassengerSeat q.bookingId q.position q.seat [] (taken.apply db)
      (taken.apply db) = .ok
        { reply := (), writes := { passengers := [{ c.passenger with seat := some q.seat }] } } := by
    have same : (taken.apply db).passengers = db.passengers := rfl
    have none : ¬ db.passengers.rows.any (fun p => p.bookingId = q.bookingId &&
        p.position ≠ q.position && p.seat = some q.seat) = true := by
      rw [List.any_eq_true]
      rintro ⟨p, mem, here⟩
      simp only [Bool.and_eq_true, decide_eq_true_eq] at here
      exact c.unseated seated mem here.1.1 here.2
    rw [updatePassengerSeat, same, if_neg none, c.asks.finds.read]
    rfl
  rw [execute_moveBetweenSeats]
  change (verdictOn q.bookingId c.own.position (seatAt db c.booking c.own.position)
    (seatAt db c.booking q.seat)).bind _ = _
  rw [c.wanted_found, c.asks.verdict seated, if_neg (not_not.mpr c.sameClass),
    if_neg (not_not.mpr c.available)]
  change execute (S := postgres) [] db _ {} = _
  rw [execute_query_bind release]
  change execute (S := postgres) [] db _ freed = _
  rw [execute_query_bind take]
  change execute (S := postgres) [] db _ taken = _
  rw [execute_query_bind copy]
  rfl

/-- The second half, when the seats decide against the change. -/
theorem execute_move_refused {reason : SeatChangeRefusal} (verdict : verdictOn q.bookingId own.position
      (seatAt db booking own.position) (seatAt db booking q.seat) = .ok (some reason)) :
    execute (S := postgres) [] db
      (moveBetweenSeats q.bookingId q.position booking.flightId own.position q.seat) {} =
      .ok (.refused reason, {}) := by
  rw [execute_moveBetweenSeats]
  change (verdictOn q.bookingId own.position (seatAt db booking own.position)
    (seatAt db booking q.seat)).bind _ = _
  rw [verdict]
  rfl

theorem Finds.execute_unconfirmed (finds : q.Finds db booking flight passenger)
    (other : booking.status ≠ .confirmed) :
    execute (S := postgres) [] db
      (changeSeatInTransaction q.bookingId q.position q.seat q.scope now) {} =
      .ok (.refused .notChangeable, {}) := by
  have lock := @lockBookingAndFlight_alone q.bookingId q.scope db
  have read : findPassenger q.bookingId q.position [] db db = .ok
      { reply := db.passengers.find? (q.bookingId, q.position) } := rfl
  rw [finds.seen] at lock
  rw [finds.read] at read
  rw [changeSeatInTransaction, execute_read_bind lock]
  dsimp only
  rw [execute_read_bind read]
  dsimp only
  rw [if_pos other]
  rfl

/-- The first half, up to the passenger's seat. -/
theorem Finds.execute_confirmed (finds : q.Finds db booking flight passenger)
    (confirmed : booking.status = .confirmed) {current : SeatPosition}
    (sits : passenger.seat = some current) :
    execute (S := postgres) [] db
      (changeSeatInTransaction q.bookingId q.position q.seat q.scope now) {} =
      execute (S := postgres) [] db
        (if current = q.seat then pure .unchanged
          else if ¬ isBookable flight.status flight.departureAt now then pure (.refused .salesClosed)
          else moveBetweenSeats q.bookingId q.position booking.flightId current q.seat) {} := by
  have lock := @lockBookingAndFlight_alone q.bookingId q.scope db
  have read : findPassenger q.bookingId q.position [] db db = .ok
      { reply := db.passengers.find? (q.bookingId, q.position) } := rfl
  rw [finds.seen] at lock
  rw [finds.read] at read
  rw [changeSeatInTransaction, execute_read_bind lock]
  dsimp only
  rw [execute_read_bind read]
  dsimp only
  rw [if_neg (not_not.mpr confirmed), sits]

theorem Asks.execute_asked (asks : q.Asks now db booking flight passenger own) :
    execute (S := postgres) [] db
      (changeSeatInTransaction q.bookingId q.position q.seat q.scope now) {} =
      execute (S := postgres) [] db
        (moveBetweenSeats q.bookingId q.position booking.flightId own.position q.seat) {} := by
  rw [asks.finds.execute_confirmed asks.confirmed asks.sits, if_neg asks.differs,
    if_neg (not_not.mpr asks.onSale)]

/-- The rows an outcome writes. -/
def Writes (q : SeatChangeRequest) (now : Instant) (db : Db) (result : ChangeSeatResult)
    (writes : Changes) : Prop :=
  (∃ c : q.Reseating now db, result = .changed c.own.position q.seat ∧ writes = c.writes) ∨
    (∀ old new, result ≠ .changed old new) ∧ writes = {}

/-- Each condition is answered with its outcome, and only a change writes. -/
theorem Outcome.executes {result : ChangeSeatResult} (outcome : q.Outcome now db result)
    (seated : Seated db) : ∃ writes, q.Writes now db result writes ∧
    execute (S := postgres) [] db
      (changeSeatInTransaction q.bookingId q.position q.seat q.scope now) {} =
      .ok (result, writes) := by
  have refused : ∀ {reason}, execute (S := postgres) [] db
      (changeSeatInTransaction q.bookingId q.position q.seat q.scope now) {} =
      .ok (.refused reason, {}) → ∃ writes, q.Writes now db (.refused reason) writes ∧
      execute (S := postgres) [] db
        (changeSeatInTransaction q.bookingId q.position q.seat q.scope now) {} =
        .ok (.refused reason, writes) := by
    intro reason ran
    exact ⟨{}, .inr ⟨fun _ _ same => (by cases same), rfl⟩, ran⟩
  have lock := @lockBookingAndFlight_alone q.bookingId q.scope db
  cases outcome with
  | notFound unseen =>
      rw [unseen] at lock
      refine refused ?_
      rw [changeSeatInTransaction, execute_read_bind lock]
      rfl
  | @passengerNotFound found seen none =>
      have read : findPassenger q.bookingId q.position [] db db = .ok
          { reply := db.passengers.find? (q.bookingId, q.position) } := rfl
      rw [seen] at lock
      rw [none] at read
      refine refused ?_
      obtain ⟨booking, flight⟩ := found
      rw [changeSeatInTransaction, execute_read_bind lock]
      dsimp only
      rw [execute_read_bind read]
      rfl
  | notChangeable finds other =>
      exact refused (finds.execute_unconfirmed other)
  | unchanged finds confirmed there =>
      refine ⟨{}, .inr ⟨fun _ _ same => (by cases same), rfl⟩, ?_⟩
      rw [finds.execute_confirmed confirmed there, if_pos rfl]
      rfl
  | salesClosed finds confirmed differs closed =>
      obtain ⟨own, sits, -, -, -⟩ := finds.own seated confirmed
      have moves : own.position ≠ q.seat := fun same => differs (same ▸ sits)
      refine refused ?_
      rw [finds.execute_confirmed confirmed sits, if_neg moves, if_pos (by simp [closed])]
      rfl
  | unknownSeat asks unknown =>
      refine refused ?_
      rw [asks.execute_asked, execute_move_refused (unknown ▸ asks.verdict_unknown seated)]
  | @fareClassMismatch _ _ _ own wanted asks found other =>
      have verdict := asks.verdict seated wanted
      rw [if_pos other] at verdict
      refine refused ?_
      rw [asks.execute_asked, execute_move_refused (found ▸ verdict)]
  | @seatUnavailable _ _ _ own wanted asks found sameClass taken =>
      have verdict := asks.verdict seated wanted
      rw [if_neg (not_not.mpr sameClass), if_pos taken] at verdict
      refine refused ?_
      rw [asks.execute_asked, execute_move_refused (found ▸ verdict)]
  | changed c =>
      refine ⟨c.writes, .inl ⟨c, rfl, rfl⟩, ?_⟩
      rw [c.asks.execute_asked, c.execute_move seated]

/-- A version answers one outcome. -/
theorem Outcome.unique {result result' : ChangeSeatResult} (outcome : q.Outcome now db result)
    (outcome' : q.Outcome now db result') (seated : Seated db) : result = result' := by
  obtain ⟨_, -, ran⟩ := outcome.executes seated
  obtain ⟨_, -, ran'⟩ := outcome'.executes seated
  exact congrArg Prod.fst (Except.ok.inj (ran.symm.trans ran'))

/-! ### The call -/

section Call

variable {actor auditId : Uuid} {requestId : Option Uuid} {result : ChangeSeatResult}

/-- The audit entry of a change from `old`. -/
def entry (q : SeatChangeRequest) (actor auditId : Uuid) (requestId : Option Uuid) (now : Instant)
    (old : SeatPosition) : AuditRecordInput where
  id := auditId
  action := .bookingSeatChanged
  actor := .account actor
  target := .booking q.bookingId
  requestId
  occurredAt := now
  metadata :=
    [("position", .number q.position), ("from", .text (formatSeatPosition old)),
      ("to", .text (formatSeatPosition q.seat))]

/-- Everything a change writes. -/
def Reseating.changes (c : q.Reseating now db) (actor auditId : Uuid) (requestId : Option Uuid) :
    Changes where
  seats := [releaseSeat c.own, takeSeat q.bookingId c.wanted]
  passengers := [{ c.passenger with seat := some q.seat }]
  audit := [q.entry actor auditId requestId now c.own.position]

theorem mapBooking_totalled (totalled : db.Totalled) (row : BookingRow) (id : Uuid) :
    ∃ booking, mapBooking row ((passengersOf db id).map mapPassenger) = .ok booking := by
  obtain ⟨total, sum⟩ := totalled id
  rw [← bookingTotal_passengersOf] at sum
  exact ⟨_, by rw [mapBooking, sum]; rfl⟩

/-- The booking as the call reads it back. -/
theorem execute_readBack (db : Db) {log : Changes} {row : BookingRow} {booking : Booking} {changed : Bool}
    (found : (log.apply db).bookings.find? q.bookingId = some row)
    (inScope : q.scope.admits row.ownerAccountId = true)
    (mapped : mapBooking row ((passengersOf (log.apply db) q.bookingId).map mapPassenger) =
      .ok booking) :
    execute (S := postgres) [] db
      (changeSeatTransaction.readBack q.bookingId q.scope changed) log =
      .ok (.ok ⟨changed, booking⟩, log) := by
  have seen : visible (log.apply db) q.scope q.bookingId = some row := by
    rw [visible, found, Option.filter_some, if_pos inScope]
  have read := @execute_findById db q.scope q.bookingId log
  rw [seen] at read
  dsimp only at read
  rw [mapped] at read
  rw [changeSeatTransaction.readBack, execute_bind, read]
  rfl

theorem run_refused {reason : SeatChangeRefusal} (outcome : q.Outcome now db (.refused reason))
    (seated : Seated db) : q.run actor auditId requestId now db = .ok (.error reason, {}) := by
  obtain ⟨writes, ⟨_, same, -⟩ | ⟨-, rfl⟩, ran⟩ := outcome.executes seated
  · cases same
  · rw [run, changeSeatTransaction, execute_bind, ran]
    rfl

/-- The booking as reads show it. -/
def read (q : SeatChangeRequest) (db : Db) : Except Failure (Option Booking) :=
  (execute (S := postgres) [] db (findById q.bookingId q.scope) {}).map Prod.fst

theorem read_eq (found : db.bookings.find? q.bookingId = some booking)
    (inScope : q.scope.admits booking.ownerAccountId = true) : q.read db =
      (mapBooking booking ((passengersOf db q.bookingId).map mapPassenger)).map some := by
  have seen : visible (postgres.apply {} db) q.scope q.bookingId = some booking := by
    rw [visible, show postgres.apply {} db = db from rfl, found, Option.filter_some, if_pos inScope]
  rw [read, execute_findById, seen]
  change Except.map _ (Except.map _ (mapBooking booking
    ((passengersOf db q.bookingId).map mapPassenger))) = _
  cases mapBooking booking ((passengersOf db q.bookingId).map mapPassenger) <;> rfl

theorem run_unchanged (actor auditId : Uuid) (requestId : Option Uuid)
    (outcome : q.Outcome now db .unchanged) (seated : Seated db) (totalled : db.Totalled) : ∃ booking, q.read db = .ok (some booking) ∧
      q.run actor auditId requestId now db = .ok (.ok ⟨false, booking⟩, {}) := by
  obtain ⟨writes, ⟨_, same, -⟩ | ⟨-, rfl⟩, ran⟩ := outcome.executes seated
  · cases same
  · cases outcome with
    | unchanged finds confirmed there =>
        obtain ⟨booking, mapped⟩ := mapBooking_totalled totalled _ _
        refine ⟨booking, by rw [read_eq finds.found finds.inScope, mapped]; rfl, ?_⟩
        rw [run, changeSeatTransaction, execute_bind, ran]
        exact execute_readBack db finds.found finds.inScope mapped

/-- A passenger but for the seat. -/
def ticket (p : BookingPassenger) : BookingPassenger := { p with seat := none }

/-- The state after a change, and the booking as it then reads. -/
structure Reseating.Done (c : q.Reseating now db) (audit : AuditRecordInput) (booking : Booking)
    (after : Db) : Prop where
  freed : after.seats.find? (key c.own) =
    some { c.own with status := .available, bookingId := none }
  taken : after.seats.find? (key c.wanted) =
    some { c.wanted with status := .booked, bookingId := some q.bookingId }
  otherSeats : ∀ k, k ≠ key c.own → k ≠ key c.wanted → after.seats.find? k = db.seats.find? k
  copied : after.passengers.find? (q.bookingId, q.position) =
    some { c.passenger with seat := some q.seat }
  otherPassengers : ∀ k, k ≠ (q.bookingId, q.position) →
    after.passengers.find? k = db.passengers.find? k
  audited : after.audit.rows = db.audit.rows ++ [audit]
  others : after =
    { db with seats := after.seats, passengers := after.passengers, audit := after.audit }
  prices : ∀ id, after.prices id = db.prices id
  reads : q.read after = .ok (some booking)
  total : ∃ before, q.read db = .ok (some before) ∧
    booking = { before with passengers := booking.passengers } ∧
    booking.passengers.map ticket = before.passengers.map ticket

/-- The rows but for the seats are as they were. -/
theorem Reseating.tickets (c : q.Reseating now db) (actor auditId : Uuid)
    (requestId : Option Uuid) :
    ((c.changes actor auditId requestId).apply db).passengers.rows.map PassengerRow.ticket =
      db.passengers.rows.map PassengerRow.ticket := by
  rw [Changes.apply_passengers]
  refine Table.map_rows_putAll_old fun p mem => ?_
  rw [List.mem_singleton.mp mem]
  exact ⟨c.passenger, c.asks.finds.travels.1, rfl, rfl⟩

theorem Reseating.totalled (c : q.Reseating now db) (actor auditId : Uuid)
    (requestId : Option Uuid) (totalled : db.Totalled) :
    ((c.changes actor auditId requestId).apply db).Totalled := by
  intro id
  rw [prices_congr (c.tickets ..)]
  exact totalled id

theorem map_ticket (rows : List PassengerRow) :
    (rows.map mapPassenger).map ticket = (rows.map PassengerRow.ticket).map mapPassenger := by
  rw [List.map_map, List.map_map]
  rfl

theorem Reseating.done (c : q.Reseating now db) (totalled : db.Totalled)
    (fresh : db.audit.find? auditId = none) {booking : Booking}
    (mapped : mapBooking c.booking ((passengersOf ((c.changes actor auditId requestId).apply db)
      q.bookingId).map mapPassenger) = .ok booking) :
    c.Done (q.entry actor auditId requestId now c.own.position) booking
      ((c.changes actor auditId requestId).apply db) := by
  set log := c.changes actor auditId requestId with hLog
  have seats : (log.apply db).seats =
      (db.seats.put (releaseSeat c.own)).put (takeSeat q.bookingId c.wanted) := rfl
  have passengers : (log.apply db).passengers =
      db.passengers.put { c.passenger with seat := some q.seat } := rfl
  have mine : (q.bookingId, q.position) =
      key ({ c.passenger with seat := some q.seat } : PassengerRow) :=
    (show key c.passenger = (q.bookingId, q.position) from
      Table.key_of_find? c.asks.finds.read).symm
  have finds := c.asks.finds
  constructor
  · rw [seats, Table.find?_put, if_neg, Table.find?_put, if_pos]
    · rfl
    · rfl
    · exact fun same => c.apart same.symm
  · rw [seats, Table.find?_put, if_pos]
    · rfl
    · rfl
  · intro k notOwn notWanted
    have before : (db.seats.put (releaseSeat c.own)).find? k = db.seats.find? k :=
      (Table.find?_put ..).trans (if_neg notOwn)
    exact ((Table.find?_put _ (takeSeat q.bookingId c.wanted) k).trans (if_neg notWanted)).trans
      before
  · exact (Table.find?_put ..).trans (if_pos mine)
  · intro k other
    exact (Table.find?_put ..).trans (if_neg fun same => other (same.trans mine.symm))
  · exact Table.rows_put_new fresh
  · rfl
  · exact prices_congr (c.tickets ..)
  · rw [@read_eq q (log.apply db) c.booking finds.found finds.inScope, mapped]
    rfl
  · obtain ⟨total, sum⟩ := totalled q.bookingId
    have sum' := sum
    rw [← prices_congr (c.tickets actor auditId requestId)] at sum'
    rw [← bookingTotal_passengersOf] at sum sum'
    rw [mapBooking, sum'] at mapped
    cases mapped
    refine ⟨_, by rw [read_eq finds.found finds.inScope, mapBooking, sum]; rfl, rfl, ?_⟩
    change ((passengersOf (log.apply db) q.bookingId).map mapPassenger).map ticket = _
    rw [map_ticket, tickets_congr (c.tickets ..), ← map_ticket]

/-- A change is made, unless its audit entry cannot be written. -/
theorem Reseating.run_changed (c : q.Reseating now db) (actor : Uuid) (requestId : Option Uuid)
    (seated : Seated db) (totalled : db.Totalled) (fresh : db.audit.find? auditId = none) : ∃ booking,
    c.Done (q.entry actor auditId requestId now c.own.position) booking
      ((c.changes actor auditId requestId).apply db) ∧
    q.run actor auditId requestId now db =
      .ok (.ok ⟨true, booking⟩, c.changes actor auditId requestId) := by
  have audit := @recordAudit_alone (c.writes.apply db)
    (q.entry actor auditId requestId now c.own.position) fresh
  have finds := c.asks.finds
  obtain ⟨booking, mapped⟩ := mapBooking_totalled
    (c.totalled actor auditId requestId totalled) c.booking q.bookingId
  refine ⟨booking, c.done totalled fresh mapped, ?_⟩
  rw [run, changeSeatTransaction, execute_bind, c.asks.execute_asked, c.execute_move seated]
  change execute (S := postgres) [] db _ c.writes = _
  dsimp only
  rw [execute_query_bind audit]
  exact execute_readBack db finds.found finds.inScope mapped

theorem Reseating.run_taken (c : q.Reseating now db) (seated : Seated db)
    (taken : (db.audit.find? auditId).isSome) :
    q.run actor auditId requestId now db = .error (.uniqueViolation "PK_audit_logs") := by
  have audit : recordAudit (q.entry actor auditId requestId now c.own.position) []
      (c.writes.apply db) (c.writes.apply db) = .error (.uniqueViolation "PK_audit_logs") := by
    have taken' : ((c.writes.apply db).audit.find? auditId).isSome := taken
    rw [recordAudit]
    exact if_pos taken'
  rw [run, changeSeatTransaction, execute_bind, c.asks.execute_asked, c.execute_move seated]
  change execute (S := postgres) [] db _ c.writes = _
  dsimp only
  exact execute_raise_bind audit

/-! ### There and back -/

theorem Reseating.seated (c : q.Reseating now db) (seated : Seated db) :
    Seated ((c.changes actor auditId requestId).apply db) := by
  have finds := c.asks.finds
  obtain ⟨ownMem, ownFlight, -⟩ := seatAt_eq c.asks.own_found
  obtain ⟨wantedMem, wantedFlight, wantedAt⟩ := seatAt_eq c.wanted_found
  have free : ((c.changes actor auditId requestId).apply db).FreeSeats := by
    intro k s found available
    rcases Table.find?_putAll_cases db.seats
      [releaseSeat c.own, takeSeat q.bookingId c.wanted] k with same | ⟨v, mem, at', found'⟩
    · exact seated.free k s (same.symm.trans found) available
    · cases found'.symm.trans found
      rcases List.mem_cons.mp mem with rfl | mem
      · rfl
      · cases List.mem_singleton.mp mem
        cases available
  refine seated.reseat free (Table.mem_of_find? finds.found) c.asks.confirmed finds.travels.1
    (finds.travels.2.trans finds.booking_id.symm) c.asks.sits ownMem ownFlight wantedMem
    wantedFlight c.available c.sameClass rfl ?_ ?_
  · rw [finds.booking_id]
    rfl
  · rw [wantedAt]
    rfl

/-- The call that undoes a change. -/
def Reseating.back (c : q.Reseating now db) : SeatChangeRequest :=
  { q with seat := c.own.position }

theorem Reseating.own_key (c : q.Reseating now db) :
    key c.own = (c.booking.flightId, c.own.position) := Table.key_of_find? c.asks.own_found

theorem Reseating.wanted_key (c : q.Reseating now db) :
    key c.wanted = (c.booking.flightId, q.seat) := Table.key_of_find? c.wanted_found

theorem Reseating.reverse_asks (c : q.Reseating now db) {audit : AuditRecordInput}
    {booking : Booking} {after : Db} (done : c.Done audit booking after) {later : Instant}
    (onSale : isBookable c.flight.status c.flight.departureAt later = true) :
    c.back.Asks later after c.booking c.flight { c.passenger with seat := some q.seat }
      (takeSeat q.bookingId c.wanted) := by
  have finds := c.asks.finds
  have bookings : after.bookings = db.bookings := by rw [done.others]
  have flights : after.flights = db.flights := by rw [done.others]
  have at' : c.wanted.position = q.seat := congrArg Prod.snd c.wanted_key
  refine ⟨⟨?_, finds.inScope, ?_, done.copied⟩, c.asks.confirmed, congrArg some at'.symm, ?_, ?_,
    onSale⟩
  · rw [bookings]
    exact finds.found
  · rw [flights]
    exact finds.flown
  · have taken := done.taken
    rw [c.wanted_key, ← at'] at taken
    exact taken
  · intro same
    exact c.asks.differs (same.symm.trans at')

/-- While the flight is on sale, the way back is open. -/
def Reseating.reverse (c : q.Reseating now db) {audit : AuditRecordInput} {booking : Booking}
    {after : Db} (done : c.Done audit booking after) {later : Instant}
    (onSale : isBookable c.flight.status c.flight.departureAt later = true) :
    c.back.Reseating later after where
  booking := c.booking
  flight := c.flight
  passenger := { c.passenger with seat := some q.seat }
  own := takeSeat q.bookingId c.wanted
  wanted := releaseSeat c.own
  asks := c.reverse_asks done onSale
  wanted_found := by
    have freed := done.freed
    rw [c.own_key] at freed
    exact freed
  sameClass := c.sameClass.symm
  available := rfl

/-- Changing back puts the bookings, passengers and seats where they were. -/
theorem Reseating.there_and_back (c : q.Reseating now db) (seated : Seated db) {booking : Booking}
    (done : c.Done (q.entry actor auditId requestId now c.own.position) booking
      ((c.changes actor auditId requestId).apply db)) {later : Instant}
    (onSale : isBookable c.flight.status c.flight.departureAt later = true)
    {actor' auditId' : Uuid} {requestId' : Option Uuid} {again : Db}
    (isAgain : ((c.reverse done onSale).changes actor' auditId' requestId').apply
      ((c.changes actor auditId requestId).apply db) = again) :
    again.bookings = db.bookings ∧ again.passengers = db.passengers ∧ again.seats = db.seats := by
  obtain ⟨owned, booked⟩ := c.asks.own_booked seated
  obtain ⟨ownMem, -, -⟩ := seatAt_eq c.asks.own_found
  obtain ⟨wantedMem, -, -⟩ := seatAt_eq c.wanted_found
  have unowned := seated.unowned wantedMem c.available
  have wantedBack : releaseSeat (takeSeat q.bookingId c.wanted) = c.wanted := by
    rw [releaseSeat, takeSeat, ← unowned, ← c.available]
  have ownBack : takeSeat q.bookingId (releaseSeat c.own) = c.own := by
    rw [takeSeat, releaseSeat, ← owned, ← booked]
  have copyBack : ({ c.passenger with seat := some c.own.position } : PassengerRow) = c.passenger := by
    rw [← c.asks.sits]
  subst isAgain
  refine ⟨rfl, ?_, ?_⟩
  · change (db.passengers.put { c.passenger with seat := some q.seat }).put
      { c.passenger with seat := some c.own.position } = _
    rw [copyBack]
    exact Table.put_put_back c.asks.finds.travels.1 rfl
  · change (((db.seats.put (releaseSeat c.own)).put (takeSeat q.bookingId c.wanted)).put
      (releaseSeat (takeSeat q.bookingId c.wanted))).put (takeSeat q.bookingId (releaseSeat c.own)) = _
    have free : c.wanted ∈ db.seats.put (releaseSeat c.own) :=
      Table.mem_put.mpr (.inr ⟨wantedMem, c.apart⟩)
    have first : ((db.seats.put (releaseSeat c.own)).put (takeSeat q.bookingId c.wanted)).put
        c.wanted = db.seats.put (releaseSeat c.own) := Table.put_put_back free rfl
    rw [wantedBack, ownBack, first]
    exact Table.put_put_back ownMem rfl

/-! ### Repeats -/

/-- Changes that write no row of the booking and none of its passengers. -/
def Leaves (id : Uuid) (w : Changes) : Prop :=
  Row.booking id ∉ w.touched ∧ ∀ position, Row.passenger (id, position) ∉ w.touched

/-- A version and what is committed after it. -/
def later (db : Db) (commits : List Changes) : Db := commits.foldl (fun db w => w.apply db) db

/-- As long as nobody writes the booking, its rows are the same and its flight is there. -/
theorem later_same {commits : List Changes} {id : Uuid} (leaves : ∀ w ∈ commits, Leaves id w) :
    (later db commits).bookings.find? id = db.bookings.find? id ∧
    (∀ position, (later db commits).passengers.find? (id, position) =
      db.passengers.find? (id, position)) ∧
    ∀ flightId, (db.flights.find? flightId).isSome →
      ((later db commits).flights.find? flightId).isSome := by
  induction commits generalizing db with
  | nil => exact ⟨rfl, fun _ => rfl, fun _ found => found⟩
  | cons w commits ih =>
      obtain ⟨booking, passengers⟩ := leaves w List.mem_cons_self
      obtain ⟨bookings', passengers', flights'⟩ :=
        @ih (w.apply db) fun v mem => leaves v (List.mem_cons_of_mem _ mem)
      refine ⟨?_, fun position => ?_, fun flightId found => ?_⟩
      · have same : db.bookings.find? id = (w.apply db).bookings.find? id :=
          Db.agree_apply (.booking id) w db booking
        exact bookings'.trans same.symm
      · have same : db.passengers.find? (id, position) =
            (w.apply db).passengers.find? (id, position) :=
          Db.agree_apply (.passenger (id, position)) w db (passengers position)
        exact (passengers' position).trans same.symm
      · refine flights' flightId ?_
        rw [Option.isSome_iff_ne_none] at found ⊢
        intro none
        exact found (Table.find?_putAll_none none).1

/-- A repeat at any later time answers "unchanged" with the same booking, sales closed or
not, as long as nobody wrote the booking in between. -/
theorem Reseating.repeated (c : q.Reseating now db) {audit : AuditRecordInput} {booking : Booking}
    {after : Db} (done : c.Done audit booking after) {commits : List Changes}
    (leaves : ∀ w ∈ commits, Leaves q.bookingId w) (later' : Instant) :
    q.run actor auditId requestId later' (later after commits) = .ok (.ok ⟨false, booking⟩, {}) := by
  have finds := c.asks.finds
  have bookings : after.bookings = db.bookings := by rw [done.others]
  have flights : after.flights = db.flights := by rw [done.others]
  obtain ⟨sameBooking, samePassengers, stays⟩ := @later_same after _ _ leaves
  have stored : after.bookings.find? q.bookingId = some c.booking := bookings ▸ finds.found
  have found := sameBooking.trans stored
  have mapped : mapBooking c.booking ((passengersOf (later after commits) q.bookingId).map
      mapPassenger) = .ok booking := by
    have reads := done.reads
    rw [read_eq stored finds.inScope] at reads
    rw [passengersOf_eq samePassengers]
    cases here : mapBooking c.booking ((passengersOf after q.bookingId).map mapPassenger) with
    | error e =>
        rw [here] at reads
        cases reads
    | ok other =>
        rw [here] at reads
        cases reads
        rfl
  obtain ⟨flight, flown⟩ := Option.isSome_iff_exists.mp
    (stays c.booking.flightId (by rw [flights, finds.flown]; rfl))
  have again : q.Finds (later after commits) c.booking flight
      { c.passenger with seat := some q.seat } :=
    ⟨found, finds.inScope, flown, (samePassengers q.position).trans done.copied⟩
  rw [run, changeSeatTransaction, execute_bind,
    again.execute_confirmed c.asks.confirmed rfl, if_pos rfl]
  exact execute_readBack (later after commits) found finds.inScope mapped

/-- Whoever is told of a change had one made. -/
theorem reseating_of_changed (seated : Seated db) (totalled : db.Totalled) {booking : Booking}
    {log : Changes} (ran : q.run actor auditId requestId now db = .ok (.ok ⟨true, booking⟩, log)) :
    db.audit.find? auditId = none ∧ ∃ c : q.Reseating now db, log = c.changes actor auditId requestId ∧
      c.Done (q.entry actor auditId requestId now c.own.position) booking (log.apply db) := by
  obtain ⟨result, outcome⟩ := exists_outcome seated q now
  cases result with
  | refused reason =>
      rw [run_refused outcome seated] at ran
      cases ran
  | unchanged =>
      obtain ⟨other, -, ran'⟩ := run_unchanged actor auditId requestId outcome seated
        totalled
      rw [ran'] at ran
      cases ran
  | changed old new =>
      cases outcome with
      | changed c =>
          cases fresh : db.audit.find? auditId with
          | some taken =>
              rw [c.run_taken seated (by rw [fresh]; rfl)] at ran
              cases ran
          | none =>
              obtain ⟨booking', done, ran'⟩ := c.run_changed actor requestId seated totalled fresh
              rw [ran'] at ran
              cases ran
              exact ⟨rfl, c, rfl, done⟩

/-- The way back, taken. -/
theorem Reseating.returned (c : q.Reseating now db) (seated : Seated db) (totalled : db.Totalled)
    {booking : Booking} (done : c.Done (q.entry actor auditId requestId now c.own.position) booking
      ((c.changes actor auditId requestId).apply db)) {after : Instant}
    (onSale : isBookable c.flight.status c.flight.departureAt after = true)
    {actor' auditId' : Uuid} {requestId' : Option Uuid}
    (fresh : ((c.changes actor auditId requestId).apply db).audit.find? auditId' = none) :
    ∃ booking' log', c.back.run actor' auditId' requestId' after
        ((c.changes actor auditId requestId).apply db) = .ok (.ok ⟨true, booking'⟩, log') ∧
      (log'.apply ((c.changes actor auditId requestId).apply db)).bookings = db.bookings ∧
      (log'.apply ((c.changes actor auditId requestId).apply db)).passengers = db.passengers ∧
      (log'.apply ((c.changes actor auditId requestId).apply db)).seats = db.seats := by
  obtain ⟨booking', -, ran⟩ := (c.reverse done onSale).run_changed actor' requestId'
    (c.seated seated) (c.totalled actor auditId requestId totalled) fresh
  exact ⟨booking', _, ran, c.there_and_back seated done onSale rfl⟩

end Call

end SeatChangeRequest

open SeatChangeRequest in
/-- Changing a seat changes one seat or nothing. In every reachable state one outcome's
condition holds, and it is what the call answers, having written nothing unless it is a
change. A change moves the passenger between the two seats, leaves every price and total,
and adds its audit entry; a repeat finds it made, and changing back restores bookings,
passengers and seats. -/
theorem changeSeat_exact {α : Type} {airports : Table Airport} {env : Env}
    {threads : Nat → App.Thread app α} {p : Pool app α}
    (h : (Pool.initial { airports } env threads : Pool app α).Reachable p) (q : SeatChangeRequest)
    (now : Instant) :
    (∃ result, q.Outcome now p.world.db result ∧
      ∀ other, q.Outcome now p.world.db other → other = result) ∧
    ∀ (actor auditId : Uuid) (requestId : Option Uuid),
      (∀ reason, q.Outcome now p.world.db (.refused reason) →
        q.run actor auditId requestId now p.world.db = .ok (.error reason, {})) ∧
      (q.Outcome now p.world.db .unchanged → ∃ booking, q.read p.world.db = .ok (some booking) ∧
        q.run actor auditId requestId now p.world.db = .ok (.ok ⟨false, booking⟩, {})) ∧
      ((∃ booking log, q.run actor auditId requestId now p.world.db =
          .ok (.ok ⟨true, booking⟩, log)) ↔
        Nonempty (q.Reseating now p.world.db) ∧ p.world.db.audit.find? auditId = none) ∧
      (Nonempty (q.Reseating now p.world.db) → (p.world.db.audit.find? auditId).isSome →
        q.run actor auditId requestId now p.world.db = .error (.uniqueViolation "PK_audit_logs")) ∧
      ∀ booking log, q.run actor auditId requestId now p.world.db =
          .ok (.ok ⟨true, booking⟩, log) → ∃ c : q.Reseating now p.world.db,
        c.Done (q.entry actor auditId requestId now c.own.position) booking
          (log.apply p.world.db) ∧
        (∀ commits, (∀ w ∈ commits, Leaves q.bookingId w) →
          ∀ (actor' auditId' : Uuid) (requestId' : Option Uuid) (after : Instant),
            q.run actor' auditId' requestId' after (later (log.apply p.world.db) commits) =
              .ok (.ok ⟨false, booking⟩, {})) ∧
        ∀ (actor' auditId' : Uuid) (requestId' : Option Uuid) (after : Instant),
          isBookable c.flight.status c.flight.departureAt after = true →
          (log.apply p.world.db).audit.find? auditId' = none → ∃ booking' log',
            c.back.run actor' auditId' requestId' after (log.apply p.world.db) =
              .ok (.ok ⟨true, booking'⟩, log') ∧
            (log'.apply (log.apply p.world.db)).bookings = p.world.db.bookings ∧
            (log'.apply (log.apply p.world.db)).passengers = p.world.db.passengers ∧
            (log'.apply (log.apply p.world.db)).seats = p.world.db.seats := by
  have seated : Seated p.world.db := p.world.state_length ▸ seated_of_reachable h (Nat.le_refl _)
  have totalled : p.world.db.Totalled :=
    p.world.state_length ▸ totalled_of_reachable h (Nat.le_refl _)
  generalize p.world.db = db at seated totalled
  obtain ⟨result, outcome⟩ := exists_outcome seated q now
  refine ⟨⟨result, outcome, fun other holds => holds.unique outcome seated⟩, ?_⟩
  intro actor auditId requestId
  refine ⟨?_, ?_, ?_, ?_, ?_⟩
  · intro reason refused
    exact run_refused refused seated
  · intro unchanged
    exact run_unchanged actor auditId requestId unchanged seated totalled
  · constructor
    · rintro ⟨booking, log, ran⟩
      obtain ⟨fresh, c, -, -⟩ := reseating_of_changed seated totalled ran
      exact ⟨⟨c⟩, fresh⟩
    · rintro ⟨⟨c⟩, fresh⟩
      obtain ⟨booking, -, ran⟩ := c.run_changed actor requestId seated totalled fresh
      exact ⟨booking, _, ran⟩
  · rintro ⟨c⟩ taken
    exact c.run_taken seated taken
  · intro booking log ran
    obtain ⟨-, c, rfl, done⟩ := reseating_of_changed seated totalled ran
    refine ⟨c, done, ?_, ?_⟩
    · intro commits leaves actor' auditId' requestId' after
      exact c.repeated done leaves after
    · intro actor' auditId' requestId' after onSale fresh
      exact c.returned seated totalled done onSale fresh

/-- Account 7 has paid for booking 5, whose passenger sits in 1A. -/
def paidMoves : List (Nat × Move app) :=
  sampleMoves ++ Pool.wholly 4 1 5 ++ [(4, .call (.definite (.succeeded "ch_1")))] ++
    Pool.wholly 4 2 7

def sampleSeatRequest : SeatChangeRequest := ⟨5, 1, ⟨1, 'B'⟩, .owner 7⟩

/-- Whether the call answered that it changed the seat. -/
def toldChanged (r : Except Failure (Except SeatChangeRefusal SeatSet × Changes)) : Bool :=
  match r with
  | .ok (.ok set, _) => set.changed
  | _ => false

theorem toldChanged_iff {r : Except Failure (Except SeatChangeRefusal SeatSet × Changes)} :
    toldChanged r = true ↔ ∃ booking log, r = .ok (.ok ⟨true, booking⟩, log) := by
  constructor
  · intro told
    rcases r with e | ⟨reason | ⟨changed, booking⟩, log⟩
    · cases told
    · cases told
    · cases (show changed = true from told)
      exact ⟨booking, log, rfl⟩
  · rintro ⟨booking, log, rfl⟩
    rfl

theorem changeSeat_exact_sample : ∃ p, (sampleStart {} fun _ => samplePayment).Reachable p ∧
    Nonempty (sampleSeatRequest.Reseating 3 p.world.db) := by
  have ends : (Pool.run paidMoves (sampleStart {} fun _ => samplePayment)).map (fun p =>
      toldChanged (sampleSeatRequest.run 7 23 none 3 p.world.db)) = some true := by
    decide +kernel
  obtain ⟨p, ran, ends⟩ := Option.map_eq_some_iff.mp ends
  have reachable := Pool.run_reachable ran
  obtain ⟨-, calls⟩ := changeSeat_exact reachable sampleSeatRequest 3
  obtain ⟨-, -, changes, -, -⟩ := calls 7 23 none
  exact ⟨p, reachable, (changes.mp (toldChanged_iff.mp ends)).1⟩

end FlightBooking
