import FlightBooking.Bookings.CreateBooking
import FlightBooking.Flights.Fares

/-!
How far a booking's total reaches.

A fare may be any amount a JavaScript number holds exactly, and nine passengers may book
at it. The checked sum throws exactly when the fares of the held seats add up past that
range; then the booking fails after its seats were held, and everything is undone.
-/

namespace FlightBooking

open Relational ReadCommitted

variable {db : Db} {flightId : Uuid} {request : CreateBookingInput} {actor : Uuid}
  {ids : CreateBookingIds} {requestId : Option Uuid} {now : Instant} {held : List HeldSeat}
  {log : Changes}

/-- What the held seats cost together. -/
def fareSum (held : List HeldSeat) : Nat := (held.map fun s => s.price.amount).sum

theorem held_length
    (hold : holdAlone db flightId ids.bookingId (toHoldRequest request) now = .ok (.ok held, log)) :
    held.length = request.names.length := by
  obtain ⟨-, picked, taken, picks, as, -, -⟩ := holdAlone_held hold
  exact as.length_eq.symm.trans (picks_length picks)

/-- The total of held seats exists exactly when their fares add up within the range. -/
theorem total_iff (length : held.length = request.names.length) :
    (∃ total, bookingTotal ((paired request held).map (·.toBookingPassenger)) = .ok total) ↔
      fareSum held ≤ maxSafeInteger := by
  rw [bookingTotal_paired length, sumMoney_ok_iff, List.map_map]
  rfl

/-! ### Out of range -/

theorem execute_createBooking_overflow (actor : Uuid) (requestId : Option Uuid)
    (hold : holdAlone db flightId ids.bookingId (toHoldRequest request) now = .ok (.ok held, log))
    (past : maxSafeInteger < fareSum held) : ∃ sum,
    execute (S := postgres) [] db
      (createBookingTransaction flightId request actor ids requestId now) {} =
      .error (.moneySumOutOfRange sum) := by
  have length := held_length hold
  cases summed : bookingTotal ((paired request held).map (·.toBookingPassenger)) with
  | ok total => exact absurd ((total_iff length).mp ⟨total, summed⟩) (Nat.not_le.mpr past)
  | error e =>
      obtain ⟨sum, rfl⟩ := sumMoney_error summed
      refine ⟨sum, ?_⟩
      rw [createBookingTransaction, execute_bind]
      change Except.bind (holdAlone db flightId ids.bookingId (toHoldRequest request) now) _ = _
      rw [hold]
      change execute (S := postgres) [] db _ log = _
      dsimp only
      rw [seatPassengers_paired length, execute_orThrow_bind]
      change execute (S := postgres) [] db _ log = _
      rw [execute_orThrow_bind, summed]
      rfl

/-! ### Within range -/

/-- What follows a total throws for other reasons. -/
theorem execute_createBooking_within
    (hold : holdAlone db flightId ids.bookingId (toHoldRequest request) now = .ok (.ok held, log))
    (within : fareSum held ≤ maxSafeInteger) {sum : Nat} :
    execute (S := postgres) [] db
      (createBookingTransaction flightId request actor ids requestId now) {} ≠
      .error (.moneySumOutOfRange sum) := by
  have length := held_length hold
  obtain ⟨total, summed⟩ := (total_iff length).mpr within
  intro failed
  rw [createBookingTransaction, execute_bind] at failed
  change Except.bind (holdAlone db flightId ids.bookingId (toHoldRequest request) now) _ = _ at failed
  rw [hold] at failed
  change execute (S := postgres) [] db _ log = _ at failed
  dsimp only at failed
  rw [seatPassengers_paired length, execute_orThrow_bind] at failed
  change execute (S := postgres) [] db _ log = _ at failed
  rw [execute_orThrow_bind, summed] at failed
  change execute (S := postgres) [] db _ log = _ at failed
  refine Throws.execute (S := postgres) (Q := fun e : Failure => ∀ sum, e ≠ .moneySumOutOfRange sum) ?_ failed sum rfl
  refine throws_bind ((createWithFreeReference_throws _ _ _ _).mono ?_) fun booking =>
    throws_bind ((recordAudit_throws _).mono ?_) fun _ =>
      throws_bind ((enqueue_throws _).mono ?_) fun _ => trivial
  · rintro e (⟨c, rfl⟩ | ⟨c, rfl⟩ | rfl) sum same <;> cases same
  · rintro _ rfl sum same
    cases same
  · rintro _ rfl sum same
    cases same

/-- The ids that the call generates are new, and one of its draws is free. -/
structure FreshDraws (db : Db) (ids : CreateBookingIds) : Prop where
  booking : db.bookings.find? ids.bookingId = none
  audit : db.audit.find? ids.auditId = none
  event : db.outbox.find? ids.eventId = none
  reference : ∃ k < MAX_REFERENCE_ATTEMPTS, ∀ b ∈ db.bookings, b.reference ≠ ids.references k

/-- Inserting over held seats, when the booking's rows are in order. -/
theorem execute_insertBooking_new {booking : Booking} (taken : List FlightSeat)
    (fresh : db.bookings.find? booking.id = none) (deadline : booking.holdExpiresAt.isSome)
    (valid : checkPassengers (passengerRows booking.id booking.passengers) db = none)
    (free : ∀ b ∈ db.bookings, b.reference ≠ booking.reference) :
    execute (S := postgres) [] db (insertBooking booking) { seats := taken } =
      .ok (true, { seats := taken, bookings := [booking.row],
                   passengers := passengerRows booking.id booking.passengers }) := by
  set held : Changes := { seats := taken } with hHeld
  have notTaken : ¬ (held.apply db).bookings.rows.any (fun b => b.reference = booking.reference) =
      true := by
    rw [List.any_eq_true]
    rintro ⟨b, mem, same⟩
    exact free b mem (of_decide_eq_true same)
  have notThere : ¬ ((held.apply db).bookings.find? booking.id).isSome = true := by
    rw [show (held.apply db).bookings.find? booking.id = none from fresh]
    exact Bool.false_ne_true
  have hasDeadline : ¬ (booking.status = .held ∧ booking.holdExpiresAt = none) := by
    rintro ⟨-, none⟩
    rw [none] at deadline
    cases deadline
  have row : insertBookingRow booking.row [] (held.apply db) (held.apply db) = .ok
      { reply := true, writes := { bookings := [booking.row] },
        locks := [(.reference booking.reference, .update)] } := by
    unfold insertBookingRow
    exact (if_neg notTaken).trans ((if_neg notThere).trans (if_neg hasDeadline))
  have rows : insertPassengers (passengerRows booking.id booking.passengers) []
      ((held.append { bookings := [booking.row] }).apply db)
      ((held.append { bookings := [booking.row] }).apply db) = .ok
        { reply := (), writes :=
            { passengers := passengerRows booking.id booking.passengers } } := by
    rw [insertPassengers, show checkPassengers _ (Changes.apply _ db) = none from valid]
  rw [insertBooking]
  change execute (S := postgres) [] db (query (insertBookingRow booking.row) >>= _) held = _
  rw [execute_query_bind row]
  dsimp only
  rw [if_pos rfl, execute_query_bind rows, hHeld]
  simp only [Changes.append, List.append_nil, List.nil_append]
  rfl

theorem execute_insertBooking_taken {booking : Booking} (taken : List FlightSeat)
    (used : ∃ b ∈ db.bookings, b.reference = booking.reference) :
    execute (S := postgres) [] db (insertBooking booking) { seats := taken } =
      .ok (false, { seats := taken }) := by
  set held : Changes := { seats := taken } with hHeld
  have isTaken : (held.apply db).bookings.rows.any (fun b => b.reference = booking.reference) =
      true := by
    obtain ⟨b, mem, same⟩ := used
    exact List.any_eq_true.mpr ⟨b, mem, decide_eq_true same⟩
  have row : insertBookingRow booking.row [] (held.apply db) (held.apply db) =
      .ok { reply := false } := by
    unfold insertBookingRow
    exact if_pos isTaken
  rw [insertBooking]
  change execute (S := postgres) [] db (query (insertBookingRow booking.row) >>= _) held = _
  rw [execute_read_bind row]
  rfl

/-- One of the draws that are left is free: the booking is stored under the first that is. -/
theorem execute_createWithFreeReference_new {booking : Booking} {references : Nat → String}
    {left attempt : Nat} (taken : List FlightSeat) (fresh : db.bookings.find? booking.id = none)
    (deadline : booking.holdExpiresAt.isSome)
    (valid : checkPassengers (passengerRows booking.id booking.passengers) db = none)
    (free : ∃ k < left, ∀ b ∈ db.bookings, b.reference ≠ references (attempt + k)) :
    ∃ r log, execute (S := postgres) [] db
      (createWithFreeReference booking references left attempt) { seats := taken } =
      .ok (r, log) := by
  induction left generalizing attempt with
  | zero =>
      obtain ⟨k, lt, -⟩ := free
      exact absurd lt (Nat.not_lt_zero k)
  | succ left ih =>
      by_cases unused : ∀ b ∈ db.bookings, b.reference ≠ references attempt
      · set drawn : Booking := { booking with reference := references attempt }
        have ran := @execute_insertBooking_new db drawn taken fresh deadline valid unused
        refine ⟨drawn, { seats := taken, bookings := [drawn.row],
                         passengers := passengerRows drawn.id drawn.passengers }, ?_⟩
        rw [createWithFreeReference]
        dsimp only
        rw [execute_bind, ran]
        rfl
      · push Not at unused
        have ran := @execute_insertBooking_taken db { booking with reference := references attempt }
          taken unused
        obtain ⟨k, lt, apart⟩ := free
        cases k with
        | zero =>
            obtain ⟨b, mem, same⟩ := unused
            exact absurd same (apart b mem)
        | succ k =>
            obtain ⟨r, log, rest⟩ := @ih (attempt + 1)
              ⟨k, Nat.lt_of_succ_lt_succ lt, by rwa [Nat.add_assoc, Nat.add_comm 1 k]⟩
            refine ⟨r, log, ?_⟩
            rw [createWithFreeReference]
            dsimp only
            rw [execute_bind, ran]
            exact rest

theorem CreateBookingInput.count_le (request : CreateBookingInput) : request.names.length ≤ 9 := by
  cases request with
  | auto fareClass names count => exact count.2
  | chosen passengers count distinct => exact (List.length_map ..).trans_le count.2

/-- Every constraint on the passengers of a priced hold is met. -/
theorem checkPassengers_paired (seated : Seated db) {id : Uuid} (fresh : db.bookings.find? id = none)
    (length : held.length = request.names.length) (distinct : (held.map (·.seat)).Nodup)
    (positive : ∀ s ∈ held, 0 < s.price.amount) :
    checkPassengers (passengerRows id ((paired request held).map (·.toBookingPassenger))) db =
      none := by
  set rows := passengerRows id ((paired request held).map (·.toBookingPassenger)) with hRows
  have back : rows.map mapPassenger = (paired request held).map (·.toBookingPassenger) :=
    map_passengerRows ..
  have seats : rows.filterMap (·.seat) = held.map (·.seat) := by
    rw [← seats_paired length, ← back, List.filterMap_map]
    rfl
  have prices : rows.filterMap (·.price) = held.map (·.price) := by
    rw [← prices_paired length, ← back, List.filterMap_map]
    rfl
  have new : ¬ ∃ p ∈ rows, (db.passengers.find? (key p)).isSome := by
    rintro ⟨p, mem, found⟩
    obtain ⟨q, there⟩ := Option.isSome_iff_exists.mp found
    obtain ⟨memQ, at'⟩ := Table.find?_eq_some.mp there
    obtain ⟨b, memB, same⟩ := seated.travels q memQ
    have own : q.bookingId = p.bookingId := congrArg Prod.fst at'
    exact Table.find?_eq_none.mp fresh b memB (same.trans (own.trans (passengerRows_ids _ _ p mem)))
  have placed : ¬ ∃ p ∈ rows, ¬ (1 ≤ p.position ∧ p.position ≤ 9) := by
    rintro ⟨p, mem, out⟩
    have nine := request.count_le
    obtain ⟨j, lt, rfl⟩ := List.mem_mapIdx.mp mem
    have inside : j < request.names.length := by simpa [paired, length] using lt
    refine out ⟨Nat.le_add_left .., ?_⟩
    exact Nat.le_trans (Nat.succ_le_of_lt inside) nine
  have priced : ¬ ∃ p ∈ rows, p.price.any fun price => price.amount = 0 := by
    rintro ⟨p, mem, zero⟩
    obtain ⟨price, is, zero⟩ := (Option.any_eq_true _ _).mp zero
    have there : price ∈ rows.filterMap (·.price) := List.mem_filterMap.mpr ⟨p, mem, is⟩
    rw [prices] at there
    obtain ⟨s, memS, rfl⟩ := List.mem_map.mp there
    exact Nat.ne_of_gt (positive s memS) (of_decide_eq_true zero)
  rw [checkPassengers, if_neg new, if_neg (not_not.mpr (seats ▸ distinct)), if_neg placed,
    if_neg priced]

theorem HeldAs.seats {picked : List FlightSeat} (as : HeldAs db picked held) :
    held.map (·.seat) = picked.map (·.position) := by
  induction as with
  | nil => rfl
  | cons first _ ih => exact congrArg₂ List.cons first.1 ih

/-- A total within range and fresh ids make a booking. -/
theorem execute_createBooking_created (actor : Uuid) (requestId : Option Uuid)
    (seated : Seated db) (fresh : FreshDraws db ids)
    (hold : holdAlone db flightId ids.bookingId (toHoldRequest request) now = .ok (.ok held, log))
    (positive : ∀ s ∈ held, 0 < s.price.amount) (within : fareSum held ≤ maxSafeInteger) :
    ∃ booking log', execute (S := postgres) [] db
      (createBookingTransaction flightId request actor ids requestId now) {} =
      .ok (.ok booking, log') := by
  obtain ⟨-, picked, taken, picks, as, -, rfl⟩ := holdAlone_held hold
  have length := held_length hold
  obtain ⟨total, summed⟩ := (total_iff length).mpr within
  have distinct : (held.map (·.seat)).Nodup := by
    rw [as.seats]
    refine (List.Nodup.of_map key (picks_nodup picks)).map_on fun s mem u mem' same => ?_
    exact Table.eq_of_key (picks.seat mem).1 (picks.seat mem').1
      (Prod.ext ((picks.seat mem).2.trans (picks.seat mem').2.symm) same)
  have valid := checkPassengers_paired seated fresh.booking length distinct positive
  obtain ⟨k, lt, free⟩ := fresh.reference
  set waiting : Booking :=
    { id := ids.bookingId
      reference := ""
      flightId
      ownerAccountId := actor
      passengers := (paired request held).map (·.toBookingPassenger)
      total
      createdAt := now
      status := .held
      holdExpiresAt := some (now + HOLD_DURATION_MS) } with hWaiting
  obtain ⟨booking, mid, stored⟩ := @execute_createWithFreeReference_new db waiting
    ids.references MAX_REFERENCE_ATTEMPTS 0 taken fresh.booking rfl valid
    ⟨k, lt, by rwa [Nat.zero_add]⟩
  obtain ⟨_, _, is, -, -, -, rfl⟩ := execute_createWithFreeReference stored
  set noted : Changes := { seats := taken, bookings := [booking.row],
                           passengers := passengerRows booking.id booking.passengers } with hNoted
  set audit := createdAudit actor ids requestId now booking (paired request held)
  set event := (createdEvent ids requestId now booking (paired request held)).entry
  have audited := @recordAudit_alone (noted.apply db) audit fresh.audit
  have announced := @enqueue_alone ((noted.append { audit := [audit] }).apply db) event fresh.event
  refine ⟨booking, (noted.append { audit := [audit] }).append { outbox := [⟨event, none⟩] }, ?_⟩
  rw [createBookingTransaction, execute_bind]
  change Except.bind (holdAlone db flightId ids.bookingId (toHoldRequest request) now) _ = _
  rw [hold]
  change execute (S := postgres) [] db _ { seats := taken } = _
  dsimp only
  rw [seatPassengers_paired length, execute_orThrow_bind]
  change execute (S := postgres) [] db _ { seats := taken } = _
  rw [execute_orThrow_bind, summed]
  change execute (S := postgres) [] db _ { seats := taken } = _
  rw [execute_bind, ← hWaiting, stored]
  change execute (S := postgres) [] db (query (recordAudit audit) >>= _) noted = _
  rw [execute_query_bind audited]
  change execute (S := postgres) [] db (query (enqueue event) >>= _) (noted.append _) = _
  rw [execute_query_bind announced]
  rfl

/-- A booking's total is made exactly when the fares of the held seats add up within the
safe integers. Then the call never fails over it, and answers a booking of that total
whenever its ids are new and a draw is free; past the range it fails after the hold, and
everything is undone. -/
theorem bookingTotal_exact {α : Type} {airports : Table Airport} {env : Env}
    {threads : Nat → App.Thread app α} {p : Pool app α}
    (h : (Pool.initial { airports } env threads : Pool app α).Reachable p) {raw : RawFares}
    {fares : FlightFares} (accepted : parseFares raw = .ok fares) {flightId : Uuid}
    (stored : ∀ fareClass, fareOf p.world.db flightId fareClass = fares.get fareClass)
    (request : CreateBookingInput) (actor : Uuid) (ids : CreateBookingIds)
    (requestId : Option Uuid) (now : Instant) {held : List HeldSeat} {log : Changes}
    (hold : holdAlone p.world.db flightId ids.bookingId (toHoldRequest request) now =
      .ok (.ok held, log)) :
    (∀ s ∈ held, fares.get s.fareClass = some s.price) ∧
    ((∃ total, bookingTotal ((paired request held).map (·.toBookingPassenger)) = .ok total) ↔
      fareSum held ≤ maxSafeInteger) ∧
    (fareSum held ≤ maxSafeInteger → ∃ r after,
      app.alone now (clockAt now) (createBooking (some flightId) request actor ids requestId)
        p.world.db = some (r, after) ∧
      (∀ sum, r ≠ .error (.moneySumOutOfRange sum)) ∧
      (FreshDraws p.world.db ids → ∃ booking, r = .ok (.ok booking) ∧
        booking.total.amount = fareSum held)) ∧
    (maxSafeInteger < fareSum held → ∃ sum,
      app.alone now (clockAt now) (createBooking (some flightId) request actor ids requestId)
        p.world.db = some (.error (.moneySumOutOfRange sum), p.world.db)) := by
  have seated : Seated p.world.db := p.world.state_length ▸ seated_of_reachable h (Nat.le_refl _)
  obtain ⟨-, picked, taken, picks, as, -, -⟩ := holdAlone_held hold
  have priced : ∀ s ∈ held, fares.get s.fareClass = some s.price := by
    intro s mem
    obtain ⟨u, memU, -, fareClass, fare⟩ := as.seat mem
    rw [(picks.seat memU).2, stored, ← fareClass] at fare
    exact fare
  refine ⟨priced, total_iff (held_length hold), fun within => ?_, fun past => ?_⟩
  · cases ran : execute (S := postgres) [] p.world.db
        (createBookingTransaction flightId request actor ids requestId now) {} with
    | error e =>
        refine ⟨.error e, _, App.alone_run_error ran, fun sum same => ?_, fun fresh => ?_⟩
        · cases same
          exact execute_createBooking_within hold within ran
        · obtain ⟨booking, log', made⟩ := execute_createBooking_created actor requestId
            seated fresh hold
            (fun s mem => parseFares_positive accepted _ _ (priced s mem)) within
          cases ran.symm.trans made
    | ok done =>
        obtain ⟨answer, log'⟩ := done
        refine ⟨.ok answer, _, App.alone_run_ok ran, (fun sum same => by cases same), fun fresh => ?_⟩
        obtain ⟨booking, log'', made⟩ := execute_createBooking_created actor requestId
          seated fresh hold
          (fun s mem => parseFares_positive accepted _ _ (priced s mem)) within
        cases ran.symm.trans made
        refine ⟨booking, rfl, ?_⟩
        rcases execute_createBooking made with ⟨⟨_, is⟩, -⟩ |
          ⟨booking', picked', held', taken', is, hold', booked, -, -, -, -⟩
        · cases is
        · cases is
          cases hold.symm.trans hold'
          rw [sumMoney_ok booked.total, List.map_map]
          rfl
  · obtain ⟨sum, failed⟩ := execute_createBooking_overflow actor requestId hold past
    exact ⟨sum, App.alone_run_error failed⟩

/-! ### Two seats at the highest fare -/

/-- The highest fare that is accepted. -/
def dearestRaw : RawFares := .object [("ECONOMY", .whole 9007199254740991)]

def dearestFare : Money := ⟨9007199254740991, by decide⟩

theorem dearest_accepted : parseFares dearestRaw = .ok ⟨some dearestFare, none⟩ :=
  parseFares_economy (by decide) (Nat.le_refl _)

/-- The sample flight at that fare. -/
def dearestThreads : Nat → Invocation
  | 0 => .registerAircraft sampleAircraft 1 1 none
  | 1 => .createFlight ⟨"VN1", "HAN", "SGN", "VN-A321", 1000000000, 1007200000,
      ⟨some dearestFare, none⟩⟩ 1 1 2 1 none
  | _ => .openFlight (some 1) 1 3 none

def dearestMoves : List (Nat × Move app) :=
  Pool.wholly 0 0 2 ++ Pool.wholly 1 0 1 ++ Pool.wholly 1 0 1 ++ Pool.wholly 1 0 1 ++
    Pool.wholly 1 0 5 ++ Pool.wholly 2 0 1 ++ [(2, Move.call (A := app) (.time 0))] ++
    Pool.wholly 2 0 2

def dearestStart : Pool app UseCaseResult :=
  Pool.initial { airports := sampleAirports } {} fun t => (dearestThreads t).code

def coupleRequest : CreateBookingInput :=
  .auto .economy ["NGUYEN VAN AN", "TRAN THI BINH"] (by decide)

def coupleIds : CreateBookingIds := ⟨5, fun _ => "ABC234", 4, 2⟩

/-- The seats a hold on the flight took. -/
def heldSeats (r : Except Failure (Except HoldRefusal (List HeldSeat) × Changes)) :
    Option (List HeldSeat) :=
  match r with
  | .ok (.ok held, _) => some held
  | _ => none

theorem heldSeats_some {r : Except Failure (Except HoldRefusal (List HeldSeat) × Changes)}
    {held : List HeldSeat} (has : heldSeats r = some held) : ∃ log, r = .ok (.ok held, log) := by
  rcases r with e | ⟨refusal | held', log⟩
  · cases has
  · cases has
  · cases has
    exact ⟨log, rfl⟩

/-- The two seats can be held, each at the highest fare. -/
theorem dearest_held : ∃ p log, dearestStart.Reachable p ∧
    (∀ fareClass, fareOf p.world.db 1 fareClass =
      (⟨some dearestFare, none⟩ : FlightFares).get fareClass) ∧
    holdAlone p.world.db 1 coupleIds.bookingId (toHoldRequest coupleRequest) 3 =
      .ok (.ok [⟨⟨1, 'A'⟩, .economy, dearestFare⟩, ⟨⟨1, 'B'⟩, .economy, dearestFare⟩], log) := by
  have ends : (Pool.run dearestMoves dearestStart).map (fun p =>
      (heldSeats (holdAlone p.world.db 1 coupleIds.bookingId (toHoldRequest coupleRequest) 3),
        fareOf p.world.db 1 .economy, fareOf p.world.db 1 .business)) =
      some (some [⟨⟨1, 'A'⟩, .economy, dearestFare⟩, ⟨⟨1, 'B'⟩, .economy, dearestFare⟩],
        some dearestFare, none) := by
    decide +kernel
  obtain ⟨p, ran, ends⟩ := Option.map_eq_some_iff.mp ends
  obtain ⟨has, fares⟩ := Prod.ext_iff.mp ends
  obtain ⟨economy, business⟩ := Prod.ext_iff.mp fares
  obtain ⟨log, hold⟩ := heldSeats_some has
  refine ⟨p, log, Pool.run_reachable ran, fun fareClass => ?_, hold⟩
  cases fareClass
  · exact economy
  · exact business

/-- Two passengers on an accepted flight: the seats are held and the booking fails. -/
theorem bookingTotal_overflows : ∃ p held log sum, dearestStart.Reachable p ∧
    holdAlone p.world.db 1 coupleIds.bookingId (toHoldRequest coupleRequest) 3 =
      .ok (.ok held, log) ∧
    app.alone 3 (clockAt 3) (createBooking (some 1) coupleRequest 7 coupleIds none) p.world.db =
      some (.error (.moneySumOutOfRange sum), p.world.db) := by
  obtain ⟨p, log, reachable, -, hold⟩ := dearest_held
  obtain ⟨sum, failed⟩ := execute_createBooking_overflow 7 none hold
    (by decide)
  exact ⟨p, _, log, sum, reachable, hold, App.alone_run_error failed⟩

theorem bookingTotal_exact_sample : ∃ p sum, dearestStart.Reachable p ∧
    app.alone 3 (clockAt 3) (createBooking (some 1) coupleRequest 7 coupleIds none) p.world.db =
      some (.error (.moneySumOutOfRange sum), p.world.db) := by
  obtain ⟨p, log, reachable, stored, hold⟩ := dearest_held
  obtain ⟨-, -, -, past⟩ := bookingTotal_exact reachable dearest_accepted stored coupleRequest 7
    coupleIds none 3 hold
  obtain ⟨sum, failed⟩ := past (by decide)
  exact ⟨p, sum, reachable, failed⟩

end FlightBooking
