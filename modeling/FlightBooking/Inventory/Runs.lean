import FlightBooking.Inventory.Invariant
import FlightBooking.Flights.Outcomes
import FlightBooking.System.UseCases
import Mathlib.Data.Set.Function

/-!
The inventory over whole runs: any sequence of committed transactions that
touch flights, seats or bookings, each taken as one step.
-/

namespace FlightBooking

open Relational ReadCommitted

/-! ### The transactions -/

/-- The transactions that touch the inventory, with any arguments. `confirmHold`
is the booking part of a settlement. -/
inductive InventoryTransaction : (α : Type) → Prog postgres α → Prop
  | registerAircraft (aircraft : Aircraft) (actor auditId : Uuid) (requestId : Option Uuid) :
      InventoryTransaction _ (registerAircraftTransaction aircraft actor auditId requestId)
  | createFlight (flight : Flight) (actor auditId eventId : Uuid) (requestId : Option Uuid)
      (now : Instant) :
      InventoryTransaction _ (createFlightTransaction flight actor auditId eventId requestId now)
  | openFlight (flight : FlightRow) (actor auditId : Uuid) (requestId : Option Uuid)
      (now : Instant) :
      InventoryTransaction _ (openFlightTransaction flight actor auditId requestId now)
  | createBooking (flightId : Uuid) (request : CreateBookingInput) (actor : Uuid)
      (ids : CreateBookingIds) (requestId : Option Uuid) (now : Instant) :
      InventoryTransaction _ (createBookingTransaction flightId request actor ids requestId now)
  | cancelBooking (bookingId : Uuid) (scope : BookingAccessScope) (actor : Uuid) (ids : CancelIds)
      (requestId : Option Uuid) (now : Instant) :
      InventoryTransaction _ (cancelBookingTransaction bookingId scope actor ids requestId now)
  | changeSeat (bookingId : Uuid) (position : Nat) (seat : SeatPosition)
      (scope : BookingAccessScope) (actor auditId : Uuid) (requestId : Option Uuid) (now : Instant) :
      InventoryTransaction _
        (changeSeatTransaction bookingId position seat scope actor auditId requestId now)
  | expireHolds (now : Instant) (batchSize : Nat) (ids : ExpiryIds) :
      InventoryTransaction _ (expireBatchTransaction now batchSize ids)
  | confirmHold (bookingId : Uuid) (scope : BookingAccessScope) (now : Instant) :
      InventoryTransaction _ (confirmHold bookingId scope now)

/-- One such transaction ran alone on `db` and committed. -/
def InventoryStep (db db' : Db) : Prop :=
  ∃ α p skip r log, InventoryTransaction α p ∧ execute skip db p {} = .ok (r, log) ∧
    db' = log.apply db

/-- The databases that sequences of these transactions reach from the empty one,
which has its airports only. -/
def InventoryReachable (db : Db) : Prop :=
  ∃ airports, Relation.ReflTransGen InventoryStep { airports } db

/-! ### Each keeps the invariant -/

variable {db : Db} {n i : Nat} {c' : Cursor postgres} {now : Instant}

theorem mem_lockedSeats_self {ids : List Uuid} {s : FlightSeat} :
    s ∈ lockedSeats ids db db ↔ s ∈ db.seats ∧ ∃ id ∈ ids, s.bookingId = some id := by
  rw [lockedSeats, Table.mem_recheck_self, seatsOf_iff]

theorem Changes.LaysOut.inventory (inv : Inventory db) {w : Changes} (h : w.LaysOut db) :
    Inventory (w.apply db) :=
  inv.layOut h.quiet.bookings h.quiet.passengers h.distinct h.fresh h.available h.unowned

theorem not_live_cancelled : ¬ BookingStatus.cancelled.Live := by rintro (h | h) <;> cases h

theorem not_live_expired : ¬ BookingStatus.expired.Live := by rintro (h | h) <;> cases h

theorem passengerRows_ids (id : Uuid) (passengers : List BookingPassenger) :
    ∀ p ∈ passengerRows id passengers, p.bookingId = id := by
  intro p mem
  obtain ⟨j, -, rfl⟩ := List.mem_mapIdx.mp mem
  rfl

theorem passengerRows_nodup (id : Uuid) (passengers : List BookingPassenger) :
    ((passengerRows id passengers).map key).Nodup := by
  have keys : (passengerRows id passengers).map key =
      (List.range passengers.length).map fun j => (id, j + 1) :=
    List.ext_getElem (by simp [passengerRows]) fun j h₁ h₂ => by simp [passengerRows, key]
  rw [keys]
  exact List.Nodup.map (fun a b same => by simpa using congrArg Prod.snd same) List.nodup_range

theorem passengerRows_seats (id : Uuid) (passengers : List BookingPassenger) :
    (passengerRows id passengers).map (fun p => (p.seat, p.fareClass)) =
      passengers.map fun p => (p.seat, p.fareClass) := by
  refine List.ext_getElem (by simp [passengerRows]) fun j h₁ h₂ => ?_
  simp [passengerRows]

theorem createBooking_inventory (inv : Inventory db) {flightId : Uuid}
    {request : CreateBookingInput} {actor : Uuid} {ids : CreateBookingIds} {requestId : Option Uuid}
    {r} (h : Commits (.still db) n
      (createBookingTransaction flightId request actor ids requestId now) (.start i) r c') :
    Inventory (c'.log.apply db) := by
  rcases createBooking_commits (Timeline.still_framed (S := postgres) db) h with ⟨-, log⟩ |
    ⟨booking, free, audit, outbox, on, -, -, log, -⟩
  · rw [log]
    exact inv
  · have bookings : c'.log.bookings = [booking.row] := by rw [log]
    have fresh : db.bookings.find? booking.row.id = none := on.new.booking
    have seated : ((passengerRows booking.id booking.passengers).map
        fun p => (p.seat, p.fareClass)).Perm
        (free.map fun s => (some s.position, some s.fareClass)) :=
      passengerRows_seats booking.id booking.passengers ▸ on.seated
    exact inv.create fresh on.status (passengerRows_nodup _ _) on.new.passengers
      (passengerRows_ids _ _) on.distinct on.current
      (fun s mem => (on.onFlight s mem).trans on.flight.symm) on.available seated bookings
      (by rw [log]; rfl) (by rw [log])

theorem cancelBooking_inventory (inv : Inventory db) {id : Uuid} {scope : BookingAccessScope}
    {actor : Uuid} {ids : CancelIds} {requestId : Option Uuid} {r}
    (h : Commits (.still db) n (cancelBookingTransaction id scope actor ids requestId now)
      (.start i) r c') : Inventory (c'.log.apply db) := by
  rcases cancelBooking_commits (Timeline.still_framed (S := postgres) db) h with ⟨reason, -, log⟩ |
    ⟨booking, flight, first, locked, snap, cur, snap', cur', paid, audit, outbox, on, -, -, -, -,
      -, -, -, -, log, -⟩
  · rw [log]
    exact inv
  · obtain ⟨mem, here⟩ := Table.find?_eq_some.mp on.current
    have here : booking.id = id := here
    simp only [Timeline.still_state] at log
    have all : ∀ s, s ∈ lockedSeats [id] db db ↔
        s ∈ db.seats ∧ ∃ b ∈ [booking], s.bookingId = some b.id := fun s => by
      simp [mem_lockedSeats_self, here]
    exact inv.close not_live_cancelled (by simp) (by simpa using mem) (nodup_lockedSeats _ db db) all
      (by rw [log]; rfl) (by rw [log]) (by rw [log])

theorem expireBatch_inventory (inv : Inventory db) {batchSize : Nat} {ids : ExpiryIds} {r}
    (h : Commits (.still db) n (expireBatchTransaction now batchSize ids) (.start i) r c') :
    Inventory (c'.log.apply db) := by
  obtain ⟨due, snap, cur, audit, outbox, on, -, -, -, -, log, -⟩ :=
    expireBatch_commits (Timeline.still_framed (S := postgres) db) h
  simp only [Timeline.still_state] at log
  have all : ∀ s, s ∈ lockedSeats (due.map (·.id)) db db ↔
      s ∈ db.seats ∧ ∃ b ∈ due, s.bookingId = some b.id := fun s => by
    simp [mem_lockedSeats_self]
  exact inv.close not_live_expired on.distinct on.current (nodup_lockedSeats _ db db) all
    (by rw [log]) (by rw [log]) (by rw [log])

theorem confirmHold_inventory (inv : Inventory db) {id : Uuid} {scope : BookingAccessScope} {r}
    (h : Commits (.still db) n (confirmHold id scope now) (.start i) r c') :
    Inventory (c'.log.apply db) := by
  rcases confirmHold_commits (Timeline.still_framed (S := postgres) db) h with ⟨-, log⟩ |
    ⟨booking, confirmed, snap, cur, at', on, -, -, -, -, log, -⟩
  · rw [log]
    exact inv
  · obtain ⟨mem, here⟩ := Table.find?_eq_some.mp on.current
    have here : booking.id = id := here
    simp only [Timeline.still_state] at log
    have all : ∀ s, s ∈ lockedSeats [id] db db ↔ s ∈ db.seats ∧ s.bookingId = some booking.id :=
      fun s => by simp [mem_lockedSeats_self, here]
    exact inv.confirm mem (isConfirmable_held on.confirmable) (nodup_lockedSeats _ db db) all
      (by rw [log]) (by rw [log]) (by rw [log])

theorem changeSeat_inventory (inv : Inventory db) {id : Uuid} {position : Nat}
    {target : SeatPosition} {scope : BookingAccessScope} {actor auditId : Uuid}
    {requestId : Option Uuid} {r}
    (h : Commits (.still db) n
      (changeSeatTransaction id position target scope actor auditId requestId now) (.start i) r c') :
    Inventory (c'.log.apply db) := by
  rcases changeSeat_commits (Timeline.still_framed (S := postgres) db) h with log |
    ⟨booking, passenger, own, wanted, lock, read, at', moved, audit, on, -, -, -, -, found, -, log, -⟩
  · rw [log]
    exact inv
  · obtain ⟨mem, here⟩ := Table.find?_eq_some.mp on.current
    obtain ⟨travels, at''⟩ := Table.find?_eq_some.mp on.passenger_read
    have here : booking.id = id := here
    have of : passenger.bookingId = id := congrArg Prod.fst at''
    refine inv.reseat mem on.confirmed travels (of.trans here.symm) on.sits on.between.own_mem
      (on.between.owned.trans (by rw [here])) on.between.wanted_mem on.between.wanted_flight
      on.between.available on.between.sameClass (by rw [log]) (by rw [log, here]) ?_
    have read : db.passengers.find? (id, position) = some passenger := on.passenger_read
    rw [Timeline.still_state, read] at found
    rw [log, found, on.arrives]
    rfl

theorem InventoryTransaction.inventory (inv : Inventory db) {α : Type} {p : Prog postgres α}
    (h : InventoryTransaction α p) {r : α} (ran : Commits (.still db) n p (.start i) r c') :
    Inventory (c'.log.apply db) := by
  have framed := Timeline.still_framed (S := postgres) db
  cases h with
  | registerAircraft aircraft actor auditId requestId =>
      exact (untouched_of_writes framed (registerAircraft_untouched ..) ran).laysOut.inventory inv
  | createFlight flight actor auditId eventId requestId now =>
      exact (createFlight_commits framed ran).inventory inv
  | openFlight flight actor auditId requestId now =>
      exact (untouched_of_writes framed (openFlight_untouched ..) ran).laysOut.inventory inv
  | createBooking => exact createBooking_inventory inv ran
  | cancelBooking => exact cancelBooking_inventory inv ran
  | changeSeat => exact changeSeat_inventory inv ran
  | expireHolds => exact expireBatch_inventory inv ran
  | confirmHold => exact confirmHold_inventory inv ran

/-- The invariant holds in every database a sequence of these transactions reaches. -/
theorem InventoryReachable.inventory (h : InventoryReachable db) : Inventory db := by
  obtain ⟨airports, run⟩ := h
  induction run with
  | refl => exact inventory_empty _ rfl rfl rfl
  | tail _ step inv =>
      obtain ⟨α, p, skip, r, log, isOne, done, rfl⟩ := step
      obtain ⟨c', ran, rfl⟩ := commits_of_execute (c := .start 0) (Nat.le_refl 0) done
      exact isOne.inventory inv ran

/-! ### Errors that cannot happen -/

/-- What changeSeat throws when the display copy and the inventory disagree. -/
def Failure.isSeatDisagreement : Failure → Bool
  | .passengerWithoutSeat .. | .seatNotBooked .. => true
  | .uniqueViolation constraint => constraint = "UQ_booking_passengers_seat"
  | _ => false

/-- While the inventory agrees, the change of two locked seats does not throw. -/
theorem moveBetweenSeats_aborts (inv : Inventory db) {id : Uuid} {position : Nat}
    {current target : SeatPosition} {booking : BookingRow} (present : booking ∈ db.bookings)
    (here : booking.id = id) (confirmed : booking.status = .confirmed) {passenger : PassengerRow}
    (travels : passenger ∈ db.passengers) (of : passenger.bookingId = id)
    (sits : passenger.seat = some current) {c : Cursor postgres}
    (clean : c.log = {}) {e : Failure} :
    ¬ Aborts (.still db) n (moveBetweenSeats id position booking.flightId current target) c e c' := by
  intro h
  have view : ∀ k, c.view (.still db) k = db := fun k => by rw [Cursor.view, clean]; rfl
  obtain ⟨own, memOwn, on⟩ := inv.seated booking present (.inr confirmed) passenger travels
    (of.trans here.symm)
  obtain ⟨flight, -, status⟩ := inv.owner memOwn present on.owned
  have ownAt : own.position = current := Option.some.inj (on.seat.symm.trans sits)
  rcases aborts_bind.mp h with failed | ⟨locked, c₁, lock, rest⟩
  · obtain ⟨skip, snap, cur, -, -, -, failed, -⟩ := aborts_query failed
    cases failed
  obtain ⟨skip₁, s₁, cur₁, out₁, -, -, -, done₁, rfl, rfl, -⟩ := commits_query.mp lock
  rw [view, view] at done₁
  obtain ⟨writes₁, seats⟩ := lockSeats_ok done₁
  rcases aborts_bind.mp rest with failed | ⟨verdict, c₂, ok, rest⟩
  · -- The passenger's own seat is theirs and booked.
    obtain ⟨failed, -⟩ := aborts_orThrow.mp failed
    refine (seatVerdict_error failed).2 own
      (mem_lockSeats_alone done₁ memOwn flight.symm (by simp [ownAt])) ownAt (fun u mem at' => ?_)
      ⟨on.owned.trans (by rw [here]), by rw [status, confirmed]; rfl⟩
    obtain ⟨memU, flightU, -⟩ := seats u mem
    exact Table.eq_of_key memU memOwn (Prod.ext (flightU.trans flight) (at'.trans ownAt.symm))
  obtain ⟨passed, rfl⟩ := commits_orThrow.mp ok
  cases verdict with
  | some reason => exact rest
  | none =>
  obtain ⟨own', memOwn', wanted, memWanted, own'At, -, -, wantedAt, available, -⟩ :=
    seatVerdict_none passed
  obtain ⟨wantedMem, wantedFlight, -⟩ := seats wanted memWanted
  rcases aborts_bind.mp rest with failed | ⟨_, c₃, free, rest⟩
  · obtain ⟨skip, snap, cur, -, -, -, failed, -⟩ := aborts_query failed
    cases failed
  obtain ⟨skip₃, s₃, cur₃, out₃, -, -, -, done₃, -, rfl, -⟩ := commits_query.mp free
  rcases aborts_bind.mp rest with failed | ⟨_, c₄, take, rest⟩
  · obtain ⟨skip, snap, cur, -, -, -, failed, -⟩ := aborts_query failed
    cases failed
  obtain ⟨skip₄, s₄, cur₄, out₄, -, -, -, done₄, -, rfl, -⟩ := commits_query.mp take
  rcases aborts_bind.mp rest with failed | ⟨_, c₅, copy, rest⟩
  · -- Nobody of the booking sits on a seat that is free.
    obtain ⟨skip, snap, cur, -, -, -, failed, -⟩ := aborts_query failed
    obtain ⟨p, mem, of', seat⟩ := updatePassengerSeat_error failed
    rw [view_passengers (by simp [Changes.append, clean, writes₁, updateSeat_passengers done₃,
      updateSeat_passengers done₄])] at mem
    obtain ⟨s, memS, on'⟩ := inv.seated booking present (.inr confirmed) p mem
      (of'.trans here.symm)
    have same : s = wanted := Table.eq_of_key memS wantedMem (Prod.ext
      ((inv.owner memS present on'.owned).1.symm.trans wantedFlight.symm)
      ((Option.some.inj (on'.seat.symm.trans seat)).trans wantedAt.symm))
    exact inv.not_available memS on'.owned (same ▸ available)
  · exact rest

theorem changeSeatInTransaction_aborts (inv : Inventory db) {id : Uuid} {position : Nat}
    {target : SeatPosition} {scope : BookingAccessScope} {e : Failure} :
    ¬ Aborts (.still db) n (changeSeatInTransaction id position target scope now) (.start i) e c' := by
  intro h
  rcases aborts_bind.mp h with failed | ⟨found, c₁, first, rest⟩
  · obtain ⟨skip, snap, cur, -, -, -, failed, -⟩ := aborts_query failed
    unfold lockBookingAndFlight at failed
    extract_lets target' at failed
    split at failed <;> cases failed
  obtain ⟨skip₁, s₁, cur₁, out₁, -, -, -, done₁, rfl, rfl, -⟩ := commits_query.mp first
  simp only [Cursor.start_view, Timeline.still_state] at done₁
  have writes₁ := lockBookingAndFlight_writes done₁
  cases reply₁ : out₁.reply with
  | none =>
      rw [reply₁] at rest
      exact rest
  | some pair =>
  obtain ⟨booking, flight⟩ := pair
  rw [reply₁] at rest
  obtain ⟨newest, -, -⟩ := lockBookingAndFlight_some done₁ reply₁
  obtain ⟨present, here⟩ := Table.find?_eq_some.mp newest
  rcases aborts_bind.mp rest with failed | ⟨_, c₂, second, rest⟩
  · obtain ⟨skip, snap, cur, -, -, -, failed, -⟩ := aborts_query failed
    cases failed
  obtain ⟨skip₂, s₂, cur₂, out₂, -, -, -, done₂, rfl, rfl, -⟩ := commits_query.mp second
  have reply₂ : out₂.reply = db.passengers.find? (id, position) := by
    cases done₂
    exact congrArg (fun t : Table PassengerRow => t.find? (id, position))
      (view_passengers (by simp [writes₁, Changes.append]) s₂)
  have clean : (((Cursor.start i).next s₁ cur₁ out₁).next s₂ cur₂ out₂ : Cursor postgres).log =
      ({} : Changes) := by
    cases done₂
    simp [writes₁, Changes.append]
  cases seen : out₂.reply with
  | none =>
      rw [seen] at rest
      exact rest
  | some passenger =>
  rw [seen] at rest
  obtain ⟨travels, at'⟩ := Table.find?_eq_some.mp (reply₂.symm.trans seen)
  have of : passenger.bookingId = id := congrArg Prod.fst at'
  by_cases confirmed : booking.status = .confirmed
  · obtain ⟨s, -, on⟩ := inv.seated booking present (.inr confirmed) passenger travels
      (of.trans (show booking.id = id from here).symm)
    simp only [confirmed, on.seat, ne_eq, not_true_eq_false, if_false] at rest
    by_cases same : s.position = target
    · rw [if_pos same] at rest
      exact rest
    rw [if_neg same] at rest
    by_cases sale : isBookable flight.status flight.departureAt now = true
    · rw [if_neg (not_not.mpr sale)] at rest
      exact moveBetweenSeats_aborts inv present here confirmed travels of on.seat clean rest
    · rw [if_pos sale] at rest
      exact rest
  · simp only [ne_eq, confirmed, not_false_eq_true, if_true] at rest
    exact rest

/-- A seat change that fails, fails on its records or its answer. -/
theorem changeSeat_aborts (inv : Inventory db) {id : Uuid} {position : Nat}
    {target : SeatPosition} {scope : BookingAccessScope} {actor auditId : Uuid}
    {requestId : Option Uuid} {e : Failure}
    (h : Aborts (.still db) n
      (changeSeatTransaction id position target scope actor auditId requestId now) (.start i) e c') :
    e.isSeatDisagreement = false := by
  have readBack : ∀ changed, Throws (fun e : Failure => e.isSeatDisagreement = false)
      (changeSeatTransaction.readBack id scope changed) := fun changed => by
    refine throws_bind ((findById_throws id scope).mono fun e h => ?_) fun read => ?_
    · obtain ⟨sum, rfl⟩ := h
      rfl
    · cases read with
      | none => exact rfl
      | some booking => trivial
  rcases aborts_bind.mp h with failed | ⟨result, c₁, -, rest⟩
  · exact (changeSeatInTransaction_aborts inv failed).elim
  · cases result with
    | refused reason => exact rest.elim
    | unchanged => exact rest.throws (readBack false)
    | changed old new =>
        refine rest.throws (throws_bind ((recordAudit_throws _).mono fun e h => ?_) fun _ =>
          readBack true)
        subst h
        decide

/-! ### The inventory over whole runs -/

/-- The seats of a booking and its passengers' display copies, in every database
a run reaches: who owns what, and that changeSeat never finds them apart. -/
theorem inventory_consistent (h : InventoryReachable db) :
    (∀ s ∈ db.seats, s.status = .available ↔ s.bookingId = none) ∧
    (∀ s ∈ db.seats, s.status = .held → ∃ b ∈ db.bookings, s.bookingId = some b.id ∧
      b.flightId = s.flightId ∧ b.status = .held) ∧
    (∀ s ∈ db.seats, s.status = .booked → ∃ b ∈ db.bookings, s.bookingId = some b.id ∧
      b.flightId = s.flightId ∧ b.status = .confirmed) ∧
    (∀ b ∈ db.bookings, b.status = .held ∨ b.status = .confirmed →
      Set.BijOn (fun p : PassengerRow => p.seat.map fun position => (b.flightId, position))
        {p | p ∈ db.passengers ∧ p.bookingId = b.id}
        {k | ∃ s ∈ db.seats, s.bookingId = some b.id ∧ k = some (key s)} ∧
      ∀ p ∈ db.passengers, p.bookingId = b.id → ∀ s ∈ db.seats, s.bookingId = some b.id →
        p.seat = some s.position → p.fareClass = some s.fareClass) ∧
    (∀ b ∈ db.bookings, b.status = .cancelled ∨ b.status = .expired →
      ∀ s ∈ db.seats, s.bookingId ≠ some b.id) ∧
    (∀ skip bookingId position seat scope actor auditId requestId now e,
      execute skip db (changeSeatTransaction bookingId position seat scope actor auditId requestId
        now) {} = .error e → e.isSeatDisagreement = false) := by
  have inv := h.inventory
  refine ⟨fun s mem => ⟨fun available => ?_, inv.free s mem⟩, fun s mem held => ?_,
    fun s mem booked => ?_, fun b mem live => ⟨⟨?_, ?_, ?_⟩, ?_⟩, fun b mem ended s memS owns => ?_,
    fun skip id position target scope actor auditId requestId now e failed => ?_⟩
  · cases owns : s.bookingId with
    | none => rfl
    | some id => exact absurd available (inv.not_available mem owns)
  · cases owns : s.bookingId with
    | none => cases (inv.free s mem owns).symm.trans held
    | some id =>
        obtain ⟨b, memB, rfl, flight, live, status⟩ := inv.owned s mem id owns
        refine ⟨b, memB, rfl, flight, live.resolve_right fun confirmed => ?_⟩
        rw [held, confirmed] at status
        cases status
  · cases owns : s.bookingId with
    | none => cases (inv.free s mem owns).symm.trans booked
    | some id =>
        obtain ⟨b, memB, rfl, flight, live, status⟩ := inv.owned s mem id owns
        refine ⟨b, memB, rfl, flight, live.resolve_left fun held => ?_⟩
        rw [booked, held] at status
        cases status
  · rintro p ⟨memP, here⟩
    obtain ⟨s, memS, on⟩ := inv.seated b mem live p memP here
    refine ⟨s, memS, on.owned, ?_⟩
    change p.seat.map _ = _
    rw [on.seat, (inv.owner memS mem on.owned).1]
    rfl
  · rintro p ⟨memP, here⟩ q ⟨memQ, here'⟩ same
    refine inv.apart b mem live p memP q memQ here here' ?_
    exact Option.map_injective (fun _ _ eq => congrArg Prod.snd eq) same
  · rintro k ⟨s, memS, owns, rfl⟩
    obtain ⟨p, memP, here, seat⟩ := inv.occupied s memS _ owns
    refine ⟨p, ⟨memP, here⟩, ?_⟩
    change p.seat.map _ = _
    rw [seat, (inv.owner memS mem owns).1]
    rfl
  · intro p memP here s memS owns seat
    obtain ⟨u, memU, on⟩ := inv.seated b mem live p memP here
    have same : u = s := Table.eq_of_key memU memS (Prod.ext
      ((inv.owner memU mem on.owned).1.symm.trans (inv.owner memS mem owns).1)
      (Option.some.inj (on.seat.symm.trans seat)))
    exact same ▸ on.fareClass
  · have live := (inv.owner memS mem owns).2.1
    rcases ended with ended | ended
    · exact not_live_cancelled (ended ▸ live)
    · exact not_live_expired (ended ▸ live)
  · obtain ⟨c', aborted⟩ := aborts_of_execute (c := .start 0) (Nat.le_refl 0) failed
    exact changeSeat_aborts inv aborted

/-! A run with one of each: a flight is laid out and opened, a booking is made and
confirmed, and its passenger changes seats. -/

/-- The database after the transaction, if it commits. -/
def commitAlone {α : Type} (p : Prog postgres α) (db : Db) : Option Db :=
  match execute [] db p {} with
  | .ok (_, log) => some (log.apply db)
  | .error _ => none

theorem InventoryReachable.commitAlone {db db' : Db} (h : InventoryReachable db) {α : Type}
    {p : Prog postgres α} (isOne : InventoryTransaction α p)
    (ran : FlightBooking.commitAlone p db = some db') : InventoryReachable db' := by
  obtain ⟨airports, run⟩ := h
  unfold FlightBooking.commitAlone at ran
  split at ran
  · rename_i r log done
    cases ran
    exact ⟨airports, run.tail ⟨α, p, [], r, log, isOne, done, rfl⟩⟩
  · cases ran

def sampleFlight : Flight where
  id := 1
  flightNumber := "VN1"
  origin := ⟨1, "HAN", "Asia/Ho_Chi_Minh"⟩
  destination := ⟨2, "SGN", "Asia/Ho_Chi_Minh"⟩
  aircraft := sampleAircraft
  departureAt := 1000000000
  arrivalAt := 1007200000
  fares := ⟨some sampleFare, none⟩
  status := .scheduled

/-- The flight, laid out and opened. -/
def sampleFlightDb : Option Db :=
  ((commitAlone (registerAircraftTransaction sampleAircraft 1 1 none)
    { airports := sampleAirports }).bind
    (commitAlone (createFlightTransaction sampleFlight 1 2 1 none 0))).bind
    (commitAlone (openFlightTransaction sampleFlight.row 1 3 none 0))

/-- Its first booking: account 7 takes seat 1A. -/
def sampleBookingDb (now : Instant) : Option Db :=
  sampleFlightDb.bind (commitAlone (createBookingTransaction 1 sampleRequest 7
    ⟨5, fun _ => "ABC234", 4, 2⟩ none now))

/-- The booking confirmed, and its passenger moved to 1B. -/
def sampleSeatDb : Option Db :=
  ((sampleBookingDb 0).bind (commitAlone (confirmHold 5 .admin 1))).bind
    (commitAlone (changeSeatTransaction 5 1 ⟨1, 'B'⟩ .admin 7 5 none 2))

theorem sampleFlightDb_reachable {db : Db} (h : sampleFlightDb = some db) :
    InventoryReachable db := by
  obtain ⟨db₂, rest, opened⟩ := Option.bind_eq_some_iff.mp h
  obtain ⟨db₁, registered, created⟩ := Option.bind_eq_some_iff.mp rest
  have start : InventoryReachable { airports := sampleAirports } := ⟨_, .refl⟩
  exact ((start.commitAlone (.registerAircraft ..) registered).commitAlone (.createFlight ..)
    created).commitAlone (.openFlight ..) opened

theorem sampleBookingDb_reachable {now : Instant} {db : Db} (h : sampleBookingDb now = some db) :
    InventoryReachable db := by
  obtain ⟨db₁, flight, booked⟩ := Option.bind_eq_some_iff.mp h
  exact (sampleFlightDb_reachable flight).commitAlone (.createBooking ..) booked

theorem sampleSeatDb_reachable {db : Db} (h : sampleSeatDb = some db) : InventoryReachable db := by
  obtain ⟨db₂, rest, moved⟩ := Option.bind_eq_some_iff.mp h
  obtain ⟨db₁, booked, confirmed⟩ := Option.bind_eq_some_iff.mp rest
  exact ((sampleBookingDb_reachable booked).commitAlone (.confirmHold ..) confirmed).commitAlone
    (.changeSeat ..) moved

/-- The passenger sits in 1B, and 1A is free again. -/
theorem inventory_consistent_sample : ∃ db, sampleSeatDb = some db ∧
    (db.seats.rows.map fun s => (s.position.letter, s.status, s.bookingId)) =
      [('A', .available, none), ('B', .booked, some 5)] ∧
    ∀ s ∈ db.seats, s.status = .available ↔ s.bookingId = none := by
  have some : (sampleSeatDb.map fun db => db.seats.rows.map fun s =>
      (s.position.letter, s.status, s.bookingId)) =
      some [('A', .available, none), ('B', .booked, some 5)] := by decide +kernel
  obtain ⟨db, found, seats⟩ := Option.map_eq_some_iff.mp some
  exact ⟨db, found, seats, (inventory_consistent (sampleSeatDb_reachable found)).1⟩

end FlightBooking
