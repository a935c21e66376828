import FlightBooking.Bookings.CancelRace
import FlightBooking.Inventory.Runs

/-!
Every passenger of a live booking sits on a seat of it, in every run.

While transactions overlap, a cancelled booking may keep a seat; but whoever still
travels sits where their ticket says. `Seated` is that part of the inventory, and each
commit keeps it: a seat leaves a booking only with the booking's end or with the
passenger who sat on it.
-/

namespace FlightBooking

open Relational ReadCommitted

/-- A live booking's passengers sit on its seats, one each. -/
structure Seated (db : Db) : Prop where
  free : db.FreeSeats
  travels : ∀ p ∈ db.passengers, ∃ b ∈ db.bookings, b.id = p.bookingId
  seated : ∀ b ∈ db.bookings, b.status.Live → ∀ p ∈ db.passengers, p.bookingId = b.id →
    ∃ s ∈ db.seats, SitsOn b p s ∧ s.flightId = b.flightId ∧ s.status = seatStatusOf b.status
  apart : ∀ b ∈ db.bookings, b.status.Live → ∀ p ∈ db.passengers, ∀ q ∈ db.passengers,
    p.bookingId = b.id → q.bookingId = b.id → p.seat = q.seat → p = q

namespace Seated

variable {db : Db} {w : Changes}

theorem unowned (inv : Seated db) {s : FlightSeat} (mem : s ∈ db.seats)
    (available : s.status = .available) : s.bookingId = none :=
  inv.free (key s) s (Table.find?_of_mem mem) available

/-- The seat a passenger sits on, given where it is. -/
theorem seat_eq (inv : Seated db) {b : BookingRow} (mem : b ∈ db.bookings) (live : b.status.Live)
    {p : PassengerRow} (memP : p ∈ db.passengers) (here : p.bookingId = b.id) {s : FlightSeat}
    (memS : s ∈ db.seats) (flight : s.flightId = b.flightId) (sits : p.seat = some s.position) :
    SitsOn b p s ∧ s.status = seatStatusOf b.status := by
  obtain ⟨u, memU, on, flightU, status⟩ := inv.seated b mem live p memP here
  have same : u = s := Table.eq_of_key memU memS (Prod.ext (flightU.trans flight.symm)
    (Option.some.inj (on.seat.symm.trans sits)))
  exact same ▸ ⟨on, status⟩

/-- Bookings and passengers stay, and so do the owned seats. -/
theorem of_same (inv : Seated db) {db' : Db} (free : db'.FreeSeats)
    (bookings : db'.bookings = db.bookings) (passengers : db'.passengers = db.passengers)
    (seats : ∀ s ∈ db.seats, s ∈ db'.seats) : Seated db' where
  free := free
  travels := by rw [bookings, passengers]; exact inv.travels
  seated := by
    rw [bookings, passengers]
    intro b mem live p memP here
    obtain ⟨s, memS, rest⟩ := inv.seated b mem live p memP here
    exact ⟨s, seats s memS, rest⟩
  apart := by rw [bookings, passengers]; exact inv.apart

/-- Bookings end, and seats of theirs are released. -/
theorem close (inv : Seated db) (free : (w.apply db).FreeSeats) {due : List BookingRow}
    {seats : List FlightSeat} {ending : BookingStatus} (ends : ¬ ending.Live)
    (distinct : (due.map key).Nodup) (present : ∀ b ∈ due, b ∈ db.bookings)
    (distinct' : (seats.map key).Nodup) (presentS : ∀ s ∈ seats, s ∈ db.seats)
    (theirs : ∀ s ∈ seats, ∃ b ∈ due, s.bookingId = some b.id)
    (bookings : w.bookings = due.map fun b => { b with status := ending })
    (released : w.seats = seats.map releaseSeat) (passengers : w.passengers = []) :
    Seated (w.apply db) := by
  have memB : ∀ b, b ∈ (w.apply db).bookings ↔
      (∃ d ∈ due, { d with status := ending } = b) ∨ b ∈ db.bookings ∧ b ∉ due := by
    intro b
    rw [Changes.apply_bookings, bookings]
    exact Table.mem_putAll_map (f := fun b : BookingRow => { b with status := ending }) distinct
      present fun _ => rfl
  have memS : ∀ s, s ∈ (w.apply db).seats ↔
      (∃ u ∈ seats, releaseSeat u = s) ∨ s ∈ db.seats ∧ s ∉ seats := by
    intro s
    rw [Changes.apply_seats, released]
    exact Table.mem_putAll_map distinct' presentS key_releaseSeat
  have samePassengers : (w.apply db).passengers = db.passengers := by
    rw [Changes.apply_passengers, passengers, Table.putAll_nil]
  -- A booking that stays live did not end.
  have stays : ∀ b ∈ (w.apply db).bookings, b.status.Live → b ∈ db.bookings ∧ b ∉ due := by
    intro b mem live
    rcases (memB b).mp mem with ⟨d, -, rfl⟩ | old
    · exact (ends live).elim
    · exact old
  constructor
  · exact free
  · intro p mem
    rw [samePassengers] at mem
    obtain ⟨b, memOld, same⟩ := inv.travels p mem
    by_cases isDue : b ∈ due
    · exact ⟨_, (memB _).mpr (.inl ⟨b, isDue, rfl⟩), same⟩
    · exact ⟨b, (memB b).mpr (.inr ⟨memOld, isDue⟩), same⟩
  · intro b mem live p memP here
    rw [samePassengers] at memP
    obtain ⟨old, notDue⟩ := stays b mem live
    obtain ⟨s, memOld, on, rest⟩ := inv.seated b old live p memP here
    refine ⟨s, (memS s).mpr (.inr ⟨memOld, fun inSeats => ?_⟩), on, rest⟩
    obtain ⟨d, isDue, owns⟩ := theirs s inSeats
    have same : d.id = b.id := Option.some.inj (owns.symm.trans on.owned)
    exact notDue (Table.eq_of_key (present d isDue) old same ▸ isDue)
  · intro b mem live
    rw [samePassengers]
    exact inv.apart b (stays b mem live).1 live

/-- A held booking is confirmed, and its passengers' seats are booked. -/
theorem confirm (inv : Seated db) (free : (w.apply db).FreeSeats) {booking : BookingRow}
    {seats : List FlightSeat} (present : booking ∈ db.bookings) (held : booking.status = .held)
    (distinct : (seats.map key).Nodup) (presentS : ∀ s ∈ seats, s ∈ db.seats)
    (all : ∀ s, s ∈ db.seats → (s ∈ seats ↔ s.bookingId = some booking.id))
    (bookings : w.bookings = [{ booking with status := .confirmed }])
    (booked : w.seats = seats.map bookSeat) (passengers : w.passengers = []) :
    Seated (w.apply db) := by
  set confirmed : BookingRow := { booking with status := .confirmed }
  have memB : ∀ b, b ∈ (w.apply db).bookings ↔ b = confirmed ∨ b ∈ db.bookings ∧ b ≠ booking := by
    intro b
    rw [Changes.apply_bookings, bookings, Table.putAll_cons, Table.putAll_nil, Table.mem_put]
    refine or_congr Iff.rfl (and_congr_right fun old => not_congr ⟨fun same => ?_, fun same => ?_⟩)
    · exact Table.eq_of_key old present same
    · exact same ▸ rfl
  have memS : ∀ s, s ∈ (w.apply db).seats ↔
      (∃ u ∈ seats, bookSeat u = s) ∨ s ∈ db.seats ∧ s ∉ seats := by
    intro s
    rw [Changes.apply_seats, booked]
    exact Table.mem_putAll_map distinct presentS key_bookSeat
  have samePassengers : (w.apply db).passengers = db.passengers := by
    rw [Changes.apply_passengers, passengers, Table.putAll_nil]
  constructor
  · exact free
  · intro p mem
    rw [samePassengers] at mem
    obtain ⟨b, memOld, same⟩ := inv.travels p mem
    by_cases this : b = booking
    · exact ⟨confirmed, (memB _).mpr (.inl rfl), (congrArg BookingRow.id this).symm.trans same⟩
    · exact ⟨b, (memB b).mpr (.inr ⟨memOld, this⟩), same⟩
  · intro b mem live p memP here
    rw [samePassengers] at memP
    rcases (memB b).mp mem with rfl | ⟨old, other⟩
    · obtain ⟨s, memOld, on, flight, -⟩ := inv.seated booking present (.inl held) p memP here
      have inSeats := (all s memOld).mpr on.owned
      exact ⟨bookSeat s, (memS _).mpr (.inl ⟨s, inSeats, rfl⟩), ⟨on.owned, on.seat, on.fareClass⟩,
        flight, rfl⟩
    · obtain ⟨s, memOld, on, rest⟩ := inv.seated b old live p memP here
      refine ⟨s, (memS s).mpr (.inr ⟨memOld, fun inSeats => other ?_⟩), on, rest⟩
      have owns := (all s memOld).mp inSeats
      exact Table.eq_of_key old present (Option.some.inj (on.owned.symm.trans owns))
  · intro b mem live
    rw [samePassengers]
    rcases (memB b).mp mem with rfl | ⟨old, -⟩
    · exact inv.apart booking present (.inl held)
    · exact inv.apart b old live

/-- A new booking takes free seats of its flight, one for each passenger. -/
theorem create (inv : Seated db) (free' : (w.apply db).FreeSeats) {booking : BookingRow}
    {rows : List PassengerRow} {free : List FlightSeat}
    (fresh : db.bookings.find? booking.id = none) (held : booking.status = .held)
    (distinct : (rows.map key).Nodup) (fresh' : ∀ p ∈ rows, db.passengers.find? (key p) = none)
    (own : ∀ p ∈ rows, p.bookingId = booking.id) (distinct' : (free.map key).Nodup)
    (present : ∀ s ∈ free, s ∈ db.seats) (flight : ∀ s ∈ free, s.flightId = booking.flightId)
    (available : ∀ s ∈ free, s.status = .available)
    (seated : (rows.map fun p => (p.seat, p.fareClass)).Perm
      (free.map fun s => (some s.position, some s.fareClass)))
    (bookings : w.bookings = [booking]) (taken : w.seats = free.map (holdSeat booking.id))
    (passengers : w.passengers = rows) : Seated (w.apply db) := by
  have memB : ∀ b, b ∈ (w.apply db).bookings ↔ b = booking ∨ b ∈ db.bookings := by
    intro b
    rw [Changes.apply_bookings, bookings, Table.putAll_cons, Table.putAll_nil, Table.mem_put]
    exact or_congr Iff.rfl ⟨And.left, fun old => ⟨old, Table.find?_eq_none.mp fresh b old⟩⟩
  have memP : ∀ p, p ∈ (w.apply db).passengers ↔ p ∈ rows ∨ p ∈ db.passengers := by
    intro p
    rw [Changes.apply_passengers, passengers, Table.mem_putAll distinct]
    refine or_congr Iff.rfl ⟨And.left, fun old => ⟨old, fun new => ?_⟩⟩
    obtain ⟨q, memQ, same⟩ := List.mem_map.mp new
    exact Table.find?_eq_none.mp (fresh' q memQ) p old same.symm
  have memS : ∀ s, s ∈ (w.apply db).seats ↔
      (∃ u ∈ free, holdSeat booking.id u = s) ∨ s ∈ db.seats ∧ s ∉ free := by
    intro s
    rw [Changes.apply_seats, taken]
    exact Table.mem_putAll_map distinct' present (key_holdSeat booking.id)
  -- The new booking's id is nobody's yet.
  have ne : ∀ b ∈ db.bookings, b.id ≠ booking.id := Table.find?_eq_none.mp fresh
  have isNew : ∀ p ∈ (w.apply db).passengers, p.bookingId = booking.id → p ∈ rows := by
    intro p mem here
    refine ((memP p).mp mem).resolve_right fun old => ?_
    obtain ⟨b, memB, same⟩ := inv.travels p old
    exact ne b memB (same.trans here)
  have isOld : ∀ b ∈ db.bookings, ∀ p ∈ (w.apply db).passengers, p.bookingId = b.id →
      p ∈ db.passengers := fun b memB p mem here =>
    ((memP p).mp mem).resolve_left fun new => ne b memB (here.symm.trans (own p new))
  have apartNew : (rows.map (·.seat)).Nodup := by
    have positions : (free.map fun s => some s.position).Nodup := by
      refine List.Nodup.map_on (fun a memA b memB same => ?_) (List.Nodup.of_map _ distinct')
      refine List.inj_on_of_nodup_map distinct' memA memB (Prod.ext ?_ (Option.some.inj same))
      exact (flight a memA).trans (flight b memB).symm
    have perm := seated.map Prod.fst
    rw [List.map_map, List.map_map] at perm
    exact perm.nodup_iff.mpr positions
  constructor
  · exact free'
  · intro p mem
    rcases (memP p).mp mem with new | old
    · exact ⟨booking, (memB _).mpr (.inl rfl), (own p new).symm⟩
    · obtain ⟨b, memOld, same⟩ := inv.travels p old
      exact ⟨b, (memB b).mpr (.inr memOld), same⟩
  · intro b mem live p memRow here
    rcases (memB b).mp mem with rfl | oldB
    · have pair := seated.subset (List.mem_map_of_mem (isNew p memRow here))
      obtain ⟨s, memFree, same⟩ := List.mem_map.mp pair
      obtain ⟨seat, fareClass⟩ := Prod.ext_iff.mp same
      exact ⟨_, (memS _).mpr (.inl ⟨s, memFree, rfl⟩), ⟨rfl, seat.symm, fareClass.symm⟩,
        flight s memFree, by rw [held]; rfl⟩
    · obtain ⟨s, memOld, on, rest⟩ := inv.seated b oldB live p (isOld b oldB p memRow here) here
      refine ⟨s, (memS s).mpr (.inr ⟨memOld, fun isFree => ?_⟩), on, rest⟩
      cases (inv.unowned memOld (available s isFree)).symm.trans on.owned
  · intro b mem live p memRow q memRow' here here' same
    rcases (memB b).mp mem with rfl | oldB
    · exact List.inj_on_of_nodup_map apartNew (isNew p memRow here) (isNew q memRow' here') same
    · exact inv.apart b oldB live p (isOld b oldB p memRow here) q (isOld b oldB q memRow' here')
        here here' same

/-- A passenger of a confirmed booking moves from their seat to a free one. -/
theorem reseat (inv : Seated db) (free : (w.apply db).FreeSeats) {booking : BookingRow}
    {passenger : PassengerRow} {own wanted : FlightSeat} (present : booking ∈ db.bookings)
    (confirmed : booking.status = .confirmed) (travels : passenger ∈ db.passengers)
    (here : passenger.bookingId = booking.id) (sits : passenger.seat = some own.position)
    (ownPresent : own ∈ db.seats) (ownFlight : own.flightId = booking.flightId)
    (wantedPresent : wanted ∈ db.seats) (wantedFlight : wanted.flightId = booking.flightId)
    (available : wanted.status = .available) (sameClass : wanted.fareClass = own.fareClass)
    (bookings : w.bookings = [])
    (seats : w.seats = [releaseSeat own, takeSeat booking.id wanted])
    (passengers : w.passengers = [{ passenger with seat := some wanted.position }]) :
    Seated (w.apply db) := by
  set moved : PassengerRow := { passenger with seat := some wanted.position }
  obtain ⟨onOwn, -⟩ := inv.seat_eq present (.inr confirmed) travels here ownPresent ownFlight sits
  have freeWanted := inv.unowned wantedPresent available
  have apart : wanted ≠ own := fun same => by
    rw [same, onOwn.owned] at freeWanted
    cases freeWanted
  have apartKey : key (releaseSeat own) ≠ key (takeSeat booking.id wanted) := fun same =>
    apart (Table.eq_of_key wantedPresent ownPresent same.symm)
  have sameBookings : (w.apply db).bookings = db.bookings := by
    rw [Changes.apply_bookings, bookings, Table.putAll_nil]
  have memP : ∀ p, p ∈ (w.apply db).passengers ↔ p = moved ∨ p ∈ db.passengers ∧ p ≠ passenger := by
    intro p
    rw [Changes.apply_passengers, passengers, Table.putAll_cons, Table.putAll_nil, Table.mem_put]
    refine or_congr Iff.rfl (and_congr_right fun old => not_congr ⟨fun same => ?_, fun same => ?_⟩)
    · exact Table.eq_of_key old travels same
    · exact same ▸ rfl
  have memS : ∀ s, s ∈ (w.apply db).seats ↔ s = takeSeat booking.id wanted ∨ s = releaseSeat own ∨
      s ∈ db.seats ∧ s ≠ own ∧ s ≠ wanted := by
    intro s
    rw [Changes.apply_seats, seats, Table.putAll_cons, Table.putAll_cons, Table.putAll_nil,
      Table.mem_put, Table.mem_put]
    constructor
    · rintro (rfl | ⟨rfl | ⟨old, notOwn⟩, notWanted⟩)
      · exact .inl rfl
      · exact .inr (.inl rfl)
      · exact .inr (.inr ⟨old, fun same => notOwn (same ▸ rfl), fun same => notWanted (same ▸ rfl)⟩)
    · rintro (rfl | rfl | ⟨old, notOwn, notWanted⟩)
      · exact .inl rfl
      · exact .inr ⟨.inl rfl, apartKey⟩
      · exact .inr ⟨.inr ⟨old, fun same => notOwn (Table.eq_of_key old ownPresent same)⟩,
          fun same => notWanted (Table.eq_of_key old wantedPresent same)⟩
  have notWanted : ∀ p ∈ db.passengers, p.bookingId = booking.id →
      p.seat ≠ some wanted.position := fun p mem here' seat => by
    obtain ⟨on, -⟩ := inv.seat_eq present (.inr confirmed) mem here' wantedPresent wantedFlight seat
    rw [on.owned] at freeWanted
    cases freeWanted
  constructor
  · exact free
  · intro p mem
    rw [sameBookings]
    rcases (memP p).mp mem with rfl | ⟨old, -⟩
    · exact inv.travels passenger travels
    · exact inv.travels p old
  · intro b mem live p memRow at'
    rw [sameBookings] at mem
    rcases (memP p).mp memRow with rfl | ⟨old, ne⟩
    · obtain rfl := Table.eq_of_key mem present (at'.symm.trans here)
      refine ⟨_, (memS _).mpr (.inl rfl), ⟨rfl, rfl, ?_⟩, wantedFlight, by rw [confirmed]; rfl⟩
      exact onOwn.fareClass.trans (congrArg some sameClass.symm)
    · obtain ⟨s, memOld, on, rest⟩ := inv.seated b mem live p old at'
      refine ⟨s, (memS s).mpr (.inr (.inr ⟨memOld, fun same => ?_, fun same => ?_⟩)), on, rest⟩
      · have owned := onOwn.owned
        rw [← same, on.owned] at owned
        obtain rfl := Table.eq_of_key mem present (Option.some.inj owned)
        exact ne (inv.apart b mem live p old passenger travels at' here
          (on.seat.trans ((congrArg (some ·.position) same).trans sits.symm)))
      · rw [← same, on.owned] at freeWanted
        cases freeWanted
  · intro b mem live p memRow q memRow' at' at'' same
    rw [sameBookings] at mem
    have isBooking : ∀ x : PassengerRow, x = moved → x.bookingId = b.id → b.id = booking.id :=
      fun x eq at' => at'.symm.trans ((congrArg PassengerRow.bookingId eq).trans here)
    rcases (memP p).mp memRow with eq | ⟨old, ne⟩ <;>
      rcases (memP q).mp memRow' with eq' | ⟨old', ne'⟩
    · exact eq.trans eq'.symm
    · exact absurd (same.symm.trans (congrArg PassengerRow.seat eq))
        (notWanted q old' (at''.trans (isBooking p eq at')))
    · exact absurd (same.trans (congrArg PassengerRow.seat eq'))
        (notWanted p old (at'.trans (isBooking q eq' at'')))
    · exact inv.apart b mem live p old q old' at' at'' same

end Seated

/-! ### Runs -/

variable {T : Timeline postgres} {n i : Nat} {x : Transaction} {now : Instant} {r : x.Result}
  {c' : Cursor postgres} {id : Uuid} {position : Nat}

/-- The first `n` commits, with the runs that made them. -/
def Ran (T : Timeline postgres) (n : Nat) : Prop :=
  ∀ m < n, ∃ i x now r c', Committed T m i x now r c' ∧ Commits T m (x.body now) (.start i) r c'

theorem ran_of_sound {w : World app} (sound : w.Sound) : Ran w.timeline w.commits.length := by
  intro m lt
  obtain ⟨c', ran, log, spans, held⟩ := sound.commits lt
  refine ⟨_, _, _, _, c', ⟨(sound.ran m lt).1, effect_of_commits sound.framed ran,
    log ▸ w.state_succ lt, held, fun _ => ran.covered fun _ mem => absurd mem List.not_mem_nil,
    fun appending => appends_of_commits sound.framed appending ran⟩, ran⟩

theorem Ran.mono {m : Nat} (ran : Ran T n) (le : m ≤ n) : Ran T m :=
  fun j lt => ran j (Nat.lt_of_lt_of_le lt le)

theorem Ran.unfolds (ran : Ran T n) : Unfolds T n := fun m lt =>
  let ⟨i, x, now, r, c', committed, _⟩ := ran m lt
  ⟨i, x, now, r, c', committed⟩

/-- Passengers are written when their booking is made, and when one changes seats. -/
theorem Effect.passengers (effect : Effect T n i x now r c') : c'.log.passengers = [] ∨
    (∃ booking : Booking, c'.log.passengers = passengerRows booking.id booking.passengers ∧
      c'.log.bookings = [booking.row]) ∨
    ∃ id position target scope actor auditId requestId now',
      x = .changeSeat id position target scope actor auditId requestId now' := by
  cases effect with
  | created _ _ log => exact .inr (.inl ⟨_, congrArg Changes.passengers log, congrArg Changes.bookings log⟩)
  | reseated => exact .inr (.inr ⟨_, _, _, _, _, _, _, _, rfl⟩)
  | nothing _ log => exact .inl (by rw [log])
  | laidOut _ on => exact .inl on.quiet.passengers
  | paid _ _ on =>
      refine .inl ?_
      cases on with
      | answered _ log => rw [log]
      | released _ log => rw [log]
      | started _ _ log => rw [log]
  | cancelled _ _ _ _ _ _ _ _ _ log => exact .inl (by rw [log])
  | expired _ _ _ _ log => exact .inl (by rw [log])
  | declined _ _ _ log => exact .inl (by rw [log])
  | chargedTooLate _ _ _ log => exact .inl (by rw [log])
  | confirmed _ _ _ _ _ _ _ log => exact .inl (by rw [log])
  | claimed _ _ log => exact .inl (by rw [log])
  | refundRecorded _ _ log => exact .inl (by rw [log])
  | rescheduled _ _ log => exact .inl (by rw [log])
  | cleaned _ log => exact .inl (by rw [log])
  | published _ _ log => exact .inl (by rw [log])

/-- A commit that does not have the booking locked leaves its passengers. -/
theorem Committed.passenger_kept (h : Committed T n i x now r c') (framed : T.Framed)
    (ran : Commits T n (x.body now) (.start i) r c') (free : .booking id ∉ T.locked n) :
    (T.state (n + 1)).passengers.find? (id, position) =
      (T.state n).passengers.find? (id, position) := by
  rw [h.next, Changes.apply_passengers]
  refine Table.find?_putAll_of_notMem fun mem => ?_
  obtain ⟨p, memP, at'⟩ := List.mem_map.mp mem
  have own : p.bookingId = id := congrArg Prod.fst at'
  rcases h.effect.passengers with none | ⟨booking, rows, created⟩ |
    ⟨id', position', target, scope, actor, auditId, requestId, now', rfl⟩
  · simp [none] at memP
  · rw [rows] at memP
    have of := passengerRows_ids booking.id booking.passengers p memP
    have touched : .booking booking.id ∈ c'.log.touched :=
      Changes.booking_touched (created ▸ List.mem_singleton_self _)
    refine free (h.locked ▸ ?_)
    rw [← own, of]
    exact h.covered _ touched
  · rcases changeSeat_commits framed ran with log |
      ⟨booking, passenger, seat, wanted, lock, read, at'', moved, audit, on, -, held, -, -, found, -,
        log, -⟩
    · simp [log] at memP
    · rw [log] at memP
      obtain ⟨q, memQ, rfl⟩ := List.mem_map.mp memP
      rw [found, Option.mem_toList] at memQ
      have of : q.bookingId = id' := congrArg Prod.fst (Table.key_of_find? memQ)
      refine free (h.locked ▸ ?_)
      rwa [← own, show ({ q with seat := some target } : PassengerRow).bookingId = q.bookingId from rfl,
        of]

theorem Ran.passenger_kept (ran : Ran T n) (framed : T.Framed) {a b : Nat} (le : a ≤ b) (le' : b ≤ n)
    (kept : ∀ j, a ≤ j → j < b → .booking id ∉ T.locked j) :
    (T.state b).passengers.find? (id, position) = (T.state a).passengers.find? (id, position) := by
  induction b, le using Nat.le_induction with
  | base => rfl
  | succ b le ih =>
      obtain ⟨i, x, now, r, c', committed, done⟩ := ran b (by omega)
      rw [committed.passenger_kept framed done (kept b le (Nat.lt_succ_self b))]
      exact ih (by omega) fun j from' before => kept j from' (by omega)

/-- A confirmation books the seats that the booking owns. -/
theorem mem_confirmed_seats {scope : BookingAccessScope} {booking : BookingRow} {snap cur : Nat}
    (on : ConfirmedOn T n id scope now booking snap cur) (unfolds : Unfolds T n)
    (free : ∀ m ≤ n, (T.state m).FreeSeats) {s : FlightSeat} (mem : s ∈ (T.state n).seats) :
    s ∈ lockedSeats [id] (T.state snap) (T.state cur) ↔ s.bookingId = some id := by
  constructor
  · intro locked
    obtain ⟨id', mem', own⟩ := seatsOf_iff.mp (mem_lockedSeats.mp locked).2.1
    rwa [List.mem_singleton.mp mem'] at own
  · intro owned
    obtain ⟨u, found, confirmable⟩ := on.found
    have heldSnap : (T.state snap).bookingStatus id = some .held :=
      (congrArg (Option.map _) found).trans (congrArg some (isConfirmable_held confirmable))
    have heldCur : (T.state cur).bookingStatus id = some .held :=
      (congrArg (Option.map _) on.newest).trans (congrArg some (isConfirmable_held on.confirmable))
    have between := fun j => unfolds.held_between (j := j) heldSnap heldCur
    have owns : (T.state n).Owns id (key s) := ⟨s, Table.find?_of_mem mem, owned⟩
    have ownsCur := (unfolds.owns_iff free on.cur_le (Nat.le_refl n) fun j from' before =>
      .inl (on.kept j from' before)).mpr owns
    have ownsSnap := (unfolds.owns_iff free on.snap_le on.cur_le fun j from' before => .inr
      ⟨between j from' (Nat.le_of_lt before) on.cur_le,
        between (j + 1) (Nat.le_succ_of_le from') before on.cur_le⟩).mpr ownsCur
    obtain ⟨v, foundV, ownedV⟩ := ownsCur
    have locked := mem_lockedSeats_of_owns (List.mem_singleton_self id) ownsSnap foundV ownedV
    rwa [Table.eq_of_key (on.seats v locked) mem (Table.key_of_find? foundV)] at locked

/-- Every commit keeps the passengers of live bookings on their seats. -/
theorem Committed.seated (h : Committed T n i x now r c') (framed : T.Framed) (before : Ran T n)
    (ran : Commits T n (x.body now) (.start i) r c') (free : ∀ m ≤ n + 1, (T.state m).FreeSeats)
    (inv : Seated (T.state n)) : Seated (T.state (n + 1)) := by
  have free' := free (n + 1) (Nat.le_refl _)
  rw [h.next] at free' ⊢
  have unwritten : c'.log.bookings = [] → c'.log.passengers = [] → c'.log.seats = [] →
      Seated (c'.log.apply (T.state n)) := by
    intro bookings passengers seats
    refine inv.of_same free' ?_ ?_ fun s mem => ?_
    · rw [Changes.apply_bookings, bookings, Table.putAll_nil]
    · rw [Changes.apply_passengers, passengers, Table.putAll_nil]
    · rw [Changes.apply_seats, seats, Table.putAll_nil]
      exact mem
  cases h.effect with
  | nothing _ log => exact unwritten (by rw [log]) (by rw [log]) (by rw [log])
  | laidOut _ on =>
      refine inv.of_same free' ?_ ?_ fun s mem => ?_
      · rw [Changes.apply_bookings, on.quiet.bookings, Table.putAll_nil]
      · rw [Changes.apply_passengers, on.quiet.passengers, Table.putAll_nil]
      · rw [Changes.apply_seats, Table.mem_putAll on.distinct]
        refine .inr ⟨mem, fun new => ?_⟩
        obtain ⟨u, memU, same⟩ := List.mem_map.mp new
        exact Table.find?_eq_none.mp (on.fresh u memU) s mem same.symm
  | @created _ _ _ _ _ _ booking free _ _ _ on _ log =>
      have seats : ((passengerRows booking.id booking.passengers).map
          fun p => (p.seat, p.fareClass)).Perm (free.map fun s => (some s.position, some s.fareClass)) :=
        passengerRows_seats booking.id booking.passengers ▸ on.seated
      exact inv.create free' on.new.booking on.status (passengerRows_nodup _ _) on.new.passengers
        (passengerRows_ids _ _) on.distinct on.current
        (fun s mem => (on.onFlight s mem).trans on.flight.symm) on.available seats
        (congrArg Changes.bookings log) (congrArg Changes.seats log) (congrArg Changes.passengers log)
  | @cancelled id _ _ _ _ _ _ _ booking _ _ _ snap cur _ _ _ _ _ _ on _ _ _ _ _ _ _ _ log =>
      have here : booking.id = id := Table.key_of_find? on.current
      refine inv.close free' not_live_cancelled (show ([booking].map key).Nodup by simp) ?_
        (nodup_lockedSeats [id] (T.state snap) (T.state cur)) on.seats (fun s mem => ?_)
        (congrArg Changes.bookings log) (congrArg Changes.seats log) (congrArg Changes.passengers log)
      · simpa using Table.mem_of_find? on.current
      · obtain ⟨id', mem', own⟩ := seatsOf_iff.mp (mem_lockedSeats.mp mem).2.1
        rw [List.mem_singleton] at mem'
        exact ⟨booking, List.mem_singleton_self _, by rw [own, mem', here]⟩
  | @expired _ _ _ _ _ due snap cur _ _ _ on _ _ _ log =>
      refine inv.close free' not_live_expired on.distinct on.current
        (nodup_lockedSeats (due.map (·.id)) (T.state snap) (T.state cur)) on.seats (fun s mem => ?_)
        (congrArg Changes.bookings log) (congrArg Changes.seats log) (congrArg Changes.passengers log)
      obtain ⟨id', mem', own⟩ := seatsOf_iff.mp (mem_lockedSeats.mp mem).2.1
      obtain ⟨b, memB, rfl⟩ := List.mem_map.mp mem'
      exact ⟨b, memB, own⟩
  | @confirmed payment _ _ _ _ _ _ _ booking snap cur _ _ _ _ on _ _ _ _ _ log =>
      have here : booking.id = payment.bookingId := Table.key_of_find? on.current
      refine inv.confirm free' (Table.mem_of_find? on.current) (isConfirmable_held on.confirmable)
        (nodup_lockedSeats [payment.bookingId] (T.state snap) (T.state cur)) on.seats
        (fun s mem => ?_) (congrArg Changes.bookings log) (congrArg Changes.seats log)
        (congrArg Changes.passengers log)
      rw [here]
      exact mem_confirmed_seats on before.unfolds (fun m le => free m (by omega)) mem
  | @reseated id position target _ _ _ _ _ _ _ _ _ _ _ _ _ _ _ _ _ _ _ =>
      rcases changeSeat_commits framed ran with log | ⟨booking, passenger, own, wanted, lock, read,
        at', moved, audit, on, -, -, le, le', found, -, log, -⟩
      · exact unwritten (by rw [log]) (by rw [log]) (by rw [log])
      have here : booking.id = id := Table.key_of_find? on.current
      -- The passenger's row is as it was read: the booking was locked before.
      have kept : ∀ {b : Nat}, read ≤ b → b ≤ n →
          (T.state b).passengers.find? (id, position) = some passenger := fun le le' =>
        (before.passenger_kept framed le le' fun j from' before =>
          on.kept j (Nat.le_trans on.lock_le from') (by omega)).trans on.passenger_read
      rw [kept le le', Option.toList_some] at found
      obtain ⟨travels, at''⟩ := Table.find?_eq_some.mp (kept on.read_le (Nat.le_refl n))
      have of : passenger.bookingId = id := congrArg Prod.fst at''
      have between := on.between
      refine inv.reseat free' (Table.mem_of_find? on.current) on.confirmed travels
        (of.trans here.symm) on.sits between.own_mem between.own_flight between.wanted_mem
        between.wanted_flight between.available between.sameClass (congrArg Changes.bookings log) ?_ ?_
      · rw [log, here]
      · rw [log, found, on.arrives]
        rfl
  | paid _ _ on =>
      cases on with
      | answered _ log => exact unwritten (by rw [log]) (by rw [log]) (by rw [log])
      | released _ log => exact unwritten (by rw [log]) (by rw [log]) (by rw [log])
      | started _ _ log => exact unwritten (by rw [log]) (by rw [log]) (by rw [log])
  | declined _ _ _ log => exact unwritten (by rw [log]) (by rw [log]) (by rw [log])
  | chargedTooLate _ _ _ log => exact unwritten (by rw [log]) (by rw [log]) (by rw [log])
  | claimed _ _ log => exact unwritten (by rw [log]) (by rw [log]) (by rw [log])
  | refundRecorded _ _ log => exact unwritten (by rw [log]) (by rw [log]) (by rw [log])
  | rescheduled _ _ log => exact unwritten (by rw [log]) (by rw [log]) (by rw [log])
  | cleaned _ log => exact unwritten (by rw [log]) (by rw [log]) (by rw [log])
  | published _ _ log => exact unwritten (by rw [log]) (by rw [log]) (by rw [log])

/-- In every version of every run, whoever travels sits on a seat of their booking. -/
theorem seated_of_reachable {α : Type} {airports : Table Airport} {env : Env}
    {threads : Nat → App.Thread app α} {p : Pool app α}
    (h : (Pool.initial { airports } env threads : Pool app α).Reachable p) {m : Nat}
    (le : m ≤ p.world.commits.length) : Seated (p.world.state m) := by
  have good := (Pool.initial_good _ env threads).reachable h
  have ran := ran_of_sound good.sound
  have start : p.world.timeline.state 0 = { airports } := by
    refine (World.state_zero p.world).trans ?_
    rw [h.initial_eq]
    rfl
  have free := ran.unfolds.free_seats fun k s found => by
    rw [start] at found
    cases found
  have seated : Seated (p.world.timeline.state m) := by
    induction m with
    | zero =>
        rw [start]
        constructor
        · intro k s found
          cases found
        · exact fun q mem => absurd mem (Table.not_mem_empty q)
        · exact fun b mem => absurd mem (Table.not_mem_empty b)
        · exact fun b mem => absurd mem (Table.not_mem_empty b)
    | succ m ih =>
        obtain ⟨i, x, now, r, c', committed, done⟩ := ran m le
        exact committed.seated good.sound.framed (ran.mono (by omega)) done
          (fun j le' => free j (by omega)) (ih (by omega))
  exact seated

end FlightBooking
