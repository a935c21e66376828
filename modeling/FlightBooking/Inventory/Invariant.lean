import FlightBooking.Bookings.Outcomes

/-!
The inventory invariant, and how each kind of change keeps it.

The truth about a seat is spread over three tables: its own status and owner,
the owner's status, and the passenger's display copy. `Inventory` ties them
together: an owned seat and its booking agree, and a live booking's passengers
sit on its seats, one each. The lemmas below take the rows a change writes and
what they were, not the transaction that wrote them.
-/

namespace FlightBooking

open Relational

/-- HELD or CONFIRMED: the booking owns seats. -/
def BookingStatus.Live (s : BookingStatus) : Prop := s = .held ∨ s = .confirmed

/-- The status of the seats of a live booking. -/
def seatStatusOf : BookingStatus → FlightSeatStatus
  | .held => .held
  | .confirmed => .booked
  | .cancelled | .expired => .available

theorem seatStatusOf_ne {s : BookingStatus} (live : s.Live) : seatStatusOf s ≠ .available := by
  rcases live with rfl | rfl <;> decide

/-- Passenger `p` of booking `b` sits on seat `s`, of the fare class they paid for. -/
structure SitsOn (b : BookingRow) (p : PassengerRow) (s : FlightSeat) : Prop where
  owned : s.bookingId = some b.id
  seat : p.seat = some s.position
  fareClass : p.fareClass = some s.fareClass

/-- The three tables agree. -/
structure Inventory (db : Db) : Prop where
  free : ∀ s ∈ db.seats, s.bookingId = none → s.status = .available
  owned : ∀ s ∈ db.seats, ∀ id, s.bookingId = some id → ∃ b ∈ db.bookings, b.id = id ∧
    b.flightId = s.flightId ∧ b.status.Live ∧ s.status = seatStatusOf b.status
  travels : ∀ p ∈ db.passengers, ∃ b ∈ db.bookings, b.id = p.bookingId
  seated : ∀ b ∈ db.bookings, b.status.Live → ∀ p ∈ db.passengers, p.bookingId = b.id →
    ∃ s ∈ db.seats, SitsOn b p s
  apart : ∀ b ∈ db.bookings, b.status.Live → ∀ p ∈ db.passengers, ∀ q ∈ db.passengers,
    p.bookingId = b.id → q.bookingId = b.id → p.seat = q.seat → p = q
  occupied : ∀ s ∈ db.seats, ∀ id, s.bookingId = some id →
    ∃ p ∈ db.passengers, p.bookingId = id ∧ p.seat = some s.position

/-- Airports, aircraft, flights and fares aside, nothing yet. -/
theorem inventory_empty (db : Db) (seats : db.seats = ∅) (bookings : db.bookings = ∅)
    (passengers : db.passengers = ∅) : Inventory db := by
  refine ⟨?_, ?_, ?_, ?_, ?_, ?_⟩ <;> simp [seats, bookings, passengers]

namespace Inventory

variable {db : Db} {w : Changes}

/-- A seat and the booking that owns it. -/
theorem owner (inv : Inventory db) {s : FlightSeat} {b : BookingRow} (memS : s ∈ db.seats)
    (memB : b ∈ db.bookings) (owns : s.bookingId = some b.id) :
    b.flightId = s.flightId ∧ b.status.Live ∧ s.status = seatStatusOf b.status := by
  obtain ⟨b', memB', same, rest⟩ := inv.owned s memS _ owns
  rwa [Table.eq_of_key memB' memB same] at rest

theorem not_available (inv : Inventory db) {s : FlightSeat} (mem : s ∈ db.seats) {id : Uuid}
    (owns : s.bookingId = some id) : s.status ≠ .available := by
  obtain ⟨b, -, -, -, live, status⟩ := inv.owned s mem id owns
  exact status ▸ seatStatusOf_ne live

/-- Seats are laid out for a new flight. -/
theorem layOut (inv : Inventory db) (bookings : w.bookings = []) (passengers : w.passengers = [])
    (distinct : (w.seats.map key).Nodup) (fresh : ∀ s ∈ w.seats, db.seats.find? (key s) = none)
    (available : ∀ s ∈ w.seats, s.status = .available)
    (unowned : ∀ s ∈ w.seats, s.bookingId = none) : Inventory (w.apply db) := by
  have mem : ∀ s, s ∈ (w.apply db).seats ↔ s ∈ w.seats ∨ s ∈ db.seats := by
    intro s
    rw [Changes.apply_seats, Table.mem_putAll distinct]
    refine or_congr Iff.rfl ⟨And.left, fun old => ⟨old, fun new => ?_⟩⟩
    obtain ⟨u, memU, same⟩ := List.mem_map.mp new
    exact Table.find?_eq_none.mp (fresh u memU) s old same.symm
  have sameBookings : (w.apply db).bookings = db.bookings := by
    rw [Changes.apply_bookings, bookings, Table.putAll_nil]
  have samePassengers : (w.apply db).passengers = db.passengers := by
    rw [Changes.apply_passengers, passengers, Table.putAll_nil]
  exact {
    free := fun s memS owns => by
      rcases (mem s).mp memS with new | old
      · exact available s new
      · exact inv.free s old owns
    owned := fun s memS id owns => by
      rw [sameBookings]
      rcases (mem s).mp memS with new | old
      · rw [unowned s new] at owns
        cases owns
      · exact inv.owned s old id owns
    travels := by
      rw [sameBookings, samePassengers]
      exact inv.travels
    seated := by
      rw [sameBookings, samePassengers]
      intro b memB live p memP here
      obtain ⟨s, memS, sits⟩ := inv.seated b memB live p memP here
      exact ⟨s, (mem s).mpr (.inr memS), sits⟩
    apart := by
      rw [sameBookings, samePassengers]
      exact inv.apart
    occupied := fun s memS id owns => by
      rw [samePassengers]
      rcases (mem s).mp memS with new | old
      · rw [unowned s new] at owns
        cases owns
      · exact inv.occupied s old id owns }

/-- Bookings end, and every seat they own is released. -/
theorem close (inv : Inventory db) {due : List BookingRow} {seats : List FlightSeat}
    {ending : BookingStatus} (ends : ¬ ending.Live) (distinct : (due.map key).Nodup)
    (present : ∀ b ∈ due, b ∈ db.bookings) (distinct' : (seats.map key).Nodup)
    (all : ∀ s, s ∈ seats ↔ s ∈ db.seats ∧ ∃ b ∈ due, s.bookingId = some b.id)
    (bookings : w.bookings = due.map fun b => { b with status := ending })
    (released : w.seats = seats.map releaseSeat) (passengers : w.passengers = []) :
    Inventory (w.apply db) := by
  have memB : ∀ b, b ∈ (w.apply db).bookings ↔
      (∃ d ∈ due, { d with status := ending } = b) ∨ b ∈ db.bookings ∧ b ∉ due := by
    intro b
    rw [Changes.apply_bookings, bookings]
    exact Table.mem_putAll_map (f := fun b : BookingRow => { b with status := ending }) distinct
      present fun _ => rfl
  have memS : ∀ s, s ∈ (w.apply db).seats ↔
      (∃ u ∈ seats, releaseSeat u = s) ∨ s ∈ db.seats ∧ s ∉ seats := by
    intro s
    rw [Changes.apply_seats, released]
    exact Table.mem_putAll_map distinct' (fun v mem => ((all v).mp mem).1) key_releaseSeat
  have samePassengers : (w.apply db).passengers = db.passengers := by
    rw [Changes.apply_passengers, passengers, Table.putAll_nil]
  -- A booking that stays live did not end.
  have stays : ∀ b ∈ (w.apply db).bookings, b.status.Live → b ∈ db.bookings ∧ b ∉ due := by
    intro b mem live
    rcases (memB b).mp mem with ⟨d, -, rfl⟩ | old
    · exact (ends live).elim
    · exact old
  exact {
    free := fun s mem owns => by
      rcases (memS s).mp mem with ⟨u, -, rfl⟩ | ⟨old, -⟩
      · rfl
      · exact inv.free s old owns
    owned := fun s mem id owns => by
      rcases (memS s).mp mem with ⟨u, -, rfl⟩ | ⟨old, kept⟩
      · cases owns
      · obtain ⟨b, memOld, rfl, rest⟩ := inv.owned s old id owns
        have notDue : b ∉ due := fun isDue => kept ((all s).mpr ⟨old, b, isDue, owns⟩)
        exact ⟨b, (memB b).mpr (.inr ⟨memOld, notDue⟩), rfl, rest⟩
    travels := fun p mem => by
      rw [samePassengers] at mem
      obtain ⟨b, memOld, same⟩ := inv.travels p mem
      by_cases isDue : b ∈ due
      · exact ⟨_, (memB _).mpr (.inl ⟨b, isDue, rfl⟩), same⟩
      · exact ⟨b, (memB b).mpr (.inr ⟨memOld, isDue⟩), same⟩
    seated := fun b mem live p memP here => by
      rw [samePassengers] at memP
      obtain ⟨old, notDue⟩ := stays b mem live
      obtain ⟨s, memOld, sits⟩ := inv.seated b old live p memP here
      refine ⟨s, (memS s).mpr (.inr ⟨memOld, fun inSeats => ?_⟩), sits⟩
      obtain ⟨-, d, isDue, owns⟩ := (all s).mp inSeats
      have same : d.id = b.id := Option.some.inj (owns.symm.trans sits.owned)
      exact notDue (Table.eq_of_key (present d isDue) old same ▸ isDue)
    apart := fun b mem live => by
      rw [samePassengers]
      exact inv.apart b (stays b mem live).1 live
    occupied := fun s mem id owns => by
      rw [samePassengers]
      rcases (memS s).mp mem with ⟨u, -, rfl⟩ | ⟨old, -⟩
      · cases owns
      · exact inv.occupied s old id owns }

/-- A held booking is confirmed, and every seat it owns is booked. -/
theorem confirm (inv : Inventory db) {booking : BookingRow} {seats : List FlightSeat}
    (present : booking ∈ db.bookings) (held : booking.status = .held)
    (distinct : (seats.map key).Nodup)
    (all : ∀ s, s ∈ seats ↔ s ∈ db.seats ∧ s.bookingId = some booking.id)
    (bookings : w.bookings = [{ booking with status := .confirmed }])
    (booked : w.seats = seats.map bookSeat) (passengers : w.passengers = []) :
    Inventory (w.apply db) := by
  set confirmed : BookingRow := { booking with status := .confirmed }
  have memB : ∀ b, b ∈ (w.apply db).bookings ↔ b = confirmed ∨ b ∈ db.bookings ∧ b ≠ booking := by
    intro b
    rw [Changes.apply_bookings, bookings, Table.putAll_cons, Table.putAll_nil, Table.mem_put]
    refine or_congr Iff.rfl (and_congr_right fun old => not_congr ⟨fun same => ?_, fun same => ?_⟩)
    · exact Table.eq_of_key old present same
    · exact same ▸ rfl
  have memS : ∀ s, s ∈ (w.apply db).seats ↔
      (∃ u ∈ seats, bookSeat u = s) ∨ s ∈ db.seats ∧ s ∉ seats := by
    intro s
    rw [Changes.apply_seats, booked]
    exact Table.mem_putAll_map distinct (fun v mem => ((all v).mp mem).1) key_bookSeat
  have samePassengers : (w.apply db).passengers = db.passengers := by
    rw [Changes.apply_passengers, passengers, Table.putAll_nil]
  -- Each booking and each seat afterwards comes from one with the same identity and owner.
  have wasB : ∀ b ∈ (w.apply db).bookings, b.status.Live →
      ∃ o ∈ db.bookings, o.id = b.id ∧ o.status.Live := by
    intro b mem live
    rcases (memB b).mp mem with rfl | ⟨old, -⟩
    · exact ⟨booking, present, rfl, .inl held⟩
    · exact ⟨b, old, rfl, live⟩
  have wasS : ∀ s ∈ (w.apply db).seats, ∃ o ∈ db.seats, o.position = s.position ∧
      o.bookingId = s.bookingId := by
    intro s mem
    rcases (memS s).mp mem with ⟨u, memU, rfl⟩ | ⟨old, -⟩
    · exact ⟨u, ((all u).mp memU).1, rfl, rfl⟩
    · exact ⟨s, old, rfl, rfl⟩
  exact {
    free := fun s mem owns => by
      rcases (memS s).mp mem with ⟨u, memU, rfl⟩ | ⟨old, -⟩
      · cases owns.symm.trans ((all u).mp memU).2
      · exact inv.free s old owns
    owned := fun s mem id owns => by
      rcases (memS s).mp mem with ⟨u, memU, rfl⟩ | ⟨old, kept⟩
      · obtain ⟨memOld, owner⟩ := (all u).mp memU
        have same : id = booking.id := Option.some.inj (owns.symm.trans owner)
        exact ⟨confirmed, (memB _).mpr (.inl rfl), same.symm, (inv.owner memOld present owner).1,
          .inr rfl, rfl⟩
      · obtain ⟨b, memOld, rfl, rest⟩ := inv.owned s old id owns
        refine ⟨b, (memB b).mpr (.inr ⟨memOld, fun same => kept ((all s).mpr ⟨old, ?_⟩)⟩), rfl, rest⟩
        rw [owns, same]
    travels := fun p mem => by
      rw [samePassengers] at mem
      obtain ⟨b, memOld, same⟩ := inv.travels p mem
      by_cases this : b = booking
      · exact ⟨confirmed, (memB _).mpr (.inl rfl), (congrArg BookingRow.id this).symm.trans same⟩
      · exact ⟨b, (memB b).mpr (.inr ⟨memOld, this⟩), same⟩
    seated := fun b mem live p memP here => by
      rw [samePassengers] at memP
      obtain ⟨o, memOld, same, live'⟩ := wasB b mem live
      obtain ⟨s, memS', sits⟩ := inv.seated o memOld live' p memP (here.trans same.symm)
      by_cases inSeats : s ∈ seats
      · exact ⟨bookSeat s, (memS _).mpr (.inl ⟨s, inSeats, rfl⟩), same ▸ sits.owned, sits.seat,
          sits.fareClass⟩
      · exact ⟨s, (memS s).mpr (.inr ⟨memS', inSeats⟩), same ▸ sits.owned, sits.seat,
          sits.fareClass⟩
    apart := fun b mem live => by
      rw [samePassengers]
      obtain ⟨o, memOld, same, live'⟩ := wasB b mem live
      exact same ▸ inv.apart o memOld live'
    occupied := fun s mem id owns => by
      rw [samePassengers]
      obtain ⟨o, memOld, position, owner⟩ := wasS s mem
      exact position ▸ inv.occupied o memOld id (owner.trans owns) }

/-- A new booking takes free seats of its flight, one for each passenger. -/
theorem create (inv : Inventory db) {booking : BookingRow} {rows : List PassengerRow}
    {free : List FlightSeat} (fresh : db.bookings.find? booking.id = none)
    (held : booking.status = .held) (distinct : (rows.map key).Nodup)
    (fresh' : ∀ p ∈ rows, db.passengers.find? (key p) = none)
    (own : ∀ p ∈ rows, p.bookingId = booking.id) (distinct' : (free.map key).Nodup)
    (present : ∀ s ∈ free, s ∈ db.seats) (flight : ∀ s ∈ free, s.flightId = booking.flightId)
    (available : ∀ s ∈ free, s.status = .available)
    (seated : (rows.map fun p => (p.seat, p.fareClass)).Perm
      (free.map fun s => (some s.position, some s.fareClass)))
    (bookings : w.bookings = [booking]) (taken : w.seats = free.map (holdSeat booking.id))
    (passengers : w.passengers = rows) : Inventory (w.apply db) := by
  have memB : ∀ b, b ∈ (w.apply db).bookings ↔ b = booking ∨ b ∈ db.bookings := by
    intro b
    rw [Changes.apply_bookings, bookings, Table.putAll_cons, Table.putAll_nil, Table.mem_put]
    exact or_congr Iff.rfl ⟨And.left, fun old => ⟨old, Table.find?_eq_none.mp fresh b old⟩⟩
  have memP : ∀ p, p ∈ (w.apply db).passengers ↔ p ∈ rows ∨ p ∈ db.passengers := by
    intro p
    rw [Changes.apply_passengers, passengers, Table.mem_putAll distinct]
    refine or_congr Iff.rfl ⟨And.left, fun old => ⟨old, fun new => ?_⟩⟩
    obtain ⟨q, memQ, same⟩ := List.mem_map.mp new
    exact Table.find?_eq_none.mp (fresh' q memQ) p old same.symm
  have memS : ∀ s, s ∈ (w.apply db).seats ↔
      (∃ u ∈ free, holdSeat booking.id u = s) ∨ s ∈ db.seats ∧ s ∉ free := by
    intro s
    rw [Changes.apply_seats, taken]
    exact Table.mem_putAll_map distinct' present (key_holdSeat booking.id)
  -- The new booking's id is nobody's yet.
  have ne : ∀ b ∈ db.bookings, b.id ≠ booking.id := Table.find?_eq_none.mp fresh
  have nobody : ∀ p ∈ db.passengers, p.bookingId ≠ booking.id := fun p mem same => by
    obtain ⟨b, memB, here⟩ := inv.travels p mem
    exact ne b memB (here.trans same)
  have seatOf : ∀ p ∈ rows, ∃ s ∈ free, p.seat = some s.position ∧ p.fareClass = some s.fareClass := by
    intro p mem
    have pair := seated.subset (List.mem_map_of_mem mem)
    obtain ⟨s, memS, same⟩ := List.mem_map.mp pair
    exact ⟨s, memS, (congrArg Prod.fst same).symm, (congrArg Prod.snd same).symm⟩
  have passengerOf : ∀ s ∈ free, ∃ p ∈ rows, p.seat = some s.position := by
    intro s mem
    have pair := seated.symm.subset (List.mem_map_of_mem mem)
    obtain ⟨p, memP, same⟩ := List.mem_map.mp pair
    exact ⟨p, memP, congrArg Prod.fst same⟩
  have apartNew : (rows.map (·.seat)).Nodup := by
    have positions : (free.map fun s => some s.position).Nodup := by
      refine List.Nodup.map_on (fun a memA b memB same => ?_) (List.Nodup.of_map _ distinct')
      refine List.inj_on_of_nodup_map distinct' memA memB (Prod.ext ?_ (Option.some.inj same))
      exact (flight a memA).trans (flight b memB).symm
    have perm := seated.map Prod.fst
    rw [List.map_map, List.map_map] at perm
    exact perm.nodup_iff.mpr positions
  have freeSeat : ∀ s ∈ free, s.bookingId = none := fun s mem => by
    cases owns : s.bookingId with
    | none => rfl
    | some id => exact absurd (available s mem) (inv.not_available (present s mem) owns)
  exact {
    free := fun s mem owns => by
      rcases (memS s).mp mem with ⟨u, -, rfl⟩ | ⟨old, -⟩
      · cases owns
      · exact inv.free s old owns
    owned := fun s mem id owns => by
      rcases (memS s).mp mem with ⟨u, memU, rfl⟩ | ⟨old, -⟩
      · cases owns
        exact ⟨booking, (memB _).mpr (.inl rfl), rfl, (flight u memU).symm, .inl held,
          by rw [held]; rfl⟩
      · obtain ⟨b, memOld, rest⟩ := inv.owned s old id owns
        exact ⟨b, (memB b).mpr (.inr memOld), rest⟩
    travels := fun p mem => by
      rcases (memP p).mp mem with new | old
      · exact ⟨booking, (memB _).mpr (.inl rfl), (own p new).symm⟩
      · obtain ⟨b, memOld, same⟩ := inv.travels p old
        exact ⟨b, (memB b).mpr (.inr memOld), same⟩
    seated := fun b mem live p memRow here => by
      rcases (memB b).mp mem with rfl | oldB
      · have new : p ∈ rows := ((memP p).mp memRow).resolve_right fun old => nobody p old here
        obtain ⟨s, memFree, seat, fareClass⟩ := seatOf p new
        exact ⟨_, (memS _).mpr (.inl ⟨s, memFree, rfl⟩), rfl, seat, fareClass⟩
      · have old : p ∈ db.passengers := ((memP p).mp memRow).resolve_left fun new =>
          ne b oldB (here.symm.trans (own p new))
        obtain ⟨s, memOld, sits⟩ := inv.seated b oldB live p old here
        refine ⟨s, (memS s).mpr (.inr ⟨memOld, fun isFree => ?_⟩), sits⟩
        cases (freeSeat s isFree).symm.trans sits.owned
    apart := fun b mem live p memRow q memRow' here here' same => by
      rcases (memB b).mp mem with rfl | oldB
      · have new : p ∈ rows := ((memP p).mp memRow).resolve_right fun old => nobody p old here
        have new' : q ∈ rows := ((memP q).mp memRow').resolve_right fun old => nobody q old here'
        exact List.inj_on_of_nodup_map apartNew new new' same
      · have old : p ∈ db.passengers := ((memP p).mp memRow).resolve_left fun new =>
          ne b oldB (here.symm.trans (own p new))
        have old' : q ∈ db.passengers := ((memP q).mp memRow').resolve_left fun new =>
          ne b oldB (here'.symm.trans (own q new))
        exact inv.apart b oldB live p old q old' here here' same
    occupied := fun s mem id owns => by
      rcases (memS s).mp mem with ⟨u, memU, rfl⟩ | ⟨old, -⟩
      · cases owns
        obtain ⟨p, new, seat⟩ := passengerOf u memU
        exact ⟨p, (memP p).mpr (.inl new), own p new, seat⟩
      · obtain ⟨p, memOld, rest⟩ := inv.occupied s old id owns
        exact ⟨p, (memP p).mpr (.inr memOld), rest⟩ }

/-- A passenger of a confirmed booking moves from their seat to a free one. -/
theorem reseat (inv : Inventory db) {booking : BookingRow} {passenger : PassengerRow}
    {own wanted : FlightSeat} (present : booking ∈ db.bookings)
    (confirmed : booking.status = .confirmed) (travels : passenger ∈ db.passengers)
    (here : passenger.bookingId = booking.id) (sits : passenger.seat = some own.position)
    (ownPresent : own ∈ db.seats) (owner : own.bookingId = some booking.id)
    (wantedPresent : wanted ∈ db.seats) (wantedFlight : wanted.flightId = booking.flightId)
    (available : wanted.status = .available) (sameClass : wanted.fareClass = own.fareClass)
    (bookings : w.bookings = [])
    (seats : w.seats = [releaseSeat own, takeSeat booking.id wanted])
    (passengers : w.passengers = [{ passenger with seat := some wanted.position }]) :
    Inventory (w.apply db) := by
  set moved : PassengerRow := { passenger with seat := some wanted.position }
  have ownFlight : booking.flightId = own.flightId := (inv.owner ownPresent present owner).1
  have freeWanted : wanted.bookingId = none := by
    cases owns : wanted.bookingId with
    | none => rfl
    | some id => exact absurd available (inv.not_available wantedPresent owns)
  have apart : wanted ≠ own := fun same => by
    rw [same, owner] at freeWanted
    cases freeWanted
  have apartKey : key (releaseSeat own) ≠ key (takeSeat booking.id wanted) := fun same =>
    apart (Table.eq_of_key wantedPresent ownPresent same.symm)
  have sameBookings : (w.apply db).bookings = db.bookings := by
    rw [Changes.apply_bookings, bookings, Table.putAll_nil]
  have memP : ∀ p, p ∈ (w.apply db).passengers ↔ p = moved ∨ p ∈ db.passengers ∧ p ≠ passenger := by
    intro p
    rw [Changes.apply_passengers, passengers, Table.putAll_cons, Table.putAll_nil, Table.mem_put]
    refine or_congr Iff.rfl (and_congr_right fun old => not_congr ⟨fun same => ?_, fun same => ?_⟩)
    · exact Table.eq_of_key old travels same
    · exact same ▸ rfl
  have memS : ∀ s, s ∈ (w.apply db).seats ↔ s = takeSeat booking.id wanted ∨ s = releaseSeat own ∨
      s ∈ db.seats ∧ s ≠ own ∧ s ≠ wanted := by
    intro s
    rw [Changes.apply_seats, seats, Table.putAll_cons, Table.putAll_cons, Table.putAll_nil, Table.mem_put,
      Table.mem_put]
    constructor
    · rintro (rfl | ⟨rfl | ⟨old, notOwn⟩, notWanted⟩)
      · exact .inl rfl
      · exact .inr (.inl rfl)
      · exact .inr (.inr ⟨old, fun same => notOwn (same ▸ rfl), fun same => notWanted (same ▸ rfl)⟩)
    · rintro (rfl | rfl | ⟨old, notOwn, notWanted⟩)
      · exact .inl rfl
      · exact .inr ⟨.inl rfl, apartKey⟩
      · exact .inr ⟨.inr ⟨old, fun same => notOwn (Table.eq_of_key old ownPresent same)⟩,
          fun same => notWanted (Table.eq_of_key old wantedPresent same)⟩
  -- Nobody else of the booking sits on either seat.
  have onlyOwn : ∀ p ∈ db.passengers, p.bookingId = booking.id → p.seat = some own.position →
      p = passenger := fun p mem here' seat =>
    inv.apart booking present (.inr confirmed) p mem passenger travels here' here
      (seat.trans sits.symm)
  have notWanted : ∀ p ∈ db.passengers, p.bookingId = booking.id →
      p.seat ≠ some wanted.position := fun p mem here' seat => by
    obtain ⟨s, memOld, on⟩ := inv.seated booking present (.inr confirmed) p mem here'
    have flight := (inv.owner memOld present on.owned).1
    have same : s = wanted := Table.eq_of_key memOld wantedPresent
      (Prod.ext (flight.symm.trans wantedFlight.symm) (Option.some.inj (on.seat.symm.trans seat)))
    rw [← same, on.owned] at freeWanted
    cases freeWanted
  exact {
    free := fun s mem owns => by
      rcases (memS s).mp mem with rfl | rfl | ⟨old, -⟩
      · cases owns
      · rfl
      · exact inv.free s old owns
    owned := fun s mem id owns => by
      rw [sameBookings]
      rcases (memS s).mp mem with rfl | rfl | ⟨old, -⟩
      · cases owns
        exact ⟨booking, present, rfl, wantedFlight.symm, .inr confirmed, by rw [confirmed]; rfl⟩
      · cases owns
      · exact inv.owned s old id owns
    travels := fun p mem => by
      rw [sameBookings]
      rcases (memP p).mp mem with rfl | ⟨old, -⟩
      · exact inv.travels passenger travels
      · exact inv.travels p old
    seated := fun b mem live p memRow at' => by
      rw [sameBookings] at mem
      rcases (memP p).mp memRow with rfl | ⟨old, ne⟩
      · have same : b = booking := Table.eq_of_key mem present (at'.symm.trans here)
        subst same
        obtain ⟨s, memOld, on⟩ := inv.seated b present live passenger travels here
        have same : s = own := Table.eq_of_key memOld ownPresent (Prod.ext
          ((inv.owner memOld present on.owned).1.symm.trans ownFlight)
          (Option.some.inj (on.seat.symm.trans sits)))
        exact ⟨_, (memS _).mpr (.inl rfl), rfl, rfl, by
          rw [show (takeSeat b.id wanted).fareClass = own.fareClass from sameClass, ← same]
          exact on.fareClass⟩
      · obtain ⟨s, memOld, on⟩ := inv.seated b mem live p old at'
        refine ⟨s, (memS s).mpr (.inr (.inr ⟨memOld, fun same => ?_, fun same => ?_⟩)), on⟩
        · have sameB : b.id = booking.id := Option.some.inj (on.owned.symm.trans (same ▸ owner))
          exact ne (onlyOwn p old (at'.trans sameB) (same ▸ on.seat))
        · rw [← same, on.owned] at freeWanted
          cases freeWanted
    apart := fun b mem live p memRow q memRow' at' at'' same => by
      rw [sameBookings] at mem
      have isBooking : ∀ x : PassengerRow, x = moved → x.bookingId = b.id → b.id = booking.id :=
        fun x eq at' => at'.symm.trans ((congrArg PassengerRow.bookingId eq).trans here)
      rcases (memP p).mp memRow with eq | ⟨old, ne⟩ <;> rcases (memP q).mp memRow' with eq' | ⟨old', ne'⟩
      · exact eq.trans eq'.symm
      · exact absurd (same.symm.trans (congrArg PassengerRow.seat eq))
          (notWanted q old' (at''.trans (isBooking p eq at')))
      · exact absurd (same.trans (congrArg PassengerRow.seat eq'))
          (notWanted p old (at'.trans (isBooking q eq' at'')))
      · exact inv.apart b mem live p old q old' at' at'' same
    occupied := fun s mem id owns => by
      rcases (memS s).mp mem with rfl | rfl | ⟨old, notOwn, -⟩
      · cases owns
        exact ⟨moved, (memP _).mpr (.inl rfl), here, rfl⟩
      · cases owns
      · obtain ⟨p, memOld, at', seat⟩ := inv.occupied s old id owns
        refine ⟨p, (memP p).mpr (.inr ⟨memOld, fun same => notOwn ?_⟩), at', seat⟩
        obtain ⟨b, memB, rfl, flight, -⟩ := inv.owned s old id owns
        have sameB : b = booking := Table.eq_of_key memB present (at'.symm.trans (same ▸ here))
        subst sameB
        exact Table.eq_of_key old ownPresent (Prod.ext (flight.symm.trans ownFlight)
          (Option.some.inj (seat.symm.trans (same ▸ sits)))) }

end Inventory

end FlightBooking
