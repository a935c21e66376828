import FlightBooking.Inventory.Invariant
import FlightBooking.Migrations.SeatBackfill

/-!
The migrations from the legacy store to the service's.

Each step copies data into new rows or refuses, listing what does not reconcile; the
columns it copied from are dropped once it has not refused. A run through all of them
loses no booking and no flight (`migrate_migrated`), and leaves the inventory consistent,
which is where the service's own invariant starts (`Migrated.inventory`).
-/

namespace FlightBooking.Migrations

open Relational

/-! ### The stores between the steps -/

/-- A flight whose `available_seats` is dropped. -/
structure PricedFlight where
  flight : FlightRow
  price : LegacyPrice
  currency : Currency
  deriving DecidableEq, Repr

/-- A booking in its new lifecycle, without a reference yet. -/
structure MovedBooking where
  id : Uuid
  flightId : Uuid
  ownerAccountId : Uuid
  passengerName : String
  createdAt : Instant
  status : BookingStatus
  holdExpiresAt : Option Instant
  deriving DecidableEq, Repr

/-- A booking that still has its passenger's name. -/
structure NamedBooking where
  booking : BookingRow
  passengerName : String
  deriving DecidableEq, Repr

instance : Keyed PricedFlight Uuid := ⟨(·.flight.id)⟩
instance : Keyed MovedBooking Uuid := ⟨(·.id)⟩
instance : Keyed NamedBooking Uuid := ⟨(·.booking.id)⟩

/-- A store whose flights and bookings have the columns of one step. -/
structure Store (F B : Type) [Keyed F Uuid] [Keyed B Uuid] where
  aircraft : Table Aircraft
  flights : Table F
  bookings : Table B
  seats : Table FlightSeat
  passengers : Table PassengerRow := ∅
  fares : Table FlightFare := ∅

/-! ### The steps -/

/-- The active bookings without a seat. -/
def unseatedProblems (db : LegacyDb) : List LegacyBooking :=
  db.bookings.rows.filter fun b =>
    ((db.flights.find? b.flightId).bind fun f => db.aircraft.find? f.flight.aircraftId).isSome &&
      b.status = .active && !db.seats.rows.any fun s => s.bookingId = some b.id

def availableCount (seats : Table FlightSeat) (flightId : Uuid) : Nat :=
  seats.rows.countP fun s => s.flightId = flightId && s.status = .available

/-- The flights whose counter is not the count of their AVAILABLE seats. -/
def counterProblems (db : LegacyDb) : List LegacyFlight :=
  db.flights.rows.filter fun f => f.availableSeats ≠ availableCount db.seats f.flight.id

def dropCounter (f : LegacyFlight) : PricedFlight := ⟨f.flight, f.price, f.currency⟩

def contractFlightSeats (db : LegacyDb) : Option (Store PricedFlight LegacyBooking) :=
  if unseatedProblems db = [] ∧ counterProblems db = [] then
    some { aircraft := db.aircraft, flights := db.flights.map dropCounter fun _ => rfl,
           bookings := db.bookings, seats := db.seats }
  else none

def movedStatus : LegacyBookingStatus → BookingStatus
  | .active => .confirmed
  | .cancelled => .cancelled

def moveBooking (b : LegacyBooking) : MovedBooking where
  id := b.id
  flightId := b.flightId
  ownerAccountId := b.ownerAccountId
  passengerName := b.passengerName
  createdAt := b.createdAt
  status := movedStatus b.status
  holdExpiresAt := none

def moveBookingsToLifecycle (db : Store PricedFlight LegacyBooking) :
    Store PricedFlight MovedBooking :=
  { db with bookings := db.bookings.map moveBooking fun _ => rfl }

/-- `references id` is the reference that is drawn for booking `id`. -/
def addReference (references : Uuid → String) (b : MovedBooking) : NamedBooking where
  booking := ⟨b.id, references b.id, b.flightId, b.ownerAccountId, b.status, b.createdAt,
    b.holdExpiresAt⟩
  passengerName := b.passengerName

def addBookingReference (references : Uuid → String) (db : Store PricedFlight MovedBooking) :
    Store PricedFlight NamedBooking :=
  { db with bookings := db.bookings.map (addReference references) fun _ => rfl }

/-- `bookings LEFT JOIN flight_seats`: a row for each seat of the booking, or one without. -/
def seatsOrNone (seats : Table FlightSeat) (bookingId : Uuid) : List (Option SeatPosition) :=
  match seats.rows.filter fun s => s.bookingId = some bookingId with
  | [] => [none]
  | theirs => theirs.map fun s => some s.position

def firstPassengers (db : Store PricedFlight NamedBooking) : List PassengerRow :=
  db.bookings.rows.flatMap fun b => (seatsOrNone db.seats b.booking.id).map fun seat =>
    ⟨b.booking.id, 1, b.passengerName, seat, none, none⟩

/-- `CHK_booking_passengers_name`: `btrim` leaves something. -/
def passengerNameAllowed (name : String) : Bool := name.toList.any (· ≠ ' ')

def createBookingPassengers (db : Store PricedFlight NamedBooking) :
    Option (Store PricedFlight NamedBooking) :=
  let rows := firstPassengers db
  if distinct : (rows.map key).Nodup then
    if rows.all fun p => passengerNameAllowed p.name then
      some { db with passengers := ⟨rows, distinct⟩ }
    else none
  else none

def bookedCount (seats : Table FlightSeat) (bookingId : Uuid) : Nat :=
  seats.rows.countP fun s => s.status = .booked && s.bookingId = some bookingId

def passengerCount (passengers : Table PassengerRow) (bookingId : Uuid) : Nat :=
  passengers.rows.countP fun p => p.bookingId = bookingId

/-- The passengers of the booking joined with the seats they sit on. -/
def matchingCount (db : Store PricedFlight NamedBooking) (bookingId : Uuid) : Nat :=
  ((db.passengers.rows.filter fun p => p.bookingId = bookingId).flatMap fun p =>
    (db.bookings.find? p.bookingId).toList.flatMap fun pb =>
      db.seats.rows.filter fun s =>
        s.bookingId = some p.bookingId && s.flightId = pb.booking.flightId &&
          p.seat = some s.position && s.status = .booked).length

/-- The CONFIRMED bookings whose passengers and seats do not match. -/
def confirmedProblems (db : Store PricedFlight NamedBooking) : List NamedBooking :=
  db.bookings.rows.filter fun b =>
    (db.flights.find? b.booking.flightId).isSome && b.booking.status = .confirmed &&
      !(bookedCount db.seats b.booking.id = passengerCount db.passengers b.booking.id &&
        passengerCount db.passengers b.booking.id = matchingCount db b.booking.id &&
        0 < passengerCount db.passengers b.booking.id)

/-- The CANCELLED bookings that hold a seat. -/
def cancelledProblems (db : Store PricedFlight NamedBooking) : List NamedBooking :=
  db.bookings.rows.filter fun b =>
    (db.flights.find? b.booking.flightId).isSome && b.booking.status = .cancelled &&
      db.seats.rows.any fun s => s.bookingId = some b.booking.id

def contractBookingPassengers (db : Store PricedFlight NamedBooking) :
    Option (Store PricedFlight BookingRow) :=
  if confirmedProblems db = [] ∧ cancelledProblems db = [] then
    some { db with bookings := db.bookings.map NamedBooking.booking fun _ => rfl }
  else none

theorem LegacyPrice.safe (price : LegacyPrice) : price.amount ≤ maxSafeInteger :=
  Nat.le_trans price.fits (by decide)

/-- A VND price is whole đồng already. -/
def LegacyPrice.money (price : LegacyPrice) : Money := ⟨price.amount, price.safe⟩

def economyFares (db : Store PricedFlight BookingRow) : List FlightFare :=
  (db.flights.rows.filter fun f => f.currency = .vnd &&
      db.seats.rows.any fun s => s.flightId = f.flight.id && s.fareClass = .economy).map fun f =>
    ⟨f.flight.id, .economy, f.price.money⟩

def backfillFlightFares (db : Store PricedFlight BookingRow) : Store PricedFlight BookingRow :=
  { db with fares := db.fares.insertAllNew (economyFares db) }

/-- The seats whose class has no fare. -/
def fareProblems (db : Store PricedFlight BookingRow) : List FlightSeat :=
  db.seats.rows.filter fun s => (db.flights.find? s.flightId).isSome &&
    (db.fares.find? (s.flightId, s.fareClass)).isNone

/-- The fares whose class has no seat. -/
def seatlessFares (db : Store PricedFlight BookingRow) : List FlightFare :=
  db.fares.rows.filter fun r => (db.flights.find? r.flightId).isSome &&
    !db.seats.rows.any fun s => s.flightId = r.flightId && s.fareClass = r.fareClass

def contractFlightFares (db : Store PricedFlight BookingRow) :
    Option (Store FlightRow BookingRow) :=
  if fareProblems db = [] ∧ seatlessFares db = [] then
    some { db with flights := db.flights.map PricedFlight.flight fun _ => rfl }
  else none

/-- The class and the fare of the seat at the passenger's position of the booking's flight. -/
def fareOfSeat (db : Store FlightRow BookingRow) (p : PassengerRow) :
    Option (FareClass × Money) := do
  let b ← db.bookings.find? p.bookingId
  let position ← p.seat
  let s ← db.seats.find? (b.flightId, position)
  let fare ← db.fares.find? (s.flightId, s.fareClass)
  pure (s.fareClass, fare.amount)

def setFare (db : Store FlightRow BookingRow) (p : PassengerRow) : PassengerRow :=
  match fareOfSeat db p with
  | some fare => if p.price = none then { p with fareClass := some fare.1, price := some fare.2 }
      else p
  | none => p

theorem key_setFare (db : Store FlightRow BookingRow) (p : PassengerRow) :
    key (setFare db p) = key p := by
  unfold setFare
  split
  · split <;> rfl
  · rfl

theorem setFare_bookingId (db : Store FlightRow BookingRow) (p : PassengerRow) :
    (setFare db p).bookingId = p.bookingId :=
  congrArg Prod.fst (key_setFare db p)

/-- The passengers whose seat could not be priced. -/
def unpricedPassengers (db : Store FlightRow BookingRow) : List PassengerRow :=
  db.passengers.rows.filter fun p => (db.bookings.find? p.bookingId).isSome &&
    p.seat ≠ none && p.price = none

/-- `CHK_booking_passengers_fare` and `CHK_booking_passengers_price_positive`. -/
def fareAllowed (p : PassengerRow) : Bool :=
  p.seat.isNone = p.fareClass.isNone && p.fareClass.isNone = p.price.isNone &&
    p.price.all (0 < ·.amount)

def addPassengerFareSnapshot (db : Store FlightRow BookingRow) :
    Option (Store FlightRow BookingRow) :=
  let db := { db with passengers := db.passengers.map (setFare db) (key_setFare db) }
  if unpricedPassengers db = [] ∧ db.passengers.rows.all fareAllowed then some db else none

/-- The chain, from the backfill of seats to the passengers' prices. -/
def migrate (references : Uuid → String) (db : LegacyDb) : Option (Store FlightRow BookingRow) := do
  let db ← contractFlightSeats (backfillFlightSeats db)
  let db ← createBookingPassengers (addBookingReference references (moveBookingsToLifecycle db))
  let db ← contractBookingPassengers db
  let db ← contractFlightFares (backfillFlightFares db)
  addPassengerFareSnapshot db

/-! ### What a run through the chain leaves -/

/-- The active booking `b` of the legacy store is confirmed: one passenger, on one seat. -/
structure SeatedOn (m : Store FlightRow BookingRow) (b : LegacyBooking) (p : PassengerRow)
    (s : FlightSeat) (fare : FlightFare) : Prop where
  passenger : ∀ q, q ∈ m.passengers ∧ q.bookingId = b.id ↔ q = p
  name : p.name = b.passengerName
  seat : ∀ t, t ∈ m.seats ∧ t.bookingId = some b.id ↔ t = s
  booked : s.status = .booked
  flight : s.flightId = b.flightId
  priced : fare ∈ m.fares ∧ key fare = (b.flightId, s.fareClass)
  copy : p.seat = some s.position ∧ p.fareClass = some s.fareClass ∧ p.price = some fare.amount

structure Migrated (references : Uuid → String) (db : LegacyDb) (m : Store FlightRow BookingRow) :
    Prop where
  aircraft : m.aircraft = db.aircraft
  flights : m.flights.rows = db.flights.rows.map (·.flight)
  bookings : m.bookings.rows = db.bookings.rows.map fun b =>
    ⟨b.id, references b.id, b.flightId, b.ownerAccountId,
      if b.status = .active then .confirmed else .cancelled, b.createdAt, none⟩
  confirmed : ∀ b ∈ db.bookings, b.status = .active → ∃ p s fare, SeatedOn m b p s fare
  cancelled : ∀ b ∈ db.bookings, b.status = .cancelled → ∀ s ∈ m.seats, s.bookingId ≠ some b.id
  fares : ∀ f ∈ db.flights, ∀ fareClass,
    (∃ fare ∈ m.fares, key fare = (f.flight.id, fareClass)) ↔
      ∃ s ∈ m.seats, s.flightId = f.flight.id ∧ s.fareClass = fareClass
  available : ∀ f ∈ db.flights, availableCount m.seats f.flight.id = f.availableSeats

/-- The store as the service finds it. -/
def Store.toDb (m : Store FlightRow BookingRow) : Db :=
  { aircraft := m.aircraft, flights := m.flights, seats := m.seats, fares := m.fares,
    bookings := m.bookings, passengers := m.passengers }

/-! ### The steps, read back -/

section Steps

theorem of_contractFlightSeats {db : LegacyDb} {a : Store PricedFlight LegacyBooking}
    (h : contractFlightSeats db = some a) :
    (∀ f ∈ db.flights, availableCount db.seats f.flight.id = f.availableSeats) ∧
      a = { aircraft := db.aircraft, flights := db.flights.map dropCounter fun _ => rfl,
            bookings := db.bookings, seats := db.seats } := by
  unfold contractFlightSeats at h
  split at h
  · rename_i problems
    refine ⟨fun f mem => ?_, (Option.some.inj h).symm⟩
    have fine := List.filter_eq_nil_iff.mp problems.2 f mem
    rw [decide_eq_true_eq, not_not] at fine
    exact fine.symm
  · cases h

theorem of_createBookingPassengers {db n : Store PricedFlight NamedBooking}
    (h : createBookingPassengers db = some n) :
    n.passengers.rows = firstPassengers db ∧ n = { db with passengers := n.passengers } := by
  unfold createBookingPassengers at h
  dsimp only at h
  split at h
  · split at h
    · cases h
      exact ⟨rfl, rfl⟩
    · cases h
  · cases h

theorem mem_seatsOrNone (seats : Table FlightSeat) (bookingId : Uuid) :
    ∃ seat, seat ∈ seatsOrNone seats bookingId := by
  unfold seatsOrNone
  cases seats.rows.filter fun s => s.bookingId = some bookingId with
  | nil => exact ⟨none, List.mem_singleton_self _⟩
  | cons s rest => exact ⟨some s.position, List.mem_cons_self⟩

theorem mem_firstPassengers {db : Store PricedFlight NamedBooking} {p : PassengerRow} :
    p ∈ firstPassengers db ↔ ∃ b ∈ db.bookings, ∃ seat ∈ seatsOrNone db.seats b.booking.id,
      p = ⟨b.booking.id, 1, b.passengerName, seat, none, none⟩ := by
  simp only [firstPassengers, List.mem_flatMap, List.mem_map, Table.mem_rows, eq_comm]

/-- A booking's passenger: there is one, and it has the booking's name. -/
theorem onePassenger {n : Store PricedFlight NamedBooking}
    (rows : n.passengers.rows = firstPassengers n) {b : NamedBooking} (mem : b ∈ n.bookings) :
    ∃ p, p.bookingId = b.booking.id ∧ p.name = b.passengerName ∧ p.fareClass = none ∧
      p.price = none ∧ ∀ q, q ∈ n.passengers ∧ q.bookingId = b.booking.id ↔ q = p := by
  obtain ⟨seat, there⟩ := mem_seatsOrNone n.seats b.booking.id
  let first : PassengerRow := ⟨b.booking.id, 1, b.passengerName, seat, none, none⟩
  have present : first ∈ n.passengers := by
    rw [← Table.mem_rows, rows]
    exact mem_firstPassengers.mpr ⟨b, mem, seat, there, rfl⟩
  refine ⟨first, rfl, rfl, rfl, rfl, fun q => ⟨?_, ?_⟩⟩
  · rintro ⟨memQ, same⟩
    rw [← Table.mem_rows, rows] at memQ
    obtain ⟨b', -, seat', -, rfl⟩ := mem_firstPassengers.mp memQ
    refine Table.eq_of_key ?_ present (Prod.ext same rfl)
    rw [← Table.mem_rows, rows]
    exact memQ
  · rintro rfl
    exact ⟨present, rfl⟩

theorem of_contractBookingPassengers {n : Store PricedFlight NamedBooking}
    {c : Store PricedFlight BookingRow} (h : contractBookingPassengers n = some c)
    (booked : ∀ b ∈ n.bookings, ∃ f ∈ n.flights, f.flight.id = b.booking.flightId) :
    (∀ b ∈ n.bookings, b.booking.status = .confirmed → ∃ p ∈ n.passengers, ∃ s ∈ n.seats,
        p.bookingId = b.booking.id ∧ s.bookingId = some b.booking.id ∧
        s.flightId = b.booking.flightId ∧ p.seat = some s.position ∧ s.status = .booked) ∧
      (∀ b ∈ n.bookings, b.booking.status = .cancelled → ∀ s ∈ n.seats,
        s.bookingId ≠ some b.booking.id) ∧
      c = { n with bookings := n.bookings.map NamedBooking.booking fun _ => rfl } := by
  unfold contractBookingPassengers at h
  split at h
  · rename_i problems
    have flies : ∀ b ∈ n.bookings, (n.flights.find? b.booking.flightId).isSome := fun b mem => by
      obtain ⟨f, memF, same⟩ := booked b mem
      exact Option.isSome_iff_exists.mpr ⟨f, Table.find?_eq_some.mpr ⟨memF, same⟩⟩
    refine ⟨fun b mem confirmed => ?_, fun b mem cancelled s memS owned => ?_,
      (Option.some.inj h).symm⟩
    · have fine := List.filter_eq_nil_iff.mp problems.1 b mem
      simp only [flies b mem, confirmed, decide_true, Bool.true_and, Bool.not_eq_true',
        Bool.and_eq_false_iff, decide_eq_false_iff_not, not_or, not_not] at fine
      have some : 0 < matchingCount n b.booking.id := by omega
      obtain ⟨s, mem'⟩ := List.exists_mem_of_length_pos some
      simp only [List.mem_flatMap, List.mem_filter, Option.mem_toList, Table.mem_rows,
        Bool.and_eq_true, decide_eq_true_eq] at mem'
      obtain ⟨p, ⟨memP, here⟩, pb, found, memS, ⟨⟨owned, flight⟩, sits⟩, status⟩ := mem'
      have same : pb = b := Table.eq_of_key (Table.mem_of_find? found) mem
        ((Table.key_of_find? found).trans here)
      rw [same] at flight
      exact ⟨p, memP, s, memS, here, here ▸ owned, flight, sits, status⟩
    · have fine := List.filter_eq_nil_iff.mp problems.2 b mem
      simp only [flies b mem, cancelled, decide_true, Bool.true_and, List.any_eq_true,
        decide_eq_true_eq, not_exists, not_and] at fine
      exact fine s memS owned
  · cases h

theorem of_contractFlightFares {c : Store PricedFlight BookingRow}
    {d : Store FlightRow BookingRow} (h : contractFlightFares c = some d) :
    (∀ f ∈ c.flights, ∀ fareClass, (∃ fare ∈ c.fares, key fare = (f.flight.id, fareClass)) ↔
        ∃ s ∈ c.seats, s.flightId = f.flight.id ∧ s.fareClass = fareClass) ∧
      d = { c with flights := c.flights.map PricedFlight.flight fun _ => rfl } := by
  unfold contractFlightFares at h
  split at h
  · rename_i problems
    refine ⟨fun f mem fareClass => ⟨?_, ?_⟩, (Option.some.inj h).symm⟩
    · rintro ⟨fare, memFare, same⟩
      obtain ⟨flight, class'⟩ := Prod.mk.inj same
      have fine := List.filter_eq_nil_iff.mp problems.2 fare memFare
      have here : c.flights.find? fare.flightId = some f := Table.find?_eq_some.mpr ⟨mem, flight.symm⟩
      simp only [here, Option.isSome_some, Bool.true_and, Bool.not_eq_true', Bool.not_eq_false,
        List.any_eq_true, Bool.and_eq_true, decide_eq_true_eq] at fine
      obtain ⟨s, memS, flight', class''⟩ := fine
      exact ⟨s, memS, flight'.trans flight, class''.trans class'⟩
    · rintro ⟨s, memS, flight, rfl⟩
      have fine := List.filter_eq_nil_iff.mp problems.1 s memS
      have here : c.flights.find? s.flightId = some f := Table.find?_eq_some.mpr ⟨mem, flight.symm⟩
      simp only [here, Option.isSome_some, Bool.true_and, Bool.not_eq_true, Option.isNone_eq_false_iff]
        at fine
      obtain ⟨fare, found⟩ := Option.isSome_iff_exists.mp fine
      exact ⟨fare, Table.mem_of_find? found, (Table.key_of_find? found).trans (by rw [flight])⟩
  · cases h

theorem of_addPassengerFareSnapshot {d m : Store FlightRow BookingRow}
    (h : addPassengerFareSnapshot d = some m) :
    m = { d with passengers := d.passengers.map (setFare d) (key_setFare d) } := by
  unfold addPassengerFareSnapshot at h
  dsimp only at h
  split at h
  · exact (Option.some.inj h).symm
  · cases h

end Steps

section Chain

variable {references : Uuid → String} {db : LegacyDb} {m : Store FlightRow BookingRow}

/-- The passenger of a confirmed booking is priced by the seat they sit on. -/
theorem setFare_eq {d : Store FlightRow BookingRow} {p : PassengerRow} {s : FlightSeat}
    {b : BookingRow} {fare : FlightFare} (unpriced : p.price = none) (memB : b ∈ d.bookings)
    (here : b.id = p.bookingId) (memS : s ∈ d.seats) (flight : s.flightId = b.flightId)
    (sits : p.seat = some s.position) (memF : fare ∈ d.fares)
    (same : key fare = (s.flightId, s.fareClass)) :
    setFare d p = { p with fareClass := some s.fareClass, price := some fare.amount } := by
  have booking : d.bookings.find? p.bookingId = some b := Table.find?_eq_some.mpr ⟨memB, here⟩
  have seat : d.seats.find? (b.flightId, s.position) = some s :=
    Table.find?_eq_some.mpr ⟨memS, Prod.ext flight rfl⟩
  have priced : d.fares.find? (s.flightId, s.fareClass) = some fare :=
    Table.find?_eq_some.mpr ⟨memF, same⟩
  have found : fareOfSeat d p = some (s.fareClass, fare.amount) := by
    simp [fareOfSeat, booking, sits, seat, priced]
  rw [setFare, found]
  exact if_pos unpriced

/-- The store `n` has a passenger for each booking, and the counters were right. -/
structure Named (references : Uuid → String) (db : LegacyDb) (n : Store PricedFlight NamedBooking) :
    Prop where
  aircraft : n.aircraft = db.aircraft
  flights : n.flights.rows = db.flights.rows.map dropCounter
  bookings : n.bookings.rows = db.bookings.rows.map fun b => addReference references (moveBooking b)
  seats : n.seats = (backfillFlightSeats db).seats
  passengers : n.passengers.rows = firstPassengers n
  counted : ∀ f ∈ db.flights, availableCount n.seats f.flight.id = f.availableSeats

theorem named_of_created {a : Store PricedFlight LegacyBooking}
    {n : Store PricedFlight NamedBooking}
    (contracted : contractFlightSeats (backfillFlightSeats db) = some a)
    (created : createBookingPassengers
      (addBookingReference references (moveBookingsToLifecycle a)) = some n) :
    Named references db n := by
  obtain ⟨counted, rfl⟩ := of_contractFlightSeats contracted
  obtain ⟨rows, isN⟩ := of_createBookingPassengers created
  have seats : n.seats = (backfillFlightSeats db).seats := congrArg Store.seats isN
  constructor
  · exact congrArg Store.aircraft isN
  · rw [congrArg Store.flights isN]
    rfl
  · rw [congrArg Store.bookings isN]
    exact List.map_map
  · exact seats
  · have bookings := congrArg Store.bookings isN
    dsimp only at bookings
    rw [rows, firstPassengers, firstPassengers, bookings, seats]
    rfl
  · rw [seats]
    exact counted

section Named

variable {n : Store PricedFlight NamedBooking} (named : Named references db n)

include named

theorem Named.mem_bookings {x : NamedBooking} :
    x ∈ n.bookings ↔ ∃ b ∈ db.bookings, addReference references (moveBooking b) = x := by
  rw [← Table.mem_rows, named.bookings, List.mem_map]
  rfl

theorem Named.mem_flights {x : PricedFlight} :
    x ∈ n.flights ↔ ∃ f ∈ db.flights, dropCounter f = x := by
  rw [← Table.mem_rows, named.flights, List.mem_map]
  rfl

theorem Named.booked (valid : db.Valid) :
    ∀ x ∈ n.bookings, ∃ f ∈ n.flights, f.flight.id = x.booking.flightId := by
  intro x mem
  obtain ⟨b, memB, rfl⟩ := named.mem_bookings.mp mem
  obtain ⟨f, memF, same⟩ := valid.booked b memB
  exact ⟨dropCounter f, named.mem_flights.mpr ⟨f, memF, rfl⟩, same⟩

end Named

/-- A run that refuses nothing loses nothing, and leaves passengers, seats and fares that
agree. -/
theorem migrated_of_migrate (valid : db.Valid) (h : migrate references db = some m) :
    Migrated references db m := by
  simp only [migrate, Option.bind_eq_bind, Option.bind_eq_some_iff] at h
  obtain ⟨a, contracted, n, created, c, reconciled, d, fared, priced⟩ := h
  have named := named_of_created contracted created
  have constraints := named.seats ▸ backfill_constraints valid.seats
  obtain ⟨confirmed, cancelled, rfl⟩ := of_contractBookingPassengers reconciled (named.booked valid)
  obtain ⟨fares, isD⟩ := of_contractFlightFares fared
  obtain rfl := of_addPassengerFareSnapshot priced
  have seats : d.seats = n.seats := congrArg Store.seats isD
  have passengers : d.passengers = n.passengers := congrArg Store.passengers isD
  have prices : d.fares = _ := congrArg Store.fares isD
  rw [← prices] at fares
  constructor
  · exact (congrArg Store.aircraft isD).trans named.aircraft
  · change d.flights.rows = _
    rw [isD]
    change n.flights.rows.map PricedFlight.flight = _
    rw [named.flights]
    exact List.map_map
  · change d.bookings.rows = _
    rw [isD]
    change n.bookings.rows.map NamedBooking.booking = _
    rw [named.bookings, List.map_map]
    refine List.map_congr_left fun b _ => ?_
    cases status : b.status <;> simp [addReference, moveBooking, movedStatus, status]
  · intro b mem active
    have memN := named.mem_bookings.mpr ⟨b, mem, rfl⟩
    have status : (addReference references (moveBooking b)).booking.status = .confirmed := by
      simp [addReference, moveBooking, movedStatus, active]
    obtain ⟨p, memP, s, memS, here, owned, flight, sits, booked⟩ := confirmed _ memN status
    obtain ⟨p', -, name, -, unpriced, only⟩ := onePassenger named.passengers memN
    obtain rfl := (only p).mp ⟨memP, here⟩
    obtain ⟨f, memF, same⟩ := valid.booked b mem
    obtain ⟨fare, memFare, keyFare⟩ := (fares _ (named.mem_flights.mpr ⟨f, memF, rfl⟩)
      s.fareClass).mpr ⟨s, memS, flight.trans same.symm, rfl⟩
    have memD : (addReference references (moveBooking b)).booking ∈ d.bookings := by
      rw [isD]
      exact (Table.mem_map (f := NamedBooking.booking) fun _ => rfl).mpr ⟨_, memN, rfl⟩
    have priced := setFare_eq unpriced memD here.symm (seats ▸ memS) flight sits memFare
      (keyFare.trans (Prod.ext (same.trans flight.symm) rfl))
    refine ⟨setFare d p, s, fare, ?_⟩
    rw [priced]
    constructor
    · intro q
      rw [passengers]
      constructor
      · rintro ⟨memQ, sameB⟩
        obtain ⟨q', memQ', rfl⟩ := (Table.mem_map (key_setFare _)).mp memQ
        have here' : q'.bookingId = b.id := (setFare_bookingId _ q').symm.trans sameB
        obtain rfl := (only q').mp ⟨memQ', here'⟩
        exact priced
      · rintro rfl
        exact ⟨(Table.mem_map (key_setFare _)).mpr ⟨p, memP, priced⟩, here⟩
    · exact name
    · intro t
      constructor
      · rintro ⟨memT, owned'⟩
        exact constraints.once t (seats ▸ memT) s memS b.id owned' owned
      · rintro rfl
        exact ⟨seats ▸ memS, owned⟩
    · exact booked
    · exact flight
    · exact ⟨memFare, keyFare.trans (Prod.ext same rfl)⟩
    · exact ⟨sits, rfl, rfl⟩
  · intro b mem isCancelled s memS
    refine cancelled _ (named.mem_bookings.mpr ⟨b, mem, rfl⟩) ?_ s (seats ▸ memS)
    simp [addReference, moveBooking, movedStatus, isCancelled]
  · intro f mem fareClass
    change (∃ fare ∈ d.fares, _) ↔ ∃ s ∈ d.seats, _
    rw [seats]
    exact fares _ (named.mem_flights.mpr ⟨f, mem, rfl⟩) fareClass
  · change ∀ f ∈ db.flights, availableCount d.seats _ = _
    rw [seats]
    exact named.counted

/-- The later steps leave the seats alone, and every passenger is some booking's. -/
theorem kept_of_migrate (valid : db.Valid) (h : migrate references db = some m) :
    m.seats = (backfillFlightSeats db).seats ∧
      ∀ p ∈ m.passengers, ∃ b ∈ m.bookings, b.id = p.bookingId := by
  simp only [migrate, Option.bind_eq_bind, Option.bind_eq_some_iff] at h
  obtain ⟨a, contracted, n, created, c, reconciled, d, fared, priced⟩ := h
  have named := named_of_created contracted created
  obtain ⟨-, -, rfl⟩ := of_contractBookingPassengers reconciled (named.booked valid)
  obtain ⟨-, rfl⟩ := of_contractFlightFares fared
  obtain rfl := of_addPassengerFareSnapshot priced
  refine ⟨named.seats, fun p mem => ?_⟩
  obtain ⟨q, memQ, rfl⟩ := (Table.mem_map (key_setFare _)).mp mem
  have listed : q ∈ n.passengers.rows := memQ
  rw [named.passengers] at listed
  obtain ⟨b, memB, seat, -, rfl⟩ := mem_firstPassengers.mp listed
  refine ⟨b.booking, (Table.mem_map (f := NamedBooking.booking) fun _ => rfl).mpr ⟨b, memB, rfl⟩, ?_⟩
  rw [setFare_bookingId]

theorem Migrated.inventory (migrated : Migrated references db m)
    (constraints : SeatConstraints m.seats)
    (owned : ∀ s ∈ m.seats, ∀ id, s.bookingId = some id → ∃ b ∈ db.bookings, b.id = id)
    (travels : ∀ p ∈ m.passengers, ∃ b ∈ m.bookings, b.id = p.bookingId) : Inventory m.toDb := by
  have row : ∀ x ∈ m.bookings, ∃ b ∈ db.bookings, x.id = b.id ∧ x.flightId = b.flightId ∧
      x.status = if b.status = .active then .confirmed else .cancelled := by
    intro x mem
    rw [← Table.mem_rows, migrated.bookings] at mem
    obtain ⟨b, memB, rfl⟩ := List.mem_map.mp mem
    exact ⟨b, memB, rfl, rfl, rfl⟩
  have row' : ∀ b ∈ db.bookings, b.status = .active → ∃ x ∈ m.bookings, x.id = b.id ∧
      x.flightId = b.flightId ∧ x.status = .confirmed := by
    intro b mem active
    refine ⟨_, (migrated.bookings ▸ List.mem_map_of_mem mem : _ ∈ m.bookings.rows), rfl, rfl, ?_⟩
    exact if_pos active
  -- Only an active booking owns a seat.
  have active : ∀ s ∈ m.seats, ∀ b ∈ db.bookings, s.bookingId = some b.id → b.status = .active := by
    intro s memS b memB owns
    cases status : b.status with
    | active => rfl
    | cancelled => exact absurd owns (migrated.cancelled b memB status s memS)
  have live : ∀ x ∈ m.bookings, x.status.Live → ∃ b ∈ db.bookings, x.id = b.id ∧
      x.flightId = b.flightId ∧ b.status = .active ∧ x.status = .confirmed := by
    intro x mem isLive
    obtain ⟨b, memB, id, flight, status⟩ := row x mem
    cases isActive : b.status with
    | active => exact ⟨b, memB, id, flight, isActive, by rw [status, if_pos isActive]⟩
    | cancelled =>
        rw [isActive] at status
        rcases isLive with held | confirmed
        · exact absurd (held.symm.trans status) (by decide)
        · exact absurd (confirmed.symm.trans status) (by decide)
  constructor
  · exact fun s mem => (constraints.booking s mem).mpr
  · intro s mem id owns
    obtain ⟨b, memB, rfl⟩ := owned s mem id owns
    have isActive := active s mem b memB owns
    obtain ⟨x, memX, same, flight, status⟩ := row' b memB isActive
    obtain ⟨p, t, fare, on⟩ := migrated.confirmed b memB isActive
    obtain rfl := (on.seat s).mp ⟨mem, owns⟩
    refine ⟨x, memX, same, flight.trans on.flight.symm, .inr status, ?_⟩
    rw [status]
    exact on.booked
  · exact travels
  · intro x mem isLive p memP here
    obtain ⟨b, memB, id, flight, isActive, status⟩ := live x mem isLive
    obtain ⟨p', s, fare, on⟩ := migrated.confirmed b memB isActive
    obtain rfl := (on.passenger p).mp ⟨memP, here.trans id⟩
    obtain ⟨memS, owns⟩ := (on.seat s).mpr rfl
    exact ⟨s, memS, owns.trans (congrArg some id.symm), on.copy.1, on.copy.2.1⟩
  · intro x mem isLive p memP q memQ here here' _
    obtain ⟨b, memB, id, flight, isActive, status⟩ := live x mem isLive
    obtain ⟨p', s, fare, on⟩ := migrated.confirmed b memB isActive
    exact ((on.passenger p).mp ⟨memP, here.trans id⟩).trans
      ((on.passenger q).mp ⟨memQ, here'.trans id⟩).symm
  · intro s mem id owns
    obtain ⟨b, memB, rfl⟩ := owned s mem id owns
    obtain ⟨p, t, fare, on⟩ := migrated.confirmed b memB (active s mem b memB owns)
    obtain rfl := (on.seat s).mp ⟨mem, owns⟩
    obtain ⟨memP, here⟩ := (on.passenger p).mpr rfl
    exact ⟨p, memP, here, on.copy.1⟩

/-- A legacy store that the chain takes without refusing comes out as a consistent one. -/
theorem migrate_consistent (valid : db.Valid) (h : migrate references db = some m) :
    Migrated references db m ∧ Inventory m.toDb := by
  have migrated := migrated_of_migrate valid h
  obtain ⟨seats, travels⟩ := kept_of_migrate valid h
  refine ⟨migrated, migrated.inventory ?_ ?_ travels⟩
  · rw [seats]
    exact backfill_constraints valid.seats
  · rw [seats]
    exact backfill_owned valid

end Chain

def sampleReferences : Uuid → String
  | 31 => "HAN234"
  | 32 => "HAN567"
  | 33 => "SGN234"
  | _ => "SGN567"

theorem migrate_consistent_legacySample : ∃ m, migrate sampleReferences legacySample = some m ∧
    Migrated sampleReferences legacySample m ∧ Inventory m.toDb ∧
    m.passengers.rows.map (fun p => (p.bookingId, p.name, p.seat)) =
      [(33, "LE THI BINH", some ⟨12, 'B'⟩), (32, "TRAN VAN CUONG", some ⟨11, 'A'⟩),
        (31, "LE THI BINH", some ⟨12, 'A'⟩), (34, "TRAN VAN CUONG", none)] := by
  have runs : (migrate sampleReferences legacySample).map (fun m =>
      m.passengers.rows.map fun p => (p.bookingId, p.name, p.seat)) =
      some [(33, "LE THI BINH", some ⟨12, 'B'⟩), (32, "TRAN VAN CUONG", some ⟨11, 'A'⟩),
        (31, "LE THI BINH", some ⟨12, 'A'⟩), (34, "TRAN VAN CUONG", none)] := by
    decide +kernel
  obtain ⟨m, ran, passengers⟩ := Option.map_eq_some_iff.mp runs
  obtain ⟨migrated, inventory⟩ := migrate_consistent legacySample_valid ran
  exact ⟨m, ran, migrated, inventory, passengers⟩

end FlightBooking.Migrations
