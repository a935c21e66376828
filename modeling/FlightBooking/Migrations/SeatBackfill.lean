import FlightBooking.Bookings.HoldSeats
import FlightBooking.Flights.Effects
import FlightBooking.Library.Window

/-!
The legacy store, and the backfill of its seats.

Before a flight had an inventory it counted its free seats and had one price, and a
booking was a name, active or cancelled. The backfill lays out the seats of every flight
and numbers, per flight, the active bookings without a seat and the free seats: booking n
gets seat n (`backfillFlightSeats_backfilled`). What it gives is never given twice, and a
second run finds nothing left to pair.
-/

namespace FlightBooking.Migrations

open Relational

/-! ### The legacy store -/

inductive Currency where
  | vnd
  | usd
  deriving DecidableEq, Repr

/-- `price_in_cents`: an `integer`, positive (`CHK_flights_price_positive`). -/
structure LegacyPrice where
  amount : Nat
  positive : 0 < amount
  fits : amount ≤ 2147483647
  deriving DecidableEq, Repr

/-- A flight with the columns that are dropped later. -/
structure LegacyFlight where
  flight : FlightRow
  price : LegacyPrice
  currency : Currency
  availableSeats : Nat
  deriving DecidableEq, Repr

inductive LegacyBookingStatus where
  | active
  | cancelled
  deriving DecidableEq, Repr

structure LegacyBooking where
  id : Uuid
  flightId : Uuid
  ownerAccountId : Uuid
  passengerName : String
  createdAt : Instant
  status : LegacyBookingStatus
  deriving DecidableEq, Repr

instance : Keyed LegacyFlight Uuid := ⟨(·.flight.id)⟩
instance : Keyed LegacyBooking Uuid := ⟨(·.id)⟩

structure LegacyDb where
  aircraft : Table Aircraft := ∅
  flights : Table LegacyFlight := ∅
  bookings : Table LegacyBooking := ∅
  seats : Table FlightSeat := ∅

/-- The constraints `flight_seats` is created with. -/
structure SeatConstraints (seats : Table FlightSeat) : Prop where
  /-- `CHK_flight_seats_status` -/
  status : ∀ s ∈ seats, s.status ≠ .held
  /-- `CHK_flight_seats_booking` -/
  booking : ∀ s ∈ seats, s.status = .available ↔ s.bookingId = none
  /-- `UQ_flight_seats_booking_id` -/
  once : ∀ s ∈ seats, ∀ s' ∈ seats, ∀ id, s.bookingId = some id → s'.bookingId = some id → s = s'

/-- What Postgres promises of the legacy store. -/
structure LegacyDb.Valid (db : LegacyDb) : Prop where
  seats : SeatConstraints db.seats
  /-- `FK_flights_aircraft_id` -/
  flown : ∀ f ∈ db.flights, ∃ a ∈ db.aircraft, a.id = f.flight.aircraftId
  /-- `FK_bookings_flight_id` -/
  booked : ∀ b ∈ db.bookings, ∃ f ∈ db.flights, f.flight.id = b.flightId
  /-- `FK_flight_seats_flight_id` -/
  laid : ∀ s ∈ db.seats, ∃ f ∈ db.flights, f.flight.id = s.flightId
  /-- `FK_flight_seats_booking_id` -/
  owned : ∀ s ∈ db.seats, ∀ id, s.bookingId = some id → ∃ b ∈ db.bookings, b.id = id

/-! ### The backfill -/

/-- `flights JOIN seats`, as rows to insert. -/
def templateSeats (db : LegacyDb) : List FlightSeat :=
  db.flights.rows.flatMap fun f =>
    copiedSeats f.flight.id ((db.aircraft.find? f.flight.aircraftId).toList.flatMap (·.seats))

def layOutSeats (db : LegacyDb) : LegacyDb :=
  { db with seats := db.seats.insertAllNew (templateSeats db) }

/-- `ORDER BY created_at, id`. -/
def LegacyBooking.older (a b : LegacyBooking) : Prop :=
  a.createdAt < b.createdAt ∨ (a.createdAt = b.createdAt ∧ a.id ≤ b.id)

instance : DecidableRel LegacyBooking.older := fun _ _ => inferInstanceAs (Decidable (_ ∨ _))

/-- The CTE `unseated`. -/
def unseated (db : LegacyDb) : List LegacyBooking :=
  db.bookings.rows.filter fun b =>
    b.status = .active && !db.seats.rows.any fun s => s.bookingId = some b.id

/-- The CTE `free`. -/
def free (db : LegacyDb) : List FlightSeat := db.seats.rows.filter (·.status = .available)

/-- `unseated JOIN free` on the flight and the number. -/
def seatPairs (db : LegacyDb) : List (LegacyBooking × FlightSeat) :=
  Window.paired LegacyBooking.flightId LegacyBooking.older FlightSeat.flightId FlightSeat.before
    (unseated db) (free db)

def giveSeat (b : LegacyBooking) (s : FlightSeat) : FlightSeat :=
  { s with status := .booked, bookingId := some b.id }

/-- The UPDATE, on one row: it is set from the pair that names it, if one does. -/
def setSeat (pairs : List (LegacyBooking × FlightSeat)) (s : FlightSeat) : FlightSeat :=
  match pairs.find? fun p => key p.2 = key s with
  | some p => giveSeat p.1 s
  | none => s

theorem key_setSeat (pairs : List (LegacyBooking × FlightSeat)) (s : FlightSeat) :
    key (setSeat pairs s) = key s := by
  unfold setSeat
  split <;> rfl

def seatBookings (db : LegacyDb) : LegacyDb :=
  { db with seats := db.seats.map (setSeat (seatPairs db)) (key_setSeat _) }

def backfillFlightSeats (db : LegacyDb) : LegacyDb := seatBookings (layOutSeats db)

/-! ### What it should do -/

/-- An active booking without a seat. -/
def Unseated (db : LegacyDb) (b : LegacyBooking) : Prop :=
  b ∈ db.bookings ∧ b.status = .active ∧ ∀ s ∈ db.seats, s.bookingId ≠ some b.id

/-- A seat of a flight's aircraft, as a seat of the flight. -/
def OfAircraft (db : LegacyDb) (s : FlightSeat) : Prop :=
  ∃ f ∈ db.flights, ∃ a ∈ db.aircraft, a.id = f.flight.aircraftId ∧ ∃ l ∈ a.seats,
    s = ⟨f.flight.id, l.position, l.fareClass, .available, none⟩

/-- A seat the flight has after the layout: its own, or its aircraft's at a free position. -/
def LaidOut (db : LegacyDb) (s : FlightSeat) : Prop :=
  s ∈ db.seats ∨ (OfAircraft db s ∧ db.seats.find? (key s) = none)

/-- `bookings` are the unseated bookings of a flight, the oldest first. -/
structure Oldest (db : LegacyDb) (flightId : Uuid) (bookings : List LegacyBooking) : Prop where
  mem : ∀ b, b ∈ bookings ↔ Unseated db b ∧ b.flightId = flightId
  sorted : bookings.Pairwise fun a b =>
    a.createdAt < b.createdAt ∨ (a.createdAt = b.createdAt ∧ a.id < b.id)

/-- `seats` are the free seats of a flight, the front-most first. -/
structure FrontMost (db : LegacyDb) (flightId : Uuid) (seats : List FlightSeat) : Prop where
  mem : ∀ s, s ∈ seats ↔ (LaidOut db s ∧ s.status = .available) ∧ s.flightId = flightId
  sorted : seats.Pairwise fun a b => a.position.row < b.position.row ∨
    (a.position.row = b.position.row ∧ a.position.letter < b.position.letter)

def HasSeat (db : LegacyDb) (b : LegacyBooking) : Prop := ∃ s ∈ db.seats, s.bookingId = some b.id

instance (db : LegacyDb) : DecidablePred (HasSeat db) :=
  fun _ => inferInstanceAs (Decidable (∃ _ ∈ _, _))

/-- The store `after` is `db` with its flights laid out and its oldest bookings seated in
front. -/
structure Backfilled (db after : LegacyDb) : Prop where
  aircraft : after.aircraft = db.aircraft
  flights : after.flights = db.flights
  bookings : after.bookings = db.bookings
  /-- One seat per seat of the aircraft. -/
  template : ∀ t, OfAircraft db t → ∃ s ∈ after.seats, key s = key t ∧
    ∀ s' ∈ after.seats, key s' = key t → s' = s
  /-- A seat that was there stays as it was, unless it was free and is given away now. -/
  kept : ∀ s ∈ db.seats, s ∈ after.seats ∨ (s.status = .available ∧
    ∃ b, Unseated db b ∧ b.flightId = s.flightId ∧ giveSeat b s ∈ after.seats)
  /-- No other seat appears. -/
  only : ∀ s ∈ after.seats, LaidOut db s ∨ ∃ b t, Unseated db b ∧ b.flightId = t.flightId ∧
    LaidOut db t ∧ t.status = .available ∧ s = giveSeat b t
  /-- Every flight's bookings and seats can be listed so. -/
  listed : ∀ flightId, ∃ bookings seats, Oldest db flightId bookings ∧ FrontMost db flightId seats
  /-- The i-th oldest booking gets the i-th seat. -/
  paired : ∀ flightId bookings seats, Oldest db flightId bookings → FrontMost db flightId seats →
    ∀ (i : Nat) b s, bookings[i]? = some b → seats[i]? = some s → giveSeat b s ∈ after.seats
  /-- As many as there are seats for get one. -/
  count : ∀ flightId bookings seats, Oldest db flightId bookings → FrontMost db flightId seats →
    (bookings.filter (HasSeat after ·)).length = min bookings.length seats.length
  /-- No booking has two seats. -/
  once : ∀ s ∈ after.seats, ∀ s' ∈ after.seats, ∀ id, s.bookingId = some id →
    s'.bookingId = some id → s = s'
  /-- Nothing is done to a booking that is cancelled or has a seat. -/
  others : ∀ b ∈ db.bookings, ¬ Unseated db b → ∀ s, s.bookingId = some b.id →
    (s ∈ after.seats ↔ s ∈ db.seats)
  again : backfillFlightSeats after = after

/-! ### The layout -/

section Layout

variable {db : LegacyDb} {s : FlightSeat}

theorem mem_templateSeats : s ∈ templateSeats db ↔ OfAircraft db s := by
  simp only [templateSeats, copiedSeats, List.mem_flatMap, List.mem_map, Option.mem_toList,
    Table.find?_eq_some, OfAircraft, Table.mem_rows]
  constructor
  · rintro ⟨f, memF, l, ⟨a, ⟨memA, same⟩, memL⟩, rfl⟩
    exact ⟨f, memF, a, memA, same, l, memL, rfl⟩
  · rintro ⟨f, memF, a, memA, same, l, memL, rfl⟩
    exact ⟨f, memF, l, ⟨a, ⟨memA, same⟩, memL⟩, rfl⟩

/-- Two seats of aircraft at one position of a flight are one. -/
theorem OfAircraft.eq_of_key {t : FlightSeat} (h : OfAircraft db s) (h' : OfAircraft db t)
    (same : key s = key t) : s = t := by
  obtain ⟨f, memF, a, memA, flies, l, memL, rfl⟩ := h
  obtain ⟨f', memF', a', memA', flies', l', memL', rfl⟩ := h'
  obtain rfl := Table.eq_of_key memF memF' (congrArg Prod.fst same)
  obtain rfl := Table.eq_of_key memA memA' (flies.trans flies'.symm)
  obtain rfl := List.inj_on_of_nodup_map a.distinct memL memL' (congrArg Prod.snd same)
  rfl

theorem mem_layOutSeats : s ∈ (layOutSeats db).seats ↔ LaidOut db s := by
  unfold LaidOut
  rw [← mem_templateSeats]
  have found := Table.find?_insertAllNew db.seats (templateSeats db) (key s)
  constructor
  · intro mem
    have here := (Table.find?_of_mem mem).symm.trans found
    cases old : db.seats.find? (key s) with
    | some u =>
        rw [old, Option.some_or] at here
        cases here
        exact .inl (Table.mem_of_find? old)
    | none =>
        rw [old, Option.none_or] at here
        exact .inr ⟨List.mem_of_find?_eq_some here.symm, rfl⟩
  · rintro (old | ⟨new, fresh⟩)
    · rw [Table.find?_of_mem old, Option.some_or] at found
      exact Table.mem_of_find? found
    · rw [fresh, Option.none_or] at found
      have there : ((templateSeats db).find? fun v => key v = key s).isSome := by
        rw [List.find?_isSome]
        exact ⟨s, new, decide_eq_true rfl⟩
      obtain ⟨u, first⟩ := Option.isSome_iff_exists.mp there
      have keys : key u = key s := by simpa using List.find?_some first
      have same : u = s := (mem_templateSeats.mp (List.mem_of_find?_eq_some first)).eq_of_key
        (mem_templateSeats.mp new) keys
      rw [first, same] at found
      exact Table.mem_of_find? found

/-- The layout gives no booking a seat. -/
theorem LaidOut.owned (h : LaidOut db s) {id : Uuid} (owned : s.bookingId = some id) :
    s ∈ db.seats := by
  rcases h with old | ⟨⟨f, -, a, -, -, l, -, rfl⟩, -⟩
  · exact old
  · cases owned

theorem LaidOut.eq_of_key {t : FlightSeat} (h : LaidOut db s) (h' : LaidOut db t)
    (same : key s = key t) : s = t :=
  Table.eq_of_key (mem_layOutSeats.mpr h) (mem_layOutSeats.mpr h') same

/-- Every seat of an aircraft is laid out on its flights. -/
theorem laidOut_ofAircraft (h : OfAircraft db s) : ∃ t, LaidOut db t ∧ key t = key s := by
  cases old : db.seats.find? (key s) with
  | none => exact ⟨s, .inr ⟨h, old⟩, rfl⟩
  | some t => exact ⟨t, .inl (Table.mem_of_find? old), Table.key_of_find? old⟩

theorem laid_constraints (valid : SeatConstraints db.seats) :
    SeatConstraints (layOutSeats db).seats where
  status s mem := by
    rcases mem_layOutSeats.mp mem with old | ⟨⟨f, -, a, -, -, l, -, rfl⟩, -⟩
    · exact valid.status s old
    · exact fun held => FlightSeatStatus.noConfusion held
  booking s mem := by
    rcases mem_layOutSeats.mp mem with old | ⟨⟨f, -, a, -, -, l, -, rfl⟩, -⟩
    · exact valid.booking s old
    · exact ⟨fun _ => rfl, fun _ => rfl⟩
  once s mem s' mem' id owned owned' :=
    valid.once s ((mem_layOutSeats.mp mem).owned owned) s' ((mem_layOutSeats.mp mem').owned owned') id
      owned owned'

/-- The layout leaves the same bookings unseated. -/
theorem mem_unseated {b : LegacyBooking} : b ∈ unseated db ↔ Unseated db b := by
  simp [unseated, Unseated, Table.mem_rows, List.mem_filter]

theorem unseated_layOutSeats {b : LegacyBooking} :
    Unseated (layOutSeats db) b ↔ Unseated db b := by
  unfold Unseated
  refine and_congr_right fun _ => and_congr_right fun _ => ?_
  constructor
  · intro without s mem
    exact without s (mem_layOutSeats.mpr (.inl mem))
  · intro without s mem owned
    exact without s ((mem_layOutSeats.mp mem).owned owned) owned

theorem mem_free : s ∈ free db ↔ s ∈ db.seats ∧ s.status = .available := by
  simp [free, Table.mem_rows, List.mem_filter]

end Layout

/-! ### The orders -/

instance : Std.Total LegacyBooking.older where
  total a b := by
    unfold LegacyBooking.older Uuid Instant
    omega

instance : IsTrans LegacyBooking LegacyBooking.older where
  trans a b c h h' := by
    unfold LegacyBooking.older Uuid Instant at *
    omega

/-! ### The pairs -/

section Pairs

variable {db : LegacyDb} {b c : LegacyBooking} {s t : FlightSeat}

theorem nodup_unseated (db : LegacyDb) : (unseated db).Nodup :=
  (List.Nodup.of_map _ db.bookings.nodup).filter _

theorem nodup_free (db : LegacyDb) : (free db).Nodup :=
  (List.Nodup.of_map _ db.seats.nodup).filter _

theorem of_mem_seatPairs (h : (b, s) ∈ seatPairs db) :
    Unseated db b ∧ s ∈ db.seats ∧ s.status = .available ∧ b.flightId = s.flightId := by
  obtain ⟨k, i, first, second⟩ := (Window.mem_paired (nodup_unseated db) (nodup_free db)).mp h
  obtain ⟨mem, rfl⟩ := Window.mem_partition.mp (List.mem_of_getElem? first)
  obtain ⟨mem', same⟩ := Window.mem_partition.mp (List.mem_of_getElem? second)
  obtain ⟨present, available⟩ := mem_free.mp mem'
  exact ⟨mem_unseated.mp mem, present, available, same.symm⟩

/-- No booking gets two seats. -/
theorem seatPairs_seat (h : (b, s) ∈ seatPairs db) (h' : (b, t) ∈ seatPairs db) : s = t :=
  Window.paired_right (nodup_unseated db) (nodup_free db) h h'

/-- No seat goes to two bookings. -/
theorem seatPairs_booking (h : (b, s) ∈ seatPairs db) (h' : (c, s) ∈ seatPairs db) : b = c :=
  Window.paired_left (nodup_unseated db) (nodup_free db) h h'

theorem setSeat_paired (h : (b, s) ∈ seatPairs db) : setSeat (seatPairs db) s = giveSeat b s := by
  unfold setSeat
  cases found : (seatPairs db).find? fun p => key p.2 = key s with
  | none =>
      have none := List.find?_eq_none.mp found _ h
      simp at none
  | some p =>
      have mem : (p.1, p.2) ∈ seatPairs db := List.mem_of_find?_eq_some found
      have keys : key p.2 = key s := by simpa using List.find?_some found
      have same : p.2 = s :=
        Table.eq_of_key (of_mem_seatPairs mem).2.1 (of_mem_seatPairs h).2.1 keys
      rw [same] at mem
      dsimp only
      rw [seatPairs_booking mem h]

theorem setSeat_alone (mem : s ∈ db.seats) (alone : ∀ b, (b, s) ∉ seatPairs db) :
    setSeat (seatPairs db) s = s := by
  unfold setSeat
  cases found : (seatPairs db).find? fun p => key p.2 = key s with
  | none => rfl
  | some p =>
      have mem' : (p.1, p.2) ∈ seatPairs db := List.mem_of_find?_eq_some found
      have keys : key p.2 = key s := by simpa using List.find?_some found
      have same : p.2 = s := Table.eq_of_key (of_mem_seatPairs mem').2.1 mem keys
      exact absurd (same ▸ mem') (alone p.1)

theorem mem_seatBookings : s ∈ (seatBookings db).seats ↔
    (∃ b t, (b, t) ∈ seatPairs db ∧ s = giveSeat b t) ∨
      (s ∈ db.seats ∧ ∀ b, (b, s) ∉ seatPairs db) := by
  have mem : s ∈ (seatBookings db).seats ↔ ∃ t ∈ db.seats, setSeat (seatPairs db) t = s :=
    Table.mem_map (key_setSeat _)
  rw [mem]
  constructor
  · rintro ⟨t, present, rfl⟩
    by_cases paired : ∃ b, (b, t) ∈ seatPairs db
    · obtain ⟨b, pair⟩ := paired
      exact .inl ⟨b, t, pair, setSeat_paired pair⟩
    · rw [not_exists] at paired
      rw [setSeat_alone present paired]
      exact .inr ⟨present, paired⟩
  · rintro (⟨b, t, pair, rfl⟩ | ⟨present, alone⟩)
    · exact ⟨t, (of_mem_seatPairs pair).2.1, setSeat_paired pair⟩
    · exact ⟨s, present, setSeat_alone present alone⟩

end Pairs

/-! ### The backfilled store -/

section Backfill

variable {db : LegacyDb} {b c : LegacyBooking} {s t : FlightSeat} {flightId : Uuid}
  {bookings : List LegacyBooking} {seats : List FlightSeat} {i : Nat}

/-- Who is given what: an unseated booking, a seat that is free once laid out. -/
theorem of_pair (h : (b, s) ∈ seatPairs (layOutSeats db)) :
    Unseated db b ∧ LaidOut db s ∧ s.status = .available ∧ b.flightId = s.flightId := by
  obtain ⟨unseated, present, available, flight⟩ := of_mem_seatPairs h
  exact ⟨unseated_layOutSeats.mp unseated, mem_layOutSeats.mp present, available, flight⟩

theorem mem_backfill : s ∈ (backfillFlightSeats db).seats ↔
    (∃ b t, (b, t) ∈ seatPairs (layOutSeats db) ∧ s = giveSeat b t) ∨
      (LaidOut db s ∧ ∀ b, (b, s) ∉ seatPairs (layOutSeats db)) := by
  rw [backfillFlightSeats, mem_seatBookings, mem_layOutSeats]

/-- A seat that is laid out is there afterwards, maybe given away. -/
theorem laidOut_backfill (h : LaidOut db s) : (s ∈ (backfillFlightSeats db).seats ∧
      ∀ b, (b, s) ∉ seatPairs (layOutSeats db)) ∨
    ∃ b, (b, s) ∈ seatPairs (layOutSeats db) ∧ giveSeat b s ∈ (backfillFlightSeats db).seats := by
  by_cases paired : ∃ b, (b, s) ∈ seatPairs (layOutSeats db)
  · obtain ⟨b, pair⟩ := paired
    exact .inr ⟨b, pair, mem_backfill.mpr (.inl ⟨b, s, pair, rfl⟩)⟩
  · rw [not_exists] at paired
    exact .inl ⟨mem_backfill.mpr (.inr ⟨h, paired⟩), paired⟩

/-- An unseated booking has a seat afterwards if it was paired. -/
theorem hasSeat_backfill (h : Unseated db b) :
    HasSeat (backfillFlightSeats db) b ↔ ∃ s, (b, s) ∈ seatPairs (layOutSeats db) := by
  constructor
  · rintro ⟨s, mem, owned⟩
    rcases mem_backfill.mp mem with ⟨c, t, pair, rfl⟩ | ⟨laid, -⟩
    · have same : c = b :=
        Table.eq_of_key (of_pair pair).1.1 h.1 (Option.some.inj owned)
      exact ⟨t, same ▸ pair⟩
    · exact absurd owned (h.2.2 s (laid.owned owned))
  · rintro ⟨s, pair⟩
    exact ⟨giveSeat b s, mem_backfill.mpr (.inl ⟨b, s, pair, rfl⟩), rfl⟩

theorem Oldest.partition (h : Oldest db flightId bookings) :
    Window.partition LegacyBooking.flightId LegacyBooking.older (unseated (layOutSeats db)) flightId =
      bookings := by
  refine Window.partition_eq (nodup_unseated _) (fun b => ?_) (h.sorted.imp fun {a b} older => ?_)
  · rw [h.mem, mem_unseated, unseated_layOutSeats]
  · unfold LegacyBooking.older Uuid Instant at *
    omega

theorem oldest_partition (db : LegacyDb) (flightId : Uuid) : Oldest db flightId
    (Window.partition LegacyBooking.flightId LegacyBooking.older (unseated (layOutSeats db))
      flightId) where
  mem b := by rw [Window.mem_partition, mem_unseated, unseated_layOutSeats]
  sorted := by
    refine ((Window.pairwise_partition _ _).and (Window.nodup_partition (nodup_unseated _) _)).imp_of_mem
      fun {a b} memA memB h => ?_
    have present := (mem_unseated.mp (Window.mem_partition.mp memA).1).1
    have present' := (mem_unseated.mp (Window.mem_partition.mp memB).1).1
    have other : a.id ≠ b.id := fun same => h.2 (Table.eq_of_key present present' same)
    have older := h.1
    unfold LegacyBooking.older Uuid Instant at *
    omega

theorem frontMost_partition (db : LegacyDb) (flightId : Uuid) : FrontMost db flightId
    (Window.partition FlightSeat.flightId FlightSeat.before (free (layOutSeats db)) flightId) where
  mem s := by rw [Window.mem_partition, mem_free, mem_layOutSeats]
  sorted := by
    refine ((Window.pairwise_partition _ _).and (Window.nodup_partition (nodup_free _) _)).imp_of_mem
      fun {a b} memA memB h => ?_
    obtain ⟨inA, flightA⟩ := Window.mem_partition.mp memA
    obtain ⟨inB, flightB⟩ := Window.mem_partition.mp memB
    have other : a.position ≠ b.position := fun same =>
      h.2 (Table.eq_of_key (mem_free.mp inA).1 (mem_free.mp inB).1
        (Prod.ext (flightA.trans flightB.symm) same))
    have before := h.1
    simp only [FlightSeat.before, SeatPosition.le, Bool.or_eq_true, Bool.and_eq_true,
      decide_eq_true_eq] at before
    rcases before with row | ⟨row, letter⟩
    · exact .inl row
    · refine .inr ⟨row, Char.not_le.mp fun back => other ?_⟩
      have letters : a.position.letter = b.position.letter := Char.le_antisymm letter back
      calc a.position = ⟨a.position.row, a.position.letter⟩ := rfl
        _ = ⟨b.position.row, b.position.letter⟩ := by rw [row, letters]

theorem FrontMost.partition (h : FrontMost db flightId seats) :
    Window.partition FlightSeat.flightId FlightSeat.before (free (layOutSeats db)) flightId =
      seats := by
  refine Window.partition_eq (nodup_free _) (fun s => ?_) (h.sorted.imp fun {a b} front => ?_)
  · rw [h.mem, mem_free, mem_layOutSeats]
  · simp only [FlightSeat.before, SeatPosition.le, Bool.or_eq_true, Bool.and_eq_true,
      decide_eq_true_eq]
    have letters : a.position.letter < b.position.letter →
        a.position.letter ≤ b.position.letter ∧ ¬ b.position.letter ≤ a.position.letter :=
      fun less => ⟨Char.not_lt.mp (Char.lt_asymm less), Char.not_le.mpr less⟩
    grind

/-- The oldest bookings are paired, as many as there are seats. -/
theorem Oldest.paired_iff (h : Oldest db flightId bookings) (h' : FrontMost db flightId seats)
    (place : bookings[i]? = some b) :
    (∃ s, (b, s) ∈ seatPairs (layOutSeats db)) ↔ i < seats.length := by
  rw [← h.partition] at place
  rw [← h'.partition]
  exact Window.paired_left_iff (nodup_unseated _) (nodup_free _) place

theorem Oldest.pair (h : Oldest db flightId bookings) (h' : FrontMost db flightId seats)
    (place : bookings[i]? = some b) (place' : seats[i]? = some s) :
    (b, s) ∈ seatPairs (layOutSeats db) := by
  rw [← h.partition] at place
  rw [← h'.partition] at place'
  exact Window.paired_of_places (nodup_unseated _) (nodup_free _) place place'

/-- Those who get a seat are the first ones. -/
theorem Oldest.seated (h : Oldest db flightId bookings) (h' : FrontMost db flightId seats) :
    bookings.filter (HasSeat (backfillFlightSeats db) ·) = bookings.take seats.length := by
  refine Window.filter_eq_take fun i b place => ?_
  have unseated : Unseated db b := ((h.mem b).mp (List.mem_of_getElem? place)).1
  rw [decide_eq_true_eq, hasSeat_backfill unseated, h.paired_iff h' place]

/-- The constraints hold afterwards. -/
theorem backfill_constraints (valid : SeatConstraints db.seats) :
    SeatConstraints (backfillFlightSeats db).seats where
  status s mem := by
    rcases mem_backfill.mp mem with ⟨b, t, -, rfl⟩ | ⟨laid, -⟩
    · exact fun held => FlightSeatStatus.noConfusion held
    · exact (laid_constraints valid).status s (mem_layOutSeats.mpr laid)
  booking s mem := by
    rcases mem_backfill.mp mem with ⟨b, t, -, rfl⟩ | ⟨laid, -⟩
    · constructor
      · intro available
        cases available
      · intro unowned
        cases unowned
    · exact (laid_constraints valid).booking s (mem_layOutSeats.mpr laid)
  once s mem s' mem' id owned owned' := by
    rcases mem_backfill.mp mem with ⟨b, t, pair, rfl⟩ | ⟨laid, -⟩
    · rcases mem_backfill.mp mem' with ⟨c, u, pair', rfl⟩ | ⟨laid', -⟩
      · have same : b = c := Table.eq_of_key (of_pair pair).1.1 (of_pair pair').1.1
          ((Option.some.inj owned).trans (Option.some.inj owned').symm)
        subst same
        rw [seatPairs_seat pair pair']
      · exact absurd (owned'.trans owned.symm) ((of_pair pair).1.2.2 s' (laid'.owned owned'))
    · rcases mem_backfill.mp mem' with ⟨c, u, pair', rfl⟩ | ⟨laid', -⟩
      · exact absurd (owned.trans owned'.symm) ((of_pair pair').1.2.2 s (laid.owned owned))
      · exact valid.once s (laid.owned owned) s' (laid'.owned owned') id owned owned'

/-- A seat that is given is given to a booking that there is. -/
theorem backfill_owned (valid : db.Valid) : ∀ s ∈ (backfillFlightSeats db).seats, ∀ id,
    s.bookingId = some id → ∃ b ∈ db.bookings, b.id = id := by
  intro s mem id owned
  rcases mem_backfill.mp mem with ⟨b, t, pair, rfl⟩ | ⟨laid, -⟩
  · exact ⟨b, (of_pair pair).1.1, Option.some.inj owned⟩
  · exact valid.owned s (laid.owned owned) id owned

/-- Nothing is left to pair: on a flight with a free seat every active booking has one. -/
theorem seatPairs_backfill (valid : SeatConstraints db.seats) :
    seatPairs (backfillFlightSeats db) = [] := by
  refine List.eq_nil_iff_forall_not_mem.mpr fun ⟨b, s⟩ pair => ?_
  obtain ⟨⟨memB, active, without⟩, memS, available, flight⟩ := of_mem_seatPairs pair
  rcases mem_backfill.mp memS with ⟨c, t, -, rfl⟩ | ⟨laid, alone⟩
  · cases available
  · -- Neither was paired, so both were left over, on one flight.
    have unpaired : ∀ t, (b, t) ∉ seatPairs (layOutSeats db) := fun t pair =>
      without (giveSeat b t) (mem_backfill.mpr (.inl ⟨b, t, pair, rfl⟩)) rfl
    have unseated : Unseated db b := by
      refine ⟨memB, active, fun s old owned => ?_⟩
      have before : LaidOut db s := .inl old
      rcases laidOut_backfill before with ⟨stays, -⟩ | ⟨c, given, -⟩
      · exact without s stays owned
      · have none := (valid.booking s old).mp (of_pair given).2.2.1
        rw [none] at owned
        cases owned
    have memB' := mem_unseated.mpr (unseated_layOutSeats.mpr unseated)
    have memS' := mem_free.mpr ⟨mem_layOutSeats.mpr laid, available⟩
    have paired : (∃ t, (b, t) ∈ seatPairs (layOutSeats db)) ∨
        ∃ c, (c, s) ∈ seatPairs (layOutSeats db) :=
      Window.paired_or_paired (nodup_unseated _) (nodup_free _) memB' memS' flight
    rcases paired with ⟨t, pair⟩ | ⟨c, pair⟩
    · exact unpaired t pair
    · exact alone c pair

/-- A second run changes nothing. -/
theorem backfill_again (valid : SeatConstraints db.seats) :
    backfillFlightSeats (backfillFlightSeats db) = backfillFlightSeats db := by
  set after := backfillFlightSeats db
  -- Flights and aircraft are the same, so the second run inserts the same seats.
  have present : ∀ t ∈ templateSeats db, (after.seats.find? (key t)).isSome := by
    intro t mem
    have template : OfAircraft db t := mem_templateSeats.mp mem
    obtain ⟨s, laid, same⟩ := laidOut_ofAircraft template
    rw [← same]
    rcases laidOut_backfill laid with ⟨stays, -⟩ | ⟨b, -, given⟩
    · exact Option.isSome_iff_exists.mpr ⟨s, Table.find?_of_mem stays⟩
    · exact Option.isSome_iff_exists.mpr ⟨giveSeat b s, Table.find?_of_mem given⟩
  have inserted : after.seats.insertAllNew (templateSeats after) = after.seats :=
    Table.insertAllNew_present present
  have laidOut : layOutSeats after = after := by
    rw [layOutSeats, inserted]
  have still : after.seats.map (setSeat (seatPairs after)) (key_setSeat _) = after.seats :=
    Table.map_self fun s _ => by rw [seatPairs_backfill valid]; rfl
  rw [backfillFlightSeats, laidOut, seatBookings, still]

end Backfill

/-- After the backfill every flight has its aircraft's seats, and its oldest bookings sit in
front. -/
theorem backfillFlightSeats_backfilled {db : LegacyDb} (valid : db.Valid) :
    Backfilled db (backfillFlightSeats db) where
  aircraft := rfl
  flights := rfl
  bookings := rfl
  template t template := by
    obtain ⟨s, laid, same⟩ := laidOut_ofAircraft template
    have unique : ∀ u ∈ (backfillFlightSeats db).seats, key u = key s →
        ∀ s' ∈ (backfillFlightSeats db).seats, key s' = key t → s' = u :=
      fun u mem here s' mem' here' =>
        Table.eq_of_key mem' mem (here'.trans (same.symm.trans here.symm))
    rcases laidOut_backfill laid with ⟨stays, -⟩ | ⟨b, -, given⟩
    · exact ⟨s, stays, same, unique s stays rfl⟩
    · exact ⟨giveSeat b s, given, same, unique _ given rfl⟩
  kept s old := by
    rcases laidOut_backfill (.inl old) with ⟨stays, -⟩ | ⟨b, pair, given⟩
    · exact .inl stays
    · obtain ⟨unseated, -, available, flight⟩ := of_pair pair
      exact .inr ⟨available, b, unseated, flight, given⟩
  only s mem := by
    rcases mem_backfill.mp mem with ⟨b, t, pair, rfl⟩ | ⟨laid, -⟩
    · obtain ⟨unseated, laid, available, flight⟩ := of_pair pair
      exact .inr ⟨b, t, unseated, flight, laid, available, rfl⟩
    · exact .inl laid
  listed flightId := ⟨_, _, oldest_partition db flightId, frontMost_partition db flightId⟩
  paired flightId bookings seats oldest front i b s place place' :=
    mem_backfill.mpr (.inl ⟨b, s, oldest.pair front place place', rfl⟩)
  count flightId bookings seats oldest front := by
    rw [oldest.seated front, List.length_take, Nat.min_comm]
  once := (backfill_constraints valid.seats).once
  others b mem seated s owned := by
    rw [mem_backfill]
    constructor
    · rintro (⟨c, t, pair, rfl⟩ | ⟨laid, -⟩)
      · have same : c = b := Table.eq_of_key (of_pair pair).1.1 mem (Option.some.inj owned)
        exact absurd (same ▸ (of_pair pair).1) seated
      · exact laid.owned owned
    · intro old
      refine .inr ⟨.inl old, fun c pair => ?_⟩
      have none := (valid.seats.booking s old).mp (of_pair pair).2.2.1
      rw [none] at owned
      cases owned
  again := backfill_again valid.seats

/-- A flight with four seats. Booking 31 has seat 12A already; 32 and 33 were made at one
moment, and 34 is cancelled. -/
def legacySample : LegacyDb where
  aircraft := ⟨[⟨3, "VN-A350", [⟨⟨12, 'C'⟩, .economy⟩, ⟨⟨12, 'A'⟩, .economy⟩, ⟨⟨12, 'B'⟩, .economy⟩,
    ⟨⟨11, 'A'⟩, .economy⟩], by decide, 0⟩], by decide⟩
  flights := ⟨[⟨⟨8, "VN8", 1, 2, 3, 90000000, 97200000, .scheduled⟩, ⟨900000, by decide, by decide⟩,
    .vnd, 1⟩], by decide⟩
  bookings := ⟨[⟨33, 8, 7, "LE THI BINH", 50, .active⟩, ⟨32, 8, 6, "TRAN VAN CUONG", 50, .active⟩,
    ⟨31, 8, 7, "LE THI BINH", 60, .active⟩, ⟨34, 8, 6, "TRAN VAN CUONG", 40, .cancelled⟩], by decide⟩
  seats := ⟨[⟨8, ⟨12, 'A'⟩, .economy, .booked, some 31⟩], by decide⟩

theorem legacySample_valid : legacySample.Valid where
  seats := ⟨by decide, by decide, by decide⟩
  flown := by decide
  booked := by decide
  laid := by decide
  owned := by decide

theorem backfillFlightSeats_backfilled_legacySample :
    Backfilled legacySample (backfillFlightSeats legacySample) ∧
      (backfillFlightSeats legacySample).seats.rows.map (fun s => (s.position, s.bookingId)) =
        [(⟨12, 'A'⟩, some 31), (⟨12, 'C'⟩, none), (⟨12, 'B'⟩, some 33), (⟨11, 'A'⟩, some 32)] :=
  ⟨backfillFlightSeats_backfilled legacySample_valid, by decide⟩

end FlightBooking.Migrations
