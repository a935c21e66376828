import FlightBooking.Flights.Effects
import FlightBooking.System.Knowledge

/-!
A flight's seats and fares, in every version.

No constraint ties them: CreateFlight checks the fares against an aircraft it read in
a transaction of its own, and copies the seats and stores the fares in two statements
(BR-FLT-09). They agree because an aircraft's row never changes
(`FlightsUnfold.aircraft_stays`): the layout that is copied is the one that was
checked, and nothing adds a seat or a fare later (`Laid.step`).
-/

namespace FlightBooking

open Relational ReadCommitted

variable {T : Timeline postgres} {n : Nat} {x : Transaction} {log : Changes} {db db' : Db}

/-- The seats of a flight, as a layout. -/
def flightLayout (db : Db) (flightId : Uuid) : List LayoutSeat :=
  (db.seats.rows.filter (·.flightId = flightId)).map fun s => ⟨s.position, s.fareClass⟩

/-- A flight whose seats are its aircraft's, with a positive fare for each of their
classes and for no other. -/
structure LaidOut (db : Db) (flight : FlightRow) : Prop where
  leaves : (db.airports.find? flight.originAirportId).isSome
  reaches : (db.airports.find? flight.destinationAirportId).isSome
  seats : ∃ aircraft ∈ db.aircraft, aircraft.id = flight.aircraftId ∧
    flightLayout db flight.id = aircraft.seats
  classes : ∀ fareClass, (∃ f ∈ db.fares, f.flightId = flight.id ∧ f.fareClass = fareClass) ↔
    ∃ s ∈ db.seats, s.flightId = flight.id ∧ s.fareClass = fareClass
  positive : ∀ f ∈ db.fares, f.flightId = flight.id → 0 < f.amount.amount

/-- Every flight is laid out, and no seat or fare is without its flight. -/
structure Laid (db : Db) : Prop where
  flights : ∀ flight ∈ db.flights, LaidOut db flight
  seats : ∀ s ∈ db.seats, (db.flights.find? s.flightId).isSome
  fares : ∀ f ∈ db.fares, (db.flights.find? f.flightId).isSome

/-- What CreateFlight has checked when it stores the flight. -/
structure Flight.Checked (T : Timeline postgres) (n : Nat) (flight : Flight) : Prop where
  found : ∃ k ≤ n, flight.aircraft ∈ (T.state k).aircraft
  matching : checkFaresMatchSeats flight.fares (countSeatsByFareClass flight.aircraft.seats) = []

/-- The first `n` commits changed flights so, and what they created was checked. -/
def FlightsFollow (T : Timeline postgres) (n : Nat) : Prop :=
  ∀ m < n, ∃ x log, FlightsChange T m x log ∧ T.state (m + 1) = log.apply (T.state m) ∧
    ∀ flight actor auditId eventId requestId,
      x = .createFlight flight actor auditId eventId requestId → flight.Checked T m

theorem FlightsFollow.unfold (h : FlightsFollow T n) : FlightsUnfold T n := fun m lt =>
  let ⟨x, log, change, next, _⟩ := h m lt
  ⟨x, log, change, next⟩

theorem FlightsFollow.mono {m : Nat} (h : FlightsFollow T n) (le : m ≤ n) : FlightsFollow T m :=
  fun j lt => h j (Nat.lt_of_lt_of_le lt le)

/-! ### Aircraft and airports stay -/

theorem FlightsChange.aircraft_stays (change : FlightsChange T n x log) {a : Aircraft}
    (mem : a ∈ (T.state n).aircraft) : a ∈ (log.apply (T.state n)).aircraft := by
  change a ∈ (T.state n).aircraft.putAll log.aircraft
  cases change with
  | elsewhere aircraft | created _ aircraft | opened _ _ aircraft =>
      rw [aircraft]
      exact mem
  | registered fresh aircraft =>
      rw [aircraft]
      refine Table.mem_put.mpr (.inr ⟨mem, fun same => ?_⟩)
      have found := Table.find?_of_mem mem
      rw [same] at found
      cases fresh.symm.trans found

/-- A registered aircraft never changes. -/
theorem FlightsUnfold.aircraft_stays (unfold : FlightsUnfold T n) {m : Nat} (le : m ≤ n) {a : Aircraft}
    (mem : a ∈ (T.state m).aircraft) : a ∈ (T.state n).aircraft := by
  induction n with
  | zero =>
      obtain rfl : m = 0 := by omega
      exact mem
  | succ n ih =>
      rcases Nat.lt_or_ge n m with lt | ge
      · obtain rfl : m = n + 1 := by omega
        exact mem
      · obtain ⟨x, log, change, next⟩ := unfold n (Nat.lt_succ_self n)
        rw [next]
        exact change.aircraft_stays (ih (unfold.mono (Nat.le_succ n)) ge)

theorem FlightsUnfold.airports (unfold : FlightsUnfold T n) :
    (T.state n).airports = (T.state 0).airports := by
  induction n with
  | zero => rfl
  | succ n ih =>
      obtain ⟨x, log, -, next⟩ := unfold n (Nat.lt_succ_self n)
      rw [next]
      exact ih (unfold.mono (Nat.le_succ n))

/-- The layout that was copied is the layout that was checked. -/
theorem FlightCreatedOn.layout {flight : Flight} {first read : Nat}
    (on : FlightCreatedOn T n flight first read) (checked : flight.Checked T n)
    (unfold : FlightsUnfold T n) :
    layoutOf (T.state read) flight.aircraft.id = flight.aircraft.seats ∧
      flight.aircraft ∈ (T.state n).aircraft := by
  obtain ⟨a, there⟩ := Option.isSome_iff_exists.mp on.aircraft
  obtain ⟨mem, own⟩ := Table.find?_eq_some.mp there
  obtain ⟨k, le, found⟩ := checked.found
  have known := unfold.aircraft_stays le found
  have later : a ∈ (T.state n).aircraft :=
    unfold.aircraft_stays (Nat.le_trans on.first_le on.read_le) mem
  obtain rfl : a = flight.aircraft := Table.eq_of_key later known own
  have here : flight.aircraft ∈ (T.state read).aircraft :=
    (unfold.mono on.read_le).aircraft_stays on.first_le mem
  refine ⟨?_, known⟩
  rw [layoutOf, show (T.state read).aircraft.find? flight.aircraft.id = some flight.aircraft from
    Table.find?_of_mem here]
  simp

/-! ### The classes of fares and seats -/

theorem get_of_entries {fares : FlightFares} {f : FareClass × Money} :
    f ∈ fares.entries ↔ fares.get f.1 = some f.2 := by
  obtain ⟨fareClass, fare⟩ := f
  cases fareClass <;> simp [FlightFares.entries, FARE_CLASSES]

/-- Nothing to report: a class has a fare if it has seats. -/
theorem checkFaresMatchSeats_nil {fares : FlightFares} {count : FareClass → Nat}
    (h : checkFaresMatchSeats fares count = []) (fareClass : FareClass) :
    (fares.get fareClass).isSome ↔ 0 < count fareClass := by
  have every : fareClass ∈ FARE_CLASSES := by cases fareClass <;> simp [FARE_CLASSES]
  have silent := List.flatMap_eq_nil_iff.mp h fareClass every
  cases fare : (fares.get fareClass).isSome <;> by_cases seats : 0 < count fareClass <;>
    simp [fare, seats] at silent ⊢

theorem countSeatsByFareClass_pos {seats : List LayoutSeat} {fareClass : FareClass} :
    0 < countSeatsByFareClass seats fareClass ↔ ∃ s ∈ seats, s.fareClass = fareClass := by
  simp [countSeatsByFareClass, List.length_pos_iff_exists_mem]

theorem class_of_flightLayout {flightId : Uuid} {fareClass : FareClass} :
    (∃ s ∈ db.seats, s.flightId = flightId ∧ s.fareClass = fareClass) ↔
      ∃ s ∈ flightLayout db flightId, s.fareClass = fareClass := by
  simp only [flightLayout, List.mem_map, List.mem_filter, decide_eq_true_eq, Table.mem_rows]
  constructor
  · rintro ⟨s, mem, own, same⟩
    exact ⟨_, ⟨s, ⟨mem, own⟩, rfl⟩, same⟩
  · rintro ⟨_, ⟨s, ⟨mem, own⟩, rfl⟩, same⟩
    exact ⟨s, mem, own, same⟩

/-! ### One change -/

/-- A flight that keeps its seats and fares stays laid out. -/
theorem LaidOut.kept {flight : FlightRow} (h : LaidOut db flight) (airports : db'.airports = db.airports)
    (aircraft : ∀ a ∈ db.aircraft, a ∈ db'.aircraft)
    (seats : flightLayout db' flight.id = flightLayout db flight.id)
    (fares : ∀ f : FlightFare, f.flightId = flight.id → (f ∈ db'.fares ↔ f ∈ db.fares)) :
    LaidOut db' flight := by
  obtain ⟨leaves, reaches, ⟨a, mem, own, layout⟩, classes, positive⟩ := h
  refine ⟨airports ▸ leaves, airports ▸ reaches, ⟨a, aircraft a mem, own, seats.trans layout⟩,
    fun fareClass => ?_, fun f memF ownF => positive f ((fares f ownF).mp memF) ownF⟩
  rw [class_of_flightLayout, seats, ← class_of_flightLayout, ← classes fareClass]
  constructor
  · rintro ⟨f, memF, ownF, same⟩
    exact ⟨f, (fares f ownF).mp memF, ownF, same⟩
  · rintro ⟨f, memF, ownF, same⟩
    exact ⟨f, (fares f ownF).mpr memF, ownF, same⟩

/-- Seats that keep their keys and classes leave the layouts alone. -/
theorem flightLayout_congr
    (same : db'.seats.rows.map (fun s => (s.flightId, LayoutSeat.mk s.position s.fareClass)) =
      db.seats.rows.map fun s => (s.flightId, LayoutSeat.mk s.position s.fareClass))
    (flightId : Uuid) : flightLayout db' flightId = flightLayout db flightId := by
  have seen (d : Db) : flightLayout d flightId =
      ((d.seats.rows.map fun s => (s.flightId, LayoutSeat.mk s.position s.fareClass)).filter
        (·.1 = flightId)).map (·.2) := by
    rw [flightLayout, List.filter_map, List.map_map]
    rfl
  rw [seen, seen, same]

theorem copiedSeats_nodup (flightId : Uuid) {seats : List LayoutSeat}
    (distinct : (seats.map (·.position)).Nodup) : ((copiedSeats flightId seats).map key).Nodup := by
  have keys := distinct.map (f := fun p => (flightId, p)) fun a b same => congrArg Prod.snd same
  simpa [copiedSeats, key, Function.comp_def] using keys

/-- Copied seats are the layout of their flight, and of no other. -/
theorem flightLayout_copied {flightId : Uuid} {seats : List LayoutSeat}
    (rows : db'.seats.rows = db.seats.rows ++ copiedSeats flightId seats)
    (fresh : ∀ s ∈ db.seats, s.flightId ≠ flightId) :
    flightLayout db' flightId = seats ∧
      ∀ id, id ≠ flightId → flightLayout db' id = flightLayout db id := by
  have copied : ∀ s ∈ copiedSeats flightId seats, s.flightId = flightId := fun s mem => by
    obtain ⟨_, -, rfl⟩ := List.mem_map.mp mem
    rfl
  constructor
  · have old : db.seats.rows.filter (·.flightId = flightId) = [] :=
      List.filter_eq_nil_iff.mpr fun s mem => by simpa using fresh s mem
    have new : (copiedSeats flightId seats).filter (·.flightId = flightId) =
        copiedSeats flightId seats :=
      List.filter_eq_self.mpr fun s mem => by simpa using copied s mem
    rw [flightLayout, rows, List.filter_append, old, new, copiedSeats, List.nil_append, List.map_map]
    exact List.map_id _
  · intro id other
    have none : (copiedSeats flightId seats).filter (·.flightId = id) = [] :=
      List.filter_eq_nil_iff.mpr fun s mem => by simpa [copied s mem] using Ne.symm other
    rw [flightLayout, rows, List.filter_append, none, List.append_nil]
    rfl

theorem fareRows_nodup (flight : Flight) : ((fareRows flight).map key).Nodup := by
  cases economy : flight.fares.economy <;> cases business : flight.fares.business <;>
    simp [fareRows, FlightFares.entries, FARE_CLASSES, FlightFares.get, economy, business, key]

theorem mem_fareRows {flight : Flight} {f : FlightFare} : f ∈ fareRows flight ↔
    f.flightId = flight.id ∧ flight.fares.get f.fareClass = some f.amount := by
  simp only [fareRows, List.mem_map, get_of_entries]
  constructor
  · rintro ⟨entry, fare, rfl⟩
    exact ⟨rfl, fare⟩
  · rintro ⟨own, fare⟩
    exact ⟨(f.fareClass, f.amount), fare, by rw [← own]⟩

/-! ### Every version -/

/-- The same flight, in another status. -/
structure FlightRow.SameFlight (a b : FlightRow) : Prop where
  id : a.id = b.id
  origin : a.originAirportId = b.originAirportId
  destination : a.destinationAirportId = b.destinationAirportId
  aircraft : a.aircraftId = b.aircraftId

theorem FlightRow.SameFlight.refl (a : FlightRow) : a.SameFlight a := ⟨rfl, rfl, rfl, rfl⟩

theorem LaidOut.same {a b : FlightRow} (same : a.SameFlight b) (h : LaidOut db a) : LaidOut db b := by
  obtain ⟨leaves, reaches, seats, classes, positive⟩ := h
  obtain ⟨id, origin, destination, aircraft⟩ := same
  rw [id] at classes positive seats
  exact ⟨origin ▸ leaves, destination ▸ reaches, aircraft ▸ seats, classes, positive⟩

/-- A change that adds no flight, no fare and no seat. -/
theorem Laid.kept (inv : Laid db) {log : Changes} (fares : log.fares = [])
    (aircraft : ∀ a ∈ db.aircraft, a ∈ (log.apply db).aircraft)
    (flights : ∀ f ∈ log.flights, ∃ o ∈ db.flights, o.SameFlight f)
    (seats : ∀ s ∈ log.seats, ∃ o ∈ db.seats, key o = key s ∧ o.fareClass = s.fareClass) :
    Laid (log.apply db) := by
  have sameFares : (log.apply db).fares = db.fares := by
    rw [Changes.apply_fares, fares, Table.putAll_nil]
  have layouts : ∀ id, flightLayout (log.apply db) id = flightLayout db id := by
    refine flightLayout_congr (Table.map_rows_putAll_old fun s mem => ?_)
    obtain ⟨o, memO, same, kind⟩ := seats s mem
    obtain ⟨flight, position⟩ := Prod.ext_iff.mp same
    exact ⟨o, memO, same, Prod.ext flight (by rw [kind, show o.position = s.position from position])⟩
  have stay : ∀ id, (db.flights.find? id).isSome → ((log.apply db).flights.find? id).isSome := by
    intro id there
    rcases Table.find?_putAll_cases db.flights log.flights id with old | ⟨f, -, -, new⟩
    · exact (congrArg Option.isSome old).trans there
    · exact congrArg Option.isSome new
  constructor
  · intro flight mem
    have before : ∃ o ∈ db.flights, o.SameFlight flight := by
      rcases Table.find?_putAll_cases db.flights log.flights (key flight) with old | ⟨f, memF, -, new⟩
      · exact ⟨flight, Table.mem_of_find? (old.symm.trans (Table.find?_of_mem mem)), .refl flight⟩
      · obtain rfl := Option.some.inj (new.symm.trans (Table.find?_of_mem mem))
        exact flights f memF
    obtain ⟨o, memO, same⟩ := before
    have kept : LaidOut (log.apply db) o :=
      (inv.flights o memO).kept rfl aircraft (layouts _) fun f _ => by rw [sameFares]
    exact kept.same same
  · intro s mem
    apply stay
    rcases Table.find?_putAll_cases db.seats log.seats (key s) with old | ⟨o, memO, same, new⟩
    · exact inv.seats s (Table.mem_of_find? (old.symm.trans (Table.find?_of_mem mem)))
    · obtain rfl := Option.some.inj (new.symm.trans (Table.find?_of_mem mem))
      obtain ⟨u, memU, own, -⟩ := seats o memO
      rw [← show u.flightId = o.flightId from (Prod.ext_iff.mp own).1]
      exact inv.seats u memU
  · intro f mem
    rw [sameFares] at mem
    exact stay _ (inv.fares f mem)

theorem Laid.seatless (inv : Laid db) {flightId : Uuid} (fresh : db.flights.find? flightId = none) :
    ∀ s ∈ db.seats, s.flightId ≠ flightId := by
  intro s mem own
  have there := inv.seats s mem
  rw [own, fresh] at there
  cases there

theorem Laid.fareless (inv : Laid db) {flightId : Uuid} (fresh : db.flights.find? flightId = none) :
    ∀ f ∈ db.fares, f.flightId ≠ flightId := by
  intro f mem own
  have there := inv.fares f mem
  rw [own, fresh] at there
  cases there

/-- The seats of a new flight come after all others. -/
theorem rows_copied {log : Changes} {flight : Flight} (seatless : ∀ s ∈ db.seats, s.flightId ≠ flight.id)
    (seats : log.seats = copiedSeats flight.id flight.aircraft.seats) :
    (log.apply db).seats.rows = db.seats.rows ++ copiedSeats flight.id flight.aircraft.seats := by
  rw [Changes.apply_seats, seats]
  refine Table.rows_putAll_new (copiedSeats_nodup _ flight.aircraft.distinct) fun s mem => ?_
  obtain ⟨_, -, rfl⟩ := List.mem_map.mp mem
  exact Table.find?_eq_none.mpr fun v memV same => seatless v memV (Prod.ext_iff.mp same).1

/-- A new flight with its aircraft's layout and the fares that go with it. -/
theorem Laid.created (inv : Laid db) {log : Changes} {flight : Flight}
    (fresh : db.flights.find? flight.id = none) (there : flight.aircraft ∈ db.aircraft)
    (leaves : (db.airports.find? flight.origin.id).isSome)
    (reaches : (db.airports.find? flight.destination.id).isSome)
    (matching : checkFaresMatchSeats flight.fares (countSeatsByFareClass flight.aircraft.seats) = [])
    (priced : ∀ f ∈ flight.fares.entries, f.2.amount ≠ 0) (aircraft : log.aircraft = [])
    (flights : log.flights = [flight.row]) (fares : log.fares = fareRows flight)
    (seats : log.seats = copiedSeats flight.id flight.aircraft.seats) : Laid (log.apply db) := by
  have seatless := inv.seatless fresh
  have fareless := inv.fareless fresh
  have sameAircraft : (log.apply db).aircraft = db.aircraft := by
    rw [Changes.apply_aircraft, aircraft, Table.putAll_nil]
  have rows := rows_copied seatless seats
  have memFares : ∀ f, f ∈ (log.apply db).fares ↔ f ∈ fareRows flight ∨ f ∈ db.fares := by
    intro f
    rw [Changes.apply_fares, fares, Table.mem_putAll (fareRows_nodup flight)]
    refine or_congr Iff.rfl ⟨fun h => h.1, fun mem => ⟨mem, fun same => ?_⟩⟩
    obtain ⟨g, memG, same⟩ := List.mem_map.mp same
    exact fareless f mem ((Prod.ext_iff.mp same).1.symm.trans (mem_fareRows.mp memG).1)
  have memFlights : ∀ f, f ∈ (log.apply db).flights ↔ f = flight.row ∨ f ∈ db.flights := by
    intro f
    rw [Changes.apply_flights, flights, Table.putAll_cons, Table.putAll_nil, Table.mem_put]
    refine or_congr Iff.rfl ⟨fun h => h.1, fun mem => ⟨mem, fun same => ?_⟩⟩
    exact Table.find?_eq_none.mp fresh f mem same
  have layouts := flightLayout_copied rows seatless
  have stay : ∀ id, (db.flights.find? id).isSome → ((log.apply db).flights.find? id).isSome := by
    intro id there
    obtain ⟨f, found⟩ := Option.isSome_iff_exists.mp there
    obtain ⟨mem, rfl⟩ := Table.find?_eq_some.mp found
    rw [Table.find?_of_mem ((memFlights f).mpr (.inr mem))]
    rfl
  have here : ((log.apply db).flights.find? flight.id).isSome := by
    rw [show (log.apply db).flights.find? flight.id = some flight.row from
      Table.find?_of_mem ((memFlights flight.row).mpr (.inl rfl))]
    rfl
  constructor
  · intro f mem
    rcases (memFlights f).mp mem with rfl | old
    · refine ⟨leaves, reaches, ⟨_, sameAircraft ▸ there, rfl, layouts.1⟩, fun fareClass => ?_,
        fun g memG own => ?_⟩
      · rw [class_of_flightLayout]
        change _ ↔ ∃ s ∈ flightLayout (log.apply db) flight.id, _
        rw [layouts.1, ← countSeatsByFareClass_pos, ← checkFaresMatchSeats_nil matching fareClass]
        constructor
        · rintro ⟨g, memG, own, rfl⟩
          rcases (memFares g).mp memG with new | old
          · rw [(mem_fareRows.mp new).2]
            rfl
          · exact (fareless g old own).elim
        · intro hasFare
          obtain ⟨fare, isFare⟩ := Option.isSome_iff_exists.mp hasFare
          exact ⟨⟨flight.id, fareClass, fare⟩, (memFares _).mpr (.inl (mem_fareRows.mpr ⟨rfl, isFare⟩)),
            rfl, rfl⟩
      · rcases (memFares g).mp memG with new | old
        · have := priced (g.fareClass, g.amount) (get_of_entries.mpr (mem_fareRows.mp new).2)
          exact Nat.pos_of_ne_zero this
        · exact (fareless g old own).elim
    · have other : f.id ≠ flight.id := fun same => Table.find?_eq_none.mp fresh f old same
      refine (inv.flights f old).kept rfl (fun a mem => sameAircraft ▸ mem) (layouts.2 _ other)
        fun g own => ?_
      rw [memFares]
      refine ⟨fun h => h.resolve_left fun new => ?_, .inr⟩
      exact other (own.symm.trans (mem_fareRows.mp new).1)
  · intro s mem
    rw [← Table.mem_rows, rows, List.mem_append] at mem
    rcases mem with old | new
    · exact stay _ (inv.seats s old)
    · obtain ⟨_, -, rfl⟩ := List.mem_map.mp new
      exact here
  · intro f mem
    rcases (memFares f).mp mem with new | old
    · rw [(mem_fareRows.mp new).1]
      exact here
    · exact stay _ (inv.fares f old)

/-- One commit keeps every flight laid out. -/
theorem Laid.step (inv : Laid (T.state n)) (change : FlightsChange T n x log)
    (unfold : FlightsUnfold T n)
    (checked : ∀ flight actor auditId eventId requestId,
      x = .createFlight flight actor auditId eventId requestId → flight.Checked T n) :
    Laid (log.apply (T.state n)) := by
  have stay := fun a => change.aircraft_stays (a := a)
  cases change with
  | elsewhere _ flights fares seats =>
      exact inv.kept fares stay (by simp [flights]) seats
  | registered _ _ flights fares seats =>
      exact inv.kept fares stay (by simp [flights]) (by simp [seats])
  | @created flight _ _ _ _ first read _ on aircraft flights fares seats =>
      have first_le := Nat.le_trans on.first_le on.read_le
      obtain ⟨layout, there⟩ := on.layout (checked _ _ _ _ _ rfl) unfold
      have airports : (T.state first).airports = (T.state n).airports :=
        (unfold.mono first_le).airports.trans unfold.airports.symm
      rw [layout] at seats
      exact inv.created on.fresh there (airports ▸ on.origin) (airports ▸ on.destination)
        (checked _ _ _ _ _ rfl).matching on.priced aircraft flights fares seats
  | @opened _ _ _ _ _ flight _ found _ _ flights fares seats =>
      refine inv.kept fares stay (fun f mem => ?_) (by simp [seats])
      rw [flights] at mem
      obtain rfl := List.mem_singleton.mp mem
      exact ⟨flight, Table.mem_of_find? found, rfl, rfl, rfl, rfl⟩

/-- Every flight is laid out in every version. -/
theorem FlightsFollow.laid (follow : FlightsFollow T n) (first : Laid (T.state 0)) :
    Laid (T.state n) := by
  induction n with
  | zero => exact first
  | succ n ih =>
      obtain ⟨x, log, change, next, checked⟩ := follow n (Nat.lt_succ_self n)
      rw [next]
      have before := follow.mono (Nat.le_succ n)
      exact (ih before).step change before.unfold checked

theorem laid_of_empty {db : Db} (flights : db.flights = ∅) (seats : db.seats = ∅)
    (fares : db.fares = ∅) : Laid db := by
  constructor
  · exact fun f mem => by simp [flights] at mem
  · exact fun s mem => by simp [seats] at mem
  · exact fun f mem => by simp [fares] at mem

/-! ### What CreateFlight knows -/

/-- A committed search answers a row of a version it has seen. -/
theorem aircraft_found {i : Nat} {now : Instant} {c' : Cursor postgres} {r : x.Result} {a : Aircraft}
    (ran : Commits T n (x.body now) (.start i) r c') (found : x.aircraft? r = some a) :
    ∃ k ≤ n, a ∈ (T.state k).aircraft := by
  cases x with
  | findAircraft registration =>
      obtain ⟨skip, snap, cur, out, -, le, le', done, rfl, -⟩ := commits_query.mp ran
      cases done
      exact ⟨snap, Nat.le_trans le le', List.mem_of_find?_eq_some found⟩
  | _ => cases found

/-- Every committed CreateFlight came after the search that found its aircraft. -/
def FlightsKnown (w : World app) : Prop :=
  ∀ n, ∀ h : n < w.commits.length, ∀ flight actor auditId eventId requestId,
    w.commits[n].tx = .createFlight flight actor auditId eventId requestId →
      (∃ m, ∃ h : m < w.commits.length, m < n ∧
        w.commits[m].tx.aircraft? w.commits[m].result = some flight.aircraft) ∧
      checkFaresMatchSeats flight.fares (countSeatsByFareClass flight.aircraft.seats) = []

theorem FlightsKnown.commit {w : World app} (known : FlightsKnown w) {c : Commit app}
    (knows : Knows c.thread c.tx w) : FlightsKnown (w.commit c) := by
  intro n h flight actor auditId eventId requestId tx
  simp only [World.commit_commits] at h tx ⊢
  rcases Nat.lt_or_ge n w.commits.length with lt | ge
  · rw [List.getElem_append_left lt] at tx
    obtain ⟨⟨m, hm, before, found⟩, matching⟩ := known n lt _ _ _ _ _ tx
    refine ⟨⟨m, by simp; omega, before, ?_⟩, matching⟩
    rw [List.getElem_append_left hm]
    exact found
  · obtain rfl : n = w.commits.length := by simp at h; omega
    rw [List.getElem_concat_length rfl] at tx
    rw [tx] at knows
    obtain ⟨⟨c', mem, found⟩, matching⟩ := knows
    obtain ⟨m, hm, rfl⟩ := List.getElem_of_mem mem
    refine ⟨⟨m, by simp; omega, hm, ?_⟩, matching⟩
    rw [List.getElem_append_left hm]
    exact found

theorem flightsKnown_of_reachable {α : Type} {p q : Pool app α}
    {Ends : Nat → α → World app → Prop} (kept : knowledge.Kept Ends p) (h : p.Reachable q)
    (first : p.world.commits = []) : FlightsKnown q.world := by
  refine kept.invariant h (fun n lt => by simp [first] at lt) fun w w' _ known moves => ?_
  cases moves with
  | tick | call => exact known
  | commit knows => exact known.commit knows

/-- The search found the aircraft in a version before the flight was stored. -/
theorem FlightsKnown.checked {w : World app} (known : FlightsKnown w) (sound : w.Sound) {n : Nat}
    (lt : n < w.commits.length) {flight : Flight} {actor auditId eventId : Uuid}
    {requestId : Option Uuid}
    (tx : w.commits[n].tx = .createFlight flight actor auditId eventId requestId) :
    flight.Checked w.timeline n := by
  obtain ⟨⟨m, hm, before, found⟩, matching⟩ := known n lt _ _ _ _ _ tx
  obtain ⟨c', ran, -⟩ := sound.commits hm
  obtain ⟨k, le, there⟩ := aircraft_found ran found
  exact ⟨⟨k, Nat.le_trans le (Nat.le_of_lt before), there⟩, matching⟩

theorem flightsFollow_of_sound {w : World app} (sound : w.Sound) (known : FlightsKnown w) :
    FlightsFollow w.timeline w.commits.length := by
  intro m lt
  obtain ⟨c', ran, log, -⟩ := sound.commits lt
  exact ⟨_, c'.log, flightsChange_of_commits sound.framed ran, log ▸ w.state_succ lt,
    fun _ _ _ _ _ tx => known.checked sound lt tx⟩

end FlightBooking
