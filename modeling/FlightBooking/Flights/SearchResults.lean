import FlightBooking.Bookings.HoldSeats
import FlightBooking.Flights.Search

/-!
What a search returns, and that it can be held.

The statement's common table expressions are taken apart one at a time: the classes
of a flight, the flights of the route, the flights that match. Together they are the
bookable flights of the route, each once and in order (`search_exact`), and an auto
hold in a class at the lowest fare succeeds at that fare.
-/

namespace FlightBooking

open Relational Ordering

variable {zones : TimeZones} {db : Db} {query : FlightSearchQuery} {now : Instant}
  {flightId : Uuid} {after : Option SearchPosition} {passengers : Nat}

/-- BR-FLT-09: a flight has a fare in exactly the classes it has seats in. -/
def Db.FaresMatchSeats (db : Db) : Prop :=
  ∀ flight ∈ db.flights, ∀ fareClass,
    (∃ f ∈ db.fares, f.flightId = flight.id ∧ f.fareClass = fareClass) ↔
      ∃ s ∈ db.seats, s.flightId = flight.id ∧ s.fareClass = fareClass

/-! ### The classes of a flight -/

theorem availableOf_eq (db : Db) (flightId : Uuid) (fareClass : FareClass) :
    availableOf db flightId fareClass = (freeSeats db flightId fareClass).length := by
  rw [availableOf, freeSeats, List.countP_eq_length_filter]
  congr 1
  refine List.filter_congr fun s _ => ?_
  simp only [isFree, Bool.and_assoc, Bool.and_comm (decide (s.status = .available))]

theorem fareOf_eq_some {fareClass : FareClass} {fare : Money} :
    fareOf db flightId fareClass = some fare ↔
      ∃ f ∈ db.fares, f.flightId = flightId ∧ f.fareClass = fareClass ∧ f.amount = fare := by
  simp only [fareOf, Option.map_eq_some_iff, Table.find?_eq_some]
  constructor
  · rintro ⟨f, ⟨mem, own⟩, rfl⟩
    cases own
    exact ⟨f, mem, rfl, rfl, rfl⟩
  · rintro ⟨f, mem, rfl, rfl, rfl⟩
    exact ⟨f, ⟨mem, rfl⟩, rfl⟩

/-- The classes of a flight are those with a fare, each with its free seats. -/
theorem mem_flightClasses {entry : FareAvailability} : entry ∈ flightClasses db flightId ↔
    fareOf db flightId entry.fareClass = some entry.fare ∧
      entry.availableSeats = (freeSeats db flightId entry.fareClass).length := by
  rw [fareOf_eq_some]
  simp only [flightClasses, List.mem_insertionSort, List.mem_map, List.mem_filter,
    decide_eq_true_eq, Table.mem_rows]
  constructor
  · rintro ⟨f, ⟨mem, rfl⟩, rfl⟩
    exact ⟨⟨f, mem, rfl, rfl, rfl⟩, availableOf_eq ..⟩
  · rintro ⟨⟨f, mem, rfl, own, fare⟩, count⟩
    refine ⟨f, ⟨mem, rfl⟩, ?_⟩
    rw [own, fare, availableOf_eq, ← count]

/-- A flight has each class once. -/
theorem nodup_flightClasses (db : Db) (flightId : Uuid) :
    ((flightClasses db flightId).map (·.fareClass)).Nodup := by
  refine ((List.perm_insertionSort _ _).map _).nodup_iff.mpr ?_
  rw [List.map_map]
  refine List.Nodup.map_on ?_ ((List.Nodup.of_map _ db.fares.nodup).filter _)
  intro f mem g mem' same
  simp only [List.mem_filter, decide_eq_true_eq] at mem mem'
  exact Table.eq_of_key mem.1 mem'.1 (Prod.ext (mem.2.trans mem'.2.symm) same)

/-! ### The lowest fare -/

instance : LE Money := ⟨fun a b => a.amount ≤ b.amount⟩

instance : Std.MinEqOr Money where
  min_eq_or a b := by
    change (if a.amount ≤ b.amount then a else b) = a ∨ (if a.amount ≤ b.amount then a else b) = b
    split
    · exact .inl rfl
    · exact .inr rfl

instance : Std.LawfulOrderInf Money where
  le_min_iff a b c := by
    change a.amount ≤ (if b.amount ≤ c.amount then b else c).amount ↔
      a.amount ≤ b.amount ∧ a.amount ≤ c.amount
    split <;> omega

/-- The lowest fare is the fare of a class with room, and no class with room is
cheaper. -/
theorem lowestFareFor_eq_some {classes : List FareAvailability} {lowest : Money}
    (h : lowestFareFor passengers classes = some lowest) :
    (∃ entry ∈ classes, passengers ≤ entry.availableSeats ∧ entry.fare = lowest) ∧
      ∀ entry ∈ classes, passengers ≤ entry.availableSeats → lowest.amount ≤ entry.fare.amount := by
  constructor
  · obtain ⟨entry, mem, fare⟩ := List.mem_map.mp (List.min?_mem h)
    obtain ⟨memC, room⟩ := List.mem_filter.mp mem
    exact ⟨entry, memC, by simpa using room, fare⟩
  · intro entry mem room
    have all := (List.le_min?_iff h (x := lowest)).mp (Nat.le_refl _)
    exact all _ (List.mem_map_of_mem (List.mem_filter.mpr ⟨mem, by simpa using room⟩))

theorem lowestFareFor_isSome {classes : List FareAvailability} :
    (lowestFareFor passengers classes).isSome ↔
      ∃ entry ∈ classes, passengers ≤ entry.availableSeats := by
  rw [lowestFareFor, Option.isSome_iff_ne_none, ne_eq, List.min?_eq_none_iff, List.map_eq_nil_iff,
    List.filter_eq_nil_iff]
  simp

/-- The HAVING keeps exactly the groups whose filtered minimum is not null. -/
theorem most_any {classes : List FareAvailability} :
    (classes.map (·.availableSeats)).max?.any (fun most => most ≥ passengers) =
      (lowestFareFor passengers classes).isSome := by
  rw [Bool.eq_iff_iff, lowestFareFor_isSome, Option.any_eq_true]
  constructor
  · rintro ⟨most, isMost, enough⟩
    obtain ⟨entry, mem, rfl⟩ := List.mem_map.mp (List.max?_mem isMost)
    exact ⟨entry, mem, by simpa using enough⟩
  · rintro ⟨entry, mem, enough⟩
    cases isMost : (classes.map (·.availableSeats)).max? with
    | none =>
        rw [List.max?_eq_none_iff, List.map_eq_nil_iff] at isMost
        exact absurd (isMost ▸ mem) List.not_mem_nil
    | some most =>
        have above := (List.max?_eq_some_iff.mp isMost).2 _ (List.mem_map_of_mem mem)
        exact ⟨most, rfl, by simpa using Nat.le_trans enough above⟩

theorem matchFlight_eq_some {candidate : SearchCandidate} {r : FlightSearchResult} :
    matchFlight db passengers candidate = some r ↔
      ∃ lowest, lowestFareFor passengers (flightClasses db candidate.flight.id) = some lowest ∧
        r = ⟨candidate.flight.id, candidate.flight.flightNumber,
          ⟨candidate.origin.code, candidate.origin.timeZone⟩,
          ⟨candidate.destination.code, candidate.destination.timeZone⟩, candidate.flight.departureAt,
          candidate.flight.arrivalAt, lowest, flightClasses db candidate.flight.id⟩ := by
  rw [matchFlight, most_any]
  cases lowestFareFor passengers (flightClasses db candidate.flight.id) with
  | none => simp
  | some lowest => simp [eq_comm]

/-! ### The flights of the route -/

/-- A candidate: a flight on sale, between the airports asked for, on the dates. -/
structure SearchCandidate.Of (zones : TimeZones) (db : Db) (query : FlightSearchQuery) (now : Instant)
    (candidate : SearchCandidate) : Prop where
  flight : candidate.flight ∈ db.flights
  origin : candidate.origin ∈ db.airports
  destination : candidate.destination ∈ db.airports
  leaves : candidate.flight.originAirportId = candidate.origin.id
  reaches : candidate.flight.destinationAirportId = candidate.destination.id
  from' : candidate.origin.code = query.origin
  to' : candidate.destination.code = query.destination
  departs : departsWithin zones candidate.origin.timeZone query.departureDateFrom
    query.departureDateTo candidate.flight.departureAt = true
  sale : onSale candidate.flight now = true

theorem mem_searchRoute {o d : Airport} : (o, d) ∈ searchRoute db query ↔
    o ∈ db.airports ∧ o.code = query.origin ∧ d ∈ db.airports ∧ d.code = query.destination := by
  simp [searchRoute, and_assoc]

theorem mem_searchCandidates {candidate : SearchCandidate} :
    candidate ∈ searchCandidates zones db query now ↔ candidate.Of zones db query now := by
  simp only [searchCandidates, List.mem_flatMap, List.mem_map, List.mem_filter, Bool.and_eq_true,
    decide_eq_true_eq, Prod.exists]
  constructor
  · rintro ⟨o, d, route, flight, ⟨mem, ⟨⟨⟨leaves, reaches⟩, departs⟩, sale⟩⟩, rfl⟩
    obtain ⟨memO, from', memD, to'⟩ := mem_searchRoute.mp route
    exact ⟨mem, memO, memD, leaves, reaches, from', to', departs, sale⟩
  · intro of
    exact ⟨_, _, mem_searchRoute.mpr ⟨of.origin, of.from', of.destination, of.to'⟩, _,
      ⟨of.flight, ⟨⟨⟨of.leaves, of.reaches⟩, of.departs⟩, of.sale⟩⟩, rfl⟩

/-- Two candidates for one flight are one: its airports are its own. -/
theorem SearchCandidate.Of.unique {a b : SearchCandidate} (ha : a.Of zones db query now)
    (hb : b.Of zones db query now) (same : a.flight.id = b.flight.id) : a = b := by
  have flight : a.flight = b.flight := Table.eq_of_key ha.flight hb.flight same
  have origin : a.origin = b.origin := Table.eq_of_key ha.origin hb.origin
    (ha.leaves.symm.trans ((congrArg _ flight).trans hb.leaves))
  have destination : a.destination = b.destination := Table.eq_of_key ha.destination hb.destination
    (ha.reaches.symm.trans ((congrArg _ flight).trans hb.reaches))
  cases a
  cases b
  simp_all

theorem nodup_searchRoute (db : Db) (query : FlightSearchQuery) : (searchRoute db query).Nodup := by
  have airports : db.airports.rows.Nodup := List.Nodup.of_map _ db.airports.nodup
  refine List.nodup_flatMap.mpr ⟨fun o _ => (airports.filter _).map (Prod.mk_right_injective o), ?_⟩
  refine (airports.filter _).imp fun {o o'} ne => ?_
  rintro ⟨a, b⟩ mem mem'
  obtain ⟨d, -, same⟩ := List.mem_map.mp mem
  obtain ⟨d', -, same'⟩ := List.mem_map.mp mem'
  exact ne ((Prod.ext_iff.mp same).1.trans (Prod.ext_iff.mp same').1.symm)

/-- No flight is a candidate twice. -/
theorem nodup_searchCandidates (zones : TimeZones) (db : Db) (query : FlightSearchQuery)
    (now : Instant) : ((searchCandidates zones db query now).map fun c => c.flight.id).Nodup := by
  refine List.Nodup.map_on (fun a mem b mem' same => (mem_searchCandidates.mp mem).unique
    (mem_searchCandidates.mp mem') same) ?_
  have flights : db.flights.rows.Nodup := List.Nodup.of_map _ db.flights.nodup
  refine List.nodup_flatMap.mpr ⟨fun route _ => (flights.filter _).map ?_, ?_⟩
  · intro f g same
    exact (SearchCandidate.mk.inj same).1
  · refine (nodup_searchRoute db query).imp fun {route route'} ne => ?_
    rintro c mem mem'
    obtain ⟨f, -, same⟩ := List.mem_map.mp mem
    obtain ⟨g, -, rfl⟩ := List.mem_map.mp mem'
    obtain ⟨-, origin, destination⟩ := SearchCandidate.mk.inj same
    exact ne (Prod.ext origin destination)

/-! ### The rows in order -/

theorem mem_searchRows {r : FlightSearchResult} : r ∈ searchRows zones db query now after ↔
    (∃ c, c.Of zones db query now ∧ matchFlight db query.passengers c = some r) ∧
      ∀ position ∈ after, position.sortKey query.sort < r.sortKey query.sort := by
  simp only [searchRows, List.mem_insertionSort, List.mem_filter, List.mem_filterMap,
    mem_searchCandidates, Option.all_eq_true, decide_eq_true_eq, gt_iff_lt, Option.mem_def]

/-- The key ends with the id. -/
theorem sortKey_inj {sort : FlightSearchSort} {a b : FlightSearchResult}
    (same : a.sortKey sort = b.sortKey sort) : a.id = b.id := by
  cases sort <;>
    exact (Prod.ext_iff.mp (toLex_inj.mp (Prod.ext_iff.mp (toLex_inj.mp same)).2)).2

instance (sort : FlightSearchSort) :
    Std.Total fun a b : FlightSearchResult => a.sortKey sort ≤ b.sortKey sort :=
  ⟨fun a b => le_total (a.sortKey sort) (b.sortKey sort)⟩

instance (sort : FlightSearchSort) :
    IsTrans FlightSearchResult fun a b => a.sortKey sort ≤ b.sortKey sort :=
  ⟨fun _ _ _ => le_trans⟩

theorem nodup_matched (zones : TimeZones) (db : Db) (query : FlightSearchQuery) (now : Instant) :
    (((searchCandidates zones db query now).filterMap (matchFlight db query.passengers)).map
      (·.id)).Nodup := by
  refine List.Nodup.sublist ?_ (nodup_searchCandidates zones db query now)
  induction searchCandidates zones db query now with
  | nil => exact List.Sublist.slnil
  | cons c cs ih =>
      cases matched : matchFlight db query.passengers c with
      | none => simpa [matched] using ih.cons c.flight.id
      | some r =>
          obtain ⟨lowest, -, rfl⟩ := matchFlight_eq_some.mp matched
          simpa [matched] using ih

theorem nodup_searchRows (zones : TimeZones) (db : Db) (query : FlightSearchQuery) (now : Instant)
    (after : Option SearchPosition) : ((searchRows zones db query now after).map (·.id)).Nodup := by
  refine ((List.perm_insertionSort _ _).map _).nodup_iff.mpr ?_
  exact (nodup_matched zones db query now).sublist (List.filter_sublist.map _)

/-- The rows are in strict order of the sort key. -/
theorem strict_searchRows (zones : TimeZones) (db : Db) (query : FlightSearchQuery) (now : Instant)
    (after : Option SearchPosition) : (searchRows zones db query now after).Pairwise fun a b =>
      a.sortKey query.sort < b.sortKey query.sort := by
  have distinct := List.pairwise_map.mp (nodup_searchRows zones db query now after)
  refine ((List.pairwise_insertionSort _ _).and distinct).imp ?_
  rintro a b ⟨le, ne⟩
  exact lt_of_le_of_ne le fun same => ne (sortKey_inj same)

/-! ### The main result -/

/-- A flight that answers the search: of the route, within the dates, stored OPEN and
on sale, with a class that has room for all the passengers. -/
structure Bookable (zones : TimeZones) (db : Db) (query : FlightSearchQuery) (now : Instant)
    (flight : FlightRow) : Prop where
  mem : flight ∈ db.flights
  leaves : ∃ o ∈ db.airports, flight.originAirportId = o.id ∧ o.code = query.origin ∧
    departsWithin zones o.timeZone query.departureDateFrom query.departureDateTo
      flight.departureAt = true
  reaches : ∃ d ∈ db.airports, flight.destinationAirportId = d.id ∧ d.code = query.destination
  stored : flight.status = .open
  sales : flight.departureAt - SALES_CLOSE_BEFORE_DEPARTURE_MS > now
  room : ∃ fareClass, query.passengers ≤ (freeSeats db flight.id fareClass).length

/-- What a result says of its flight, and that a hold at its lowest fare succeeds. -/
structure FlightSearchResult.Promises (db : Db) (passengers : Nat) (now : Instant)
    (r : FlightSearchResult) : Prop where
  classes : ∀ fareClass, (∃ entry ∈ r.availability, entry.fareClass = fareClass) ↔
    ∃ s ∈ db.seats, s.flightId = r.id ∧ s.fareClass = fareClass
  once : (r.availability.map (·.fareClass)).Nodup
  counts : ∀ entry ∈ r.availability, fareOf db r.id entry.fareClass = some entry.fare ∧
    entry.availableSeats = (freeSeats db r.id entry.fareClass).length
  attained : ∃ fareClass, fareOf db r.id fareClass = some r.lowestFare ∧
    passengers ≤ (freeSeats db r.id fareClass).length
  lowest : ∀ fareClass fare, fareOf db r.id fareClass = some fare →
    passengers ≤ (freeSeats db r.id fareClass).length → r.lowestFare.amount ≤ fare.amount
  held : ∀ fareClass, fareOf db r.id fareClass = some r.lowestFare →
    passengers ≤ (freeSeats db r.id fareClass).length → ∀ bookingId, ∃ held log,
      holdAlone db r.id bookingId (.auto passengers fareClass) now = .ok (.ok held, log) ∧
        held.length = passengers ∧ ∀ h ∈ held, h.fareClass = fareClass ∧ h.price = r.lowestFare

/-- A class with room has a seat, so by BR-FLT-09 a fare. -/
theorem Db.FaresMatchSeats.fare_of_room (matching : db.FaresMatchSeats) {flight : FlightRow}
    (mem : flight ∈ db.flights) {fareClass : FareClass} (some : 0 < passengers)
    (room : passengers ≤ (freeSeats db flight.id fareClass).length) :
    ∃ fare, fareOf db flight.id fareClass = .some fare := by
  obtain ⟨s, free⟩ := List.exists_mem_of_length_pos (Nat.lt_of_lt_of_le some room)
  obtain ⟨memS, isFree⟩ := List.mem_filter.mp free
  simp only [FlightBooking.isFree, Bool.and_eq_true, decide_eq_true_eq] at isFree
  obtain ⟨f, memF, own, same⟩ := (matching flight mem fareClass).mpr
    ⟨s, memS, isFree.1.1, isFree.2⟩
  exact ⟨f.amount, fareOf_eq_some.mpr ⟨f, memF, own, same, rfl⟩⟩

theorem Db.FaresMatchSeats.priced (matching : db.FaresMatchSeats) {flight : FlightRow}
    (mem : flight ∈ db.flights) : db.Priced flight.id := by
  intro s memS own
  obtain ⟨f, memF, ownF, same⟩ := (matching flight mem s.fareClass).mpr ⟨s, memS, own, rfl⟩
  exact Option.isSome_iff_exists.mpr ⟨f.amount, fareOf_eq_some.mpr ⟨f, memF, ownF, same, rfl⟩⟩

/-- A hold of `passengers` free seats of a class takes them at the class's fare. -/
theorem holdAuto_priced {flight : FlightRow} (mem : flight ∈ db.flights)
    (sale : onSale flight now = true) (priced : db.Priced flight.id) {fareClass : FareClass}
    {fare : Money} (some : 0 < passengers) (isFare : fareOf db flight.id fareClass = .some fare)
    (room : passengers ≤ (freeSeats db flight.id fareClass).length) (bookingId : Uuid) :
    ∃ held log, holdAlone db flight.id bookingId (.auto passengers fareClass) now = .ok (.ok held, log) ∧
      held.length = passengers ∧ ∀ h ∈ held, h.fareClass = fareClass ∧ h.price = fare := by
  have open' : flightOnSale flight.id now db = true :=
    flightOnSale_eq_true.mpr ⟨flight, Table.find?_of_mem mem, sale⟩
  have available : (SeatHoldRequest.auto passengers fareClass).Available db flight.id := room
  have sensible : (SeatHoldRequest.auto passengers fareClass).Sensible := some
  obtain ⟨picked, held, log, picks, as, done⟩ :=
    holdSeats_priced bookingId sensible open' available priced
  refine ⟨held, log, done, as.length_eq.symm.trans picks.length, fun h memH => ?_⟩
  obtain ⟨s, memS, -, ofClass, price⟩ := as.seat memH
  obtain ⟨-, free⟩ := List.mem_filter.mp (picks.mem s memS)
  simp only [isFree, Bool.and_eq_true, decide_eq_true_eq] at free
  rw [free.1.1, free.2, isFare] at price
  exact ⟨ofClass.trans free.2, (Option.some.inj price).symm⟩

/-- Every match is a bookable flight, and every bookable flight matches. -/
theorem matched_iff_bookable (matching : db.FaresMatchSeats) (some : 0 < query.passengers) (id : Uuid) :
    (∃ c r, c.Of zones db query now ∧ matchFlight db query.passengers c = .some r ∧ r.id = id) ↔
      ∃ flight, Bookable zones db query now flight ∧ flight.id = id := by
  constructor
  · rintro ⟨c, r, of, matched, rfl⟩
    obtain ⟨lowest, isLowest, rfl⟩ := matchFlight_eq_some.mp matched
    obtain ⟨⟨entry, memE, room, -⟩, -⟩ := lowestFareFor_eq_some isLowest
    obtain ⟨-, count⟩ := mem_flightClasses.mp memE
    have sale := of.sale
    simp only [onSale, Bool.and_eq_true, decide_eq_true_eq] at sale
    exact ⟨c.flight, ⟨of.flight, ⟨_, of.origin, of.leaves, of.from', of.departs⟩,
      ⟨_, of.destination, of.reaches, of.to'⟩, sale.1, sale.2, _, count ▸ room⟩, rfl⟩
  · rintro ⟨flight, ⟨mem, ⟨o, memO, leaves, from', departs⟩, ⟨d, memD, reaches, to'⟩, stored, sales,
      fareClass, room⟩, rfl⟩
    obtain ⟨fare, isFare⟩ := matching.fare_of_room mem some room
    have entry : ∃ entry ∈ flightClasses db flight.id, query.passengers ≤ entry.availableSeats :=
      ⟨⟨fareClass, _, fare⟩, mem_flightClasses.mpr ⟨isFare, rfl⟩, room⟩
    obtain ⟨lowest, isLowest⟩ := Option.isSome_iff_exists.mp (lowestFareFor_isSome.mpr entry)
    have sale : onSale flight now = true := by simpa [onSale, stored] using sales
    exact ⟨⟨flight, o, d⟩, _, ⟨mem, memO, memD, leaves, reaches, from', to', departs, sale⟩,
      matchFlight_eq_some.mpr ⟨lowest, isLowest, rfl⟩, rfl⟩

theorem promises_of_match (matching : db.FaresMatchSeats) (some : 0 < passengers)
    {c : SearchCandidate} (of : c.Of zones db query now) {r : FlightSearchResult}
    (matched : matchFlight db passengers c = .some r) : r.Promises db passengers now := by
  obtain ⟨lowest, isLowest, rfl⟩ := matchFlight_eq_some.mp matched
  obtain ⟨⟨entry, memE, room, isFare⟩, least⟩ := lowestFareFor_eq_some isLowest
  obtain ⟨fare, count⟩ := mem_flightClasses.mp memE
  constructor
  · intro fareClass
    rw [← matching c.flight of.flight fareClass]
    constructor
    · rintro ⟨e, mem, rfl⟩
      obtain ⟨f, memF, own, same, -⟩ := fareOf_eq_some.mp (mem_flightClasses.mp mem).1
      exact ⟨f, memF, own, same⟩
    · rintro ⟨f, memF, own, same⟩
      exact ⟨⟨fareClass, (freeSeats db c.flight.id fareClass).length, f.amount⟩,
        mem_flightClasses.mpr ⟨fareOf_eq_some.mpr ⟨f, memF, own, same, rfl⟩, rfl⟩, rfl⟩
  · exact nodup_flightClasses db c.flight.id
  · exact fun e mem => mem_flightClasses.mp mem
  · exact ⟨entry.fareClass, isFare ▸ fare, count ▸ room⟩
  · intro fareClass fare isFare room
    exact least ⟨fareClass, _, fare⟩ (mem_flightClasses.mpr ⟨isFare, rfl⟩) room
  · intro fareClass isFare room bookingId
    exact holdAuto_priced of.flight of.sale (matching.priced of.flight) some isFare room bookingId

/-- The search answers exactly the bookable flights, each once and in the order asked
for, and what each result promises holds: the classes and their free seats, the lowest
fare with room, and an auto hold at it. -/
theorem search_exact (zones : TimeZones) (db : Db) (query : FlightSearchQuery) (now : Instant)
    (matching : db.FaresMatchSeats) (some : 0 < query.passengers) :
    (∀ id, (∃ r ∈ searchRows zones db query now none, r.id = id) ↔
      ∃ flight, Bookable zones db query now flight ∧ flight.id = id) ∧
    ((searchRows zones db query now none).map (·.id)).Nodup ∧
    (searchRows zones db query now none).Pairwise
      (fun a b => a.sortKey query.sort < b.sortKey query.sort) ∧
    ∀ r ∈ searchRows zones db query now none, r.Promises db query.passengers now := by
  refine ⟨fun id => ?_, ?_, strict_searchRows zones db query now none, fun r mem => ?_⟩
  · rw [← matched_iff_bookable matching some id]
    constructor
    · rintro ⟨r, mem, own⟩
      obtain ⟨⟨c, of, matched⟩, -⟩ := mem_searchRows.mp mem
      exact ⟨c, r, of, matched, own⟩
    · rintro ⟨c, r, of, matched, own⟩
      exact ⟨r, mem_searchRows.mpr ⟨⟨c, of, matched⟩, by simp⟩, own⟩
  · exact nodup_searchRows zones db query now none
  · obtain ⟨⟨c, of, matched⟩, -⟩ := mem_searchRows.mp mem
    exact promises_of_match matching some of matched

/-- `twoSeats`, flying from Huế to Đà Nẵng. -/
def hueDb : Db :=
  { twoSeats with
    airports := ⟨[⟨1, "HUI", "Asia/Ho_Chi_Minh"⟩, ⟨2, "DAD", "Asia/Ho_Chi_Minh"⟩], by decide⟩ }

/-- Seven hours ahead of UTC, always. -/
def indochinaTime : TimeZones := fun _ l => l - 7 * 60 * 60

def hueQuery : FlightSearchQuery := ⟨"HUI", "DAD", 11, 11, 1, .price⟩

theorem search_exact_hue :
    (∃ r ∈ searchRows indochinaTime hueDb hueQuery 0 none, r.id = 1) ∧
    ∀ r ∈ searchRows indochinaTime hueDb hueQuery 0 none, r.Promises hueDb 1 0 := by
  have matching : hueDb.FaresMatchSeats := by
    intro flight mem fareClass
    obtain rfl := List.mem_singleton.mp mem
    cases fareClass
    · exact iff_of_true ⟨_, List.mem_singleton_self _, rfl, rfl⟩ ⟨_, List.mem_cons_self, rfl, rfl⟩
    · refine iff_of_false ?_ ?_
      · rintro ⟨f, mem, -, other⟩
        obtain rfl := List.mem_singleton.mp mem
        cases other
      · rintro ⟨s, mem, -, other⟩
        rcases List.mem_cons.mp mem with rfl | mem
        · cases other
        · obtain rfl := List.mem_singleton.mp mem
          cases other
  obtain ⟨found, -, -, promises⟩ := search_exact indochinaTime hueDb hueQuery 0 matching (by decide)
  refine ⟨(found 1).mpr ⟨⟨1, "VN1", 1, 2, 1, 1000000000, 1007200000, .open⟩, ?_, rfl⟩, promises⟩
  exact
    { mem := List.mem_singleton_self _
      leaves := ⟨⟨1, "HUI", "Asia/Ho_Chi_Minh"⟩, List.mem_cons_self, rfl, rfl, by decide⟩
      reaches := ⟨⟨2, "DAD", "Asia/Ho_Chi_Minh"⟩, by exact .tail _ (.head _), rfl, rfl⟩
      stored := rfl
      sales := by decide
      room := ⟨.economy, by decide⟩ }

end FlightBooking
