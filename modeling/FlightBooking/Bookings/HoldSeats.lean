import FlightBooking.Library.Ordering
import FlightBooking.Bookings.Outcomes

/-!
What a hold does when nobody comes between its statements.

`holdAlone` runs `holdSeats` on one version of the database. The expected outcome
is stated on its own: which seats (`Lowest` free ones of a class, or the ones
asked for), at which price (`HeldAs`), and otherwise which refusal
(`expectedRefusal`). The main result is `holdSeats_exact`.
-/

namespace FlightBooking

open Relational ReadCommitted Ordering

variable {db : Db} {flightId bookingId : Uuid} {now : Instant}

/-- A hold on one version of the database: its answer and its changes, or the error
that undoes it. -/
def holdAlone (db : Db) (flightId bookingId : Uuid) (request : SeatHoldRequest) (now : Instant) :
    Except Failure (Except HoldRefusal (List HeldSeat) × Changes) :=
  execute (S := postgres) [] db (holdSeats flightId bookingId request now) {}

/-! ### What is expected -/

/-- The AVAILABLE seats of a class on a flight. -/
def freeSeats (db : Db) (flightId : Uuid) (fareClass : FareClass) : List FlightSeat :=
  db.seats.rows.filter (isFree flightId fareClass)

/-- The seat a code names on a flight, if the flight has it. -/
def seatAt (db : Db) (flightId : Uuid) (code : SeatPosition) : Option FlightSeat :=
  db.seats.find? (flightId, code)

def fareOf (db : Db) (flightId : Uuid) (fareClass : FareClass) : Option Money :=
  (db.fares.find? (flightId, fareClass)).map (·.amount)

/-- BR-FLT-09, the half a hold relies on: every seat's class has a fare. -/
def Db.Priced (db : Db) (flightId : Uuid) : Prop :=
  ∀ s ∈ db.seats, s.flightId = flightId → (fareOf db flightId s.fareClass).isSome

/-- Seats as held, one for one: each with its own class and that class's fare. -/
def HeldAs (db : Db) (seats : List FlightSeat) (held : List HeldSeat) : Prop :=
  List.Forall₂ (fun s h => h.seat = s.position ∧ h.fareClass = s.fareClass ∧
    fareOf db s.flightId s.fareClass = some h.price) seats held

theorem HeldAs.seat {seats : List FlightSeat} {held : List HeldSeat} (as : HeldAs db seats held)
    {h : HeldSeat} (mem : h ∈ held) : ∃ s ∈ seats, h.seat = s.position ∧
      h.fareClass = s.fareClass ∧ fareOf db s.flightId s.fareClass = some h.price := by
  induction as with
  | nil => exact absurd mem List.not_mem_nil
  | @cons s h' seats held first rest ih =>
      rcases List.mem_cons.mp mem with rfl | later
      · exact ⟨s, List.mem_cons_self, first⟩
      · obtain ⟨s', memS, of⟩ := ih later
        exact ⟨s', List.mem_cons_of_mem _ memS, of⟩

/-- A request that can be met on a flight on sale. -/
def SeatHoldRequest.Available (db : Db) (flightId : Uuid) : SeatHoldRequest → Prop
  | .auto count fareClass => count ≤ (freeSeats db flightId fareClass).length
  | .chosen seats => ∀ code ∈ seats, ∃ s, seatAt db flightId code = some s ∧ s.status = .available

/-- The seats a hold takes, in the order it answers them. -/
def SeatHoldRequest.Picks (db : Db) (flightId : Uuid) : SeatHoldRequest → List FlightSeat → Prop
  | .auto count fareClass, picked =>
      Lowest FlightSeat.before count (freeSeats db flightId fareClass) picked
  | .chosen seats, picked => picked.map (·.position) = seats ∧
      ∀ s ∈ picked, s ∈ db.seats ∧ s.flightId = flightId ∧ s.status = .available

/-- Why a request for a flight that is on sale is refused. -/
def seatRefusal (db : Db) (flightId : Uuid) : SeatHoldRequest → HoldRefusal
  | .auto _ fareClass =>
      if ∃ s ∈ db.seats.rows, s.flightId = flightId ∧ s.fareClass = fareClass then .notEnoughSeats
      else .fareClassNotOnFlight
  | .chosen seats =>
      let lacking := seats.filter fun code => (seatAt db flightId code).isNone
      if lacking ≠ [] then .unknownSeats lacking
      else .seatsUnavailable
        (seats.filter fun code => (seatAt db flightId code).all (·.status ≠ .available))

/-- Why a flight admits no hold at all. -/
def flightRefusal (db : Db) (flightId : Uuid) (now : Instant) : Option HoldRefusal :=
  match db.flights.find? flightId with
  | none => some .flightNotFound
  | some flight => if onSale flight now then none else some .salesClosed

def expectedRefusal (db : Db) (flightId : Uuid) (request : SeatHoldRequest) (now : Instant) :
    HoldRefusal :=
  (flightRefusal db flightId now).getD (seatRefusal db flightId request)

/-- A request as callers make it: for at least one seat, and for none twice. -/
def SeatHoldRequest.Sensible : SeatHoldRequest → Prop
  | .auto count _ => 0 < count
  | .chosen seats => seats ≠ [] ∧ seats.Nodup

theorem toHoldRequest_sensible (input : CreateBookingInput) : (toHoldRequest input).Sensible := by
  cases input with
  | auto fareClass names count => exact count.1
  | chosen passengers count distinct =>
      refine ⟨fun empty => ?_, distinct⟩
      have length : 1 ≤ passengers.length := count.1
      rw [List.map_eq_nil_iff.mp empty] at length
      simp at length

/-! ### Conditions on the flight -/

/-- The SQL condition and the lifecycle's agree. -/
theorem isBookable_eq_onSale (flight : FlightRow) (now : Instant) :
    isBookable flight.status flight.departureAt now = onSale flight now := by
  have hour : (0 : Int) < SALES_CLOSE_BEFORE_DEPARTURE_MS := by decide
  simp only [isBookable, effectiveFlightStatus, onSale]
  by_cases closed : flight.departureAt - SALES_CLOSE_BEFORE_DEPARTURE_MS ≤ now
  · have late : ¬ flight.departureAt - SALES_CLOSE_BEFORE_DEPARTURE_MS > now := not_lt.mpr closed
    by_cases departed : flight.departureAt ≤ now <;> cases flight.status <;>
      simp [closed, late, departed]
  · have early : flight.departureAt - SALES_CLOSE_BEFORE_DEPARTURE_MS > now := not_le.mp closed
    have ahead : ¬ flight.departureAt ≤ now := not_le.mpr (lt_trans early (Int.sub_lt_self _ hour))
    cases flight.status <;> simp [closed, early, ahead]

theorem flightOnSale_eq_true {now : Instant} : flightOnSale flightId now db = true ↔
    ∃ flight, db.flights.find? flightId = some flight ∧ onSale flight now = true :=
  Option.any_eq_true _ _

theorem flightRefusal_eq_none {now : Instant} :
    flightRefusal db flightId now = none ↔ flightOnSale flightId now db = true := by
  unfold flightRefusal flightOnSale
  cases db.flights.find? flightId with
  | none => simp
  | some flight => by_cases sale : onSale flight now <;> simp [sale]

theorem execute_classifyNothingHeld :
    execute (S := postgres) [] db (classifyNothingHeld flightId now) {} =
      .ok (flightRefusal db flightId now, {}) := by
  rw [classifyNothingHeld, execute_bind, execute_query]
  change execute (S := postgres) [] db (match db.flights.find? flightId with
    | none => pure (some HoldRefusal.flightNotFound)
    | some flight => if isBookable flight.status flight.departureAt now then pure none
        else pure (some HoldRefusal.salesClosed)) {} = _
  unfold flightRefusal
  cases db.flights.find? flightId with
  | none => rfl
  | some flight =>
      simp only [isBookable_eq_onSale]
      split <;> rfl

/-! ### Auto -/

instance : Std.Total FlightSeat.before where
  total a b := by
    simp only [FlightSeat.before, SeatPosition.le, Bool.or_eq_true, Bool.and_eq_true,
      decide_eq_true_eq]
    have letters := Char.le_total a.position.letter b.position.letter
    grind

instance : IsTrans FlightSeat FlightSeat.before where
  trans a b c := by
    simp only [FlightSeat.before, SeatPosition.le, Bool.or_eq_true, Bool.and_eq_true,
      decide_eq_true_eq]
    have letters : a.position.letter ≤ b.position.letter → b.position.letter ≤ c.position.letter →
      a.position.letter ≤ c.position.letter := Char.le_trans
    grind

theorem nodup_freeSeats (db : Db) (flightId : Uuid) (fareClass : FareClass) :
    (freeSeats db flightId fareClass).Nodup :=
  (List.Nodup.of_map _ db.seats.nodup).filter _

theorem holdCandidates_alone (count : Nat) (fareClass : FareClass) :
    holdCandidates flightId count fareClass now [] db db =
      if flightOnSale flightId now db then
        ((freeSeats db flightId fareClass).insertionSort FlightSeat.before).take count
      else [] := by
  simp [holdCandidates, Table.recheck_self, freeSeats]

theorem execute_orThrow_bind {α β : Type} {r : Except Failure α} {f : α → Prog postgres β}
    {log : Changes} : execute (S := postgres) [] db (orThrow r >>= f) log =
      r.bind fun a => execute (S := postgres) [] db (f a) log := by
  cases r <;> rfl

/-- `row` is the answer's row for seat `s`. -/
structure PricedSeat.Of (db : Db) (row : PricedSeat) (s : FlightSeat) : Prop where
  position : row.position = s.position
  fareClass : row.fareClass = s.fareClass
  amount : row.amount = fareOf db s.flightId s.fareClass

theorem priceSeat_of (s : FlightSeat) : (priceSeat db s).Of db s := ⟨rfl, rfl, rfl⟩

theorem priceSeat_holdSeat_of (s : FlightSeat) : (priceSeat db (holdSeat bookingId s)).Of db s :=
  ⟨rfl, rfl, rfl⟩

/-- Held seats are priced by their class, unless a class has no fare. -/
theorem mapM_toHeldSeat_alone {rows : List PricedSeat} {picked : List FlightSeat}
    (of : List.Forall₂ (PricedSeat.Of db) rows picked) :
    (∃ held, HeldAs db picked held ∧ rows.mapM (toHeldSeat flightId) = .ok held) ∨
    ∃ s ∈ picked, fareOf db s.flightId s.fareClass = none ∧
      rows.mapM (toHeldSeat flightId) = .error (.missingFare flightId s.fareClass s.position) := by
  induction of with
  | nil => exact .inl ⟨[], .nil, rfl⟩
  | @cons row s rows picked first _ ih =>
      obtain ⟨position, fareClass, amount⟩ := first
      rw [List.mapM_cons]
      cases fare : fareOf db s.flightId s.fareClass with
      | none =>
          refine .inr ⟨s, List.mem_cons_self, fare, ?_⟩
          rw [toHeldSeat, amount, fare, position, fareClass]
          rfl
      | some price =>
          have priced : toHeldSeat flightId row = .ok ⟨s.position, s.fareClass, price⟩ := by
            rw [toHeldSeat, amount, fare, position, fareClass]
          rw [priced]
          rcases ih with ⟨held, as, rest⟩ | ⟨t, mem, unpriced, rest⟩
          · refine .inl ⟨⟨s.position, s.fareClass, price⟩ :: held, .cons ⟨rfl, rfl, fare⟩ as, ?_⟩
            rw [rest]
            rfl
          · refine .inr ⟨t, List.mem_cons_of_mem _ mem, unpriced, ?_⟩
            rw [rest]
            rfl

/-- What becomes of a hold whose seats were taken: they are held at their fares, or
a fare is missing and everything is undone. -/
def TakenOrUnpriced (db : Db) (flightId bookingId : Uuid) (picked : List FlightSeat)
    (outcome : Except Failure (Except HoldRefusal (List HeldSeat) × Changes)) : Prop :=
  (∃ held taken, HeldAs db picked held ∧ taken.Perm (picked.map (holdSeat bookingId)) ∧
    outcome = .ok (.ok held, { seats := taken })) ∨
  ∃ s ∈ picked, fareOf db s.flightId s.fareClass = none ∧
    outcome = .error (.missingFare flightId s.fareClass s.position)

theorem takenOrUnpriced {rows : List PricedSeat} {picked taken : List FlightSeat}
    (of : List.Forall₂ (PricedSeat.Of db) rows picked)
    (all : taken.Perm (picked.map (holdSeat bookingId))) :
    TakenOrUnpriced db flightId bookingId picked
      ((rows.mapM (toHeldSeat flightId)).bind fun held => .ok (.ok held, { seats := taken })) := by
  rcases mapM_toHeldSeat_alone of with ⟨held, as, done⟩ | ⟨s, mem, unpriced, failed⟩
  · exact .inl ⟨held, taken, as, all, by rw [done]; rfl⟩
  · exact .inr ⟨s, mem, unpriced, by rw [failed]; rfl⟩

theorem holdAuto_alone_ok (bookingId : Uuid) {count : Nat} {fareClass : FareClass}
    (sale : flightOnSale flightId now db = true)
    (enough : count ≤ (freeSeats db flightId fareClass).length) {picked : List FlightSeat}
    (lowest : picked = ((freeSeats db flightId fareClass).insertionSort FlightSeat.before).take count) :
    ∃ locks, holdAuto flightId bookingId count fareClass now [] db db = .ok
      { reply := picked.map (priceSeat db ∘ holdSeat bookingId)
        writes := { seats := picked.map (holdSeat bookingId) }
        locks } := by
  have candidates : holdCandidates flightId count fareClass now [] db db = picked := by
    rw [holdCandidates_alone, if_pos sale, lowest]
  have length : picked.length = count := by simpa [lowest] using enough
  simp only [holdAuto, candidates, if_pos length, List.map_map]
  exact ⟨_, rfl⟩

theorem holdAuto_alone_none (bookingId : Uuid) {count : Nat} {fareClass : FareClass} (positive : 0 < count)
    (unmet : ¬ (flightOnSale flightId now db = true ∧
      count ≤ (freeSeats db flightId fareClass).length)) :
    ∃ locks, holdAuto flightId bookingId count fareClass now [] db db =
      .ok { reply := [], locks } := by
  have short : (holdCandidates flightId count fareClass now [] db db).length ≠ count := by
    rw [holdCandidates_alone]
    split
    · rename_i sale
      have few : (freeSeats db flightId fareClass).length < count :=
        not_le.mp fun enough => unmet ⟨sale, enough⟩
      rw [List.length_take, List.length_insertionSort]
      omega
    · exact positive.ne
  simp only [holdAuto, if_neg short]
  exact ⟨_, rfl⟩

theorem holdAutoSeats_held {count : Nat} {fareClass : FareClass} (positive : 0 < count)
    (sale : flightOnSale flightId now db = true)
    (enough : count ≤ (freeSeats db flightId fareClass).length) :
    ∃ picked, Lowest FlightSeat.before count (freeSeats db flightId fareClass) picked ∧
      TakenOrUnpriced db flightId bookingId picked
        (holdAlone db flightId bookingId (.auto count fareClass) now) := by
  set picked := ((freeSeats db flightId fareClass).insertionSort FlightSeat.before).take count
    with lowest
  obtain ⟨locks, done⟩ := holdAuto_alone_ok bookingId sale enough lowest
  have isLowest := lowest_take (nodup_freeSeats db flightId fareClass) enough (r := FlightSeat.before)
  have many : 0 < (picked.map (priceSeat db ∘ holdSeat bookingId)).length := by
    rw [List.length_map, isLowest.length]
    exact positive
  have outcome : holdAlone db flightId bookingId (.auto count fareClass) now =
      ((picked.map (priceSeat db ∘ holdSeat bookingId)).mapM (toHeldSeat flightId)).bind
        fun held => .ok (.ok held, { seats := picked.map (holdSeat bookingId) }) := by
    rw [holdAlone, holdSeats, holdAutoSeats, execute_bind, execute_query]
    change ((holdAuto flightId bookingId count fareClass now [] db db).map _).bind _ = _
    rw [done]
    change execute (S := postgres) [] db (if _ then _ else _) _ = _
    rw [if_pos many, execute_orThrow_bind]
    rfl
  refine ⟨picked, isLowest, outcome ▸ takenOrUnpriced ?_ (.refl _)⟩
  rw [List.forall₂_map_left_iff, List.forall₂_same]
  exact fun s _ => priceSeat_holdSeat_of s

theorem holdAutoSeats_refused {count : Nat} {fareClass : FareClass} (positive : 0 < count)
    (unmet : ¬ (flightOnSale flightId now db = true ∧
      count ≤ (freeSeats db flightId fareClass).length)) :
    holdAlone db flightId bookingId (.auto count fareClass) now =
      .ok (.error (expectedRefusal db flightId (.auto count fareClass) now), {}) := by
  obtain ⟨locks, done⟩ := holdAuto_alone_none bookingId positive unmet
  rw [holdAlone, holdSeats, holdAutoSeats, execute_bind, execute_query]
  change ((holdAuto flightId bookingId count fareClass now [] db db).map _).bind _ = _
  rw [done]
  change execute (S := postgres) [] db (classifyNothingHeld flightId now >>= _) {} = _
  rw [execute_bind, execute_classifyNothingHeld, expectedRefusal]
  cases flightRefusal db flightId now with
  | some reason => rfl
  | none =>
      change execute (S := postgres) [] db (query (hasFareClass flightId fareClass) >>= _) {} = _
      rw [execute_bind, execute_query]
      have same : (db.seats.rows.any fun s => s.flightId = flightId && s.fareClass = fareClass) =
          decide (∃ s ∈ db.seats.rows, s.flightId = flightId ∧ s.fareClass = fareClass) := by
        rw [Bool.eq_iff_iff]
        simp
      change Except.ok (Except.error (if (db.seats.rows.any fun s => s.flightId = flightId &&
        s.fareClass = fareClass) then HoldRefusal.notEnoughSeats else .fareClassNotOnFlight), _) = _
      rw [same]
      simp only [seatRefusal, decide_eq_true_eq, Option.getD_none]
      rfl

/-! ### Chosen -/

variable {requested : List SeatPosition} {locked : List FlightSeat}

/-- `locked` are the requested seats the flight has. -/
def LocksRequested (db : Db) (flightId : Uuid) (requested : List SeatPosition)
    (locked : List FlightSeat) : Prop :=
  (locked.map key).Nodup ∧
    ∀ s, s ∈ locked ↔ s ∈ db.seats ∧ s.flightId = flightId ∧ s.position ∈ requested

theorem requestedSeats_alone (requested : List SeatPosition)
    (sale : flightOnSale flightId now db = true) :
    LocksRequested db flightId requested (requestedSeats flightId requested now db db) := by
  refine ⟨nodup_requestedSeats .., fun s => ?_⟩
  simp [requestedSeats, sale, Table.mem_recheck_self]

theorem requestedSeats_off (off : flightOnSale flightId now db = false) :
    requestedSeats flightId requested now db db = [] := by
  simp [requestedSeats, off]

theorem seatAt_eq_some {code : SeatPosition} {s : FlightSeat} :
    seatAt db flightId code = some s ↔
      s ∈ db.seats ∧ s.flightId = flightId ∧ s.position = code := by
  rw [seatAt, Table.find?_eq_some, and_congr_right_iff]
  exact fun _ => Prod.mk.injEq .. ▸ Iff.rfl

/-- A requested seat is found among the locked ones if the flight has it. -/
theorem LocksRequested.find?_eq (locks : LocksRequested db flightId requested locked)
    {code : SeatPosition} (mem : code ∈ requested) :
    (locked.find? fun s => s.position = code) = seatAt db flightId code := by
  cases found : locked.find? fun s => s.position = code with
  | some s =>
      have here : s.position = code := by simpa using List.find?_some found
      obtain ⟨memDb, own, -⟩ := (locks.2 s).mp (List.mem_of_find?_eq_some found)
      exact (seatAt_eq_some.mpr ⟨memDb, own, here⟩).symm
  | none =>
      cases there : seatAt db flightId code with
      | none => rfl
      | some s =>
          obtain ⟨memDb, own, here⟩ := seatAt_eq_some.mp there
          have out := List.find?_eq_none.mp found s ((locks.2 s).mpr ⟨memDb, own, here ▸ mem⟩)
          simp [here] at out

/-- Every requested seat is there exactly when as many were locked. -/
theorem LocksRequested.length_eq_iff (locks : LocksRequested db flightId requested locked)
    (distinct : requested.Nodup) :
    locked.length = requested.length ↔ ∀ code ∈ requested, (seatAt db flightId code).isSome := by
  have positions : (locked.map (·.position)).Nodup :=
    List.Nodup.map_on (fun a memA b memB same => List.inj_on_of_nodup_map locks.1 memA memB
      (Prod.ext (((locks.2 a).mp memA).2.1.trans ((locks.2 b).mp memB).2.1.symm) same))
      (List.Nodup.of_map _ locks.1)
  have sub : locked.map (·.position) ⊆ requested := fun code mem => by
    obtain ⟨s, memS, rfl⟩ := List.mem_map.mp mem
    exact ((locks.2 s).mp memS).2.2
  constructor
  · intro length code mem
    have perm := (List.subperm_of_subset positions sub).perm_of_length_le (by simp [length])
    obtain ⟨s, memS, rfl⟩ := List.mem_map.mp (perm.mem_iff.mpr mem)
    obtain ⟨memDb, own, -⟩ := (locks.2 s).mp memS
    exact Option.isSome_iff_exists.mpr ⟨s, seatAt_eq_some.mpr ⟨memDb, own, rfl⟩⟩
  · intro all
    have back : requested ⊆ locked.map (·.position) := fun code mem => by
      obtain ⟨s, there⟩ := Option.isSome_iff_exists.mp (all code mem)
      obtain ⟨memDb, own, here⟩ := seatAt_eq_some.mp there
      exact List.mem_map.mpr ⟨s, (locks.2 s).mpr ⟨memDb, own, here ▸ mem⟩, here⟩
    have perm := (List.perm_ext_iff_of_nodup positions distinct).mpr fun code =>
      ⟨fun mem => sub mem, fun mem => back mem⟩
    simpa using perm.length_eq

theorem LocksRequested.verdict_iff (locks : LocksRequested db flightId requested locked)
    (distinct : requested.Nodup) :
    (locked.length = requested.length ∧ ∀ s ∈ locked, s.status = .available) ↔
      (SeatHoldRequest.chosen requested).Available db flightId := by
  rw [locks.length_eq_iff distinct]
  constructor
  · rintro ⟨all, free⟩ code mem
    obtain ⟨s, there⟩ := Option.isSome_iff_exists.mp (all code mem)
    obtain ⟨memDb, own, here⟩ := seatAt_eq_some.mp there
    exact ⟨s, there, free s ((locks.2 s).mpr ⟨memDb, own, here ▸ mem⟩)⟩
  · intro available
    refine ⟨fun code mem => ?_, fun s mem => ?_⟩
    · obtain ⟨s, there, -⟩ := available code mem
      exact Option.isSome_iff_exists.mpr ⟨s, there⟩
    · obtain ⟨memDb, own, wanted⟩ := (locks.2 s).mp mem
      obtain ⟨s', there, free⟩ := available s.position wanted
      cases there.symm.trans (seatAt_eq_some.mpr ⟨memDb, own, rfl⟩)
      exact free

/-- The rows found for the requested codes are those of the seats they name. -/
theorem LocksRequested.inOrder (locks : LocksRequested db flightId requested locked) :
    (requested.filterMap fun code => (locked.map (priceSeat db)).find?
      fun row => row.position = code) =
      (requested.filterMap (seatAt db flightId)).map (priceSeat db) := by
  rw [List.map_filterMap]
  refine List.filterMap_congr fun code mem => ?_
  rw [List.find?_map, ← locks.find?_eq mem]
  rfl

theorem picks_chosen (available : (SeatHoldRequest.chosen requested).Available db flightId) :
    (SeatHoldRequest.chosen requested).Picks db flightId
      (requested.filterMap (seatAt db flightId)) := by
  refine ⟨?_, fun s mem => ?_⟩
  · rw [List.map_filterMap]
    refine (List.filterMap_congr fun code mem => ?_).trans (List.filterMap_some ..)
    obtain ⟨s, there, -⟩ := available code mem
    rw [there, Option.map_some, (seatAt_eq_some.mp there).2.2]
  · obtain ⟨code, mem, there⟩ := List.mem_filterMap.mp mem
    obtain ⟨s', there', free⟩ := available code mem
    cases there'.symm.trans there
    obtain ⟨memDb, own, -⟩ := seatAt_eq_some.mp there
    exact ⟨memDb, own, free⟩

theorem LocksRequested.perm (locks : LocksRequested db flightId requested locked)
    (distinct : requested.Nodup)
    (available : (SeatHoldRequest.chosen requested).Available db flightId) :
    locked.Perm (requested.filterMap (seatAt db flightId)) := by
  have positions : ((requested.filterMap (seatAt db flightId)).map (·.position)).Nodup := by
    rw [(picks_chosen available).1]
    exact distinct
  refine (List.perm_ext_iff_of_nodup (List.Nodup.of_map _ locks.1)
    (List.Nodup.of_map _ positions)).mpr fun s => ?_
  rw [locks.2 s, List.mem_filterMap]
  constructor
  · rintro ⟨memDb, own, wanted⟩
    exact ⟨s.position, wanted, seatAt_eq_some.mpr ⟨memDb, own, rfl⟩⟩
  · rintro ⟨code, mem, there⟩
    obtain ⟨memDb, own, here⟩ := seatAt_eq_some.mp there
    exact ⟨memDb, own, here ▸ mem⟩

theorem holdChosenSeats_held (nonempty : requested ≠ []) (distinct : requested.Nodup)
    (sale : flightOnSale flightId now db = true)
    (available : (SeatHoldRequest.chosen requested).Available db flightId) :
    TakenOrUnpriced db flightId bookingId (requested.filterMap (seatAt db flightId))
      (holdAlone db flightId bookingId (.chosen requested) now) := by
  have locks := requestedSeats_alone requested sale
  have verdict := (locks.verdict_iff distinct).mpr available
  have some : (requestedSeats flightId requested now db db).isEmpty = false := by
    rw [List.isEmpty_eq_false_iff]
    refine List.ne_nil_of_length_pos ?_
    rw [verdict.1]
    exact List.length_pos_iff.mpr nonempty
  have outcome : holdAlone db flightId bookingId (.chosen requested) now =
      (((requested.filterMap (seatAt db flightId)).map (priceSeat db)).mapM
        (toHeldSeat flightId)).bind fun held => .ok (.ok held,
          { seats := (requestedSeats flightId requested now db db).map (holdSeat bookingId) }) := by
    rw [holdAlone, holdSeats, holdChosenSeats, execute_bind, execute_query]
    change ((holdChosen flightId bookingId requested now [] db db).map _).bind _ = _
    simp only [holdChosen, if_pos verdict, some, Bool.not_false]
    change execute (S := postgres) [] db (orThrow _ >>= _) _ = _
    rw [execute_orThrow_bind, locks.inOrder]
    rfl
  rw [outcome]
  refine takenOrUnpriced ?_ ((locks.perm distinct available).map _)
  rw [List.forall₂_map_left_iff, List.forall₂_same]
  exact fun s _ => priceSeat_of s

theorem LocksRequested.lacking (locks : LocksRequested db flightId requested locked) :
    (requested.filter fun code => (locked.map (priceSeat db)).all fun row => row.position ≠ code) =
      requested.filter fun code => (seatAt db flightId code).isNone := by
  refine List.filter_congr fun code mem => ?_
  rw [← locks.find?_eq mem, Bool.eq_iff_iff, Option.isNone_iff_eq_none, List.find?_eq_none,
    List.all_eq_true]
  simp only [List.mem_map, forall_exists_index, and_imp, forall_apply_eq_imp_iff₂, priceSeat,
    decide_eq_true_eq]

theorem LocksRequested.taken (locks : LocksRequested db flightId requested locked) :
    (requested.filter fun code => (locked.map (priceSeat db)).all fun row =>
      row.position ≠ code ∨ row.status ≠ .available) =
      requested.filter fun code => (seatAt db flightId code).all (·.status ≠ .available) := by
  refine List.filter_congr fun code mem => ?_
  rw [Bool.eq_iff_iff, List.all_eq_true, Option.all_eq_true]
  simp only [List.mem_map, forall_exists_index, and_imp, forall_apply_eq_imp_iff₂, priceSeat,
    decide_eq_true_eq]
  constructor
  · intro all s there
    obtain ⟨memDb, own, here⟩ := seatAt_eq_some.mp there
    exact (all s ((locks.2 s).mpr ⟨memDb, own, here ▸ mem⟩)).resolve_left (not_not.mpr here)
  · intro all s memL
    obtain ⟨memDb, own, -⟩ := (locks.2 s).mp memL
    by_cases here : s.position = code
    · exact .inr (all s (seatAt_eq_some.mpr ⟨memDb, own, here⟩))
    · exact .inl here

theorem classifyRefusal_alone (locks : LocksRequested db flightId requested locked)
    (sale : flightOnSale flightId now db = true) :
    execute (S := postgres) [] db
      (classifyRefusal flightId requested (locked.map (priceSeat db)) now) {} =
      .ok (seatRefusal db flightId (.chosen requested), {}) := by
  have reason : execute (S := postgres) [] db
      (classifyRefusal.classifyIfEmpty flightId (locked.map (priceSeat db)) now) {} =
        .ok (none, {}) := by
    unfold classifyRefusal.classifyIfEmpty
    split
    · rw [execute_classifyNothingHeld, flightRefusal_eq_none.mpr sale]
    · rfl
  rw [classifyRefusal, execute_bind, reason]
  change execute (S := postgres) [] db (if _ then _ else _) _ = _
  simp only [locks.lacking, locks.taken, seatRefusal, List.length_pos_iff]
  split <;> rfl

theorem classifyRefusal_off (off : flightOnSale flightId now db = false) :
    execute (S := postgres) [] db (classifyRefusal flightId requested [] now) {} =
      .ok (expectedRefusal db flightId (.chosen requested) now, {}) := by
  have closed : flightRefusal db flightId now ≠ none := fun none => by
    rw [flightRefusal_eq_none.mp none] at off
    cases off
  obtain ⟨reason, why⟩ := Option.ne_none_iff_exists'.mp closed
  rw [classifyRefusal, classifyRefusal.classifyIfEmpty, if_pos List.isEmpty_nil, execute_bind,
    execute_classifyNothingHeld, expectedRefusal, why]
  rfl

theorem holdChosenSeats_refused (nonempty : requested ≠ []) (distinct : requested.Nodup)
    (unmet : ¬ (flightOnSale flightId now db = true ∧
      (SeatHoldRequest.chosen requested).Available db flightId)) :
    holdAlone db flightId bookingId (.chosen requested) now =
      .ok (.error (expectedRefusal db flightId (.chosen requested) now), {}) := by
  rw [holdAlone, holdSeats, holdChosenSeats, execute_bind, execute_query]
  change ((holdChosen flightId bookingId requested now [] db db).map _).bind _ = _
  cases sale : flightOnSale flightId now db with
  | false =>
      have none : ([] : List FlightSeat).length ≠ requested.length :=
        (List.length_pos_iff.mpr nonempty).ne
      simp only [holdChosen, requestedSeats_off sale, none, false_and, if_false, List.map_nil]
      change execute (S := postgres) [] db (classifyRefusal flightId requested [] now >>= _) {} = _
      rw [execute_bind, classifyRefusal_off sale]
      rfl
  | true =>
      have locks := requestedSeats_alone requested sale
      have verdict := fun met => unmet ⟨sale, (locks.verdict_iff distinct).mp met⟩
      simp only [holdChosen, if_neg verdict]
      change execute (S := postgres) [] db (classifyRefusal flightId requested
        ((requestedSeats flightId requested now db db).map (priceSeat db)) now >>= _) {} = _
      rw [execute_bind, classifyRefusal_alone locks sale, expectedRefusal,
        flightRefusal_eq_none.mpr sale]
      rfl

/-! ### The main result -/

theorem holdSeats_held (bookingId : Uuid) {request : SeatHoldRequest} (sensible : request.Sensible)
    (sale : flightOnSale flightId now db = true) (available : request.Available db flightId) :
    ∃ picked, request.Picks db flightId picked ∧ TakenOrUnpriced db flightId bookingId picked
      (holdAlone db flightId bookingId request now) := by
  cases request with
  | auto count fareClass => exact holdAutoSeats_held sensible sale available
  | chosen seats =>
      exact ⟨_, picks_chosen available, holdChosenSeats_held sensible.1 sensible.2 sale available⟩

theorem holdSeats_refused {request : SeatHoldRequest} (sensible : request.Sensible)
    (unmet : ¬ (flightOnSale flightId now db = true ∧ request.Available db flightId)) :
    holdAlone db flightId bookingId request now =
      .ok (.error (expectedRefusal db flightId request now), {}) := by
  cases request with
  | auto count fareClass => exact holdAutoSeats_refused sensible unmet
  | chosen seats => exact holdChosenSeats_refused sensible.1 sensible.2 unmet

theorem SeatHoldRequest.Picks.seat {request : SeatHoldRequest} {picked : List FlightSeat}
    (picks : request.Picks db flightId picked) {s : FlightSeat} (mem : s ∈ picked) :
    s ∈ db.seats ∧ s.flightId = flightId := by
  cases request with
  | auto count fareClass =>
      obtain ⟨memDb, free⟩ := List.mem_filter.mp (picks.mem s mem)
      simp only [isFree, Bool.and_eq_true, decide_eq_true_eq] at free
      exact ⟨memDb, free.1.1⟩
  | chosen seats => exact ⟨(picks.2 s mem).1, (picks.2 s mem).2.1⟩

/-- Where every seat has a fare, a hold that can be met succeeds. -/
theorem holdSeats_priced (bookingId : Uuid) {request : SeatHoldRequest} (sensible : request.Sensible)
    (sale : flightOnSale flightId now db = true) (available : request.Available db flightId)
    (priced : db.Priced flightId) :
    ∃ picked held log, request.Picks db flightId picked ∧ HeldAs db picked held ∧
      holdAlone db flightId bookingId request now = .ok (.ok held, log) := by
  obtain ⟨picked, picks, ⟨held, taken, as, -, done⟩ | ⟨s, mem, unpriced, -⟩⟩ :=
    holdSeats_held bookingId sensible sale available
  · exact ⟨picked, held, _, picks, as, done⟩
  · obtain ⟨memDb, own⟩ := picks.seat mem
    have fare := priced s memDb own
    rw [← own, unpriced] at fare
    cases fare

/-- A flight on sale with two economy seats, the first of them taken. -/
def twoSeats : Db where
  flights := ⟨[⟨1, "VN1", 1, 2, 1, 1000000000, 1007200000, .open⟩], by decide⟩
  seats := ⟨[⟨1, ⟨1, 'A'⟩, .economy, .booked, some 4⟩, ⟨1, ⟨1, 'B'⟩, .economy, .available, none⟩],
    by decide⟩
  fares := ⟨[⟨1, .economy, ⟨1200000, by decide⟩⟩], by decide⟩

end FlightBooking
