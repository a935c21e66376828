import FlightBooking.Flights.Layout
import FlightBooking.Flights.SearchResults

/-!
One availability.

The list counts the free seats of a flight, the details and the search sum them over
its fares, a reader of the seat map counts the seats shown. On a flight that is laid
out they are one number (`counts_agree`), and no hold misses a fare
(`holdSeats_priced_aborts`).
-/

namespace FlightBooking

open Relational ReadCommitted

variable {T : Timeline postgres} {n i : Nat} {c' : Cursor postgres} {now : Instant} {db : Db}
  {flightId bookingId : Uuid} {e : Failure}

/-! ### Counting by class -/

theorem sum_indicator {κ : Type} [DecidableEq κ] (kinds : List κ) (a : κ) :
    (kinds.map fun k => if a = k then 1 else 0).sum = kinds.count a := by
  induction kinds with
  | nil => rfl
  | cons k kinds ih =>
      rw [List.map_cons, List.sum_cons, ih, List.count_cons, Nat.add_comm]
      congr 1
      exact if_congr (by rw [beq_iff_eq, eq_comm]) rfl rfl

/-- Counting each kind on its own counts everything of these kinds. -/
theorem sum_countP_kinds {α κ : Type} [DecidableEq κ] {kinds : List κ} (distinct : kinds.Nodup)
    {p : α → Bool} {kind : α → κ} {l : List α} (covered : ∀ a ∈ l, p a = true → kind a ∈ kinds) :
    (kinds.map fun k => l.countP fun a => p a && kind a = k).sum = l.countP p := by
  induction l with
  | nil => simp
  | cons a l ih =>
      have rest := ih fun b mem => covered b (List.mem_cons_of_mem _ mem)
      simp only [List.countP_cons, List.sum_map_add, rest]
      congr 1
      cases sel : p a with
      | false => simp
      | true =>
          have once := List.count_eq_one_of_mem distinct (covered a List.mem_cons_self sel)
          simpa [once] using sum_indicator kinds (kind a)

/-! ### The four readings -/

theorem Laid.priced (inv : Laid db) {s : FlightSeat} (mem : s ∈ db.seats) :
    ∃ f ∈ db.fares, f.flightId = s.flightId ∧ f.fareClass = s.fareClass := by
  obtain ⟨flight, found⟩ := Option.isSome_iff_exists.mp (inv.seats s mem)
  obtain ⟨memF, own⟩ := Table.find?_eq_some.mp found
  obtain ⟨f, there, same, kind⟩ := ((inv.flights flight memF).classes s.fareClass).mpr
    ⟨s, mem, own.symm, rfl⟩
  exact ⟨f, there, same.trans own, kind⟩

/-- The free seats of the classes of a flight are its free seats. -/
theorem sum_flightClasses (inv : Laid db) (flightId : Uuid) :
    ((flightClasses db flightId).map (·.availableSeats)).sum = AVAILABLE_SEATS db flightId := by
  have counts : (flightClasses db flightId).map (·.availableSeats) =
      ((flightClasses db flightId).map (·.fareClass)).map fun fareClass => db.seats.rows.countP
        fun s => (s.flightId = flightId && s.status = .available) && s.fareClass = fareClass := by
    rw [List.map_map]
    refine List.map_congr_left fun entry mem => ?_
    rw [(mem_flightClasses.mp mem).2, ← availableOf_eq, availableOf]
    refine List.countP_congr fun s _ => ?_
    simp only [Bool.and_right_comm]
  rw [counts, AVAILABLE_SEATS]
  refine sum_countP_kinds (nodup_flightClasses db flightId) fun s mem free => ?_
  simp only [Bool.and_eq_true, decide_eq_true_eq] at free
  obtain ⟨f, memF, own, kind⟩ := inv.priced mem
  refine List.mem_map.mpr ⟨⟨s.fareClass, (freeSeats db flightId s.fareClass).length, f.amount⟩,
    mem_flightClasses.mpr ⟨?_, rfl⟩, rfl⟩
  exact fareOf_eq_some.mpr ⟨f, memF, own.trans free.1, kind, rfl⟩

/-- A row of the seat map ends up in one of its rows. -/
theorem flatMap_addToRow (rows : List SeatMapRow) (seat : FlightSeat) :
    (addToRow rows seat).flatMap (·.seats) = rows.flatMap (·.seats) ++ [toSeatMapSeat seat] := by
  unfold addToRow
  split
  · rename_i current last
    split
    · obtain ⟨before, rfl⟩ := List.getLast?_eq_some_iff.mp last
      simp
    · simp
  · simp

theorem flatMap_groupByRow (seats : List FlightSeat) :
    (groupByRow seats).flatMap (·.seats) = seats.map toSeatMapSeat := by
  suffices all : ∀ rows, (seats.foldl addToRow rows).flatMap (·.seats) =
      rows.flatMap (·.seats) ++ seats.map toSeatMapSeat by
    exact all []
  induction seats with
  | nil => simp
  | cons seat seats ih =>
      intro rows
      rw [List.foldl_cons, ih, flatMap_addToRow, List.append_assoc]
      rfl

/-- Free seats on the map of these seats. -/
theorem countP_groupByRow (db : Db) (flightId : Uuid) :
    ((groupByRow ((db.seats.rows.filter (·.flightId = flightId)).insertionSort
      FlightSeat.before)).flatMap (·.seats)).countP (·.status = .available) =
      AVAILABLE_SEATS db flightId := by
  rw [flatMap_groupByRow, List.countP_map, (List.perm_insertionSort _ _).countP_eq,
    List.countP_filter, AVAILABLE_SEATS]
  refine List.countP_congr fun s _ => ?_
  simp only [Function.comp_apply, toSeatMapSeat, Bool.and_eq_true, decide_eq_true_eq, and_comm]
  exact and_congr_right fun _ => decide_eq_true_iff

/-- Every reader of a flight comes to the same number of free seats. -/
structure CountsAgree (db : Db) (flight : FlightRow) : Prop where
  listed : ∃ stored, mapFlight db flight = some stored ∧
    stored.availableSeats = AVAILABLE_SEATS db flight.id
  detailed : ∃ details, findDetails db flight.id = some details ∧
    details.flight.availableSeats = AVAILABLE_SEATS db flight.id ∧
    (details.availability.map (·.availableSeats)).sum = AVAILABLE_SEATS db flight.id
  searched : ∀ zones query now after, ∀ r ∈ searchRows zones db query now after,
    r.id = flight.id → (r.availability.map (·.availableSeats)).sum = AVAILABLE_SEATS db flight.id
  mapped : ∃ map, getFlightSeatMap db flight.id = some map ∧
    map.free = AVAILABLE_SEATS db flight.id

theorem counts_agree (inv : Laid db) {flight : FlightRow} (mem : flight ∈ db.flights) :
    CountsAgree db flight := by
  obtain ⟨origin, leaves⟩ := Option.isSome_iff_exists.mp (inv.flights flight mem).leaves
  obtain ⟨destination, reaches⟩ := Option.isSome_iff_exists.mp (inv.flights flight mem).reaches
  have found : db.flights.find? flight.id = some flight := Table.find?_of_mem mem
  constructor
  · simp [mapFlight, leaves, reaches]
  · simp [findDetails, found, leaves, reaches, sum_flightClasses inv]
  · intro zones query now after r memR own
    obtain ⟨⟨c, -, matched⟩, -⟩ := mem_searchRows.mp memR
    obtain ⟨lowest, -, rfl⟩ := matchFlight_eq_some.mp matched
    rw [← own]
    exact sum_flightClasses inv c.flight.id
  · simp only [getFlightSeatMap, findSeats, found, Option.bind_some, mapFlight, leaves, reaches,
      Option.map_some]
    exact ⟨_, rfl, countP_groupByRow db flight.id⟩

/-- The list never fails, and every item on it says how many seats are free. -/
theorem findFlightPage_ok (inv : Laid db) (limit offset : Nat) :
    ∃ page, findFlightPage db limit offset = some page ∧
      ∀ item ∈ page, item.availableSeats = AVAILABLE_SEATS db item.id := by
  have all : ∀ rows : List FlightRow, (∀ flight ∈ rows, flight ∈ db.flights) →
      ∃ page, rows.mapM (mapFlight db) = some page ∧
        ∀ item ∈ page, item.availableSeats = AVAILABLE_SEATS db item.id := by
    intro rows sub
    induction rows with
    | nil => exact ⟨[], rfl, by simp⟩
    | cons flight rows ih =>
        obtain ⟨page, rest, counted⟩ := ih fun f mem => sub f (List.mem_cons_of_mem _ mem)
        have laid := inv.flights flight (sub flight List.mem_cons_self)
        obtain ⟨origin, leaves⟩ := Option.isSome_iff_exists.mp laid.leaves
        obtain ⟨destination, reaches⟩ := Option.isSome_iff_exists.mp laid.reaches
        have first : ∃ item, mapFlight db flight = some item ∧
            item.availableSeats = AVAILABLE_SEATS db item.id := by
          simp [mapFlight, leaves, reaches]
        obtain ⟨item, done, count⟩ := first
        refine ⟨item :: page, by rw [List.mapM_cons, done, rest]; rfl, fun other mem => ?_⟩
        rcases List.mem_cons.mp mem with rfl | mem
        · exact count
        · exact counted other mem
  refine all _ fun flight mem => ?_
  exact (List.mem_insertionSort _).mp (List.mem_of_mem_drop (List.mem_of_mem_take mem))

/-! ### No fare is missing -/

/-- Every row has a price. -/
def AllPriced (rows : List PricedSeat) : Prop := ∀ row ∈ rows, row.amount.isSome

theorem Laid.priceSeat (inv : Laid db) {s s' : FlightSeat} (mem : s ∈ db.seats)
    (flight : s'.flightId = s.flightId) (kind : s'.fareClass = s.fareClass) :
    (priceSeat db s').amount.isSome := by
  obtain ⟨f, memF, own, same⟩ := inv.priced mem
  rw [FlightBooking.priceSeat, flight, kind, ← own, ← same,
    show db.fares.find? (f.flightId, f.fareClass) = some f from Table.find?_of_mem memF]
  rfl

/-- Priced rows are held. -/
theorem mapM_toHeldSeat_priced {rows : List PricedSeat} (priced : AllPriced rows) :
    ∃ seats, rows.mapM (toHeldSeat flightId) = .ok seats := by
  induction rows with
  | nil => exact ⟨[], rfl⟩
  | cons row rows ih =>
      obtain ⟨seats, rest⟩ := ih fun r mem => priced r (List.mem_cons_of_mem _ mem)
      obtain ⟨price, amount⟩ := Option.isSome_iff_exists.mp (priced row List.mem_cons_self)
      have first : toHeldSeat flightId row = .ok ⟨row.position, row.fareClass, price⟩ := by
        rw [toHeldSeat, amount]
      rw [List.mapM_cons, first, rest]
      exact ⟨_, rfl⟩

/-- Looking for the reason of a refusal throws nothing. -/
theorem classifyNothingHeld_silent (flightId : Uuid) :
    Throws (fun _ : Failure => False) (classifyNothingHeld flightId now) := by
  refine throws_bind (throws_query fun _ _ _ _ h => by cases h) fun found => ?_
  cases found with
  | none => trivial
  | some flight => dsimp only; split <;> trivial

theorem classifyRefusal_silent (flightId : Uuid) (requested : List SeatPosition)
    (rows : List PricedSeat) :
    Throws (fun _ : Failure => False) (classifyRefusal flightId requested rows now) := by
  refine throws_bind ?_ fun reason => ?_
  · unfold classifyRefusal.classifyIfEmpty
    split
    · exact classifyNothingHeld_silent flightId
    · trivial
  · cases reason with
    | some reason => trivial
    | none => dsimp only; split <;> trivial

/-- The first statement of a transaction did not fail, so its answer is known. -/
theorem aborts_first {ρ α : Type} {s : Statement postgres ρ} {f : ρ → Prog postgres α}
    (never : ∀ skip snap cur e, s skip snap cur ≠ .error e)
    (h : Aborts T n (query s >>= f) (.start i) e c') :
    ∃ skip snap cur out c₁, cur ≤ n ∧ s skip (T.state snap) (T.state cur) = .ok out ∧
      Aborts T n (f out.reply) c₁ e c' := by
  rcases aborts_bind.mp h with failed | ⟨x, c₁, main, rest⟩
  · obtain ⟨skip, snap, cur, -, -, -, error, -⟩ := aborts_query failed
    exact (never _ _ _ _ error).elim
  · obtain ⟨skip, snap, cur, out, -, -, le, done, rfl, -⟩ := commits_query.mp main
    simp only [Cursor.start_view] at done
    exact ⟨skip, snap, cur, out, c₁, le, done, rest⟩

theorem holdAutoSeats_aborts (inv : ∀ k ≤ n, Laid (T.state k)) {count : Nat} {fareClass : FareClass} :
    ¬ Aborts T n (holdAutoSeats flightId bookingId count fareClass now) (.start i) e c' := by
  intro h
  obtain ⟨skip, snap, cur, out, c₁, le, done, rest⟩ := aborts_first (fun skip snap cur e h => by
    unfold holdAuto at h
    extract_lets at h
    split at h <;> cases h) h
  have priced : AllPriced out.reply := by
    rcases holdAuto_ok done with ⟨none, -⟩ | ⟨free, -, -, isFree, -, reply, -⟩
    · simp [none, AllPriced]
    · rw [reply]
      intro row mem
      obtain ⟨_, memH, rfl⟩ := List.mem_map.mp mem
      obtain ⟨s, memS, rfl⟩ := List.mem_map.mp memH
      exact (inv cur le).priceSeat (isFree s memS).1 rfl rfl
  obtain ⟨seats, held⟩ : ∃ seats, out.reply.mapM (toHeldSeat flightId) = .ok seats :=
    mapM_toHeldSeat_priced priced
  split at rest
  · rw [held] at rest
    exact rest
  · refine Aborts.throws (Q := fun _ => False) ?_ rest
    refine throws_bind (classifyNothingHeld_silent flightId) fun reason => ?_
    cases reason with
    | some reason => trivial
    | none => exact throws_bind (throws_query fun _ _ _ _ h => by cases h) fun _ => trivial

theorem holdChosenSeats_aborts (inv : ∀ k ≤ n, Laid (T.state k)) {requested : List SeatPosition} :
    ¬ Aborts T n (holdChosenSeats flightId bookingId requested now) (.start i) e c' := by
  intro h
  obtain ⟨skip, snap, cur, out, c₁, le, done, rest⟩ := aborts_first (fun skip snap cur e h => by
    unfold holdChosen at h
    extract_lets at h
    split at h <;> cases h) h
  cases answer : out.reply with
  | mk rows held =>
      rw [answer] at rest
      cases held with
      | false =>
          refine Aborts.throws (Q := fun _ => False) ?_ rest
          exact throws_bind (classifyRefusal_silent ..) fun _ => trivial
      | true =>
          rcases holdChosen_ok done with ⟨no, -⟩ | ⟨free, -, -, isFree, -, reply, -⟩
          · rw [answer] at no
            cases no
          · obtain ⟨rfl, -⟩ := Prod.ext_iff.mp (answer.symm.trans reply)
            have priced : AllPriced (requested.filterMap fun code =>
                (free.map (priceSeat (T.state cur))).find? fun row => row.position = code) := by
              intro row mem
              obtain ⟨code, -, found⟩ := List.mem_filterMap.mp mem
              obtain ⟨s, memS, rfl⟩ := List.mem_map.mp (List.mem_of_find?_eq_some found)
              exact (inv cur le).priceSeat (isFree s memS).1 rfl rfl
            obtain ⟨seats, held⟩ := @mapM_toHeldSeat_priced flightId _ priced
            simp only [if_true] at rest
            rw [held] at rest
            exact rest

/-- Holding seats of laid out flights throws nothing. -/
theorem holdSeats_aborts (inv : ∀ k ≤ n, Laid (T.state k)) {request : SeatHoldRequest} :
    ¬ Aborts T n (holdSeats flightId bookingId request now) (.start i) e c' := by
  cases request with
  | auto count fareClass => exact holdAutoSeats_aborts inv
  | chosen requested => exact holdChosenSeats_aborts inv

/-- Not the error `toHeldSeat` throws. -/
def Failure.NotUnpriced (e : Failure) : Prop :=
  ∀ flightId fareClass seat, e ≠ .missingFare flightId fareClass seat

theorem Failure.OfInsert.notUnpriced {e : Failure} (h : e.OfInsert) : e.NotUnpriced := by
  intro _ _ _ same
  rcases h with ⟨c, is⟩ | ⟨c, is⟩ | is <;> cases is.symm.trans same

/-- In versions where every flight is laid out, no CreateBooking fails for a fare. -/
theorem createBooking_aborts (inv : ∀ k ≤ n, Laid (T.state k)) {request : CreateBookingInput}
    {actor : Uuid} {ids : CreateBookingIds} {requestId : Option Uuid}
    (h : Aborts T n (createBookingTransaction flightId request actor ids requestId now) (.start i) e c') :
    e.NotUnpriced := by
  rcases aborts_bind.mp h with failed | ⟨held, c₁, -, rest⟩
  · exact (holdSeats_aborts inv failed).elim
  refine Aborts.throws ?_ rest
  cases held with
  | error refusal => trivial
  | ok seats =>
      refine throws_bind ?_ fun passengers => throws_bind ?_ fun total =>
        throws_bind ((createWithFreeReference_throws _ _ _ _).mono ?_) fun booking =>
          throws_bind ((recordAudit_throws _).mono ?_) fun _ =>
            throws_bind ((enqueue_throws _).mono ?_) fun _ => trivial
      · unfold seatPassengers
        split
        · exact fun _ _ _ same => by cases same
        · trivial
      · cases summed : bookingTotal (passengers.map (·.toBookingPassenger)) with
        | ok total => trivial
        | error e =>
            obtain ⟨sum, rfl⟩ := sumMoney_error summed
            exact fun _ _ _ same => by cases same
      · exact fun e inserts => inserts.notUnpriced
      · rintro _ rfl
        exact fun _ _ _ same => by cases same
      · rintro _ rfl
        exact fun _ _ _ same => by cases same

/-! ### A new flight -/

/-- The flight a committed CreateFlight stored. -/
def Transaction.created? : (x : Transaction) → x.Result → Option Flight
  | .createFlight flight .., .created => some flight
  | _, _ => none

/-- What is announced and answered of a new flight: all its seats are free. -/
structure Announced (db : Db) (flight : Flight) : Prop where
  answer : ∀ now, (createdFlightView flight now).flight.availableSeats = AVAILABLE_SEATS db flight.id
  event : ∃ row ∈ db.outbox, row.entry.payload.body = .flightCreated (toFlightCreatedPayload flight) ∧
    (toFlightCreatedPayload flight).availableSeats = AVAILABLE_SEATS db flight.id

theorem available_copied {db' : Db} {flight : Flight} (seatless : ∀ s ∈ db.seats, s.flightId ≠ flight.id)
    (rows : db'.seats.rows = db.seats.rows ++ copiedSeats flight.id flight.aircraft.seats) :
    AVAILABLE_SEATS db' flight.id = flight.aircraft.seats.length := by
  have none : (db.seats.rows.countP fun s => s.flightId = flight.id && s.status = .available) = 0 :=
    List.countP_eq_zero.mpr fun s mem => by simp [seatless s mem]
  rw [AVAILABLE_SEATS, rows, List.countP_append, none, Nat.zero_add, copiedSeats, List.countP_map,
    List.countP_eq_length]
  intro s _
  simp

theorem announced_of_created (framed : T.Framed) (unfold : FlightsUnfold T n) (inv : Laid (T.state n))
    {x : Transaction} {r : x.Result} {flight : Flight} (created : x.created? r = some flight)
    (checked : ∀ flight actor auditId eventId requestId,
      x = .createFlight flight actor auditId eventId requestId → flight.Checked T n)
    (ran : Commits T n (x.body now) (.start i) r c') :
    Announced (c'.log.apply (T.state n)) flight := by
  cases x with
  | createFlight stored actor auditId eventId requestId =>
      cases r with
      | created =>
          obtain rfl := Option.some.inj created
          obtain ⟨first, read, audit, on, log⟩ := createFlight_created framed ran
          have layout := (on.layout (checked _ _ _ _ _ rfl) unfold).1
          have seats : c'.log.seats = copiedSeats stored.id stored.aircraft.seats := by
            rw [log, ← layout]
          have seatless := inv.seatless on.fresh
          have free := available_copied seatless (rows_copied seatless seats)
          refine ⟨fun _ => free.symm, ?_⟩
          have outbox : (c'.log.apply (T.state n)).outbox = (T.state n).outbox.put
              ⟨⟨eventId, .flightCreated, ⟨eventId, resolveCorrelationId requestId eventId, now,
                .flightCreated (toFlightCreatedPayload stored)⟩, now⟩, none⟩ := by
            rw [Changes.apply_outbox, log]
            rfl
          exact ⟨_, outbox ▸ Table.mem_put.mpr (.inl rfl), rfl, free.symm⟩
      | duplicate | aircraftUnavailable | referenceNotFound => cases created
  | _ => cases created

/-! ### Every interleaving -/

variable {airports : Table Airport} {clock : Instant} {steady idempotent : Bool}
  {invocations : Nat → Invocation} {q : Pool app UseCaseResult}

/-- In every version of every interleaving each flight has its aircraft's seats and a
positive fare for exactly their classes, and all its readers count the same free
seats; no hold fails for a missing fare; and a new flight is announced with as many
seats as are then free. -/
theorem flights_agree
    (h : (service airports clock steady idempotent invocations).Reachable q) :
    (∀ n ≤ q.world.commits.length,
      (∀ flight ∈ (q.world.state n).flights,
        LaidOut (q.world.state n) flight ∧ CountsAgree (q.world.state n) flight) ∧
      ∀ limit offset, ∃ page, findFlightPage (q.world.state n) limit offset = some page ∧
        ∀ item ∈ page, item.availableSeats = AVAILABLE_SEATS (q.world.state n) item.id) ∧
    (∀ f ∈ q.failures, ∀ flightId request actor ids requestId,
      f.tx = .createBooking flightId request actor ids requestId → f.error.NotUnpriced) ∧
    ∀ n, ∀ lt : n < q.world.commits.length, ∀ flight,
      q.world.commits[n].tx.created? q.world.commits[n].result = some flight →
        Announced (q.world.state (n + 1)) flight := by
  have kept := service_kept airports clock steady idempotent invocations
  have good := kept.good.reachable h
  have known := flightsKnown_of_reachable kept h rfl
  have follow := flightsFollow_of_sound good.sound known
  have start : q.world.state 0 = { airports } := by
    rw [World.state_zero, h.initial_eq]
    rfl
  have empty : Laid (q.world.timeline.state 0) := by
    rw [show q.world.timeline.state 0 = _ from start]
    exact laid_of_empty rfl rfl rfl
  have laid : ∀ n ≤ q.world.commits.length, Laid (q.world.state n) := fun n le =>
    (follow.mono le).laid empty
  refine ⟨fun n le => ⟨fun flight mem => ?_, findFlightPage_ok (laid n le)⟩, ?_, ?_⟩
  · exact ⟨(laid n le).flights flight mem, counts_agree (laid n le) mem⟩
  · rintro ⟨thread, tx, now, begun, ended, error, spans⟩ mem flightId request actor ids requestId rfl
    obtain ⟨-, le, lost | aborts⟩ := good.failures _ mem
    · rw [show error = app.lost from lost]
      exact fun _ _ _ same => by cases same
    · obtain ⟨c', aborts, -⟩ := aborts _ (.refl _ _)
      exact createBooking_aborts (fun k le' => laid k (Nat.le_trans le' le)) aborts
  · intro n lt flight created
    obtain ⟨c', ran, log, -⟩ := good.sound.commits lt
    have before := (follow.mono (Nat.le_of_lt lt)).unfold
    rw [q.world.state_succ lt, ← log]
    exact announced_of_created good.sound.framed before (laid n (Nat.le_of_lt lt)) created
      (fun _ _ _ _ _ tx => known.checked good.sound lt tx) ran

/-- The sample flight: one of its two seats is held, and two were announced. -/
theorem flights_agree_sample : ∃ p, Pool.run sampleMoves
      (service sampleAirports 0 false false (sampleThreads fun _ => sampleBooking)) = some p ∧
    p.world.db.flights.rows.map (·.id) = [1] ∧ AVAILABLE_SEATS p.world.db 1 = 1 ∧
    (∀ flight ∈ (p.world.state p.world.commits.length).flights,
      CountsAgree (p.world.state p.world.commits.length) flight) ∧
    ∃ flight, flight.id = 1 ∧ AVAILABLE_SEATS (p.world.state 5) flight.id = 2 ∧
      Announced (p.world.state 5) flight := by
  have ran : ((Pool.run sampleMoves (service sampleAirports 0 false false
      (sampleThreads fun _ => sampleBooking))).map fun p =>
        (p.world.db.flights.rows.map (·.id), AVAILABLE_SEATS p.world.db 1,
          AVAILABLE_SEATS (p.world.state 5) 1,
          (p.world.commits[4]?.bind fun c => c.tx.created? c.result).map (·.id))) =
      some ([1], 1, 2, some 1) := by decide +kernel
  obtain ⟨p, ran, seen⟩ := Option.map_eq_some_iff.mp ran
  simp only [Prod.mk.injEq] at seen
  obtain ⟨flights, free, before, created⟩ := seen
  obtain ⟨agree, -, announced⟩ := flights_agree (Pool.run_reachable ran)
  obtain ⟨flight, created, own⟩ := Option.map_eq_some_iff.mp created
  obtain ⟨c, there, created⟩ := Option.bind_eq_some_iff.mp created
  obtain ⟨lt, rfl⟩ := List.getElem?_eq_some_iff.mp there
  refine ⟨p, ran, flights, free, fun flight mem => ((agree _ (Nat.le_refl _)).1 flight mem).2,
    flight, own, own ▸ before, announced 4 lt flight created⟩

end FlightBooking
