import FlightBooking.System.Rows

/-!
What a commit did to aircraft, flights and fares, and to the layout of seats.

Only three transactions write those tables; every other one leaves them alone, and
writes seats that are there already, in their class (`FlightsChange.elsewhere`).
-/

namespace FlightBooking

open Relational ReadCommitted

variable {T : Timeline postgres} {n i : Nat} {c c' : Cursor postgres} {now : Instant}
  {skip : List Row} {snap cur : Db}

/-- A flight's seats as they are copied from a layout. -/
def copiedSeats (flightId : Uuid) (seats : List LayoutSeat) : List FlightSeat :=
  seats.map fun s => ⟨flightId, s.position, s.fareClass, .available, none⟩

def fareRows (flight : Flight) : List FlightFare :=
  flight.fares.entries.map fun f => ⟨flight.id, f.1, f.2⟩

/-- A flight that was created: its aircraft and airports were there on version
`first`, and its layout was read on version `read`. -/
structure FlightCreatedOn (T : Timeline postgres) (n : Nat) (flight : Flight) (first read : Nat) :
    Prop where
  first_le : first ≤ read
  read_le : read ≤ n
  fresh : (T.state n).flights.find? flight.id = none
  aircraft : ((T.state first).aircraft.find? flight.aircraft.id).isSome
  origin : ((T.state first).airports.find? flight.origin.id).isSome
  destination : ((T.state first).airports.find? flight.destination.id).isSome
  priced : ∀ f ∈ flight.fares.entries, f.2.amount ≠ 0

/-- The layout of an aircraft on a version. -/
def layoutOf (db : Db) (aircraftId : Uuid) : List LayoutSeat :=
  (db.aircraft.find? aircraftId).toList.flatMap (·.seats)

/-- A commit's changes to aircraft, flights, fares and seats. -/
inductive FlightsChange (T : Timeline postgres) (n : Nat) : Transaction → Changes → Prop where
  | elsewhere {x log} : log.aircraft = [] → log.flights = [] → log.fares = [] →
      (∀ s ∈ log.seats, ∃ o ∈ (T.state n).seats, key o = key s ∧ o.fareClass = s.fareClass) →
      FlightsChange T n x log
  | registered {aircraft actor auditId requestId log} :
      (T.state n).aircraft.find? aircraft.id = none →
      log.aircraft = [aircraft] → log.flights = [] → log.fares = [] → log.seats = [] →
      FlightsChange T n (.registerAircraft aircraft actor auditId requestId) log
  | created {flight actor auditId eventId requestId first read log} :
      FlightCreatedOn T n flight first read → log.aircraft = [] → log.flights = [flight.row] →
      log.fares = fareRows flight →
      log.seats = copiedSeats flight.id (layoutOf (T.state read) flight.aircraft.id) →
      (∀ s ∈ log.seats, (T.state n).seats.find? (key s) = none) →
      FlightsChange T n (.createFlight flight actor auditId eventId requestId) log
  | opened {seen actor auditId requestId now flight log} :
      (T.state n).flights.find? seen.id = some flight → flight.status = seen.status →
      log.aircraft = [] → log.flights = [{ flight with status := .open }] → log.fares = [] →
      log.seats = [] → FlightsChange T n (.openFlight seen actor auditId requestId now) log

theorem FlightsChange.idle {x : Transaction} {log : Changes} (h : log = {}) :
    FlightsChange T n x log :=
  .elsewhere (by rw [h]) (by rw [h]) (by rw [h]) (by simp [h])

/-! ### Register -/

theorem insertAircraft_ok {aircraft : Aircraft} {out}
    (h : insertAircraft aircraft skip snap cur = .ok out) :
    (out.reply = false ∧ out.writes = {}) ∨ (out.reply = true ∧
      out.writes = { aircraft := [aircraft] } ∧ cur.aircraft.find? aircraft.id = none) := by
  unfold insertAircraft at h
  split at h
  · cases h
  · rename_i fresh
    split at h <;> cases h
    · exact .inl ⟨rfl, rfl⟩
    · exact .inr ⟨rfl, rfl, by simpa using fresh⟩

theorem registerAircraft_commits (framed : T.Framed) {aircraft : Aircraft} {actor auditId : Uuid}
    {requestId : Option Uuid} {r : Option Aircraft}
    (h : Commits T n (registerAircraftTransaction aircraft actor auditId requestId) (.start i) r c') :
    FlightsChange T n (.registerAircraft aircraft actor auditId requestId) c'.log := by
  obtain ⟨inserted, c₁, main, rest⟩ := commits_bind.mp h
  obtain ⟨skip, snap, cur, out, -, -, -, done, rfl, rfl, -, agree⟩ :=
    (commits_query.mp main).outcome framed
  simp only [Cursor.start_view] at done agree
  rcases insertAircraft_ok done with ⟨reply, writes⟩ | ⟨reply, writes, fresh⟩
  · rw [reply] at rest
    obtain ⟨-, rfl⟩ := rest
    exact .idle (by rw [Cursor.next_log, Cursor.start_log, writes]; rfl)
  · rw [reply] at rest
    obtain ⟨_, c₂, audit, -, rfl⟩ := commits_bind.mp rest
    have log := recordAudit_commits audit
    rw [Cursor.next_log, Cursor.start_log, writes] at log
    have touched := out.touched_held (Changes.aircraft_touched (a := aircraft) (by simp [writes]))
    have here : (T.state cur).aircraft.find? aircraft.id =
        (T.state n).aircraft.find? aircraft.id := agree _ touched
    refine .registered (here.symm.trans fresh) ?_ ?_ ?_ ?_ <;> simp [log, Changes.append]

/-! ### Create -/

theorem insertFlightRow_ok {flight : FlightRow} {out}
    (h : insertFlightRow flight skip snap cur = .ok out) :
    (out.reply ≠ .created ∧ out.writes = {}) ∨ (out.reply = .created ∧
      out.writes = { flights := [flight] } ∧ cur.flights.find? flight.id = none ∧
      (cur.aircraft.find? flight.aircraftId).isSome ∧
      (cur.airports.find? flight.originAirportId).isSome ∧
      (cur.airports.find? flight.destinationAirportId).isSome) := by
  unfold insertFlightRow at h
  split at h
  · cases h
  split at h
  · cases h
  rename_i fresh
  split at h
  · cases h
    exact .inl ⟨by decide, rfl⟩
  split at h
  · cases h
    exact .inl ⟨by decide, rfl⟩
  split at h
  · cases h
    exact .inl ⟨by decide, rfl⟩
  · rename_i there
    cases h
    push Not at there
    simp only [ne_eq, Option.isNone_iff_eq_none, ← Option.isSome_iff_ne_none] at there
    exact .inr ⟨rfl, rfl, by simpa using fresh, there.2.2, there.1, there.2.1⟩

theorem copySeats_ok {flightId aircraftId : Uuid} {out}
    (h : copySeats flightId aircraftId skip snap cur = .ok out) :
    out.writes = { seats := copiedSeats flightId (layoutOf snap aircraftId) } := by
  unfold copySeats at h
  extract_lets seats at h
  split at h <;> cases h
  rfl

theorem insertFares_ok {flightId : Uuid} {fares : List (FareClass × Money)} {out}
    (h : insertFares flightId fares skip snap cur = .ok out) :
    out.writes = { fares := fares.map fun f => ⟨flightId, f.1, f.2⟩ } ∧
      ∀ f ∈ fares, f.2.amount ≠ 0 := by
  unfold insertFares at h
  extract_lets rows at h
  split at h
  · cases h
  · split at h
    · cases h
    · rename_i positive
      cases h
      push Not at positive
      exact ⟨rfl, fun f mem => positive _ (List.mem_map_of_mem mem)⟩

theorem insertFlight_commits (framed : T.Framed) {flight : Flight} {r : FlightInserted}
    (h : Commits T n (insertFlight flight) (.start i) r c') :
    (r ≠ .created ∧ c'.log = {}) ∨ (r = .created ∧ ∃ first read,
      FlightCreatedOn T n flight first read ∧
      c'.log = { flights := [flight.row], fares := fareRows flight,
                 seats := copiedSeats flight.id (layoutOf (T.state read) flight.aircraft.id) }) := by
  obtain ⟨inserted, c₁, main, rest⟩ := commits_bind.mp h
  obtain ⟨skip, snap, cur, out, -, -, le, done, rfl, rfl, -, agree⟩ :=
    (commits_query.mp main).outcome framed
  simp only [Cursor.start_view] at done agree
  rcases insertFlightRow_ok done with ⟨reply, writes⟩ |
    ⟨reply, writes, fresh, there, leaves, reaches⟩
  · have log : ((Cursor.start i).next snap cur out : Cursor postgres).log = ({} : Changes) := by
      rw [Cursor.next_log, Cursor.start_log, writes]
      rfl
    cases same : out.reply with
    | created => exact (reply same).elim
    | duplicate | aircraftUnavailable | referenceNotFound =>
        rw [same] at rest
        obtain ⟨rfl, rfl⟩ := rest
        exact .inl ⟨nofun, log⟩
  · rw [reply] at rest
    obtain ⟨_, c₂, copy, rest⟩ := commits_bind.mp rest
    obtain ⟨skip₂, read, cur₂, out₂, le₁, le₂, le₃, done₂, -, rfl, -⟩ := commits_query.mp copy
    obtain ⟨_, c₃, price, rfl, rfl⟩ := commits_bind.mp rest
    obtain ⟨skip₃, snap₃, cur₃, out₃, -, -, -, done₃, -, rfl, -⟩ := commits_query.mp price
    have copied := copySeats_ok done₂
    obtain ⟨fares, priced⟩ := insertFares_ok done₃
    have layout : layoutOf (((Cursor.start i).next snap cur out : Cursor postgres).view T read)
        flight.aircraft.id = layoutOf (T.state read) flight.aircraft.id := by
      simp only [layoutOf, Cursor.view, Cursor.next_log, Cursor.start_log, writes]
      rfl
    have touched := out.touched_held (Changes.flight_touched (f := flight.row) (by simp [writes]))
    have here : (T.state cur).flights.find? flight.id = (T.state n).flights.find? flight.id :=
      agree _ touched
    refine .inr ⟨rfl, cur, read, ⟨le₁, Nat.le_trans le₂ le₃, here.symm.trans fresh, there, leaves,
      reaches, priced⟩, ?_⟩
    rw [Cursor.next_log, Cursor.next_log, Cursor.next_log, Cursor.start_log, writes, copied, fares,
      layout]
    simp only [Changes.append, List.append_nil, List.nil_append]
    rfl

/-- What a transaction that created its flight wrote. -/
theorem createFlight_created (framed : T.Framed) {flight : Flight} {actor auditId eventId : Uuid}
    {requestId : Option Uuid}
    (h : Commits T n (createFlightTransaction flight actor auditId eventId requestId now)
      (.start i) .created c') :
    ∃ first read audit, FlightCreatedOn T n flight first read ∧
      c'.log = { flights := [flight.row], fares := fareRows flight,
                 seats := copiedSeats flight.id (layoutOf (T.state read) flight.aircraft.id),
                 audit := [audit],
                 outbox := [⟨{ id := eventId
                               eventType := .flightCreated
                               payload := ⟨eventId, resolveCorrelationId requestId eventId, now,
                                 .flightCreated (toFlightCreatedPayload flight)⟩
                               createdAt := now }, none⟩] } := by
  obtain ⟨inserted, c₁, main, rest⟩ := commits_bind.mp h
  rcases insertFlight_commits framed main with ⟨not, log⟩ | ⟨rfl, first, read, on, log⟩
  · cases inserted with
    | created => exact (not rfl).elim
    | duplicate | aircraftUnavailable | referenceNotFound =>
        obtain ⟨same, -⟩ := rest
        cases same
  · obtain ⟨_, c₂, audit, rest⟩ := commits_bind.mp rest
    obtain ⟨_, c₃, event, -, rfl⟩ := commits_bind.mp rest
    have log' := enqueue_commits event
    rw [recordAudit_commits audit, log] at log'
    simp only [Changes.append, List.append_nil, List.nil_append] at log'
    exact ⟨first, read, _, on, log'⟩

/-- A transaction that created no flight wrote nothing. -/
theorem createFlight_idle (framed : T.Framed) {flight : Flight} {actor auditId eventId : Uuid}
    {requestId : Option Uuid} {r : FlightInserted} (not : r ≠ .created)
    (h : Commits T n (createFlightTransaction flight actor auditId eventId requestId now)
      (.start i) r c') : c'.log = {} := by
  obtain ⟨inserted, c₁, main, rest⟩ := commits_bind.mp h
  rcases insertFlight_commits framed main with ⟨-, log⟩ | ⟨rfl, -⟩
  · cases inserted with
    | created =>
        obtain ⟨_, c₂, -, rest⟩ := commits_bind.mp rest
        obtain ⟨_, c₃, -, same, -⟩ := commits_bind.mp rest
        exact (not same).elim
    | duplicate | aircraftUnavailable | referenceNotFound =>
        obtain ⟨-, rfl⟩ := rest
        exact log
  · obtain ⟨_, c₂, -, rest⟩ := commits_bind.mp rest
    obtain ⟨_, c₃, -, same, -⟩ := commits_bind.mp rest
    exact (not same).elim

theorem createFlight_changes (framed : T.Framed) {flight : Flight} {actor auditId eventId : Uuid}
    {requestId : Option Uuid} {r : FlightInserted}
    (h : Commits T n (createFlightTransaction flight actor auditId eventId requestId now)
      (.start i) r c') :
    FlightsChange T n (.createFlight flight actor auditId eventId requestId) c'.log := by
  by_cases made : r = .created
  · subst made
    obtain ⟨first, read, audit, on, log⟩ := createFlight_created framed h
    have fresh := (createFlight_commits framed h).fresh
    rw [log] at fresh ⊢
    exact .created on rfl rfl rfl rfl fresh
  · exact .idle (createFlight_idle framed made h)

/-! ### Open -/

theorem updateFlightStatus_ok {flightId : Uuid} {expected next : StoredFlightStatus} {out}
    (h : updateFlightStatus flightId expected next skip snap cur = .ok out) :
    (out.reply = false ∧ out.writes = {}) ∨
    ∃ flight, cur.flights.find? flightId = some flight ∧ flight.status = expected ∧
      out.reply = true ∧ out.writes = { flights := [{ flight with status := next }] } := by
  unfold updateFlightStatus at h
  split at h
  · cases h
    exact .inl ⟨rfl, rfl⟩
  · extract_lets locks at h
    split at h
    · cases h
      exact .inl ⟨rfl, rfl⟩
    · rename_i flight newest
      cases h
      obtain ⟨found, status⟩ := Option.filter_eq_some_iff.mp newest
      exact .inr ⟨flight, found, by simpa using status, rfl, rfl⟩

theorem changeStatus_commits (framed : T.Framed) {flightId : Uuid}
    {expected next : StoredFlightStatus} {r : ChangeFlightStatusResult}
    (h : Commits T n (changeStatus flightId expected next) (.start i) r c') :
    (r ≠ .changed ∧ c'.log = {}) ∨ (r = .changed ∧ ∃ flight,
      (T.state n).flights.find? flightId = some flight ∧ flight.status = expected ∧
      c'.log = { flights := [{ flight with status := next }] }) := by
  obtain ⟨updated, c₁, main, rest⟩ := commits_bind.mp h
  obtain ⟨skip, snap, cur, out, -, -, le, done, rfl, rfl, -, agree⟩ :=
    (commits_query.mp main).outcome framed
  simp only [Cursor.start_view] at done agree
  rcases updateFlightStatus_ok done with ⟨reply, writes⟩ | ⟨flight, found, status, reply, writes⟩
  · have log : ((Cursor.start i).next snap cur out : Cursor postgres).log = ({} : Changes) := by
      rw [Cursor.next_log, Cursor.start_log, writes]
      rfl
    rw [reply] at rest
    obtain ⟨current, c₂, look, rest⟩ := commits_bind.mp rest
    have reads : Writes (fun _ w => w = ({} : Changes)) (query (findFlight flightId)) :=
      writes_query fun skip snap cur out done => by cases done; rfl
    have log' := (Commits.reads reads look).trans log
    cases current with
    | none | some =>
        obtain ⟨rfl, rfl⟩ := rest
        exact .inl ⟨nofun, log'⟩
  · rw [reply] at rest
    obtain ⟨rfl, rfl⟩ := rest
    have own : key flight = flightId := Table.key_of_find? found
    have touched := out.touched_held (Changes.flight_touched
      (f := { flight with status := next }) (by simp [writes]))
    have here : (T.state cur).flights.find? (key flight) = (T.state n).flights.find? (key flight) :=
      agree _ touched
    rw [own] at here
    refine .inr ⟨rfl, flight, here.symm.trans found, status, ?_⟩
    rw [Cursor.next_log, Cursor.start_log, writes]
    rfl

theorem openFlight_commits (framed : T.Framed) {seen : FlightRow} {actor auditId : Uuid}
    {requestId : Option Uuid} {r : ChangeFlightStatusResult}
    (h : Commits T n (openFlightTransaction seen actor auditId requestId now) (.start i) r c') :
    FlightsChange T n (.openFlight seen actor auditId requestId now) c'.log := by
  obtain ⟨result, c₁, main, rest⟩ := commits_bind.mp h
  rcases changeStatus_commits framed main with ⟨not, log⟩ | ⟨rfl, flight, found, status, log⟩
  · cases result with
    | changed => exact (not rfl).elim
    | notFound | statusChanged =>
        obtain ⟨-, rfl⟩ := rest
        exact .idle log
  · obtain ⟨_, c₂, audit, -, rfl⟩ := commits_bind.mp rest
    have log' := recordAudit_commits audit
    rw [log] at log'
    refine .opened found status ?_ ?_ ?_ ?_ <;> simp [log', Changes.append]

/-! ### Every other transaction -/

/-- Seats written back with another status or owner. -/
theorem seats_there {seats : List FlightSeat} {assign : FlightSeat → FlightSeat}
    (current : ∀ s ∈ seats, s ∈ (T.state n).seats) (keeps : ∀ s, key (assign s) = key s)
    (kind : ∀ s, (assign s).fareClass = s.fareClass) :
    ∀ s ∈ seats.map assign, ∃ o ∈ (T.state n).seats, key o = key s ∧ o.fareClass = s.fareClass := by
  intro s mem
  obtain ⟨o, memO, rfl⟩ := List.mem_map.mp mem
  exact ⟨o, current o memO, (keeps o).symm, (kind o).symm⟩

theorem Effect.elsewhere {x : Transaction} {r : x.Result} (effect : Effect T n i x now r c')
    (off : ¬ x.OnFlights) : FlightsChange T n x c'.log := by
  have seatless : c'.log.aircraft = [] → c'.log.flights = [] → c'.log.fares = [] →
      c'.log.seats = [] → FlightsChange T n x c'.log := fun aircraft flights fares seats =>
    .elsewhere aircraft flights fares (by simp [seats])
  cases effect with
  | nothing _ log => exact .idle log
  | laidOut on => exact (off on).elim
  | created on _ log =>
      refine .elsewhere (by rw [log]) (by rw [log]) (by rw [log]) ?_
      rw [log]
      exact seats_there on.current (fun _ => rfl) fun _ => rfl
  | cancelled on _ _ _ _ _ _ _ _ log =>
      refine .elsewhere (by rw [log]) (by rw [log]) (by rw [log]) ?_
      rw [log]
      exact seats_there on.seats (fun _ => rfl) fun _ => rfl
  | reseated on _ _ _ log =>
      refine .elsewhere (by rw [log]) (by rw [log]) (by rw [log]) ?_
      rw [log]
      intro s mem
      simp only [List.mem_cons, List.not_mem_nil, or_false] at mem
      rcases mem with rfl | rfl
      · exact ⟨_, on.between.own_mem, rfl, rfl⟩
      · exact ⟨_, on.between.wanted_mem, rfl, rfl⟩
  | expired on _ _ _ log =>
      refine .elsewhere (by rw [log]) (by rw [log]) (by rw [log]) ?_
      rw [log]
      exact seats_there on.seats (fun _ => rfl) fun _ => rfl
  | paid _ _ on =>
      cases on with
      | answered _ log => exact seatless (by rw [log]) (by rw [log]) (by rw [log]) (by rw [log])
      | released _ log => exact seatless (by rw [log]) (by rw [log]) (by rw [log]) (by rw [log])
      | started _ _ log => exact seatless (by rw [log]) (by rw [log]) (by rw [log]) (by rw [log])
  | declined _ _ _ log => exact seatless (by rw [log]) (by rw [log]) (by rw [log]) (by rw [log])
  | chargedTooLate _ _ _ log =>
      exact seatless (by rw [log]) (by rw [log]) (by rw [log]) (by rw [log])
  | confirmed _ on _ _ _ _ _ log =>
      refine .elsewhere (by rw [log]) (by rw [log]) (by rw [log]) ?_
      rw [log]
      exact seats_there on.seats (fun _ => rfl) fun _ => rfl
  | claimed _ _ log => exact seatless (by rw [log]) (by rw [log]) (by rw [log]) (by rw [log])
  | refundRecorded _ _ log => exact seatless (by rw [log]) (by rw [log]) (by rw [log]) (by rw [log])
  | rescheduled _ _ log => exact seatless (by rw [log]) (by rw [log]) (by rw [log]) (by rw [log])
  | cleaned _ log => exact seatless (by rw [log]) (by rw [log]) (by rw [log]) (by rw [log])
  | published _ _ log => exact seatless (by rw [log]) (by rw [log]) (by rw [log]) (by rw [log])

/-- What a committed transaction did to aircraft, flights, fares and layouts. -/
theorem flightsChange_of_commits (framed : T.Framed) {x : Transaction} {r : x.Result}
    (h : Commits T n (x.body now) (.start i) r c') : FlightsChange T n x c'.log := by
  cases x with
  | registerAircraft aircraft actor auditId requestId => exact registerAircraft_commits framed h
  | createFlight flight actor auditId eventId requestId => exact createFlight_changes framed h
  | openFlight seen actor auditId requestId at' => exact openFlight_commits framed h
  | _ => exact (effect_of_commits framed h).elsewhere id

/-- The first `n` commits of the history changed aircraft, flights and fares so. -/
def FlightsUnfold (T : Timeline postgres) (n : Nat) : Prop :=
  ∀ m < n, ∃ x log, FlightsChange T m x log ∧ T.state (m + 1) = log.apply (T.state m)

theorem flightsUnfold_of_sound {w : World app} (sound : w.Sound) :
    FlightsUnfold w.timeline w.commits.length := fun m h => by
  obtain ⟨c', ran, log, -⟩ := sound.commits h
  exact ⟨_, c'.log, flightsChange_of_commits sound.framed ran, log ▸ w.state_succ h⟩

theorem FlightsUnfold.mono {m : Nat} (h : FlightsUnfold T n) (le : m ≤ n) : FlightsUnfold T m :=
  fun j lt => h j (Nat.lt_of_lt_of_le lt le)

end FlightBooking
