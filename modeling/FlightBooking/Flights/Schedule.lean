import FlightBooking.Bookings.CancelAnswers
import FlightBooking.Flights.Effects
import FlightBooking.Library.Exclusion
import FlightBooking.System.Issued

/-!
The life of a flight, and the schedule of its aircraft.

A flight is SCHEDULED until a request opens it, which reads a clock more than an hour before
its departure; nothing cancels it yet (`flights_open_once`). However CreateFlight requests
overlap, no aircraft is scheduled on two flights at once, its time on the ground included,
and no two flights leave at one time under one number (`schedule_kept`).
-/

namespace FlightBooking

open Exclusion Interaction ReadCommitted Relational

variable {T : Timeline postgres} {n i : Nat} {x : Transaction} {now : Instant} {r : x.Result}
  {c c' : Cursor postgres}

/-! ### What an insert admits -/

/-- A flight that was inserted: what the statement saw in version `seen`, and the entries it
has held since. -/
structure FlightAdmitted (T : Timeline postgres) (n : Nat) (held : List Row) (flight : FlightRow)
    (seen : Nat) : Prop where
  le : seen ≤ n
  lasts : flight.departureAt < flight.arrivalAt
  single : ∀ f ∈ (T.state seen).flights,
    ¬ (f.flightNumber = flight.flightNumber ∧ f.departureAt = flight.departureAt)
  apart : flight.status ≠ .cancelled → ∀ f ∈ (T.state seen).flights,
    f.aircraftId = flight.aircraftId → f.status ≠ .cancelled → occupanciesOverlap f flight = false
  number : .flightNumber flight.flightNumber flight.departureAt ∈ held
  schedule : .aircraftSchedule flight.aircraftId ∈ held
  numberKept : T.Keeps (.flightNumber flight.flightNumber flight.departureAt) seen n
  scheduleKept : T.Keeps (.aircraftSchedule flight.aircraftId) seen n

theorem insertFlightRow_admits {flight : FlightRow} {skip : List Row} {snap cur : Db} {out}
    (h : insertFlightRow flight skip snap cur = .ok out) (created : out.reply = .created) :
    flight.departureAt < flight.arrivalAt ∧
      (∀ f ∈ cur.flights,
        ¬ (f.flightNumber = flight.flightNumber ∧ f.departureAt = flight.departureAt)) ∧
      (flight.status ≠ .cancelled → ∀ f ∈ cur.flights, f.aircraftId = flight.aircraftId →
        f.status ≠ .cancelled → occupanciesOverlap f flight = false) ∧
      out.locks = [(.flightNumber flight.flightNumber flight.departureAt, .update),
        (.aircraftSchedule flight.aircraftId, .update)] := by
  unfold insertFlightRow at h
  split at h
  · cases h
  rename_i lasts
  split at h
  · cases h
  split at h
  · cases h
    cases created
  rename_i single
  split at h
  · cases h
    cases created
  rename_i apart
  split at h
  · cases h
    cases created
  cases h
  refine ⟨not_le.mp lasts, fun f mem both => ?_, fun going f mem same live => ?_, rfl⟩
  · refine single (List.any_eq_true.mpr ⟨f, mem, ?_⟩)
    simpa using both
  · by_contra overlap
    refine apart ⟨going, List.any_eq_true.mpr ⟨f, mem, ?_⟩⟩
    simpa [same, live] using overlap

theorem createFlight_admitted (framed : T.Framed) {flight : Flight}
    {actor auditId eventId : Uuid} {requestId : Option Uuid}
    (h : Commits T n (createFlightTransaction flight actor auditId eventId requestId now)
      (.start i) .created c') :
    ∃ seen, FlightAdmitted T n (exclusiveRows c'.held) flight.row seen := by
  obtain ⟨inserted, c₁, main, rest⟩ := commits_bind.mp h
  obtain ⟨reply, c₂, insert, after⟩ := commits_bind.mp main
  obtain ⟨skip, snap, cur, out, -, -, le, done, rfl, rfl, kept, -⟩ :=
    (commits_query.mp insert).outcome framed
  simp only [Cursor.start_view] at done
  have created : out.reply = .created := by
    cases reply : out.reply with
    | created => rfl
    | duplicate | aircraftUnavailable | referenceNotFound =>
        rw [reply] at after
        obtain ⟨rfl, rfl⟩ := after
        obtain ⟨same, -⟩ := rest
        cases same
  obtain ⟨lasts, single, apart, locks⟩ := insertFlightRow_admits done created
  have entry : ∀ row, (row, LockMode.update) ∈ out.locks → row ∈ exclusiveRows out.held :=
    fun row mem => out.locks_held mem rfl
  have number := entry (.flightNumber flight.row.flightNumber flight.row.departureAt)
    (by simp [locks])
  have schedule := entry (.aircraftSchedule flight.row.aircraftId) (by simp [locks])
  have held : ∀ row, row ∈ exclusiveRows out.held → row ∈ exclusiveRows c'.held :=
    fun row mem => rest.held_mono (after.held_mono (Cursor.mem_held_next (.inr mem)))
  exact ⟨cur, le, lasts, single, apart, held _ number, held _ schedule, kept _ number,
    kept _ schedule⟩

theorem occupanciesOverlap_iff {a b : FlightRow} : occupanciesOverlap a b = true ↔
    a.departureAt < b.arrivalAt + AIRCRAFT_TURNAROUND_MS ∧
      b.departureAt < a.arrivalAt + AIRCRAFT_TURNAROUND_MS := by
  unfold occupanciesOverlap
  rw [Bool.and_eq_true, decide_eq_true_iff, decide_eq_true_iff]

/-! ### The slots of a database -/

/-- A flight as scheduled, whatever became of it. -/
def FlightRow.slot (f : FlightRow) : FlightRow := { f with status := .scheduled }

def Db.slots (db : Db) : Set FlightRow := {s | ∃ f ∈ db.flights, f.slot = s}

theorem slots_same {db db' : Db} (same : db'.flights = db.flights) : db'.slots = db.slots := by
  rw [Db.slots, same, Db.slots]

theorem slots_insert {db db' : Db} {flight : FlightRow}
    (fresh : db.flights.find? flight.id = none) (next : db'.flights = db.flights.put flight) :
    db'.slots = insert flight.slot db.slots := by
  ext s
  simp only [Db.slots, next, Set.mem_insert_iff, Set.mem_ofPred_eq, Table.mem_put]
  constructor
  · rintro ⟨f, rfl | ⟨mem, -⟩, rfl⟩
    · exact .inl rfl
    · exact .inr ⟨f, mem, rfl⟩
  · rintro (rfl | ⟨f, mem, rfl⟩)
    · exact ⟨flight, .inl rfl, rfl⟩
    · exact ⟨f, .inr ⟨mem, Table.find?_eq_none.mp fresh f mem⟩, rfl⟩

theorem slots_status {db db' : Db} {flight : FlightRow} {status : StoredFlightStatus}
    (mem : flight ∈ db.flights) (next : db'.flights = db.flights.put { flight with status }) :
    db'.slots = db.slots := by
  ext s
  simp only [Db.slots, next, Set.mem_ofPred_eq, Table.mem_put]
  constructor
  · rintro ⟨f, rfl | ⟨old, -⟩, rfl⟩
    · exact ⟨flight, mem, rfl⟩
    · exact ⟨f, old, rfl⟩
  · rintro ⟨f, old, rfl⟩
    by_cases own : key f = key flight
    · obtain rfl := Table.eq_of_key old mem own
      exact ⟨_, .inl rfl, rfl⟩
    · exact ⟨f, .inr ⟨old, own⟩, rfl⟩

/-! ### One commit -/

theorem transitionFlight_open {stored : StoredFlightStatus} {departureAt now : Instant}
    (h : transitionFlight (effectiveFlightStatus stored departureAt now) .open departureAt now =
      .ok ()) : stored = .scheduled ∧ now + SALES_CLOSE_BEFORE_DEPARTURE_MS < departureAt := by
  have ahead : transitionFlight .scheduled .open departureAt now = .ok () →
      now + SALES_CLOSE_BEFORE_DEPARTURE_MS < departureAt := by
    intro allowed
    simp only [transitionFlight, FLIGHT_TRANSITIONS, departsMoreThanAnHourAhead] at allowed
    unfold Instant at *
    split_ifs at allowed with later
    omega
  unfold effectiveFlightStatus at h
  split_ifs at h with cancelled departed closed
  · cases h
  · cases h
  · cases h
  · cases stored with
    | scheduled => exact ⟨rfl, ahead h⟩
    | «open» => cases h
    | cancelled => cases h

/-- Commit `j` opened the flight, by a time it had read, more than an hour before departure. -/
def OpenedAt (w : World app) (j : Nat) (f : FlightRow) : Prop :=
  ∃ lt : j < w.commits.length, ∃ seen actor auditId requestId at',
    w.commits[j].tx = .openFlight seen actor auditId requestId at' ∧ seen.id = f.id ∧
    f.status = .scheduled ∧ (w.state j).flights.find? f.id = some f ∧
    (w.state (j + 1)).flights.find? f.id = some { f with status := .open } ∧
    at' + SALES_CLOSE_BEFORE_DEPARTURE_MS < f.departureAt

/-- A flight before and after commit `n`. -/
inductive FlightMoves (w : World app) (n : Nat) : Option FlightRow → Option FlightRow → Prop where
  | same {o} : FlightMoves w n o o
  | scheduled {f} : f.status = .scheduled → FlightMoves w n none (some f)
  | opened {f} : OpenedAt w n f → FlightMoves w n (some f) (some { f with status := .open })

/-- A flight a request found was there in some version. -/
theorem found_flight {w : World app} (sound : w.Sound) {c : Commit app} (mem : c ∈ w.commits)
    {id : Uuid} {seen : FlightRow}
    (own : (⟨.findFlight id, some seen⟩ : (x : app.Tx) × app.Result x) = ⟨c.tx, c.result⟩) :
    ∃ s ≤ w.commits.length, (w.timeline.state s).flights.find? id = some seen := by
  obtain ⟨m, lt, rfl⟩ := List.getElem_of_mem mem
  obtain ⟨c', ran, -⟩ := sound.commits lt
  revert ran own
  generalize w.commits[m].result = r
  revert r
  generalize w.commits[m].tx = x
  intro r own ran
  cases own
  obtain ⟨skip, snap, cur, out, -, le, le', done, same, -⟩ := commits_query.mp ran
  cases done
  exact ⟨snap, by omega, same.symm⟩

/-- A flight leaves at one time in all versions. -/
theorem departure_fixed (unfolds : Unfolds T n) {id : Uuid} {a b : Nat} {f g : FlightRow}
    (first : (T.state a).flights.find? id = some f) (second : (T.state b).flights.find? id = some g)
    (le : a ≤ n) (le' : b ≤ n) : f.departureAt = g.departureAt := by
  rcases Nat.le_total a b with before | before
  · obtain ⟨g', found, same⟩ := unfolds.flight_stays first before le'
    rw [← same, Option.some.inj (second.symm.trans found)]
  · obtain ⟨f', found, same⟩ := unfolds.flight_stays second before le
    rw [← same, Option.some.inj (first.symm.trans found)]

section Service

variable {airports : Table Airport} {clock : Instant} {steady idempotent : Bool}
  {invocations : Nat → Invocation} {p : Pool app UseCaseResult}

theorem flight_moves (h : (service airports clock steady idempotent invocations).Reachable p)
    {n : Nat} (lt : n < p.world.commits.length) (id : Uuid) :
    FlightMoves p.world n ((p.world.state n).flights.find? id)
      ((p.world.state (n + 1)).flights.find? id) := by
  have sound := ((service_kept ..).reachable h).good.sound
  obtain ⟨c', ran, log, -⟩ := sound.commits lt
  obtain ⟨trail, trailed, asked⟩ := asked_of_service h _ (List.getElem_mem lt)
  have change := flightsChange_of_commits sound.framed ran
  have next : (p.world.state (n + 1)).flights = (p.world.state n).flights.putAll c'.log.flights := by
    rw [p.world.state_succ lt, ← log]
    rfl
  clear ran log
  have quiet : c'.log.flights = [] → FlightMoves p.world n ((p.world.state n).flights.find? id)
      ((p.world.state (n + 1)).flights.find? id) := by
    intro flights
    rw [next, flights]
    exact .same
  generalize isTx : p.world.commits[n].tx = x at change asked
  generalize invocations p.world.commits[n].thread = invocation at asked
  cases change with
  | elsewhere _ flights => exact quiet flights
  | registered _ _ flights => exact quiet flights
  | @created flight _ _ _ _ _ _ _ on _ flights =>
      have status : flight.row.status = .scheduled := by
        cases asked with
        | createFlight of => exact of.status
      rw [next, flights, Table.putAll_cons, Table.putAll_nil, Table.find?_put]
      by_cases own : id = key flight.row
      · have fresh : (p.world.state n).flights.find? (key flight.row) = none := on.fresh
        rw [if_pos own, own, fresh]
        exact .scheduled status
      · rw [if_neg own]
        exact .same
  | @opened seen actor auditId requestId at' flight _ found status _ flights =>
      have found' : (p.world.state n).flights.find? seen.id = some flight := found
      have own : flight.id = seen.id := Table.key_of_find? found'
      obtain ⟨id', looked, allowed⟩ : ∃ id', ⟨.findFlight id', some seen⟩ ∈ trail ∧
          transitionFlight (effectiveFlightStatus seen.status seen.departureAt at') .open
            seen.departureAt at' = .ok () := by
        cases asked with
        | openFlight looked allowed => exact ⟨_, looked, allowed⟩
      obtain ⟨c₀, mem, -, answered⟩ := trailed _ looked
      obtain ⟨s, le, row⟩ := found_flight sound mem answered
      obtain rfl : seen.id = id' := Table.key_of_find? row
      obtain ⟨scheduled, ahead⟩ := transitionFlight_open allowed
      have departs := departure_fixed (unfolds_of_sound sound) row found le (Nat.le_of_lt lt)
      rw [flights, Table.putAll_cons, Table.putAll_nil] at next
      have after : ∀ id, (p.world.state (n + 1)).flights.find? id = if id = key flight then
          some { flight with status := .open } else (p.world.state n).flights.find? id := by
        intro id
        rw [next]
        exact Table.find?_put ..
      rw [after]
      by_cases here : id = key flight
      · rw [if_pos here, here, show key flight = seen.id from own, found']
        exact .opened ⟨lt, seen, actor, auditId, requestId, at', isTx, own.symm,
          status.trans scheduled, own ▸ found', (after _).trans (if_pos rfl), departs ▸ ahead⟩
      · rw [if_neg here]
        exact .same

/-- Once open, a flight stays as it is. -/
theorem open_stays (h : (service airports clock steady idempotent invocations).Reachable p)
    {n m : Nat} (le : n ≤ m) (le' : m ≤ p.world.commits.length) {f : FlightRow}
    (found : (p.world.state n).flights.find? f.id = some f) :
    ∃ f', (p.world.state m).flights.find? f.id = some f' ∧ f'.slot = f.slot ∧
      (f.status = .open → f' = f) := by
  induction m, le using Nat.le_induction with
  | base => exact ⟨f, found, rfl, fun _ => rfl⟩
  | succ m le ih =>
      obtain ⟨f', there, slot, same⟩ := ih (Nat.le_of_succ_le le')
      have moves := flight_moves h le' f.id
      rw [there] at moves
      generalize (p.world.state (m + 1)).flights.find? f.id = o at moves ⊢
      cases moves with
      | same => exact ⟨f', rfl, slot, same⟩
      | opened opening =>
          refine ⟨_, rfl, slot, fun wasOpen => ?_⟩
          obtain ⟨-, _, _, _, _, _, -, -, scheduled, -⟩ := opening
          rw [same wasOpen, wasOpen] at scheduled
          cases scheduled

/-- A flight is SCHEDULED, or a commit opened it. -/
theorem scheduled_or_opened (h : (service airports clock steady idempotent invocations).Reachable p)
    {n : Nat} (le : n ≤ p.world.commits.length) {f : FlightRow}
    (mem : f ∈ (p.world.state n).flights) :
    f.status = .scheduled ∨ f.status = .open ∧ ∃ j < n, OpenedAt p.world j f.slot := by
  induction n generalizing f with
  | zero =>
      rw [World.state_zero, h.initial_eq] at mem
      exact absurd mem (Table.not_mem_empty f)
  | succ n ih =>
      have moves := flight_moves h le f.id
      have there : (p.world.state (n + 1)).flights.find? f.id = some f := Table.find?_of_mem mem
      rw [there] at moves
      generalize before : (p.world.state n).flights.find? f.id = o at moves
      cases moves with
      | same =>
          rcases ih (Nat.le_of_succ_le le) (Table.mem_of_find? before) with
            scheduled | ⟨isOpen, j, lt, opened⟩
          · exact .inl scheduled
          · exact .inr ⟨isOpen, j, Nat.lt_succ_of_lt lt, opened⟩
      | scheduled status => exact .inl status
      | @opened f₀ opening =>
          have same : ({ f₀ with status := .open } : FlightRow).slot = f₀ := by
            obtain ⟨-, _, _, _, _, _, -, -, scheduled, -⟩ := opening
            rw [FlightRow.slot, ← scheduled]
          exact .inr ⟨rfl, n, Nat.lt_succ_self n, same ▸ opening⟩

/-- A flight that was opened is not opened later: it is OPEN then, not SCHEDULED. -/
theorem not_opened_again (h : (service airports clock steady idempotent invocations).Reachable p)
    {j j' : Nat} {f f' : FlightRow} (first : OpenedAt p.world j f)
    (second : OpenedAt p.world j' f') (same : f.id = f'.id) : ¬ j < j' := by
  intro lt
  obtain ⟨_, _, _, _, _, _, -, -, -, -, after, -⟩ := first
  obtain ⟨lt', _, _, _, _, _, -, -, scheduled, before, -, -⟩ := second
  have opened : (p.world.state (j + 1)).flights.find? ({ f with status := .open } : FlightRow).id =
    some { f with status := .open } := after
  obtain ⟨f'', there, -, stays⟩ :=
    open_stays h (Nat.succ_le_of_lt lt) (Nat.le_of_lt lt') opened
  have here : (p.world.state j').flights.find? f.id = some f' := same ▸ before
  rw [Option.some.inj (here.symm.trans there), stays rfl] at scheduled
  cases scheduled

/-- In every run a flight is SCHEDULED, or OPEN because one commit opened it, by a time more
than an hour before its departure; it is opened once at most, nothing else of it ever changes,
and an OPEN flight stays OPEN. -/
theorem flights_open_once
    (h : (service airports clock steady idempotent invocations).Reachable p) :
    (∀ n ≤ p.world.commits.length, ∀ f ∈ (p.world.state n).flights, f.status = .scheduled ∨
      f.status = .open ∧ ∃ j < n, OpenedAt p.world j f.slot) ∧
    (∀ j j' f f', OpenedAt p.world j f → OpenedAt p.world j' f' → f.id = f'.id → j = j') ∧
    ∀ n m f, n ≤ m → m ≤ p.world.commits.length → (p.world.state n).flights.find? f.id = some f →
      ∃ f', (p.world.state m).flights.find? f.id = some f' ∧ f'.slot = f.slot ∧
        (f.status = .open → f' = f) := by
  constructor
  · exact fun n le f mem => scheduled_or_opened h le mem
  constructor
  · intro j j' f f' first second same
    have le := not_opened_again h first second same
    have ge := not_opened_again h second first same.symm
    omega
  · exact fun n m f le le' found => open_stays h le le' found

/-- The sample flight is opened by one commit, and open when its seat is held. -/
theorem flights_open_once_sample : ∃ p, Pool.run sampleMoves
      (service sampleAirports 0 false false (sampleThreads fun _ => sampleBooking)) = some p ∧
    p.world.commits.length = 8 ∧ p.world.db.flights.rows.map (·.status) = [.open] ∧
    ∀ n ≤ 8, ∀ f ∈ (p.world.state n).flights, f.status = .scheduled ∨
      f.status = .open ∧ ∃ j < n, OpenedAt p.world j f.slot := by
  have ran : ((Pool.run sampleMoves (service sampleAirports 0 false false
      (sampleThreads fun _ => sampleBooking))).map fun p =>
        (p.world.commits.length, p.world.db.flights.rows.map (·.status))) =
      some (8, [.open]) := by decide +kernel
  obtain ⟨p, ran, seen⟩ := Option.map_eq_some_iff.mp ran
  obtain ⟨length, statuses⟩ := Prod.mk.inj seen
  exact ⟨p, ran, length, statuses, length ▸ (flights_open_once (Pool.run_reachable ran)).1⟩

/-! ### The schedule -/

/-- A commit leaves the slots as they are, or adds the one it was admitted to. -/
theorem slots_step (h : (service airports clock steady idempotent invocations).Reachable p)
    {n : Nat} (lt : n < p.world.commits.length) :
    (p.world.state (n + 1)).slots = (p.world.state n).slots ∨ ∃ flight seen,
      (p.world.state (n + 1)).slots = insert flight.slot (p.world.state n).slots ∧
      flight.status = .scheduled ∧
      FlightAdmitted p.world.timeline n (p.world.timeline.locked n) flight seen := by
  have sound := ((service_kept ..).reachable h).good.sound
  obtain ⟨c', ran, log, -, locked⟩ := sound.commits lt
  obtain ⟨trail, trailed, asked⟩ := asked_of_service h _ (List.getElem_mem lt)
  have next : (p.world.state (n + 1)).flights = (p.world.state n).flights.putAll c'.log.flights := by
    rw [p.world.state_succ lt, ← log]
    rfl
  have quiet : c'.log.flights = [] → (p.world.state (n + 1)).slots = (p.world.state n).slots := by
    intro flights
    rw [flights] at next
    exact slots_same next
  rw [locked]
  clear log locked
  revert ran
  generalize p.world.commits[n].result = r
  revert r
  generalize p.world.commits[n].tx = x at asked ⊢
  generalize invocations p.world.commits[n].thread = invocation at asked
  intro r ran
  cases flightsChange_of_commits sound.framed ran with
  | elsewhere _ flights => exact .inl (quiet flights)
  | registered _ _ flights => exact .inl (quiet flights)
  | opened found _ _ flights =>
      rw [flights, Table.putAll_cons, Table.putAll_nil] at next
      exact .inl (slots_status (Table.mem_of_find? found) next)
  | @created flight _ _ _ _ _ _ _ on _ flights =>
      have status : flight.row.status = .scheduled := by
        cases asked with
        | createFlight of => exact of.status
      by_cases made : r = .created
      · subst made
        obtain ⟨seen, admitted⟩ := createFlight_admitted sound.framed ran
        rw [flights, Table.putAll_cons, Table.putAll_nil] at next
        exact .inr ⟨flight.row, seen, slots_insert on.fresh next, status, admitted⟩
      · -- A flight that was not inserted is not written.
        rw [createFlight_idle sound.framed made ran] at flights
        cases flights

/-- A slot was taken on by a commit that held the entry of its group, after it looked. -/
theorem slots_grow (h : (service airports clock steady idempotent invocations).Reachable p)
    {γ : Type} {group : FlightRow → γ} {conflict : FlightRow → FlightRow → Prop} (row : γ → Row)
    (entered : ∀ {m flight seen}, FlightAdmitted p.world.timeline m (p.world.timeline.locked m)
      flight seen → row (group flight.slot) ∈ p.world.timeline.locked m ∧
        p.world.timeline.Keeps (row (group flight.slot)) seen m)
    (clear : ∀ {m flight seen}, m ≤ p.world.commits.length → flight.status = .scheduled →
      FlightAdmitted p.world.timeline m (p.world.timeline.locked m) flight seen →
      ∀ f ∈ (p.world.state seen).flights, group f.slot = group flight.slot →
        ¬ conflict f.slot flight.slot) :
    ∀ m < p.world.commits.length, Grows (fun m => (p.world.state m).slots) group conflict
      (fun m g => row g ∈ p.world.timeline.locked m) m := by
  intro m lt
  rcases slots_step h lt with same | ⟨flight, seen, grown, status, admitted⟩
  · exact .same same
  · obtain ⟨held, kept⟩ := entered admitted
    refine .added grown admitted.le held kept ?_
    rintro _ ⟨f, mem, rfl⟩ same
    exact clear (Nat.le_of_lt lt) status admitted f mem same

/-- No two flights of one aircraft keep it busy at once. -/
theorem aircraft_apart (h : (service airports clock steady idempotent invocations).Reachable p)
    {n : Nat} (le : n ≤ p.world.commits.length) :
    Apart (·.aircraftId) (fun a b => occupanciesOverlap a b = true) (p.world.state n).slots := by
  refine apart (slots_grow h Row.aircraftSchedule ?_ ?_) ?_ ?_ n le
  · exact fun admitted => ⟨admitted.schedule, admitted.scheduleKept⟩
  · intro m flight seen le status admitted f mem same overlap
    have going : f.status ≠ .cancelled := by
      rcases scheduled_or_opened h (Nat.le_trans admitted.le le) mem with is | ⟨is, -⟩ <;>
        simp [is]
    have clear := admitted.apart (by simp [status]) f mem same going
    rw [show occupanciesOverlap f flight = true from overlap] at clear
    cases clear
  · intro a b
    rw [occupanciesOverlap_iff, occupanciesOverlap_iff]
    exact And.symm
  · rintro _ ⟨f, mem, -⟩
    rw [World.state_zero, h.initial_eq] at mem
    exact absurd mem (Table.not_mem_empty f)

/-- No two flights leave at one time under one number. -/
theorem numbers_apart (h : (service airports clock steady idempotent invocations).Reachable p)
    {n : Nat} (le : n ≤ p.world.commits.length) :
    Apart (fun f => (f.flightNumber, f.departureAt)) (fun _ _ => True) (p.world.state n).slots := by
  refine apart (slots_grow h (fun g => Row.flightNumber g.1 g.2) ?_ ?_) ?_ ?_ n le
  · exact fun admitted => ⟨admitted.number, admitted.numberKept⟩
  · intro m flight seen le status admitted f mem same
    exact absurd (Prod.ext_iff.mp same) (admitted.single f mem)
  · exact fun _ _ _ => trivial
  · rintro _ ⟨f, mem, -⟩
    rw [World.state_zero, h.initial_eq] at mem
    exact absurd mem (Table.not_mem_empty f)

theorem flights_last (h : (service airports clock steady idempotent invocations).Reachable p)
    {n : Nat} (le : n ≤ p.world.commits.length) :
    ∀ s ∈ (p.world.state n).slots, s.departureAt < s.arrivalAt := by
  induction n with
  | zero =>
      rintro _ ⟨f, mem, -⟩
      rw [World.state_zero, h.initial_eq] at mem
      exact absurd mem (Table.not_mem_empty f)
  | succ n ih =>
      have before := ih (Nat.le_of_succ_le le)
      rcases slots_step h le with same | ⟨flight, seen, grown, -, admitted⟩
      · rwa [same]
      · rw [grown]
        rintro s (rfl | mem)
        · exact admitted.lasts
        · exact before s mem

/-- In every state of every run, whichever CreateFlight requests overlapped: a flight arrives
after it leaves; of two flights of one aircraft one has arrived, and been turned around, by the
time the other leaves; and no two flights leave at one time under one number. -/
theorem schedule_kept (h : (service airports clock steady idempotent invocations).Reachable p)
    {n : Nat} (le : n ≤ p.world.commits.length) :
    (∀ a ∈ (p.world.state n).flights, a.departureAt < a.arrivalAt) ∧
    ∀ a ∈ (p.world.state n).flights, ∀ b ∈ (p.world.state n).flights, a.id ≠ b.id →
      (a.aircraftId = b.aircraftId →
        a.arrivalAt + AIRCRAFT_TURNAROUND_MS ≤ b.departureAt ∨
        b.arrivalAt + AIRCRAFT_TURNAROUND_MS ≤ a.departureAt) ∧
      (a.flightNumber = b.flightNumber → a.departureAt ≠ b.departureAt) := by
  constructor
  · exact fun a mem => flights_last h le a.slot ⟨a, mem, rfl⟩
  intro a memA b memB ne
  have slotA : a.slot ∈ (p.world.state n).slots := ⟨a, memA, rfl⟩
  have slotB : b.slot ∈ (p.world.state n).slots := ⟨b, memB, rfl⟩
  have ne' : a.slot ≠ b.slot := by
    intro same
    have ids : a.slot.id = b.slot.id := by rw [same]
    exact ne ids
  constructor
  · intro aircraft
    have clear : ¬ occupanciesOverlap a.slot b.slot = true :=
      aircraft_apart h le slotA slotB ne' aircraft
    rw [occupanciesOverlap_iff, not_and_or, not_lt, not_lt] at clear
    exact clear.symm
  · intro number departure
    exact numbers_apart h le slotA slotB ne' (Prod.ext number departure) trivial

end Service

/-- A second flight of the sample aircraft, leaving when the first has been turned around. -/
def nextFlight (departureAt : Instant) : Invocation :=
  .createFlight ⟨"VN2", "SGN", "HAN", "VN-A321", departureAt, departureAt + 7200000,
    ⟨some sampleFare, none⟩⟩ (departureAt.toNat) 1 30 31 none

def nextFlights : Nat → Invocation := sampleThreads fun
  | 0 => nextFlight 1009899999
  | _ => nextFlight 1009900000

def nextFlightMoves : List (Nat × Move app) :=
  sampleMoves ++ Pool.wholly 4 0 1 ++ Pool.wholly 4 0 1 ++ Pool.wholly 4 0 1 ++
    Pool.wholly 5 0 1 ++ Pool.wholly 5 0 1 ++ Pool.wholly 5 0 1 ++ Pool.wholly 4 0 1 ++
    Pool.wholly 5 0 5

/-- Of two requests that overlap, one asks a millisecond too early and is refused. -/
theorem schedule_kept_sample : ∃ p, Pool.run nextFlightMoves
      (service sampleAirports 0 false false nextFlights) = some p ∧
    p.world.db.flights.rows.map (·.departureAt) = [1000000000, 1009900000] ∧
    (∀ a ∈ (p.world.state p.world.commits.length).flights, a.departureAt < a.arrivalAt) ∧
    ∀ a ∈ (p.world.state p.world.commits.length).flights,
      ∀ b ∈ (p.world.state p.world.commits.length).flights, a.id ≠ b.id →
      (a.aircraftId = b.aircraftId →
        a.arrivalAt + AIRCRAFT_TURNAROUND_MS ≤ b.departureAt ∨
        b.arrivalAt + AIRCRAFT_TURNAROUND_MS ≤ a.departureAt) ∧
      (a.flightNumber = b.flightNumber → a.departureAt ≠ b.departureAt) := by
  have ran : ((Pool.run nextFlightMoves (service sampleAirports 0 false false nextFlights)).map
      fun p => p.world.db.flights.rows.map (·.departureAt)) =
      some [1000000000, 1009900000] := by decide +kernel
  obtain ⟨p, ran, flights⟩ := Option.map_eq_some_iff.mp ran
  exact ⟨p, ran, flights, schedule_kept (Pool.run_reachable ran) (Nat.le_refl _)⟩

end FlightBooking
