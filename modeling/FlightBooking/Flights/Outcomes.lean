import FlightBooking.Flights.Transactions
import FlightBooking.Bookings.Outcomes

/-!
What a committed flight transaction did to the seats: a new flight gets its
aircraft's layout, all free, and nothing else touches a seat, a booking or a
passenger.
-/

namespace FlightBooking

open Relational ReadCommitted

variable {T : Timeline postgres} {n i : Nat} {c c' : Cursor postgres} {now : Instant}
  {skip : List Row} {snap cur : Db}

/-- No booking, passenger, payment or key is written, nor a record of a booking. -/
structure Changes.Quiet (w : Changes) : Prop where
  bookings : w.bookings = []
  passengers : w.passengers = []
  payments : w.payments = []
  keys : w.keys = []
  records : ∀ a ∈ w.audit, ∀ id, a.target ≠ .booking id
  events : ∀ o ∈ w.outbox, o.entry.payload.body.bookingId? = none

theorem Changes.Quiet.append {c d : Changes} (hc : c.Quiet) (hd : d.Quiet) :
    (Changes.append c d).Quiet where
  bookings := by simp [Changes.append, hc.bookings, hd.bookings]
  passengers := by simp [Changes.append, hc.passengers, hd.passengers]
  payments := by simp [Changes.append, hc.payments, hd.payments]
  keys := by simp [Changes.append, hc.keys, hd.keys]
  records a mem := (List.mem_append.mp mem).elim (hc.records a) (hd.records a)
  events o mem := (List.mem_append.mp mem).elim (hc.events o) (hd.events o)

/-- Changes to other tables than these are quiet. -/
theorem Changes.quiet_of_rows {w : Changes} (bookings : w.bookings = [])
    (passengers : w.passengers = []) (payments : w.payments = []) (keys : w.keys = [])
    (audit : w.audit = []) (outbox : w.outbox = []) : w.Quiet :=
  ⟨bookings, passengers, payments, keys, by simp [audit], by simp [outbox]⟩

/-- A flight that is there keeps its departure. -/
def Changes.Punctual (db : Db) (w : Changes) : Prop :=
  ∀ f ∈ w.flights, ∀ g, db.flights.find? (key f) = some g → f.departureAt = g.departureAt

theorem Changes.punctual_of_flights {db : Db} {w : Changes} (flights : w.flights = []) :
    w.Punctual db := fun f mem => by simp [flights] at mem

theorem Changes.Punctual.frame {a b : Db} {w : Changes} (h : w.Punctual a)
    (agree : ∀ r ∈ w.touched, Db.Agree r a b) : w.Punctual b := fun f mem g found =>
  h f mem g ((agree _ (Changes.flight_touched mem)).trans found)

theorem Changes.Punctual.append {db : Db} {c d : Changes} (hc : c.Punctual db)
    (hd : d.Punctual (c.apply db)) : (Changes.append c d).Punctual db := by
  intro f mem g found
  rcases List.mem_append.mp mem with mem | mem
  · exact hc f mem g found
  · rcases Table.find?_putAll_cases db.flights c.flights (key f) with same | ⟨h, memH, here, now⟩
    · exact hd f mem g (same.trans found)
    · exact (hd f mem h now).trans (hc h memH g (here ▸ found))

/-- Quiet and punctual, and no seat is written. -/
structure Changes.Untouched (db : Db) (w : Changes) : Prop where
  seats : w.seats = []
  quiet : w.Quiet
  punctual : w.Punctual db

theorem Changes.Untouched.frame {a b : Db} {w : Changes} (h : w.Untouched a)
    (agree : ∀ r ∈ w.touched, Db.Agree r a b) : w.Untouched b :=
  { h with punctual := h.punctual.frame agree }

theorem Changes.Untouched.append {db : Db} {c d : Changes} (hc : c.Untouched db)
    (hd : d.Untouched (c.apply db)) : (Changes.append c d).Untouched db where
  seats := by simp [Changes.append, hc.seats, hd.seats]
  quiet := hc.quiet.append hd.quiet
  punctual := hc.punctual.append hd.punctual

theorem Changes.untouched_none (db : Db) : Changes.Untouched db {} :=
  ⟨rfl, Changes.quiet_of_rows rfl rfl rfl rfl rfl rfl, Changes.punctual_of_flights rfl⟩

/-- A transaction whose statements leave the tables alone leaves them alone. -/
theorem untouched_of_writes {α : Type} (framed : T.Framed) {p : Prog postgres α} {r : α}
    (h : Writes Changes.Untouched p) (ran : Commits T n p (.start i) r c') :
    c'.log.Untouched (T.state n) :=
  ran.writes framed (fun _ _ _ h agree => h.frame agree) (fun _ _ _ h h' => h.append h') h
    (Changes.untouched_none _)

theorem recordAudit_untouched {input : AuditRecordInput} (other : ∀ id, input.target ≠ .booking id)
    {out} (done : recordAudit input skip snap cur = .ok out) : out.writes.Untouched cur := by
  rw [(recordAudit_ok done).1]
  exact ⟨rfl, ⟨rfl, rfl, rfl, rfl, by simpa using other, by simp⟩, Changes.punctual_of_flights rfl⟩

theorem enqueue_untouched {entry : OutboxEntry} (other : entry.payload.body.bookingId? = none)
    {out} (done : enqueue entry skip snap cur = .ok out) : out.writes.Untouched cur := by
  rw [(enqueue_ok done).1]
  exact ⟨rfl, ⟨rfl, rfl, rfl, rfl, by simp, by simpa using other⟩, Changes.punctual_of_flights rfl⟩

theorem registerAircraft_untouched (aircraft : Aircraft) (actor auditId : Uuid)
    (requestId : Option Uuid) :
    Writes Changes.Untouched (registerAircraftTransaction aircraft actor auditId requestId) := by
  refine writes_bind (writes_query fun skip snap cur out done => ?_) fun inserted => ?_
  · unfold insertAircraft at done
    split at done
    · cases done
    · split at done <;> cases done <;>
        exact ⟨rfl, Changes.quiet_of_rows rfl rfl rfl rfl rfl rfl, Changes.punctual_of_flights rfl⟩
  · cases inserted with
    | false => trivial
    | true =>
        exact writes_bind (writes_query fun _ _ _ _ => recordAudit_untouched fun _ h => by cases h)
          fun _ => trivial

theorem updateFlightStatus_untouched {flightId : Uuid} {expected next : StoredFlightStatus} {out}
    (h : updateFlightStatus flightId expected next skip snap cur = .ok out) :
    out.writes.Untouched cur := by
  unfold updateFlightStatus at h
  split at h
  · cases h
    exact Changes.untouched_none cur
  · extract_lets locks at h
    split at h
    · cases h
      exact Changes.untouched_none cur
    · rename_i flight newest
      cases h
      refine ⟨rfl, Changes.quiet_of_rows rfl rfl rfl rfl rfl rfl, fun f mem g found => ?_⟩
      obtain rfl := List.mem_singleton.mp mem
      have here := (Option.filter_eq_some_iff.mp newest).1
      have own : key flight = flightId := Table.key_of_find? here
      have same : cur.flights.find? (key flight) = some g := found
      rw [own, here] at same
      cases same
      rfl

theorem changeStatus_untouched (flightId : Uuid) (expected next : StoredFlightStatus) :
    Writes Changes.Untouched (changeStatus flightId expected next) := by
  refine writes_bind (writes_query fun _ _ _ _ => updateFlightStatus_untouched) fun updated => ?_
  cases updated with
  | true => trivial
  | false =>
      refine writes_bind (writes_query fun skip snap cur out done => ?_) fun found => ?_
      · cases done
        exact Changes.untouched_none cur
      · cases found <;> trivial

theorem openFlight_untouched (flight : FlightRow) (actor auditId : Uuid) (requestId : Option Uuid) :
    Writes Changes.Untouched (openFlightTransaction flight actor auditId requestId now) := by
  refine writes_bind (changeStatus_untouched _ _ _) fun result => ?_
  cases result with
  | changed =>
      exact writes_bind (writes_query fun _ _ _ _ => recordAudit_untouched fun _ h => by cases h)
        fun _ => trivial
  | notFound => trivial
  | statusChanged current => trivial

/-! ### A new flight's seats -/

/-- Only free seats are written, and none that is there already. -/
structure Changes.LaysOut (db : Db) (w : Changes) : Prop where
  quiet : w.Quiet
  punctual : w.Punctual db
  distinct : (w.seats.map key).Nodup
  fresh : ∀ s ∈ w.seats, db.seats.find? (key s) = none
  available : ∀ s ∈ w.seats, s.status = .available
  unowned : ∀ s ∈ w.seats, s.bookingId = none

theorem Changes.Untouched.laysOut {db : Db} {w : Changes} (h : w.Untouched db) : w.LaysOut db := by
  obtain ⟨seats, quiet, punctual⟩ := h
  exact ⟨quiet, punctual, by simp [seats], by simp [seats], by simp [seats], by simp [seats]⟩

theorem copySeats_laysOut {flightId aircraftId : Uuid} {out}
    (h : copySeats flightId aircraftId skip snap cur = .ok out) : out.writes.LaysOut cur := by
  unfold copySeats at h
  extract_lets seats at h
  split at h
  · cases h
  · rename_i fresh
    cases h
    push Not at fresh
    refine ⟨Changes.quiet_of_rows rfl rfl rfl rfl rfl rfl, Changes.punctual_of_flights rfl, ?_,
      fun s mem => by simpa using fresh s mem, fun s mem => ?_, fun s mem => ?_⟩
    · have positions : ((snap.aircraft.find? aircraftId).toList.flatMap (·.seats)).map (·.position)
          |>.Nodup := by
        cases snap.aircraft.find? aircraftId with
        | none => exact List.nodup_nil
        | some aircraft => simpa using aircraft.distinct
      have keys := positions.map (f := fun p => (flightId, p)) fun a b same => congrArg Prod.snd same
      simpa [seats, key, Function.comp_def] using keys
    · obtain ⟨_, -, rfl⟩ := List.mem_map.mp mem
      rfl
    · obtain ⟨_, -, rfl⟩ := List.mem_map.mp mem
      rfl

theorem insertFlightRow_untouched {flight : FlightRow} {out}
    (h : insertFlightRow flight skip snap cur = .ok out) : out.writes.Untouched cur := by
  unfold insertFlightRow at h
  split at h
  · cases h
  split at h
  · cases h
  rename_i fresh
  split at h
  · cases h
    exact Changes.untouched_none cur
  split at h
  · cases h
    exact Changes.untouched_none cur
  split at h
  · cases h
    exact Changes.untouched_none cur
  · cases h
    refine ⟨rfl, Changes.quiet_of_rows rfl rfl rfl rfl rfl rfl, fun f mem g found => ?_⟩
    obtain rfl := List.mem_singleton.mp mem
    have same : cur.flights.find? f.id = some g := found
    simp [same] at fresh

theorem insertFlight_writes (flight : Flight) :
    Writes Changes.LaysOut (insertFlight flight) := by
  refine writes_bind (writes_query fun skip snap cur out done => ?_) fun inserted => ?_
  · exact (insertFlightRow_untouched done).laysOut
  · cases inserted with
    | created =>
        refine writes_bind (writes_query fun skip snap cur out done => copySeats_laysOut done)
          fun _ => writes_bind (writes_query fun skip snap cur out done => ?_) fun _ => trivial
        unfold insertFares at done
        extract_lets rows at done
        split at done
        · cases done
        · split at done
          · cases done
          · cases done
            exact Changes.Untouched.laysOut ⟨rfl, Changes.quiet_of_rows rfl rfl rfl rfl rfl rfl,
              Changes.punctual_of_flights rfl⟩
    | duplicate => trivial
    | aircraftUnavailable => trivial
    | referenceNotFound => trivial

theorem Changes.LaysOut.frame {a b : Db} {w : Changes} (h : w.LaysOut a)
    (agree : ∀ r ∈ w.touched, Db.Agree r a b) : w.LaysOut b :=
  { h with
    punctual := h.punctual.frame agree
    fresh := fun s mem => (agree _ (Changes.seat_touched mem)).symm.trans (h.fresh s mem) }

theorem Changes.LaysOut.append {db : Db} {c d : Changes} (hc : c.LaysOut db)
    (hd : d.LaysOut (c.apply db)) : (Changes.append c d).LaysOut db where
  quiet := hc.quiet.append hd.quiet
  punctual := hc.punctual.append hd.punctual
  distinct := by
    have apart : ∀ s ∈ d.seats, key s ∉ c.seats.map key := fun s mem old => by
      obtain ⟨u, memU, same⟩ := List.mem_map.mp old
      have none : (db.seats.putAll c.seats).find? (key s) = none := hd.fresh s mem
      rw [← same, Table.find?_putAll_of_mem hc.distinct memU] at none
      cases none
    rw [Changes.append, List.map_append, List.nodup_append]
    refine ⟨hc.distinct, hd.distinct, fun k mem k' mem' same => ?_⟩
    obtain ⟨s, memS, rfl⟩ := List.mem_map.mp mem'
    exact apart s memS (same ▸ mem)
  fresh s mem := by
    rcases List.mem_append.mp mem with mem | mem
    · exact hc.fresh s mem
    · have none : (db.seats.putAll c.seats).find? (key s) = none := hd.fresh s mem
      by_cases old : key s ∈ c.seats.map key
      · obtain ⟨u, memU, same⟩ := List.mem_map.mp old
        rw [← same, Table.find?_putAll_of_mem hc.distinct memU] at none
        cases none
      · rwa [Table.find?_putAll_of_notMem old] at none
  available s mem := (List.mem_append.mp mem).elim (hc.available s) (hd.available s)
  unowned s mem := (List.mem_append.mp mem).elim (hc.unowned s) (hd.unowned s)

theorem createFlight_writes (flight : Flight) (actor auditId eventId : Uuid)
    (requestId : Option Uuid) :
    Writes Changes.LaysOut (createFlightTransaction flight actor auditId eventId requestId now) := by
  refine writes_bind (insertFlight_writes flight) fun inserted => ?_
  cases inserted with
  | created =>
      refine writes_bind (writes_query fun skip snap cur out done => ?_) fun _ =>
        writes_bind (writes_query fun skip snap cur out done => ?_) fun _ => trivial
      · exact (recordAudit_untouched (fun _ h => by cases h) done).laysOut
      · exact (enqueue_untouched rfl done).laysOut
  | duplicate => trivial
  | aircraftUnavailable => trivial
  | referenceNotFound => trivial

theorem createFlight_commits (framed : T.Framed) {flight : Flight} {actor auditId eventId : Uuid}
    {requestId : Option Uuid} {r : FlightInserted}
    (h : Commits T n (createFlightTransaction flight actor auditId eventId requestId now)
      (.start i) r c') : c'.log.LaysOut (T.state n) :=
  h.writes framed (fun _ _ _ h agree => h.frame agree) (fun _ _ _ h h' => h.append h')
    (createFlight_writes flight actor auditId eventId requestId)
    (Changes.untouched_none _).laysOut

end FlightBooking
