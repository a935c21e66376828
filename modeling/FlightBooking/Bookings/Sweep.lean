import FlightBooking.Bookings.Reads
import FlightBooking.System.UseCases

/-!
A run of the expiry job that nobody comes between, as a relation of the version
before and the version after it.

The job marks due holds EXPIRED, releases their seats and records both; everything
else stays (`SweptTo`). The relation stays when both versions are changed in the same
way, which is what the two-run results about later calls need.
-/

namespace FlightBooking

open Interaction Relational ReadCommitted

variable {a b c : Db} {t₀ : Instant} {ids : Nat → ExpiryIds} {due : List Uuid}

/-! ### The relation -/

def BookingRow.expire (row : BookingRow) : BookingRow := { row with status := .expired }

/-- A due hold of the list. -/
def IsSwept (t₀ : Instant) (due : List Uuid) (row : BookingRow) : Prop :=
  isDue t₀ row = true ∧ row.id ∈ due

/-- No audit entry of a sweep has this id. -/
def AuditFree (ids : Nat → ExpiryIds) (id : Uuid) : Prop := ∀ m k, id ≠ (ids m).auditId k

/-- No event of a sweep has this id. -/
def EventFree (ids : Nat → ExpiryIds) (id : Uuid) : Prop := ∀ m k, id ≠ (ids m).eventId k

/-- `b` is `a` after some of the holds `due`, all due at `t₀`, were expired: their
seats may be released, and records with the sweep's ids may be there. -/
structure SweptTo (t₀ : Instant) (ids : Nat → ExpiryIds) (due : List Uuid) (a b : Db) : Prop where
  bookings : a.bookings.Rewritten (IsSwept t₀ due) BookingRow.expire b.bookings
  seats : a.seats.Rewritten (fun s => seatsOf due s = true) releaseSeat b.seats
  flights : b.flights = a.flights
  passengers : b.passengers = a.passengers
  payments : b.payments = a.payments
  keys : b.keys = a.keys
  audit : ∀ id, AuditFree ids id → b.audit.find? id = a.audit.find? id
  outbox : ∀ id, EventFree ids id → b.outbox.find? id = a.outbox.find? id

@[simp] theorem key_expire (row : BookingRow) : key row.expire = key row := rfl

theorem not_swept_expire (row : BookingRow) (_ : IsSwept t₀ due row) :
    ¬ IsSwept t₀ due row.expire := by
  simp [IsSwept, BookingRow.expire, isDue]

theorem not_seatsOf_release (seat : FlightSeat) (_ : seatsOf due seat = true) :
    ¬ seatsOf due (releaseSeat seat) = true := by
  simp [seatsOf, releaseSeat]

namespace SweptTo

theorem refl (t₀ : Instant) (ids : Nat → ExpiryIds) (due : List Uuid) (a : Db) :
    SweptTo t₀ ids due a a :=
  ⟨.refl .., .refl .., rfl, rfl, rfl, rfl, fun _ _ => rfl, fun _ _ => rfl⟩

theorem trans (first : SweptTo t₀ ids due a b) (second : SweptTo t₀ ids due b c) :
    SweptTo t₀ ids due a c where
  bookings := first.bookings.trans not_swept_expire second.bookings
  seats := first.seats.trans not_seatsOf_release second.seats
  flights := second.flights.trans first.flights
  passengers := second.passengers.trans first.passengers
  payments := second.payments.trans first.payments
  keys := second.keys.trans first.keys
  audit id free := (second.audit id free).trans (first.audit id free)
  outbox id free := (second.outbox id free).trans (first.outbox id free)

/-- The same changes to both versions. -/
theorem apply (swept : SweptTo t₀ ids due a b) (log : Changes) :
    SweptTo t₀ ids due (log.apply a) (log.apply b) where
  bookings := swept.bookings.putAll key_expire _
  seats := swept.seats.putAll key_releaseSeat _
  flights := congrArg (·.putAll log.flights) swept.flights
  passengers := congrArg (·.putAll log.passengers) swept.passengers
  payments := congrArg (·.putAll log.payments) swept.payments
  keys := congrArg (log.keys.foldl KeyChange.apply) swept.keys
  audit id free := Table.find?_putAll_congr (swept.audit id free) _
  outbox id free := Table.find?_putAll_congr (swept.outbox id free) _

/-- A booking that was not swept is the same. -/
theorem booking_same (swept : SweptTo t₀ ids due a b) {id : Uuid} (out : id ∉ due) :
    b.bookings.find? id = a.bookings.find? id := by
  rcases swept.bookings.find? key_expire id with same | ⟨row, found, ⟨-, mem⟩, -⟩
  · exact same
  · exact absurd (Table.key_of_find? found ▸ mem) out

end SweptTo

/-! ### The job -/

/-- The only call the job makes. -/
def clockAt (now : Instant) : (call : Call) → Option call.Answer
  | .readClock => some now
  | _ => none

/-- The holds that are due. -/
def dueIds (t₀ : Instant) (db : Db) : List Uuid := (db.bookings.rows.filter (isDue t₀)).map (·.id)

theorem mem_dueIds {db : Db} {id : Uuid} :
    id ∈ dueIds t₀ db ↔ ∃ row, db.bookings.find? id = some row ∧ isDue t₀ row = true := by
  simp only [dueIds, List.mem_map, List.mem_filter, Table.mem_rows]
  constructor
  · rintro ⟨row, ⟨mem, isDue⟩, rfl⟩
    exact ⟨row, Table.find?_of_mem mem, isDue⟩
  · rintro ⟨row, found, isDue⟩
    exact ⟨row, ⟨Table.mem_of_find? found, isDue⟩, Table.key_of_find? found⟩

theorem expireHolds_runs (batchSize maxBatches : Nat) :
    app.Runs (clockAt t₀) (fun x => ∃ m, x = .expireBatch t₀ batchSize (ids m))
      (expireHolds batchSize maxBatches ids) := by
  have batches : ∀ left done expired, app.Runs (clockAt t₀)
      (fun x => ∃ m, x = .expireBatch t₀ batchSize (ids m))
      (expireBatches t₀ batchSize ids left done expired) := by
    intro left
    induction left with
    | zero => intro _ _; trivial
    | succ left ih =>
        intro done expired
        refine App.runs_bind (App.runs_run ⟨done, rfl⟩) fun count => ?_
        split
        · trivial
        · exact ih _ _
  rintro now answered
  cases answered
  exact batches maxBatches 0 0

theorem execute_recordAudit {db : Db} {input : AuditRecordInput} {log log' : Changes} {r : Unit}
    (ran : execute (S := postgres) [] db (query (recordAudit input)) log = .ok (r, log')) :
    log' = log.append { audit := [input] } := by
  obtain ⟨out, done, -, rfl⟩ := execute_query_ok ran
  exact congrArg log.append (recordAudit_ok done).1

theorem execute_recordAudit_fresh {db : Db} {input : AuditRecordInput} {log log' : Changes} {r : Unit}
    (ran : execute (S := postgres) [] db (query (recordAudit input)) log = .ok (r, log')) :
    (log.apply db).audit.find? input.id = none := by
  obtain ⟨out, done, -, -⟩ := execute_query_ok ran
  exact (recordAudit_ok done).2

theorem execute_enqueue {db : Db} {entry : OutboxEntry} {log log' : Changes} {r : Unit}
    (ran : execute (S := postgres) [] db (query (enqueue entry)) log = .ok (r, log')) :
    log' = log.append { outbox := [⟨entry, none⟩] } := by
  obtain ⟨out, done, -, rfl⟩ := execute_query_ok ran
  exact congrArg log.append (enqueue_ok done).1

theorem execute_enqueue_fresh {db : Db} {entry : OutboxEntry} {log log' : Changes} {r : Unit}
    (ran : execute (S := postgres) [] db (query (enqueue entry)) log = .ok (r, log')) :
    (log.apply db).outbox.find? entry.id = none := by
  obtain ⟨out, done, -, -⟩ := execute_query_ok ran
  exact (enqueue_ok done).2

theorem recordAudit_alone {db : Db} {input : AuditRecordInput}
    (fresh : db.audit.find? input.id = none) :
    recordAudit input [] db db = .ok { reply := (), writes := { audit := [input] } } := by
  rw [recordAudit, fresh]
  rfl

theorem enqueue_alone {db : Db} {entry : OutboxEntry} (fresh : db.outbox.find? entry.id = none) :
    enqueue entry [] db db = .ok { reply := (), writes := { outbox := [⟨entry, none⟩] } } := by
  rw [enqueue, fresh]
  rfl

theorem execute_bind_ok {db : Db} {α β : Type} {p : Prog postgres β} {f : β → Prog postgres α}
    {log log' : Changes} {r : α}
    (ran : execute (S := postgres) [] db (p >>= f) log = .ok (r, log')) :
    ∃ x mid, execute (S := postgres) [] db p log = .ok (x, mid) ∧
      execute (S := postgres) [] db (f x) mid = .ok (r, log') := by
  rw [execute_bind] at ran
  cases first : execute (S := postgres) [] db p log with
  | error e =>
      rw [first] at ran
      cases ran
  | ok done =>
      rw [first] at ran
      exact ⟨done.1, done.2, rfl, ran⟩

/-- The audit entry of an expired hold. -/
def expiryAudit (now : Instant) (auditId eventId : Uuid) (hold : ExpiredHold) : AuditRecordInput :=
  { id := auditId
    action := .bookingExpired
    actor := HOLD_EXPIRY_ACTOR
    target := .booking hold.bookingId
    requestId := none
    occurredAt := now
    metadata :=
      [("flightId", .id hold.flightId), ("reference", .text hold.reference),
        ("seats", .text (joinSeats hold.seats)), ("holdExpiresAt", .instant hold.holdExpiresAt),
        ("correlationId", .id (resolveCorrelationId none eventId))] }

/-- Its event, not published yet. -/
def expiryEvent (now : Instant) (eventId : Uuid) (hold : ExpiredHold) : OutboxRow :=
  ⟨{ id := eventId
     eventType := .bookingExpired
     payload := ⟨eventId, resolveCorrelationId none eventId, now,
       .bookingExpired hold.bookingId hold.reference hold.flightId hold.holdExpiresAt hold.seats⟩
     createdAt := now }, none⟩

/-- The audit entries of a batch, from index `i` on. -/
def expiryAudits (now : Instant) (own : ExpiryIds) : Nat → List ExpiredHold → List AuditRecordInput
  | _, [] => []
  | i, hold :: holds =>
      expiryAudit now (own.auditId i) (own.eventId i) hold :: expiryAudits now own (i + 1) holds

def expiryEvents (now : Instant) (own : ExpiryIds) : Nat → List ExpiredHold → List OutboxRow
  | _, [] => []
  | i, hold :: holds => expiryEvent now (own.eventId i) hold :: expiryEvents now own (i + 1) holds

theorem mem_expiryAudits {now : Instant} {own : ExpiryIds} {holds : List ExpiredHold} {i : Nat}
    {x : AuditRecordInput} (mem : x ∈ expiryAudits now own i holds) : ∃ k, x.id = own.auditId k := by
  induction holds generalizing i with
  | nil => cases mem
  | cons hold holds ih =>
      rcases List.mem_cons.mp mem with rfl | mem
      · exact ⟨i, rfl⟩
      · exact ih mem

theorem mem_expiryEvents {now : Instant} {own : ExpiryIds} {holds : List ExpiredHold} {i : Nat}
    {o : OutboxRow} (mem : o ∈ expiryEvents now own i holds) : ∃ k, o.entry.id = own.eventId k := by
  induction holds generalizing i with
  | nil => cases mem
  | cons hold holds ih =>
      rcases List.mem_cons.mp mem with rfl | mem
      · exact ⟨i, rfl⟩
      · exact ih mem

theorem execute_recordExpiry {db : Db} {now : Instant} {hold : ExpiredHold}
    {auditId eventId : Uuid} {log log' : Changes} {r : Unit}
    (ran : execute (S := postgres) [] db (recordExpiry hold auditId eventId now) log =
      .ok (r, log')) :
    log' = log.append
      { audit := [expiryAudit now auditId eventId hold], outbox := [expiryEvent now eventId hold] } := by
  obtain ⟨_, mid, audited, announced⟩ := execute_bind_ok ran
  have done := execute_enqueue announced
  rw [execute_recordAudit audited] at done
  simp only [Changes.append, List.append_nil] at done ⊢
  exact done

/-- The records of a batch have the batch's ids. -/
theorem execute_recordExpiries {db : Db} {now : Instant} {own : ExpiryIds} {holds : List ExpiredHold}
    {index : Nat} {log log' : Changes} {r : Unit}
    (ran : execute (S := postgres) [] db (recordExpiries own now index holds) log = .ok (r, log')) :
    log' = log.append
      { audit := expiryAudits now own index holds, outbox := expiryEvents now own index holds } := by
  induction holds generalizing index log with
  | nil =>
      cases ran
      exact (postgres.append_none log').symm
  | cons hold holds ih =>
      obtain ⟨_, mid, first, rest⟩ := execute_bind_ok ran
      rw [ih rest, execute_recordExpiry first]
      simp [Changes.append, expiryAudits, expiryEvents]

/-- What the statement answers of a due hold. -/
def expiredHold (db : Db) (row : BookingRow) : ExpiredHold :=
  ⟨row.id, row.reference, row.flightId, row.ownerAccountId, row.holdExpiresAt.getD 0,
    sortedPositions (db.seats.rows.filter fun s => s.bookingId = some row.id)⟩

theorem lockedSeats_of {db : Db} {ids : List Uuid} {id : Uuid} (mem : id ∈ ids) :
    ((lockedSeats ids db db).filter fun s => s.bookingId = some id) =
      db.seats.rows.filter fun s => s.bookingId = some id := by
  rw [lockedSeats, Table.recheck_self, List.filter_filter]
  refine List.filter_congr fun s _ => ?_
  by_cases own : s.bookingId = some id
  · simp [own, seatsOf, mem]
  · simp [own]

theorem expireDueHolds_reply {db : Db} {now : Instant} {batchSize : Nat} :
    ((dueHolds now batchSize [] db db).map fun row => (⟨row.id, row.reference,
      row.flightId, row.ownerAccountId, row.holdExpiresAt.getD 0,
      sortedPositions ((lockedSeats ((dueHolds now batchSize [] db db).map (·.id)) db db).filter
        fun s => s.bookingId = some row.id)⟩ : ExpiredHold)) =
      (dueHolds now batchSize [] db db).map (expiredHold db) := by
  refine List.map_congr_left fun row mem => ?_
  rw [lockedSeats_of (List.mem_map_of_mem mem)]
  rfl

/-- One batch, by itself. -/
theorem execute_expireBatch {db : Db} {now : Instant} {batchSize : Nat} {own : ExpiryIds} {r : Nat}
    {log : Changes}
    (ran : execute (S := postgres) [] db (expireBatchTransaction now batchSize own) {} =
      .ok (r, log)) :
    let due := dueHolds now batchSize [] db db
    r = due.length ∧ log =
      { bookings := due.map BookingRow.expire
        seats := (lockedSeats (due.map (·.id)) db db).map releaseSeat
        audit := expiryAudits now own 0 (due.map (expiredHold db))
        outbox := expiryEvents now own 0 (due.map (expiredHold db)) } := by
  obtain ⟨holds, mid, expired, rest⟩ := execute_bind_ok ran
  obtain ⟨_, mid', recorded, last⟩ := execute_bind_ok rest
  cases last
  rw [execute_query, show postgres.apply {} db = db from rfl] at expired
  cases expired
  rw [expireDueHolds_reply] at recorded
  refine ⟨List.length_map .., ?_⟩
  rw [execute_recordExpiries recorded]
  simp only [Changes.append, List.append_nil, List.nil_append]
  rfl

/-- A batch sweeps. -/
theorem SweptTo.batch {batchSize m : Nat} {r : Nat} {log : Changes}
    (swept : SweptTo t₀ ids (dueIds t₀ a) a b)
    (ran : execute (S := postgres) [] b (expireBatchTransaction t₀ batchSize (ids m)) {} =
      .ok (r, log)) : SweptTo t₀ ids (dueIds t₀ a) a (log.apply b) := by
  obtain ⟨-, rfl⟩ := execute_expireBatch ran
  refine swept.trans ?_
  have listed : ∀ row ∈ dueHolds t₀ batchSize [] b b, IsSwept t₀ (dueIds t₀ a) row := fun row mem => by
    obtain ⟨memB, isDue, -⟩ := mem_dueHolds mem
    refine ⟨isDue, mem_dueIds.mpr ?_⟩
    have found := Table.find?_of_mem memB
    rcases swept.bookings.find? key_expire (key row) with same | ⟨row', found', was, now⟩
    · exact ⟨row, same ▸ found, isDue⟩
    · exact ⟨row', found', was.1⟩
  constructor
  · exact Table.rewritten_putAll key_expire not_swept_expire (nodup_dueHolds ..)
      (fun row mem => (mem_dueHolds mem).1) listed
  · refine Table.rewritten_putAll key_releaseSeat not_seatsOf_release (nodup_lockedSeats ..)
      (fun s mem => lockedSeats_sub mem) fun s mem => ?_
    obtain ⟨id, memId, own⟩ := seatsOf_iff.mp (mem_lockedSeats.mp mem).2.1
    obtain ⟨row, memRow, rfl⟩ := List.mem_map.mp memId
    exact seatsOf_iff.mpr ⟨row.id, (listed row memRow).2, own⟩
  · rfl
  · rfl
  · rfl
  · rfl
  · intro id free
    refine Table.find?_putAll_of_notMem fun mem => ?_
    obtain ⟨x, memX, rfl⟩ := List.mem_map.mp mem
    obtain ⟨k, own⟩ := mem_expiryAudits memX
    exact free m k own
  · intro id free
    refine Table.find?_putAll_of_notMem fun mem => ?_
    obtain ⟨o, memO, rfl⟩ := List.mem_map.mp mem
    obtain ⟨k, own⟩ := mem_expiryEvents memO
    exact free m k own

/-- A run of the job that nobody comes between, however it ends. -/
theorem sweptTo_of_alone {batchSize maxBatches : Nat} {r : Except Failure UseCaseResult}
    (ran : app.alone t₀ (clockAt t₀) (expireHolds batchSize maxBatches ids) a = some (r, b)) :
    SweptTo t₀ ids (dueIds t₀ a) a b := by
  refine App.alone_induction (I := SweptTo t₀ ids (dueIds t₀ a) a) ?_
    (expireHolds_runs batchSize maxBatches) ran (.refl ..)
  rintro x db r log ⟨m, rfl⟩ swept done
  exact swept.batch done

end FlightBooking
