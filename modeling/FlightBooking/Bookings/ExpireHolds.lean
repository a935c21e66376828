import FlightBooking.Bookings.Sweep
import FlightBooking.Library.Ordering
import Mathlib.Data.Nat.Pairing

/-!
A run of the expiry job, exactly.

With nobody in between, the job expires the first holds of the list of due ones and
nothing else: `ExpiredTo n` says what the tables are once `n` of them are expired, one
batch moves it on by the batch's size or to the end of the list, and a batch that
throws leaves it as it was.
-/

namespace FlightBooking

open Interaction Relational ReadCommitted

variable {db b : Db} {now : Instant} {batchSize n m : Nat} {ids : Nat → ExpiryIds}

/-- The due holds, in the order the job takes them. -/
def dueOrder (now : Instant) (db : Db) : List BookingRow :=
  (db.bookings.rows.filter (isDue now)).insertionSort BookingRow.dueBefore

/-- The records of the holds, each with its batch's ids. -/
def auditsOf (now : Instant) (batchSize : Nat) (ids : Nat → ExpiryIds) (holds : List ExpiredHold) :
    List AuditRecordInput :=
  holds.mapIdx fun i hold => expiryAudit now ((ids (i / batchSize)).auditId (i % batchSize))
    ((ids (i / batchSize)).eventId (i % batchSize)) hold

def eventsOf (now : Instant) (batchSize : Nat) (ids : Nat → ExpiryIds) (holds : List ExpiredHold) :
    List OutboxRow :=
  holds.mapIdx fun i hold => expiryEvent now ((ids (i / batchSize)).eventId (i % batchSize)) hold

/-- `after` is `db` with the first `n` due holds expired, their seats free, and one audit
entry and one event for each; all else is the same. -/
structure ExpiredTo (now : Instant) (batchSize : Nat) (ids : Nat → ExpiryIds) (n : Nat)
    (db after : Db) : Prop where
  bookings : after.bookings.rows = db.bookings.rows.map fun row =>
    if row.id ∈ ((dueOrder now db).take n).map (·.id) then row.expire else row
  seats : after.seats.rows = db.seats.rows.map fun s =>
    if seatsOf (((dueOrder now db).take n).map (·.id)) s then releaseSeat s else s
  audit : after.audit.rows = db.audit.rows ++
    auditsOf now batchSize ids (((dueOrder now db).take n).map (expiredHold db))
  outbox : after.outbox.rows = db.outbox.rows ++
    eventsOf now batchSize ids (((dueOrder now db).take n).map (expiredHold db))
  aircraft : after.aircraft = db.aircraft
  airports : after.airports = db.airports
  flights : after.flights = db.flights
  fares : after.fares = db.fares
  passengers : after.passengers = db.passengers
  payments : after.payments = db.payments
  keys : after.keys = db.keys

/-! ### The order -/

instance : Std.Total BookingRow.dueBefore where
  total a b := by
    unfold BookingRow.dueBefore
    rcases lt_trichotomy (a.holdExpiresAt.getD 0) (b.holdExpiresAt.getD 0) with lt | same | gt
    · exact .inl (.inl lt)
    · rcases Nat.le_total a.id b.id with le | le
      · exact .inl (.inr ⟨same, le⟩)
      · exact .inr (.inr ⟨same.symm, le⟩)
    · exact .inr (.inl gt)

instance : IsTrans BookingRow BookingRow.dueBefore where
  trans a b c h h' := by
    unfold BookingRow.dueBefore Uuid Instant at *
    omega

theorem mem_dueOrder {row : BookingRow} :
    row ∈ dueOrder now db ↔ row ∈ db.bookings ∧ isDue now row = true := by
  rw [dueOrder, List.mem_insertionSort, List.mem_filter, Table.mem_rows]

theorem nodup_dueOrder (now : Instant) (db : Db) : ((dueOrder now db).map (·.id)).Nodup := by
  have perm := (List.perm_insertionSort BookingRow.dueBefore
    (db.bookings.rows.filter (isDue now))).map BookingRow.id
  exact perm.nodup_iff.mpr (db.bookings.nodup.sublist (List.filter_sublist.map _))

theorem dueHolds_alone {limit : Nat} : dueHolds now limit [] db db = (dueOrder now db).take limit := by
  have all : (db.bookings.rows.filter (isDue now)).filter (fun b => Row.booking b.id ∉ ([] : List Row)) =
      db.bookings.rows.filter (isDue now) := List.filter_eq_self.mpr fun _ _ => rfl
  rw [dueHolds, Table.recheck_self, all, dueOrder]

/-- Which of the due holds are among the first `n`. -/
theorem mem_take_iff {row : BookingRow} (mem : row ∈ dueOrder now db) :
    row.id ∈ ((dueOrder now db).take n).map (·.id) ↔ row ∉ (dueOrder now db).drop n := by
  have split := List.take_append_drop n (dueOrder now db)
  have nodup := nodup_dueOrder now db
  rw [← split, List.map_append, List.nodup_append] at nodup
  constructor
  · intro taken left
    exact nodup.2.2 _ taken _ (List.mem_map_of_mem left) rfl
  · intro gone
    rw [← split] at mem
    exact List.mem_map_of_mem ((List.mem_append.mp mem).resolve_right gone)

theorem mem_lockedSeats_alone {gone : List Uuid} {s : FlightSeat} :
    s ∈ lockedSeats gone db db ↔ s ∈ db.seats ∧ seatsOf gone s = true := by
  rw [lockedSeats, Table.recheck_self, List.mem_filter, Table.mem_rows]

theorem seatsOf_append {gone leaving : List Uuid} {s : FlightSeat} :
    seatsOf (gone ++ leaving) s = (seatsOf gone s || seatsOf leaving s) := by
  unfold seatsOf
  cases s.bookingId with
  | none => rfl
  | some id => simp [List.mem_append]

/-! ### Records -/

theorem expiryAudits_eq {own : ExpiryIds} {holds : List ExpiredHold} {i : Nat} :
    expiryAudits now own i holds = holds.mapIdx fun k hold =>
      expiryAudit now (own.auditId (k + i)) (own.eventId (k + i)) hold := by
  induction holds generalizing i with
  | nil => rfl
  | cons hold holds ih => simp [expiryAudits, ih, List.mapIdx_cons, Nat.add_assoc, Nat.add_comm 1]

theorem expiryEvents_eq {own : ExpiryIds} {holds : List ExpiredHold} {i : Nat} :
    expiryEvents now own i holds = holds.mapIdx fun k hold =>
      expiryEvent now (own.eventId (k + i)) hold := by
  induction holds generalizing i with
  | nil => rfl
  | cons hold holds ih => simp [expiryEvents, ih, List.mapIdx_cons, Nat.add_assoc, Nat.add_comm 1]

/-- The batch and the place in it of a hold that follows `m` full batches. -/
theorem batch_index {i : Nat} (lt : i < batchSize) :
    (i + m * batchSize) / batchSize = m ∧ (i + m * batchSize) % batchSize = i := by
  constructor
  · rw [Nat.add_mul_div_right _ _ (by omega), Nat.div_eq_of_lt lt, Nat.zero_add]
  · rw [Nat.add_mul_mod_self_right, Nat.mod_eq_of_lt lt]

/-- The records of holds that begin a batch. -/
theorem auditsOf_append {holds next : List ExpiredHold} (full : holds.length = m * batchSize)
    (few : next.length ≤ batchSize) : auditsOf now batchSize ids (holds ++ next) =
      auditsOf now batchSize ids holds ++ expiryAudits now (ids m) 0 next := by
  rw [auditsOf, List.mapIdx_append, expiryAudits_eq]
  refine congrArg _ (List.mapIdx_eq_mapIdx_iff.mpr fun i lt => ?_)
  obtain ⟨batch, index⟩ := batch_index (m := m) (Nat.lt_of_lt_of_le lt few)
  rw [full, batch, index, Nat.add_zero]

theorem eventsOf_append {holds next : List ExpiredHold} (full : holds.length = m * batchSize)
    (few : next.length ≤ batchSize) : eventsOf now batchSize ids (holds ++ next) =
      eventsOf now batchSize ids holds ++ expiryEvents now (ids m) 0 next := by
  rw [eventsOf, List.mapIdx_append, expiryEvents_eq]
  refine congrArg _ (List.mapIdx_eq_mapIdx_iff.mpr fun i lt => ?_)
  obtain ⟨batch, index⟩ := batch_index (m := m) (Nat.lt_of_lt_of_le lt few)
  rw [full, batch, index, Nat.add_zero]

theorem execute_ok {p : Statement postgres Unit} {log log' : Changes} {r : Unit}
    (ran : execute (S := postgres) [] db (query p) log = .ok (r, log')) :
    ∃ out, p [] (log.apply db) (log.apply db) = .ok out ∧ log' = log.append out.writes := by
  rw [execute_query] at ran
  cases done : p [] (log.apply db) (log.apply db) with
  | error e =>
      rw [show p [] (postgres.apply log db) (postgres.apply log db) = _ from done] at ran
      cases ran
  | ok out =>
      rw [show p [] (postgres.apply log db) (postgres.apply log db) = _ from done] at ran
      cases ran
      exact ⟨out, rfl, rfl⟩

theorem apply_append (log more : Changes) (db : Db) :
    (log.append more).apply db = more.apply (log.apply db) :=
  postgres.apply_append ..

/-- Records that were written had new ids, so they are added to the others. -/
theorem execute_recordExpiries_new {own : ExpiryIds} {holds : List ExpiredHold} {index : Nat}
    {log log' : Changes} {r : Unit}
    (ran : execute (S := postgres) [] db (recordExpiries own now index holds) log = .ok (r, log')) :
    (((log.apply db).audit.putAll (expiryAudits now own index holds)).rows =
      (log.apply db).audit.rows ++ expiryAudits now own index holds) ∧
    ((log.apply db).outbox.putAll (expiryEvents now own index holds)).rows =
      (log.apply db).outbox.rows ++ expiryEvents now own index holds := by
  induction holds generalizing index log with
  | nil => exact ⟨(List.append_nil _).symm, (List.append_nil _).symm⟩
  | cons hold holds ih =>
      obtain ⟨_, mid, first, rest⟩ := execute_bind_ok ran
      obtain ⟨audits, events⟩ := ih rest
      obtain ⟨_, mid₀, audited, announced⟩ := execute_bind_ok first
      obtain ⟨out, recorded, isMid₀⟩ := execute_ok audited
      obtain ⟨out', enqueued, -⟩ := execute_ok announced
      have newAudit := (recordAudit_ok recorded).2
      have newEvent := (enqueue_ok enqueued).2
      rw [isMid₀, (recordAudit_ok recorded).1, apply_append] at newEvent
      rw [execute_recordExpiry first, apply_append] at audits events
      have addAudit : ((log.apply db).audit.put
          (expiryAudit now (own.auditId index) (own.eventId index) hold)).rows =
          (log.apply db).audit.rows ++ [expiryAudit now (own.auditId index) (own.eventId index) hold] :=
        Table.rows_put_new newAudit
      have addEvent : ((log.apply db).outbox.put (expiryEvent now (own.eventId index) hold)).rows =
          (log.apply db).outbox.rows ++ [expiryEvent now (own.eventId index) hold] :=
        Table.rows_put_new newEvent
      constructor
      · refine audits.trans ?_
        rw [expiryAudits, List.append_cons]
        exact congrArg (· ++ expiryAudits now own (index + 1) holds) addAudit
      · refine events.trans ?_
        rw [expiryEvents, List.append_cons]
        exact congrArg (· ++ expiryEvents now own (index + 1) holds) addEvent

theorem execute_expireBatch_new {own : ExpiryIds} {r : Nat} {log : Changes}
    (ran : execute (S := postgres) [] db (expireBatchTransaction now batchSize own) {} =
      .ok (r, log)) :
    let holds := (dueHolds now batchSize [] db db).map (expiredHold db)
    (db.audit.putAll (expiryAudits now own 0 holds)).rows =
      db.audit.rows ++ expiryAudits now own 0 holds ∧
    (db.outbox.putAll (expiryEvents now own 0 holds)).rows =
      db.outbox.rows ++ expiryEvents now own 0 holds := by
  obtain ⟨holds, mid, expired, rest⟩ := execute_bind_ok ran
  obtain ⟨_, mid', recorded, last⟩ := execute_bind_ok rest
  rw [execute_query, show postgres.apply {} db = db from rfl] at expired
  cases expired
  rw [expireDueHolds_reply] at recorded
  exact execute_recordExpiries_new recorded

namespace ExpiredTo

theorem zero (now : Instant) (batchSize : Nat) (ids : Nat → ExpiryIds) (db : Db) :
    ExpiredTo now batchSize ids 0 db db := by
  constructor
  · simp
  · simp [seatsOf]
  · simp [auditsOf]
  · simp [eventsOf]
  all_goals rfl

variable (h : ExpiredTo now batchSize ids n db b)

include h

/-- The due holds that are left. -/
theorem mem_left {row : BookingRow} :
    row ∈ b.bookings ∧ isDue now row = true ↔ row ∈ (dueOrder now db).drop n := by
  rw [← Table.mem_rows, h.bookings, List.mem_map]
  constructor
  · rintro ⟨⟨row', mem, rfl⟩, isDue⟩
    split at isDue
    · simp [FlightBooking.isDue, BookingRow.expire] at isDue
    · rename_i out
      rw [if_neg out]
      by_contra gone
      exact out ((mem_take_iff (mem_dueOrder.mpr ⟨mem, isDue⟩)).mpr gone)
  · intro left
    have listed := List.mem_of_mem_drop left
    obtain ⟨mem, isDue⟩ := mem_dueOrder.mp listed
    refine ⟨⟨row, mem, if_neg fun taken => (mem_take_iff listed).mp taken left⟩, isDue⟩

theorem dueOrder : FlightBooking.dueOrder now b = (FlightBooking.dueOrder now db).drop n := by
  have nodup : (b.bookings.rows.filter (isDue now)).Nodup :=
    List.Nodup.filter _ (List.Nodup.of_map _ b.bookings.nodup)
  have nodup' : ((FlightBooking.dueOrder now db).drop n).Nodup :=
    (List.Nodup.of_map _ (nodup_dueOrder now db)).sublist (List.drop_sublist ..)
  have sorted : ((FlightBooking.dueOrder now db).drop n).Pairwise BookingRow.dueBefore :=
    (List.pairwise_insertionSort _ _).sublist (List.drop_sublist ..)
  have same : ((FlightBooking.dueOrder now db).drop n).insertionSort BookingRow.dueBefore =
      (FlightBooking.dueOrder now db).drop n := List.Pairwise.insertionSort_eq sorted
  rw [← same]
  refine Ordering.insertionSort_eq nodup nodup' (fun row => ?_) ?_
  · rw [List.mem_filter, Table.mem_rows]
    exact h.mem_left
  · intro x memX y memY before after
    have ids : x.id = y.id := by
      unfold BookingRow.dueBefore Uuid Instant at *
      omega
    exact Table.eq_of_key (List.mem_filter.mp memX).1 (List.mem_filter.mp memY).1 ids

/-- A hold that is left owns the seats it owned. -/
theorem expiredHold_same {row : BookingRow} (left : row ∈ (FlightBooking.dueOrder now db).drop n) :
    expiredHold b row = expiredHold db row := by
  have out := fun taken => (mem_take_iff (List.mem_of_mem_drop left)).mp taken left
  have seats : (b.seats.rows.filter fun s => s.bookingId = some row.id) =
      db.seats.rows.filter fun s => s.bookingId = some row.id := by
    have others : ∀ s : FlightSeat, s.bookingId = some row.id →
        ¬ seatsOf (((FlightBooking.dueOrder now db).take n).map (·.id)) s = true := by
      intro s own taken
      obtain ⟨id, mem, own'⟩ := seatsOf_iff.mp taken
      cases own.symm.trans own'
      exact out mem
    rw [h.seats, List.filter_map]
    refine (List.map_congr_left fun s mem => ?_).trans ((List.map_id' _).trans
      (List.filter_congr fun s _ => ?_))
    · have own := (List.mem_filter.mp mem).2
      rw [Function.comp_apply, decide_eq_true_eq] at own
      split at own
      · cases own
      · rename_i kept
        exact if_neg kept
    · rw [Function.comp_apply]
      split
      · rename_i released
        have other : ¬ s.bookingId = some row.id := fun own => others s own released
        simp [releaseSeat, other]
      · rfl
  rw [expiredHold, expiredHold, seats]

/-- A batch that commits expires the next holds, as many as it may. -/
theorem batch (full : n = m * batchSize) (enough : n ≤ (FlightBooking.dueOrder now db).length)
    {r : Nat} {log : Changes}
    (ran : execute (S := postgres) [] b (expireBatchTransaction now batchSize (ids m)) {} =
      .ok (r, log)) :
    r = min batchSize ((FlightBooking.dueOrder now db).length - n) ∧
      ExpiredTo now batchSize ids (n + r) db (log.apply b) := by
  obtain ⟨count, isLog⟩ := execute_expireBatch ran
  obtain ⟨audits, events⟩ := execute_expireBatch_new ran
  rw [dueHolds_alone, h.dueOrder] at count isLog audits events
  subst isLog
  have count' : r = min batchSize ((FlightBooking.dueOrder now db).length - n) := by
    rw [count, List.length_take, List.length_drop]
  refine ⟨count', ?_⟩
  set due := FlightBooking.dueOrder now db
  set next := (due.drop n).take batchSize with isNext
  have taken : due.take (n + r) = due.take n ++ next := by
    rw [List.take_add, isNext, count', ← List.length_drop]
    congr 1
    exact List.take_eq_take_iff.mpr (by simp)
  have left : ∀ row ∈ next, row ∈ due.drop n := fun row mem => List.mem_of_mem_take mem
  have holds : (next.map fun row => expiredHold b row) = next.map fun row => expiredHold db row :=
    List.map_congr_left fun row mem => h.expiredHold_same (left row mem)
  have length : ((due.take n).map (expiredHold db)).length = m * batchSize := by
    rw [List.length_map, List.length_take, Nat.min_eq_left enough, full]
  have few : (next.map (expiredHold db)).length ≤ batchSize := by
    rw [List.length_map, isNext]
    exact List.length_take_le ..
  have rows : next.Sublist due := (List.take_sublist ..).trans (List.drop_sublist ..)
  have distinct : (next.map key).Nodup := (nodup_dueOrder now db).sublist (rows.map _)
  constructor
  · have selects : ∀ row, row ∈ next ↔
        row ∈ b.bookings ∧ decide (row.id ∈ next.map (·.id)) = true := by
      intro row
      constructor
      · intro mem
        exact ⟨(h.mem_left.mpr (left row mem)).1, decide_eq_true (List.mem_map_of_mem mem)⟩
      · rintro ⟨mem, picked⟩
        obtain ⟨row', mem', same⟩ := List.mem_map.mp (of_decide_eq_true picked)
        obtain rfl := Table.eq_of_key (h.mem_left.mpr (left row' mem')).1 mem same
        exact mem'
    refine (Table.rows_putAll_map key_expire distinct selects).trans ?_
    rw [h.bookings, List.map_map, taken, List.map_append]
    generalize (due.take n).map (·.id) = gone
    generalize next.map (·.id) = leaving
    refine List.map_congr_left fun row _ => ?_
    by_cases before : row.id ∈ gone
    · simp [before, BookingRow.expire]
    · simp [before]
  · refine (Table.rows_putAll_map key_releaseSeat (nodup_lockedSeats ..)
      fun s => mem_lockedSeats_alone).trans ?_
    rw [h.seats, List.map_map, taken, List.map_append]
    generalize (due.take n).map (·.id) = gone
    generalize next.map (·.id) = leaving
    refine List.map_congr_left fun s _ => ?_
    rw [Function.comp_apply, seatsOf_append]
    by_cases before : seatsOf gone s = true
    · have free : seatsOf leaving (releaseSeat s) = false := rfl
      simp [before, free]
    · simp [before]
  · refine audits.trans ?_
    rw [h.audit, taken, List.map_append, auditsOf_append length few, holds, List.append_assoc]
  · refine events.trans ?_
    rw [h.outbox, taken, List.map_append, eventsOf_append length few, holds, List.append_assoc]
  · exact h.aircraft
  · exact h.airports
  · exact h.flights
  · exact h.fares
  · exact h.passengers
  · exact h.payments
  · exact h.keys

end ExpiredTo

/-! ### New ids -/

/-- The ids a run draws are new, and no two are the same. -/
structure FreshIds (ids : Nat → ExpiryIds) (db : Db) : Prop where
  audit : ∀ m k, db.audit.find? ((ids m).auditId k) = none
  outbox : ∀ m k, db.outbox.find? ((ids m).eventId k) = none
  auditOnce : ∀ m k m' k', (ids m).auditId k = (ids m').auditId k' → m = m' ∧ k = k'
  outboxOnce : ∀ m k m' k', (ids m).eventId k = (ids m').eventId k' → m = m' ∧ k = k'

theorem recordExpiries_writes {own : ExpiryIds} {holds : List ExpiredHold} {index : Nat}
    {log : Changes} (audit : ∀ k, index ≤ k → (log.apply db).audit.find? (own.auditId k) = none)
    (outbox : ∀ k, index ≤ k → (log.apply db).outbox.find? (own.eventId k) = none)
    (auditOnce : ∀ k k', own.auditId k = own.auditId k' → k = k')
    (outboxOnce : ∀ k k', own.eventId k = own.eventId k' → k = k') :
    ∃ log', execute (S := postgres) [] db (recordExpiries own now index holds) log = .ok ((), log') := by
  induction holds generalizing index log with
  | nil => exact ⟨log, rfl⟩
  | cons hold holds ih =>
      have recorded : recordAudit (expiryAudit now (own.auditId index) (own.eventId index) hold) []
          (log.apply db) (log.apply db) = .ok { reply := (), writes :=
            { audit := [expiryAudit now (own.auditId index) (own.eventId index) hold] } } := by
        rw [recordAudit, if_neg]
        simp [expiryAudit, audit index (Nat.le_refl _)]
      set log₁ := log.append
        { audit := [expiryAudit now (own.auditId index) (own.eventId index) hold] } with isLog₁
      have enqueued : enqueue (expiryEvent now (own.eventId index) hold).entry []
          (log₁.apply db) (log₁.apply db) = .ok { reply := (), writes :=
            { outbox := [expiryEvent now (own.eventId index) hold] } } := by
        have none : (log₁.apply db).outbox.find? (own.eventId index) = none := by
          rw [isLog₁, apply_append]
          exact outbox index (Nat.le_refl _)
        rw [enqueue, if_neg]
        · rfl
        · simp [expiryEvent, none]
      set log₂ := log₁.append { outbox := [expiryEvent now (own.eventId index) hold] } with isLog₂
      have first : execute (S := postgres) [] db
          (recordExpiry hold (own.auditId index) (own.eventId index) now) log = .ok ((), log₂) := by
        change execute (S := postgres) [] db (query (recordAudit
          (expiryAudit now (own.auditId index) (own.eventId index) hold)) >>= fun _ =>
            query (enqueue (expiryEvent now (own.eventId index) hold).entry)) log = _
        rw [execute_query_bind recorded, execute_query]
        exact congrArg (Except.map _) enqueued
      have auditLog : (log₂.apply db).audit = (log.apply db).audit.put
          (expiryAudit now (own.auditId index) (own.eventId index) hold) := by
        rw [isLog₂, apply_append, isLog₁, apply_append]
        rfl
      have outboxLog : (log₂.apply db).outbox = (log.apply db).outbox.put
          (expiryEvent now (own.eventId index) hold) := by
        rw [isLog₂, apply_append, isLog₁, apply_append]
        rfl
      rw [recordExpiries, execute_bind, first]
      refine ih (fun k le => ?_) fun k le => ?_
      · rw [auditLog, Table.find?_put, if_neg]
        · exact audit k (by omega)
        · intro same
          have := auditOnce _ _ same
          omega
      · rw [outboxLog, Table.find?_put, if_neg]
        · exact outbox k (by omega)
        · intro same
          have := outboxOnce _ _ same
          omega

namespace ExpiredTo

/-- The records of full batches have those batches' ids. -/
theorem audit_ids (h : ExpiredTo now batchSize ids n db b) (full : n = m * batchSize)
    (fresh : FreshIds ids db) (k : Nat) : b.audit.find? ((ids m).auditId k) = none := by
  refine Table.find?_eq_none.mpr fun x mem same => ?_
  rw [← Table.mem_rows, h.audit, List.mem_append] at mem
  rcases mem with old | new
  · exact Table.find?_eq_none.mp (fresh.audit m k) x old same
  · obtain ⟨i, lt, rfl⟩ := List.mem_mapIdx.mp new
    rw [List.length_map, List.length_take] at lt
    have batch := (fresh.auditOnce _ _ _ _ same).1
    have le := Nat.div_mul_le_self i batchSize
    rw [batch] at le
    omega

theorem outbox_ids (h : ExpiredTo now batchSize ids n db b) (full : n = m * batchSize)
    (fresh : FreshIds ids db) (k : Nat) : b.outbox.find? ((ids m).eventId k) = none := by
  refine Table.find?_eq_none.mpr fun x mem same => ?_
  rw [← Table.mem_rows, h.outbox, List.mem_append] at mem
  rcases mem with old | new
  · exact Table.find?_eq_none.mp (fresh.outbox m k) x old same
  · obtain ⟨i, lt, rfl⟩ := List.mem_mapIdx.mp new
    rw [List.length_map, List.length_take] at lt
    have batch := (fresh.outboxOnce _ _ _ _ same).1
    have le := Nat.div_mul_le_self i batchSize
    rw [batch] at le
    omega

/-- With new ids a batch commits. -/
theorem batch_commits (h : ExpiredTo now batchSize ids n db b) (full : n = m * batchSize)
    (fresh : FreshIds ids db) : ∃ r log, execute (S := postgres) [] b
      (expireBatchTransaction now batchSize (ids m)) {} = .ok (r, log) := by
  have statement : expireDueHolds now batchSize [] b b = .ok
      { reply := (dueHolds now batchSize [] b b).map (expiredHold b)
        writes :=
          { bookings := (dueHolds now batchSize [] b b).map fun b => { b with status := .expired }
            seats := (lockedSeats ((dueHolds now batchSize [] b b).map (·.id)) b b).map releaseSeat }
        locks := (dueHolds now batchSize [] b b).map (fun b => (.booking b.id, .update)) ++
          seatLocks ((dueHolds now batchSize [] b b).map (·.id)) b } := by
    rw [← expireDueHolds_reply]
    rfl
  rw [expireBatchTransaction, execute_query_bind statement, execute_bind]
  obtain ⟨log', written⟩ := @recordExpiries_writes b now (ids m)
    ((dueHolds now batchSize [] b b).map (expiredHold b)) 0 (Changes.append {}
      { bookings := (dueHolds now batchSize [] b b).map fun b => { b with status := .expired }
        seats := (lockedSeats ((dueHolds now batchSize [] b b).map (·.id)) b b).map releaseSeat })
    (fun k _ => h.audit_ids full fresh k) (fun k _ => h.outbox_ids full fresh k)
    (fun k k' same => (fresh.auditOnce m k m k' same).2)
    fun k k' same => (fresh.outboxOnce m k m k' same).2
  exact ⟨_, _, by rw [show execute (S := postgres) [] b _ _ = _ from written]; rfl⟩

end ExpiredTo

/-! ### The run -/

/-- How a run of at most `batches` batches ends. -/
structure Expires (now : Instant) (batchSize batches : Nat) (ids : Nat → ExpiryIds) (db after : Db)
    (count : Nat) (exhausted : Bool) : Prop where
  count_eq : count = min (dueOrder now db).length (batches * batchSize)
  exhausted_iff : exhausted = true ↔ batches * batchSize ≤ (dueOrder now db).length
  expired : ExpiredTo now batchSize ids count db after

/-- A batch of a run threw: the batches before it stay, and it wrote nothing. -/
structure Breaks (now : Instant) (batchSize batches : Nat) (ids : Nat → ExpiryIds) (db after : Db)
    (e : Failure) : Prop where
  threw : ∃ m < batches, m * batchSize ≤ (dueOrder now db).length ∧
    ExpiredTo now batchSize ids (m * batchSize) db after ∧
    execute (S := postgres) [] after (expireBatchTransaction now batchSize (ids m)) {} = .error e

theorem expireBatches_alone (h : ExpiredTo now batchSize ids (m * batchSize) db b)
    (enough : m * batchSize ≤ (dueOrder now db).length) (left : Nat) :
    ∃ r after, app.alone now (clockAt now)
      (expireBatches now batchSize ids left m (m * batchSize)) b = some (r, after) ∧
      ((∃ count batches exhausted, r = .ok (.expired count batches exhausted) ∧
        Expires now batchSize (m + left) ids db after count exhausted) ∨
      ∃ e, r = .error e ∧ Breaks now batchSize (m + left) ids db after e ∧ ¬ FreshIds ids db) := by
  induction left generalizing m b with
  | zero =>
      refine ⟨_, b, rfl, .inl ⟨_, _, _, rfl, ?_, ?_, h⟩⟩
      · rw [Nat.add_zero, Nat.min_eq_right enough]
      · simpa using enough
  | succ left ih =>
      rw [expireBatches, App.alone_run_bind]
      cases ran : execute (S := postgres) [] b (expireBatchTransaction now batchSize (ids m)) {} with
      | error e =>
          rw [show execute [] b (app.body (.expireBatch now batchSize (ids m)) now) _ = _ from ran]
          refine ⟨_, b, rfl, .inr ⟨e, rfl, ⟨m, by omega, enough, h, ran⟩, fun fresh => ?_⟩⟩
          obtain ⟨r, log, commits⟩ := h.batch_commits rfl fresh
          cases commits.symm.trans ran
      | ok done =>
          obtain ⟨r, log⟩ := done
          rw [show execute [] b (app.body (.expireBatch now batchSize (ids m)) now) _ = _ from ran]
          dsimp only
          obtain ⟨count, after⟩ := h.batch rfl enough ran
          have allowed : (m + 1) * batchSize ≤ (m + (left + 1)) * batchSize :=
            Nat.mul_le_mul_right _ (by omega)
          rw [Nat.succ_mul] at allowed
          by_cases short : r < batchSize
          · rw [if_pos short]
            refine ⟨_, _, rfl, .inl ⟨_, _, _, rfl, ?_, ?_, after⟩⟩
            · rw [Nat.min_eq_left (by omega)]
              omega
            · simp only [Bool.false_eq_true, false_iff]
              omega
          · rw [if_neg short]
            have isFull : r = batchSize := by omega
            have next : m * batchSize + r = (m + 1) * batchSize := by
              rw [isFull, Nat.succ_mul]
            rw [next] at after ⊢
            have goes := ih after (by omega)
            rwa [show m + 1 + left = m + (left + 1) by omega] at goes

/-- With nothing due, a run changes nothing. -/
theorem expireHolds_idle (none : dueOrder now db = []) {maxBatches : Nat} (sized : 0 < batchSize)
    (any : 0 < maxBatches) : app.alone now (clockAt now) (expireHolds batchSize maxBatches ids) db =
      some (.ok (.expired 0 1 false), db) := by
  have batch : execute (S := postgres) [] db (expireBatchTransaction now batchSize (ids 0)) {} =
      .ok (0, {}) := by
    have due : dueHolds now batchSize [] db db = [] := by rw [dueHolds_alone, none, List.take_nil]
    have seats : lockedSeats [] db db = [] := by
      refine List.eq_nil_iff_forall_not_mem.mpr fun s mem => ?_
      obtain ⟨id, listed, -⟩ := seatsOf_iff.mp (mem_lockedSeats_alone.mp mem).2
      exact List.not_mem_nil listed
    have locks : seatLocks [] db = [] := by
      have rows := seats
      rw [lockedSeats, Table.recheck_self] at rows
      rw [seatLocks, rows, List.map_nil]
    have statement : expireDueHolds now batchSize [] db db = .ok { reply := [] } := by
      simp only [expireDueHolds, due, List.map_nil, seats, locks, List.append_nil]
    rw [expireBatchTransaction, execute_query_bind statement]
    rfl
  obtain ⟨left, rfl⟩ := Nat.exists_eq_succ_of_ne_zero (Nat.pos_iff_ne_zero.mp any)
  change app.alone now (clockAt now) (expireBatches now batchSize ids (left + 1) 0 0) db = _
  rw [expireBatches, App.alone_run_bind,
    show execute [] db (app.body (.expireBatch now batchSize (ids 0)) now) _ = _ from batch]
  dsimp only
  rw [if_pos sized]
  rfl

/-- A run of the job that nobody comes between. It expires the first due holds, as many
as its batches may take, and answers how many and whether the last batch it may run was
full; if it was not, nothing is due any more and another run changes nothing. A batch
that throws leaves the batches before it; with new ids none throws. -/
theorem expireHolds_exact (db : Db) (now : Instant) {batchSize maxBatches : Nat}
    (sized : 0 < batchSize) (any : 0 < maxBatches) (ids : Nat → ExpiryIds) :
    ∃ r after, app.alone now (clockAt now) (expireHolds batchSize maxBatches ids) db =
      some (r, after) ∧
      ((∃ count batches exhausted, r = .ok (.expired count batches exhausted) ∧
        Expires now batchSize maxBatches ids db after count exhausted ∧
        (exhausted = false → (∀ row ∈ after.bookings, isDue now row = false) ∧
          ∀ ids', app.alone now (clockAt now) (expireHolds batchSize maxBatches ids') after =
            some (.ok (.expired 0 1 false), after))) ∨
      ∃ e, r = .error e ∧ Breaks now batchSize maxBatches ids db after e ∧ ¬ FreshIds ids db) := by
  have start := ExpiredTo.zero now batchSize ids db
  rw [← Nat.zero_mul batchSize] at start
  obtain ⟨r, after, ran, ends⟩ := expireBatches_alone start (by simp) maxBatches
  rw [Nat.zero_mul] at ran
  rw [Nat.zero_add] at ends
  refine ⟨r, after, ran, ends.imp ?_ fun threw => threw⟩
  rintro ⟨count, batches, exhausted, answer, expires⟩
  refine ⟨count, batches, exhausted, answer, expires, fun more => ?_⟩
  have all : count = (dueOrder now db).length := by
    have few := mt expires.exhausted_iff.mpr (by simp [more])
    rw [expires.count_eq, Nat.min_eq_left (by omega)]
  have none : dueOrder now after = [] := by
    rw [expires.expired.dueOrder, all, List.drop_length]
  refine ⟨fun row mem => ?_, fun ids' => expireHolds_idle none sized any⟩
  rw [Bool.eq_false_iff]
  intro isDue
  have left := mem_dueOrder.mpr ⟨mem, isDue⟩
  simp [none] at left

/-- Booking 5 at its deadline, with the seat it holds. -/
def dueDb : Db where
  bookings := ⟨[⟨5, "ABC234", 1, 7, .held, 0, some HOLD_DURATION_MS⟩], by decide⟩
  seats := ⟨[⟨1, ⟨1, 'A'⟩, .economy, .held, some 5⟩, ⟨1, ⟨1, 'B'⟩, .economy, .available, none⟩],
    by decide⟩

def dueDbIds (m : Nat) : ExpiryIds := ⟨fun k => Nat.pair m k, fun k => Nat.pair m k⟩

theorem expireHolds_exact_sample : ∃ r after,
    app.alone HOLD_DURATION_MS (clockAt HOLD_DURATION_MS) (expireHolds 1 20 dueDbIds) dueDb =
      some (r, after) ∧ ∃ batches, r = .ok (.expired 1 batches false) ∧
      after.seats.rows = [⟨1, ⟨1, 'A'⟩, .economy, .available, none⟩,
        ⟨1, ⟨1, 'B'⟩, .economy, .available, none⟩] ∧
      after.outbox.rows.length = 1 := by
  obtain ⟨r, after, ran, ends⟩ :=
    expireHolds_exact dueDb HOLD_DURATION_MS Nat.one_pos (show 0 < 20 by decide) dueDbIds
  refine ⟨r, after, ran, ?_⟩
  have due : dueOrder HOLD_DURATION_MS dueDb = dueDb.bookings.rows := by decide
  rcases ends with ⟨count, batches, exhausted, answer, expires, -⟩ | ⟨e, -, -, stale⟩
  · have one : count = 1 := by rw [expires.count_eq, due]; rfl
    have more : exhausted = false := by
      rw [Bool.eq_false_iff]
      intro all
      have enough := expires.exhausted_iff.mp all
      rw [due] at enough
      exact absurd enough (by decide)
    subst one more
    refine ⟨batches, answer, ?_, ?_⟩
    · rw [expires.expired.seats, due]
      rfl
    · rw [expires.expired.outbox, due]
      rfl
  · exact absurd ⟨fun _ _ => rfl, fun _ _ => rfl, fun _ _ _ _ same => Nat.pair_eq_pair.mp same,
      fun _ _ _ _ same => Nat.pair_eq_pair.mp same⟩ stale

end FlightBooking
