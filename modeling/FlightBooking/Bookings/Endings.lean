import FlightBooking.System.Rows
import FlightBooking.System.UseCases
import FlightBooking.Library.Progress

/-!
How bookings end, over every interleaving: a booking leaves HELD at most once,
ends at most once, and each of its transitions has exactly one audit entry and
one event.

The statuses of a booking form a history whose rank never falls
(`Unfolds.rank_step`); what a commit records of a transition is what it did to
the booking's row (`Committed.recorded`).
-/

namespace FlightBooking

open Relational ReadCommitted Progress

variable {T : Timeline postgres} {n i : Nat} {x : Transaction} {now : Instant} {r : x.Result}
  {c' : Cursor postgres}

/-! ### Transitions -/

/-- The transitions of a booking after its creation. -/
inductive BookingTransition where
  | confirm
  | cancel
  | expire
  deriving DecidableEq, Repr

namespace BookingTransition

def after : BookingTransition → BookingStatus
  | confirm => .confirmed
  | cancel => .cancelled
  | expire => .expired

def action : BookingTransition → AuditAction
  | confirm => .bookingConfirmed
  | cancel => .bookingCancelled
  | expire => .bookingExpired

def event : BookingTransition → EventType
  | confirm => .bookingConfirmed
  | cancel => .bookingCancelled
  | expire => .bookingExpired

end BookingTransition

/-- The booking came to be in status `s`. -/
def enters (s : BookingStatus) (before after : Option BookingStatus) : Bool :=
  before ≠ some s && after = some s

/-- The booking left HELD. -/
def leavesHeld (before after : Option BookingStatus) : Bool :=
  before = some .held && after ≠ some .held

def BookingStatus.Ended (s : BookingStatus) : Prop := s = .cancelled ∨ s = .expired

instance (s : BookingStatus) : Decidable s.Ended := inferInstanceAs (Decidable (_ ∨ _))

/-- The booking was cancelled or expired. -/
def ends (before after : Option BookingStatus) : Bool :=
  !before.any (·.Ended) && after.any (·.Ended)

/-- The audit entries of transition `e` of booking `id`. -/
def Db.auditCount (db : Db) (e : BookingTransition) (id : Uuid) : Nat :=
  db.audit.rows.countP fun a => a.action = e.action && a.target = .booking id

/-- The outbox rows of transition `e` of booking `id`. -/
def Db.outboxCount (db : Db) (e : BookingTransition) (id : Uuid) : Nat :=
  db.outbox.rows.countP fun o =>
    o.entry.eventType = e.event && o.entry.payload.body.bookingId? = some id

/-! ### One commit -/

/-- How far along its lifecycle a booking is. -/
def bookingRank : Option BookingStatus → Nat
  | none => 0
  | some .held => 1
  | some .confirmed => 2
  | some .cancelled | some .expired => 3

/-- What one commit can do to a booking's status. -/
inductive StatusStep : Option BookingStatus → Option BookingStatus → Prop where
  | same {o} : StatusStep o o
  | created : StatusStep none (some .held)
  | confirmed : StatusStep (some .held) (some .confirmed)
  | cancelled {s} : s = .held ∨ s = .confirmed → StatusStep (some s) (some .cancelled)
  | expired : StatusStep (some .held) (some .expired)

theorem BookingChange.status {id : Uuid} {o o' : Option BookingRow}
    (h : BookingChange T n c' id x now r o o') : StatusStep (o.map (·.status)) (o'.map (·.status)) := by
  cases h with
  | same => exact .same
  | @created _ _ _ _ _ _ b _ on _ =>
      have held : b.row.status = .held := on.status
      simpa [held] using StatusStep.created
  | cancelled on _ _ => exact .cancelled (isCancellable_live on.cancellable)
  | expired on mem _ =>
      have held := isDue_held (on.isDue _ mem)
      simpa [held] using StatusStep.expired
  | confirmed _ on =>
      have held := isConfirmable_held on.confirmable
      simpa [held] using StatusStep.confirmed

theorem StatusStep.rank_le {o o' : Option BookingStatus} (h : StatusStep o o') :
    bookingRank o ≤ bookingRank o' := by
  cases h with
  | same => exact Nat.le_refl _
  | created | confirmed | expired => decide
  | cancelled live => rcases live with rfl | rfl <;> decide

/-! ### What a commit records -/

/-- Every booking row a commit writes is new, or has a new status; none is written
twice. -/
theorem Effect.bookings_written (effect : Effect T n i x now r c') :
    (c'.log.bookings.map key).Nodup ∧
      ∀ w ∈ c'.log.bookings, ∀ b, (T.state n).bookings.find? (key w) = some b →
        b.status ≠ w.status := by
  have unwritten : c'.log.bookings = [] → (c'.log.bookings.map key).Nodup ∧
      ∀ w ∈ c'.log.bookings, ∀ b, (T.state n).bookings.find? (key w) = some b →
        b.status ≠ w.status := fun none => by simp [none]
  have one : ∀ {w : BookingRow} {o : Option BookingRow}, c'.log.bookings = [w] →
      (T.state n).bookings.find? w.id = o → (∀ b, o = some b → b.status ≠ w.status) →
      (c'.log.bookings.map key).Nodup ∧
        ∀ w ∈ c'.log.bookings, ∀ b, (T.state n).bookings.find? (key w) = some b →
          b.status ≠ w.status := by
    intro w o log before change
    rw [log]
    refine ⟨by simp, fun u mem b found => ?_⟩
    obtain rfl := List.mem_singleton.mp mem
    exact change b (before.symm.trans found)
  cases effect with
  | created on _ log => exact one (congrArg Changes.bookings log) on.new.booking (by simp)
  | cancelled on _ _ _ _ _ _ _ _ log =>
      have own : BookingRow.id _ = _ := Table.key_of_find? on.current
      refine one (congrArg Changes.bookings log) (own ▸ on.current) fun b same => ?_
      cases same
      rcases isCancellable_live on.cancellable with held | confirmed
      · simp [held]
      · simp [confirmed]
  | expired on _ _ _ log =>
      rw [log]
      refine ⟨by simpa [Function.comp_def, key] using on.distinct, fun w mem b found => ?_⟩
      obtain ⟨b', mem', rfl⟩ := List.mem_map.mp mem
      cases (Table.find?_of_mem (on.current b' mem')).symm.trans found
      simp [isDue_held (on.isDue _ mem')]
  | confirmed _ on _ _ _ _ _ log =>
      have own : BookingRow.id _ = _ := Table.key_of_find? on.current
      refine one (congrArg Changes.bookings log) (own ▸ on.current) fun b same => ?_
      cases same
      simp [isConfirmable_held on.confirmable]
  | laidOut _ on => exact unwritten on.quiet.bookings
  | paid _ _ on =>
      cases on with
      | answered _ log => exact unwritten (by rw [log])
      | released _ log => exact unwritten (by rw [log])
      | started _ _ log => exact unwritten (by rw [log])
  | nothing _ log => exact unwritten (by rw [log])
  | reseated _ _ _ _ log => exact unwritten (by rw [log])
  | declined _ _ _ log => exact unwritten (by rw [log])
  | chargedTooLate _ _ _ log => exact unwritten (by rw [log])
  | claimed _ _ log => exact unwritten (by rw [log])
  | refundRecorded _ _ log => exact unwritten (by rw [log])
  | rescheduled _ _ log => exact unwritten (by rw [log])
  | cleaned _ log => exact unwritten (by rw [log])
  | published _ _ log => exact unwritten (by rw [log])

/-- The rows among `rows` that put booking `id` into status `s`. -/
def writtenInto (s : BookingStatus) (id : Uuid) (rows : List BookingRow) : Nat :=
  rows.countP fun b => b.id = id && b.status = s

theorem writtenInto_other {s : BookingStatus} {id : Uuid} {rows : List BookingRow}
    (other : id ∉ rows.map key) : writtenInto s id rows = 0 := by
  refine List.countP_eq_zero.mpr fun b mem => ?_
  have : b.id ≠ id := fun same => other (List.mem_map.mpr ⟨b, mem, same⟩)
  simp [this]

/-- Rows that are new or change their status: booking `id` enters `s` if and only if
a row says so. -/
theorem writtenInto_eq {t : Table BookingRow} {rows : List BookingRow}
    (distinct : (rows.map key).Nodup)
    (change : ∀ w ∈ rows, ∀ b, t.find? (key w) = some b → b.status ≠ w.status)
    (s : BookingStatus) (id : Uuid) :
    writtenInto s id rows =
      if enters s ((t.find? id).map (·.status)) (((t.putAll rows).find? id).map (·.status))
      then 1 else 0 := by
  induction rows generalizing t with
  | nil => simp [writtenInto, enters]
  | cons w rows ih =>
      obtain ⟨out, distinct⟩ := List.nodup_cons.mp distinct
      have split : writtenInto s id (w :: rows) =
          writtenInto s id rows + if w.id = id ∧ w.status = s then 1 else 0 := by
        simp [writtenInto, List.countP_cons]
      rw [split, Table.putAll_cons]
      by_cases here : id = key w
      · subst here
        have after : ((t.put w).putAll rows).find? (key w) = some w := by
          rw [Table.find?_putAll_of_notMem out, Table.find?_put, if_pos rfl]
        rw [writtenInto_other out, after]
        cases before : t.find? (key w) with
        | none => simp [enters, key]
        | some b =>
            have new := change w List.mem_cons_self b before
            by_cases into : w.status = s
            · simp [enters, key, into, into ▸ new]
            · simp [enters, into]
      · have other : ¬ (w.id = id ∧ w.status = s) := fun h => here h.1.symm
        rw [if_neg other, Nat.add_zero, ih distinct]
        · rw [Table.find?_put, if_neg here]
        · intro u mem b found
          have ne : key u ≠ key w := fun same => out (same ▸ List.mem_map_of_mem mem)
          rw [Table.find?_put, if_neg ne] at found
          exact change u (List.mem_cons_of_mem _ mem) b found

/-- The audit entries a commit writes are those of the transitions it makes. -/
theorem Effect.recorded (effect : Effect T n i x now r c') (e : BookingTransition) (id : Uuid) :
    c'.log.records.countP (fun v => v.1 = e.action && v.2 = .booking id) =
      writtenInto e.after id c'.log.bookings := by
  have silent : c'.log.bookings = [] → (∀ v ∈ c'.log.records, v.2 ≠ .booking id) →
      c'.log.records.countP (fun v => v.1 = e.action && v.2 = .booking id) =
        writtenInto e.after id c'.log.bookings := by
    intro unwritten others
    rw [unwritten]
    refine List.countP_eq_zero.mpr fun v mem => ?_
    simp [others v mem]
  cases effect with
  | nothing _ log => exact silent (by rw [log]) (by simp [Changes.records, log])
  | laidOut _ on =>
      refine silent on.quiet.bookings fun v mem => ?_
      obtain ⟨a, memA, rfl⟩ := List.mem_map.mp mem
      exact on.quiet.records a memA id
  | created on _ log records =>
      have held : Booking.status _ = .held := on.status
      rw [records, log]
      cases e <;> simp [writtenInto, Booking.row, held, BookingTransition.action,
        BookingTransition.after]
  | cancelled on _ _ _ _ _ _ _ _ log records =>
      have own : BookingRow.id _ = _ := Table.key_of_find? on.current
      rw [records, log, List.countP_cons, List.countP_eq_zero.mpr]
      · cases e <;> simp [writtenInto, own, BookingTransition.action, BookingTransition.after]
      · intro v mem
        obtain ⟨p, -, rfl⟩ := List.mem_map.mp (List.mem_of_mem_take mem)
        simp
  | reseated _ _ _ _ log records =>
      rw [records, log]
      cases e <;> simp [writtenInto, BookingTransition.action]
  | expired on _ _ _ log records =>
      rw [records, log]
      cases e <;>
        simp [writtenInto, BookingTransition.action, BookingTransition.after, List.countP_map,
          Function.comp_def]
  | paid _ _ on =>
      cases on with
      | answered _ log => exact silent (by rw [log]) (by simp [Changes.records, log])
      | released _ log => exact silent (by rw [log]) (by simp [Changes.records, log])
      | started _ _ log => exact silent (by rw [log]) (by simp [Changes.records, log])
  | declined _ _ _ log records => exact silent (by rw [log]) (by simp [records])
  | chargedTooLate _ _ _ log records => exact silent (by rw [log]) (by simp [records])
  | confirmed _ on _ _ _ _ _ log records =>
      have own : BookingRow.id _ = _ := Table.key_of_find? on.current
      rw [records, log]
      cases e <;> simp [writtenInto, own, BookingTransition.action, BookingTransition.after]
  | claimed _ _ log => exact silent (by rw [log]) (by simp [Changes.records, log])
  | refundRecorded _ _ log records => exact silent (by rw [log]) (by simp [records])
  | rescheduled _ _ log => exact silent (by rw [log]) (by simp [Changes.records, log])
  | cleaned _ log => exact silent (by rw [log]) (by simp [Changes.records, log])
  | published _ _ log => exact silent (by rw [log]) (by simp [Changes.records, log])

/-- The events a commit writes are those of the transitions it makes. -/
theorem Effect.announced (effect : Effect T n i x now r c') (appending : x.Appending)
    (e : BookingTransition) (id : Uuid) :
    c'.log.events.countP (fun v => v.1 = e.event && v.2.1 = some id) =
      writtenInto e.after id c'.log.bookings := by
  have silent : c'.log.bookings = [] → (∀ v ∈ c'.log.events, v.2.1 ≠ some id) →
      c'.log.events.countP (fun v => v.1 = e.event && v.2.1 = some id) =
        writtenInto e.after id c'.log.bookings := by
    intro unwritten others
    rw [unwritten]
    refine List.countP_eq_zero.mpr fun v mem => ?_
    simp [others v mem]
  cases effect with
  | nothing _ log => exact silent (by rw [log]) (by simp [Changes.events, log])
  | laidOut _ on =>
      refine silent on.quiet.bookings fun v mem => ?_
      obtain ⟨o, memO, rfl⟩ := List.mem_map.mp mem
      simp [on.quiet.events o memO]
  | created on _ log _ events =>
      have held : Booking.status _ = .held := on.status
      rw [events, log]
      cases e <;> simp [writtenInto, Booking.row, held, BookingTransition.event,
        BookingTransition.after]
  | cancelled on _ _ _ _ _ _ _ _ log _ events =>
      have own : BookingRow.id _ = _ := Table.key_of_find? on.current
      rw [events, log]
      cases e <;> simp [writtenInto, own, BookingTransition.event, BookingTransition.after]
  | reseated _ _ _ _ log => exact silent (by rw [log]) (by simp [Changes.events, log])
  | expired on _ _ _ log _ events =>
      rw [events, log]
      cases e <;>
        simp [writtenInto, BookingTransition.event, BookingTransition.after, List.countP_map,
          Function.comp_def]
  | paid _ _ on =>
      cases on with
      | answered _ log => exact silent (by rw [log]) (by simp [Changes.events, log])
      | released _ log => exact silent (by rw [log]) (by simp [Changes.events, log])
      | started _ _ log => exact silent (by rw [log]) (by simp [Changes.events, log])
  | declined _ _ _ log => exact silent (by rw [log]) (by simp [Changes.events, log])
  | chargedTooLate _ _ _ log => exact silent (by rw [log]) (by simp [Changes.events, log])
  | confirmed _ on _ _ _ _ _ log _ events =>
      have own : BookingRow.id _ = _ := Table.key_of_find? on.current
      rw [events, log]
      cases e <;> simp [writtenInto, own, BookingTransition.event, BookingTransition.after]
  | claimed _ _ log => exact silent (by rw [log]) (by simp [Changes.events, log])
  | refundRecorded _ _ log => exact silent (by rw [log]) (by simp [Changes.events, log])
  | rescheduled _ _ log => exact silent (by rw [log]) (by simp [Changes.events, log])
  | cleaned _ log => exact silent (by rw [log]) (by simp [Changes.events, log])
  | published => exact appending.elim

/-! ### The balance of records and transitions -/

theorem Committed.written_eq (h : Committed T n i x now r c') (s : BookingStatus) (id : Uuid) :
    writtenInto s id c'.log.bookings =
      if enters s ((T.state n).bookingStatus id) ((T.state (n + 1)).bookingStatus id)
      then 1 else 0 := by
  obtain ⟨distinct, change⟩ := h.effect.bookings_written
  rw [h.next]
  exact writtenInto_eq distinct change s id

/-- Every transition of a booking adds one audit entry, and nothing else does. -/
theorem Committed.auditCount (h : Committed T n i x now r c') (e : BookingTransition) (id : Uuid) :
    (T.state (n + 1)).auditCount e id = (T.state n).auditCount e id +
      if enters e.after ((T.state n).bookingStatus id) ((T.state (n + 1)).bookingStatus id)
      then 1 else 0 := by
  rw [← h.written_eq, ← h.effect.recorded, h.next, Changes.records, List.countP_map]
  have appended : (c'.log.apply (T.state n)).audit.rows =
      (T.state n).audit.rows ++ c'.log.audit := by
    by_cases appending : x.Appending
    · have new := h.appends appending
      exact Table.rows_putAll_new new.audit new.auditNew
    · have effect := h.effect
      cases x with
      | markPublished =>
          cases effect with
          | nothing idle => exact idle.elim
          | laidOut flights => exact flights.elim
          | published _ _ log => simp [Changes.apply_audit, log]
      | _ => exact absurd trivial appending
  rw [Db.auditCount, Db.auditCount, appended, List.countP_append]
  rfl

/-- Every transition of a booking adds one event, and nothing else does. -/
theorem Committed.outboxCount (h : Committed T n i x now r c') (e : BookingTransition) (id : Uuid) :
    (T.state (n + 1)).outboxCount e id = (T.state n).outboxCount e id +
      if enters e.after ((T.state n).bookingStatus id) ((T.state (n + 1)).bookingStatus id)
      then 1 else 0 := by
  rw [← h.written_eq, h.next]
  by_cases appending : x.Appending
  · have new := h.appends appending
    rw [← h.effect.announced appending, Changes.events, List.countP_map, Db.outboxCount,
      Db.outboxCount, Changes.apply_outbox, Table.rows_putAll_new new.outbox new.outboxNew,
      List.countP_append]
    rfl
  · have effect := h.effect
    cases x with
    | markPublished =>
        cases effect with
        | nothing idle => exact idle.elim
        | laidOut flights => exact flights.elim
        | @published _ _ _ _ found distinct current log =>
            have entries : ((T.state n).outbox.putAll c'.log.outbox).rows.map (·.entry) =
                (T.state n).outbox.rows.map (·.entry) := by
              refine Table.map_rows_putAll_old fun v mem => ?_
              rw [log] at mem
              obtain ⟨o, memO, rfl⟩ := List.mem_map.mp mem
              exact ⟨o, (current o memO).1, rfl, rfl⟩
            have count : ∀ rows : List OutboxRow, (rows.countP fun o =>
                o.entry.eventType = e.event && o.entry.payload.body.bookingId? = some id) =
                (rows.map (·.entry)).countP fun v =>
                  v.eventType = e.event && v.payload.body.bookingId? = some id :=
              fun rows => by rw [List.countP_map]; rfl
            rw [Db.outboxCount, Db.outboxCount, Changes.apply_outbox, count, entries, ← count]
            simp [log, writtenInto]
    | _ => exact absurd trivial appending

/-! ### Whole histories -/

variable {id : Uuid}

theorem Unfolds.status_step (unfolds : Unfolds T n) {m : Nat} (lt : m < n) :
    StatusStep ((T.state m).bookingStatus id) ((T.state (m + 1)).bookingStatus id) := by
  obtain ⟨i, x, now, r, c', committed⟩ := unfolds m lt
  have change := committed.effect.booking id
  rw [← committed.next] at change
  exact change.status

theorem Unfolds.rank_step (unfolds : Unfolds T n) (id : Uuid) :
    ∀ m < n, bookingRank ((T.state m).bookingStatus id) ≤
      bookingRank ((T.state (m + 1)).bookingStatus id) :=
  fun _ lt => (unfolds.status_step lt).rank_le

theorem Unfolds.rank_le (unfolds : Unfolds T n) (id : Uuid) {a b : Nat} (le : a ≤ b) (le' : b ≤ n) :
    bookingRank ((T.state a).bookingStatus id) ≤ bookingRank ((T.state b).bookingStatus id) :=
  rank_mono (f := fun m => (T.state m).bookingStatus id) (unfolds.rank_step id) le le'

theorem StatusStep.enters_rank {s : BookingStatus} {o o' : Option BookingStatus}
    (step : StatusStep o o') (h : enters s o o' = true) :
    bookingRank o < bookingRank (some s) ∧ bookingRank (some s) ≤ bookingRank o' := by
  simp only [enters, Bool.and_eq_true, decide_eq_true_eq] at h
  obtain ⟨new, rfl⟩ := h
  refine ⟨?_, Nat.le_refl _⟩
  cases step with
  | same => exact absurd rfl new
  | created | confirmed | expired => decide
  | cancelled live => rcases live with rfl | rfl <;> decide

theorem StatusStep.leavesHeld_rank {o o' : Option BookingStatus} (step : StatusStep o o')
    (h : leavesHeld o o' = true) : bookingRank o < 2 ∧ 2 ≤ bookingRank o' := by
  simp only [leavesHeld, Bool.and_eq_true, decide_eq_true_eq] at h
  obtain ⟨rfl, left⟩ := h
  refine ⟨by decide, ?_⟩
  cases step with
  | same => exact absurd rfl left
  | confirmed | cancelled | expired => decide

theorem StatusStep.ends_rank {o o' : Option BookingStatus} (step : StatusStep o o')
    (h : ends o o' = true) : bookingRank o < 3 ∧ 3 ≤ bookingRank o' := by
  cases step with
  | same => simp [ends] at h
  | created | confirmed => simp [ends, BookingStatus.Ended] at h
  | expired => decide
  | cancelled live => rcases live with rfl | rfl <;> decide

/-- A booking that ended stays as it ended. -/
theorem Unfolds.ended_stays (unfolds : Unfolds T n) {s : BookingStatus} (ended : s.Ended) {m : Nat}
    (at' : (T.state m).bookingStatus id = some s) {k : Nat} (le : m ≤ k) (le' : k ≤ n) :
    (T.state k).bookingStatus id = some s := by
  induction k, le using Nat.le_induction with
  | base => exact at'
  | succ k le ih =>
      have step : StatusStep ((T.state k).bookingStatus id) ((T.state (k + 1)).bookingStatus id) :=
        unfolds.status_step (by omega)
      rw [ih (by omega)] at step
      generalize (T.state (k + 1)).bookingStatus id = o at step ⊢
      cases step with
      | same => rfl
      | confirmed | expired => rcases ended with h | h <;> cases h
      | cancelled live => rcases ended with rfl | rfl <;> rcases live with h | h <;> cases h

/-- The records of each transition are as many as the transitions. -/
theorem Unfolds.counts (unfolds : Unfolds T n) (audit : (T.state 0).audit = ∅)
    (outbox : (T.state 0).outbox = ∅) (e : BookingTransition) (id : Uuid) :
    ∀ m ≤ n, (T.state m).auditCount e id =
        times (enters e.after) (fun j => (T.state j).bookingStatus id) m ∧
      (T.state m).outboxCount e id =
        times (enters e.after) (fun j => (T.state j).bookingStatus id) m := by
  intro m le
  induction m with
  | zero => simp [Db.auditCount, Db.outboxCount, audit, outbox]
  | succ m ih =>
      obtain ⟨i, x, now, r, c', committed⟩ := unfolds m le
      obtain ⟨entries, events⟩ := ih (by omega)
      rw [committed.auditCount, committed.outboxCount, entries, events, times_succ]
      exact ⟨rfl, rfl⟩

theorem Unfolds.enters_le_one (unfolds : Unfolds T n) (s : BookingStatus) (id : Uuid) :
    times (enters s) (fun j => (T.state j).bookingStatus id) n ≤ 1 :=
  (times_le_one (unfolds.rank_step id) fun _ lt => (unfolds.status_step lt).enters_rank).1

/-! ### Every interleaving -/

/-- Over every interleaving a booking leaves HELD at most once and ends at most
once, for good; and in every version its audit entries and events are as many as
its transitions. -/
theorem bookings_end_once {α : Type} {airports : Table Airport} {env : Env}
    {threads : Nat → App.Thread app α} {p : Pool app α}
    (h : (Pool.initial { airports } env threads : Pool app α).Reachable p) (id : Uuid)
    {n : Nat} (le : n ≤ p.world.commits.length) :
    times leavesHeld (fun j => (p.world.state j).bookingStatus id) n ≤ 1 ∧
    times ends (fun j => (p.world.state j).bookingStatus id) n ≤ 1 ∧
    (∀ s : BookingStatus, s.Ended → ∀ m ≤ n, (p.world.state m).bookingStatus id = some s →
      (p.world.state n).bookingStatus id = some s) ∧
    ∀ e : BookingTransition,
      (p.world.state n).auditCount e id =
        times (enters e.after) (fun j => (p.world.state j).bookingStatus id) n ∧
      (p.world.state n).outboxCount e id =
        times (enters e.after) (fun j => (p.world.state j).bookingStatus id) n ∧
      times (enters e.after) (fun j => (p.world.state j).bookingStatus id) n ≤ 1 := by
  have good := (Pool.initial_good _ env threads).reachable h
  have unfolds := (unfolds_of_sound good.sound).mono le
  have start : p.world.state 0 = { airports } := by
    rw [World.state_zero, h.initial_eq]
    rfl
  have audit : (p.world.timeline.state 0).audit = ∅ := congrArg Db.audit start
  have outbox : (p.world.timeline.state 0).outbox = ∅ := congrArg Db.outbox start
  refine ⟨?_, ?_, fun s ended m le' at' => ?_, fun e => ?_⟩
  · exact (times_le_one (unfolds.rank_step id) fun _ lt =>
      (unfolds.status_step lt).leavesHeld_rank).1
  · exact (times_le_one (unfolds.rank_step id) fun _ lt => (unfolds.status_step lt).ends_rank).1
  · exact unfolds.ended_stays ended at' le' (Nat.le_refl n)
  · obtain ⟨entries, events⟩ := unfolds.counts audit outbox e id n (Nat.le_refl n)
    exact ⟨entries, events, unfolds.enters_le_one e.after id⟩

/-- Booking 5 is confirmed by a payment and then cancelled: one record of each. -/
theorem bookings_end_once_sample : ∃ p, Pool.run (sampleMoves ++ Pool.wholly 4 1 5 ++
      [(4, .call (.definite (.succeeded "ch_1")))] ++ Pool.wholly 4 2 7 ++
      [(5, .call (.time 3))] ++ Pool.wholly 5 3 8)
      (sampleStart {} fun t => if t = 0 then samplePayment else sampleCancel) = some p ∧
    [BookingTransition.confirm, .cancel, .expire].map (fun e =>
      (p.world.db.auditCount e 5, p.world.db.outboxCount e 5)) = [(1, 1), (1, 1), (0, 0)] ∧
    times leavesHeld (fun j => (p.world.state j).bookingStatus 5) p.world.commits.length ≤ 1 := by
  have counts : (Pool.run (sampleMoves ++ Pool.wholly 4 1 5 ++
      [(4, .call (.definite (.succeeded "ch_1")))] ++ Pool.wholly 4 2 7 ++
      [(5, .call (.time 3))] ++ Pool.wholly 5 3 8)
      (sampleStart {} fun t => if t = 0 then samplePayment else sampleCancel)).map (fun p =>
        [BookingTransition.confirm, .cancel, .expire].map fun e =>
          (p.world.db.auditCount e 5, p.world.db.outboxCount e 5)) =
      some [(1, 1), (1, 1), (0, 0)] := by decide +kernel
  obtain ⟨p, ran, counts⟩ := Option.map_eq_some_iff.mp counts
  exact ⟨p, ran, counts, (bookings_end_once (Pool.run_reachable ran) 5 (Nat.le_refl _)).1⟩

end FlightBooking
