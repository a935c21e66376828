import FlightBooking.Library.Relay
import FlightBooking.Bookings.AfterSweep
import FlightBooking.System.Clock

/-!
The order in which the relay hands events over.

The outbox and the publisher form a relay (`relay_of_service`): an entry is written when its
transaction commits, and a tick hands it over only after every entry of an earlier
`created_at` that it found unpublished with it. So of two entries the one committed first is
handed over first whenever its time is the earlier one (`handed_in_order`), and a booking's
expiry is never announced before its hold (`held_handed_before_expired`): what the hold's
deadline leaves between the two times is enough, whatever the clocks show.
-/

namespace FlightBooking

open Relational ReadCommitted

variable {T : Timeline postgres} {n i : Nat} {x : Transaction} {now : Instant} {r : x.Result}
  {c' : Cursor postgres}

/-! ### The outbox only grows -/

/-- The entries of the outbox, in the order in which they were committed. -/
def Db.entries (db : Db) : List OutboxEntry := db.outbox.rows.map (·.entry)

theorem Db.mem_entries {db : Db} {e : OutboxEntry} :
    e ∈ db.entries ↔ ∃ o ∈ db.outbox, o.entry = e := List.mem_map

theorem Db.nodup_entries (db : Db) : db.entries.Nodup := by
  have keys : (db.entries.map (·.id)).Nodup := by
    have rows := db.outbox.nodup
    rwa [Db.entries, List.map_map]
  exact List.Nodup.of_map _ keys

theorem Db.eq_of_entry_id {db : Db} {e e' : OutboxEntry} (mem : e ∈ db.entries)
    (mem' : e' ∈ db.entries) (same : e.id = e'.id) : e = e' := by
  obtain ⟨o, there, rfl⟩ := Db.mem_entries.mp mem
  obtain ⟨o', there', rfl⟩ := Db.mem_entries.mp mem'
  exact congrArg _ (Table.eq_of_key there there' same)

/-- A commit adds unpublished rows to the outbox, or marks rows of one entry published. -/
theorem Committed.outbox (h : Committed T n i x now r c') :
    c'.log.Appends (T.state n) ∨ ∃ id, ∃ found : List OutboxRow, x = .markPublished id ∧
      (found.map key).Nodup ∧ (∀ o ∈ found, o ∈ (T.state n).outbox ∧ o.entry.id = id) ∧
      c'.log = { outbox := found.map fun o => { o with publishedAt := some now } } := by
  by_cases appending : x.Appending
  · exact .inl (h.appends appending)
  · have effect := h.effect
    cases x with
    | markPublished id =>
        cases effect with
        | nothing idle => exact idle.elim
        | laidOut flights => exact flights.elim
        | published distinct current log => exact .inr ⟨id, _, rfl, distinct, current, log⟩
    | _ => exact absurd trivial appending

/-- The entries a commit writes come behind those it found. -/
theorem Committed.enqueued (h : Committed T n i x now r c') (new : c'.log.Appends (T.state n)) :
    (T.state (n + 1)).entries = (T.state n).entries ++ c'.log.outbox.map (·.entry) := by
  rw [h.next, Db.entries, Changes.apply_outbox, Table.rows_putAll_new new.outbox new.outboxNew,
    List.map_append, Db.entries]

theorem Committed.entries (h : Committed T n i x now r c') :
    c'.log.Appends (T.state n) ∨ (T.state (n + 1)).entries = (T.state n).entries := by
  rcases h.outbox with new | ⟨id, found, -, -, current, log⟩
  · exact .inl new
  · refine .inr ?_
    rw [h.next, Db.entries, Changes.apply_outbox]
    refine Table.map_rows_putAll_old fun v mem => ?_
    rw [log] at mem
    obtain ⟨o, memO, rfl⟩ := List.mem_map.mp mem
    exact ⟨o, (current o memO).1, rfl, rfl⟩

/-- The entries a commit found stay. -/
theorem Committed.entries_prefix (h : Committed T n i x now r c') :
    (T.state n).entries <+: (T.state (n + 1)).entries := by
  rcases h.entries with new | same
  · exact h.enqueued new ▸ List.prefix_append _ _
  · exact same ▸ List.prefix_refl _

/-- A row a commit leaves published was so before, or it is marked now. -/
theorem Committed.marked (h : Committed T n i x now r c') {o : OutboxRow}
    (mem : o ∈ (T.state (n + 1)).outbox) (published : o.publishedAt.isSome) :
    o ∈ (T.state n).outbox ∨ (x = .markPublished o.entry.id ∧ o.entry ∈ (T.state n).entries) := by
  rw [h.next, Changes.apply_outbox] at mem
  rcases h.outbox with new | ⟨id, found, isMark, distinct, current, log⟩
  · rcases (Table.mem_putAll new.outbox).mp mem with mem | ⟨mem, -⟩
    · rw [new.unpublished o mem] at published
      cases published
    · exact .inl mem
  · rw [log] at mem
    rcases (Table.mem_putAll (by simpa [Function.comp_def, key] using distinct)).mp mem with mem | ⟨mem, -⟩
    · obtain ⟨u, memU, rfl⟩ := List.mem_map.mp mem
      obtain ⟨there, same⟩ := current u memU
      exact .inr ⟨by rw [isMark, ← same], Db.mem_entries.mpr ⟨u, there, rfl⟩⟩
    · exact .inl mem

section Histories

variable {w : World app}

theorem entries_prefix (sound : w.Sound) {m n : Nat} (le : m ≤ n) :
    (w.state m).entries <+: (w.state n).entries := by
  induction n, le using Nat.le_induction with
  | base => exact List.prefix_refl _
  | succ n _ ih =>
      by_cases lt : n < w.commits.length
      · obtain ⟨c', committed, -⟩ := committed_of_sound sound lt
        exact ih.trans committed.entries_prefix
      · have last : w.state (n + 1) = w.state n := by
          rw [w.state_of_le (Nat.le_succ_of_le (not_lt.mp lt)), w.state_of_le (not_lt.mp lt)]
        exact last ▸ ih

/-! ### What one tick found -/

instance (storage : Uuid → Nat) : Std.Total (OutboxRow.before storage) where
  total a b := by
    unfold OutboxRow.before
    unfold Instant
    omega

instance (storage : Uuid → Nat) : IsTrans OutboxRow (OutboxRow.before storage) where
  trans a b c := by
    unfold OutboxRow.before
    unfold Instant
    omega

theorem mem_unpublishedRows {storage : Uuid → Nat} {db : Db} {o : OutboxRow} :
    o ∈ unpublishedRows storage db ↔ o ∈ db.outbox ∧ o.publishedAt = none := by
  rw [unpublishedRows, List.mem_insertionSort, List.mem_filter, Option.isNone_iff_eq_none]
  rfl

/-- In front of an entry it answers, the query answers every unpublished one of an earlier
time. -/
theorem earlier_of_unpublished {storage : Uuid → Nat} {db : Db} {limit : Nat}
    {before after : List OutboxEntry} {e : OutboxEntry}
    (answer : ((unpublishedRows storage db).take limit).map (·.entry) = before ++ e :: after)
    {o : OutboxRow} (mem : o ∈ db.outbox) (unpublished : o.publishedAt = none)
    (earlier : o.entry.createdAt < e.createdAt) : o.entry ∈ before := by
  obtain ⟨front, rest, taken, rfl, isRest⟩ := List.map_eq_append_iff.mp answer
  obtain ⟨row, rest, rfl, rfl, rfl⟩ := List.map_eq_cons_iff.mp isRest
  have whole := List.take_append_drop limit (unpublishedRows storage db)
  have sorted : (unpublishedRows storage db).Pairwise (OutboxRow.before storage) :=
    List.pairwise_insertionSort ..
  have there : o ∈ unpublishedRows storage db := mem_unpublishedRows.mpr ⟨mem, unpublished⟩
  rw [← whole, taken, List.append_assoc] at there sorted
  rcases List.mem_append.mp there with inFront | behind
  · exact List.mem_map_of_mem inFront
  · have later : row.entry.createdAt ≤ o.entry.createdAt := by
      rcases List.mem_cons.mp behind with rfl | behind
      · exact le_refl _
      · have inOrder := (List.pairwise_append.mp sorted).2.1
        rcases List.rel_of_pairwise_cons inOrder behind with lt | ⟨same, -⟩
        · exact le_of_lt lt
        · exact le_of_eq same
    exact absurd earlier (not_lt.mpr later)

/-- A tick's answer is the first unpublished rows of a version it saw. -/
theorem found_of_sound (sound : w.Sound) {c : Commit app} (mem : c ∈ w.commits)
    {entries : List OutboxEntry} (found : c.tx.unpublished? c.result = some entries) :
    ∃ snap limit storage,
      ((unpublishedRows storage (w.state snap)).take limit).map (·.entry) = entries := by
  obtain ⟨n, lt, rfl⟩ := List.getElem_of_mem mem
  obtain ⟨c', ran, -⟩ := sound.commits lt
  revert found ran
  generalize w.commits[n].result = result
  revert result
  generalize w.commits[n].tx = x
  intro result found ran
  cases x with
  | findUnpublished limit storage =>
      obtain ⟨skip, snap, cur, out, -, -, -, done, rfl, -⟩ :=
        (commits_query.mp ran).outcome sound.framed
      cases done
      rw [Cursor.start_view] at found
      exact ⟨snap, limit, storage, Option.some.inj found⟩
  | _ => cases found

/-! ### Holds and expiries -/

/-- The hold of every booking was announced, at the instant its deadline counts from. -/
def HoldsAnnounced (db : Db) : Prop :=
  ∀ b ∈ db.bookings, ∃ e ∈ db.entries, e.eventType = .bookingHeld ∧
    e.payload.body.bookingId? = some b.id ∧ b.holdExpiresAt = some (e.createdAt + HOLD_DURATION_MS)

theorem Committed.holdsAnnounced (h : Committed T n i x now r c')
    (announced : HoldsAnnounced (T.state n)) : HoldsAnnounced (T.state (n + 1)) := by
  intro b mem
  have found : (T.state (n + 1)).bookings.find? b.id = some b := Table.find?_of_mem mem
  have change := h.effect.booking b.id
  rw [← h.next, found] at change
  generalize before : (T.state n).bookings.find? b.id = o at change
  -- Apart from its status, the row of a booking never changes.
  have earlier : ∀ {b' : BookingRow}, o = some b' → b'.id = b.id →
      b'.holdExpiresAt = b.holdExpiresAt →
      ∃ e ∈ (T.state (n + 1)).entries, e.eventType = .bookingHeld ∧
        e.payload.body.bookingId? = some b.id ∧
        b.holdExpiresAt = some (e.createdAt + HOLD_DURATION_MS) := by
    rintro b' rfl sameId sameDeadline
    obtain ⟨e, there, held, about, deadline⟩ := announced b' (Table.mem_of_find? before)
    refine ⟨e, h.entries_prefix.subset there, held, ?_, ?_⟩
    · rw [about, sameId]
    · rw [← sameDeadline, deadline]
  cases change with
  | same => exact earlier rfl rfl rfl
  | cancelled | expired | confirmed => exact earlier rfl rfl rfl
  | created on id =>
      have effect := h.effect
      have appended := h.enqueued (h.appends trivial)
      cases effect with
      | nothing idle =>
          obtain ⟨refusal, refused⟩ := idle
          cases refused
      | laidOut flights => exact flights.elim
      | created on' _ _ _ events =>
          have inLog : (EventType.bookingHeld, some _, now) ∈ c'.log.events :=
            events ▸ List.mem_singleton_self _
          obtain ⟨o, written, same⟩ := List.mem_map.mp inLog
          obtain ⟨type, about⟩ := Prod.ext_iff.mp same
          obtain ⟨about, at'⟩ := Prod.ext_iff.mp about
          have deadline := on.deadline
          refine ⟨o.entry, ?_, type, about, ?_⟩
          · rw [appended]
            exact List.mem_append_right _ (List.mem_map_of_mem written)
          · dsimp only at at'
            rw [at']
            exact deadline

/-- A commit announces the expiry of holds that are due at the time it gives. -/
theorem Committed.expiry (h : Committed T n i x now r c') {o : OutboxRow} (mem : o ∈ c'.log.outbox)
    (new : c'.log.Appends (T.state n)) (type : o.entry.eventType = .bookingExpired) {id : Uuid}
    (about : o.entry.payload.body.bookingId? = some id) :
    ∃ b ∈ (T.state n).bookings, b.id = id ∧ isDue o.entry.createdAt b = true := by
  have event : (EventType.bookingExpired, some id, o.entry.createdAt) ∈ c'.log.events :=
    List.mem_map.mpr ⟨o, mem, by rw [type, about]⟩
  have none' : ∀ {log : Changes}, c'.log = log → log.outbox = [] →
      ∃ b ∈ (T.state n).bookings, b.id = id ∧ isDue o.entry.createdAt b = true := by
    intro log isLog silent
    rw [isLog, silent] at mem
    cases mem
  cases h.effect with
  | nothing _ log => exact none' log rfl
  | laidOut _ on =>
      have quiet := on.quiet.events o mem
      rw [quiet] at about
      cases about
  | created _ _ _ _ events | cancelled _ _ _ _ _ _ _ _ _ _ _ events
  | confirmed _ _ _ _ _ _ _ _ _ events =>
      rw [events] at event
      simp at event
  | expired on _ _ _ _ _ events =>
      rw [events] at event
      obtain ⟨b, due, same⟩ := List.mem_map.mp event
      obtain ⟨-, isId⟩ := Prod.ext_iff.mp same
      obtain ⟨isId, at'⟩ := Prod.ext_iff.mp isId
      refine ⟨b, on.current b due, Option.some.inj isId, ?_⟩
      dsimp only at at'
      exact at' ▸ on.isDue b due
  | paid _ _ on =>
      cases on with
      | answered _ log => exact none' log rfl
      | released _ log => exact none' log rfl
      | started _ _ log => exact none' log rfl
  | reseated _ _ _ _ log => exact none' log rfl
  | declined _ _ _ log => exact none' log rfl
  | chargedTooLate _ _ _ log => exact none' log rfl
  | claimed _ _ log => exact none' log rfl
  | refundRecorded _ _ log => exact none' log rfl
  | rescheduled _ _ log => exact none' log rfl
  | cleaned _ log => exact none' log rfl
  | published _ current log =>
      rw [log] at mem
      obtain ⟨u, -, rfl⟩ := List.mem_map.mp mem
      have marked := new.unpublished { u with publishedAt := some now } (log ▸ mem)
      cases marked

/-! ### The relay -/

theorem Env.answerCharge_handed {e e' : Env} {request : ChargeRequest} {choice : Choice} {a}
    (h : e.answerCharge request choice = some (a, e')) : e'.handed = e.handed := by
  have logged : ∀ (e : Env) id answer, (e.logCharge id answer).handed = e.handed := by
    intro e id answer
    cases answer <;> rfl
  unfold Env.answerCharge at h
  split at h
  · cases h
    exact logged ..
  · cases h
    exact logged ..
  · split at h <;> cases h
    exact logged ..
  · cases h

/-- Only publishing hands anything over. -/
theorem Env.perform_handed {t : Nat} {e e' : Env} {q : Call} {choice : Choice} {a : q.Answer}
    (h : e.perform t q choice = some (a, e')) :
    e'.handed = e.handed ∨ ∃ entry, q = .publish entry ∧ e'.handed = e.handed ++ [entry] := by
  unfold Env.perform at h
  split at h
  · obtain ⟨e'', ticked, same⟩ := Option.map_eq_some_iff.mp h
    cases same
    obtain ⟨rfl, -⟩ := Env.tick_some ticked
    exact .inl rfl
  · exact .inl (Env.answerCharge_handed h)
  · obtain ⟨acts, rfl, -⟩ := Env.answerRefund_some h
    exact .inl rfl
  · cases h
    exact .inr ⟨_, rfl, rfl⟩
  · cases h
    exact .inl rfl
  · obtain ⟨job, -, same⟩ := Option.map_eq_some_iff.mp h
    cases same
    exact .inl rfl
  · cases h
    exact .inl rfl
  · extract_lets done at h
    split at h
    · obtain ⟨-, rfl⟩ := Prod.ext_iff.mp (Option.some.inj h)
      exact .inl rfl
    · cases h
  · obtain ⟨s, -, same⟩ := Option.map_eq_some_iff.mp h
    cases same
    exact .inl rfl
  · obtain ⟨s, -, same⟩ := Option.map_eq_some_iff.mp h
    cases same
    exact .inl rfl
  · cases h

/-- The outbox and the publisher, as a relay. -/
def relayOf (w : World app) : Relay OutboxEntry := ⟨w.db.entries, w.env.handed⟩

/-- The service has moved as a relay does, and every row marked published was handed over. -/
structure Relayed (w : World app) : Prop where
  relays : (relayOf w).Reachable (·.createdAt)
  published : ∀ n, ∀ o ∈ (w.state n).outbox, o.publishedAt.isSome → o.entry ∈ w.env.handed

theorem Relayed.commit {c : Commit app} (relayed : Relayed w) (sound : (w.commit c).Sound)
    (knows : Knows c.thread c.tx w) : Relayed (w.commit c) := by
  obtain ⟨⟨c', committed⟩, before, after⟩ := committed_last sound
  constructor
  · obtain ⟨es, next⟩ := committed.entries_prefix
    rw [before, after] at next
    have step : Relay.Step (·.createdAt) (relayOf w) (relayOf (w.commit c)) := by
      have written : (w.db.entries ++ es).Nodup := next ▸ (w.commit c).db.nodup_entries
      have made : Relay.Step (fun e : OutboxEntry => e.createdAt) (relayOf w) _ := .write written
      have same : relayOf (w.commit c) = { relayOf w with written := w.db.entries ++ es } := by
        unfold relayOf
        rw [← next]
        rfl
      exact same ▸ made
    exact relayed.relays.tail step
  · intro n o mem isPublished
    by_cases old : n ≤ w.commits.length
    · rw [w.commit_state c old] at mem
      exact relayed.published n o mem isPublished
    · have last : (w.commit c).state n = (w.commit c).timeline.state (w.commits.length + 1) := by
        rw [after]
        exact World.state_of_le _ (by simp; omega)
      rw [last] at mem
      rcases committed.marked mem isPublished with mem | ⟨isMark, known⟩
      · rw [before, ← World.state_length] at mem
        exact relayed.published _ o mem isPublished
      · rw [isMark] at knows
        obtain ⟨e, inHanded, same⟩ := knows
        rw [before] at known
        have written := relayed.relays.ordered.written e inHanded
        exact Db.eq_of_entry_id written known same ▸ inHanded

/-- A hand-over is one of the relay's: what the tick found before the entry it has handed
over, and what it did not find was published. -/
theorem Relayed.publish {e : OutboxEntry} {env : Env} {t : Nat} (relayed : Relayed w)
    (sound : w.Sound) (knows : KnowsToCall t (.publish e) w)
    (handed : env.handed = w.env.handed ++ [e]) : Relayed { w with env } := by
  obtain ⟨c, mem, before, after, found, sent⟩ := knows
  obtain ⟨snap, limit, storage, answer⟩ := found_of_sound sound mem found
  have own : e ∈ (w.state snap).entries := by
    have inAnswer : e ∈ ((unpublishedRows storage (w.state snap)).take limit).map (·.entry) := by
      rw [answer]
      exact List.mem_append_right _ List.mem_cons_self
    obtain ⟨o, taken, rfl⟩ := List.mem_map.mp inAnswer
    exact Db.mem_entries.mpr ⟨o, (mem_unpublishedRows.mp (List.mem_of_mem_take taken)).1, rfl⟩
  constructor
  · have seen : (w.state snap).entries <+: (relayOf w).written := by
      by_cases le : snap ≤ w.commits.length
      · have now := entries_prefix sound le
        rwa [w.state_length] at now
      · have same : w.state snap = w.db := w.state_of_le (by omega)
        exact same ▸ List.prefix_refl _
    have step : Relay.Step (·.createdAt) (relayOf w) (relayOf { w with env }) := by
      have made : Relay.Step (fun e : OutboxEntry => e.createdAt) (relayOf w) _ :=
        .hand seen own fun e' mem' earlier => ?_
      · have same : relayOf { w with env } =
            { relayOf w with handed := w.env.handed ++ [e] } := by
          unfold relayOf
          rw [handed]
          rfl
        exact same ▸ made
      · obtain ⟨o, there, rfl⟩ := Db.mem_entries.mp mem'
        cases state : o.publishedAt with
        | none => exact sent _ (earlier_of_unpublished answer there state earlier)
        | some at' => exact relayed.published snap o there (by rw [state]; rfl)
    exact relayed.relays.tail step
  · intro n o there isPublished
    rw [handed]
    exact List.mem_append_left _ (relayed.published n o there isPublished)

theorem Relayed.moves {w' : World app} (relayed : Relayed w) (sound : w'.Sound)
    (h : knowledge.Moves w w') : Relayed w' := by
  have still : ∀ env : Env, env.handed = w.env.handed → Relayed { w with env } := by
    intro env same
    constructor
    · rw [relayOf, same]
      exact relayed.relays
    · rw [same]
      exact relayed.published
  cases h with
  | tick ticked =>
      obtain ⟨rfl, -⟩ := Env.tick_some ticked
      exact still _ rfl
  | @call t q choice answer env knows performed =>
      rcases Env.perform_handed performed with same | ⟨entry, rfl, handed⟩
      · exact still _ same
      · exact relayed.publish (t := t) ⟨sound.framed, sound.ran⟩ knows handed
  | commit knows => exact relayed.commit sound knows

end Histories

section Service

variable {airports : Table Airport} {clock : Instant} {steady idempotent : Bool}
  {invocations : Nat → Invocation} {p : Pool app UseCaseResult}

theorem relayed_of_service (h : (service airports clock steady idempotent invocations).Reachable p) :
    Relayed p.world := by
  refine (service_kept ..).invariant h ?_ fun w w' sound relayed moves => relayed.moves sound moves
  constructor
  · exact .refl
  · intro n o mem
    have first : (service airports clock steady idempotent invocations).world.state n =
        { airports } := World.state_of_le _ (Nat.zero_le n)
    rw [first] at mem
    exact absurd mem (Table.not_mem_empty o)

/-- Only committed entries are handed over, only entries handed over are marked published, and
an entry is not handed over before one that was committed earlier with an earlier time. -/
theorem handed_in_order (h : (service airports clock steady idempotent invocations).Reachable p) :
    (∀ e ∈ p.world.env.handed, e ∈ p.world.db.entries) ∧
    (∀ o ∈ p.world.db.outbox, o.publishedAt.isSome → o.entry ∈ p.world.env.handed) ∧
    ∀ n e₁ e₂ before after, e₁ ∈ (p.world.state n).entries → e₂ ∉ (p.world.state n).entries →
      e₁.createdAt < e₂.createdAt → p.world.env.handed = before ++ e₂ :: after → e₁ ∈ before := by
  have relayed := relayed_of_service h
  have written := relayed.relays.ordered.written
  refine ⟨written, fun o mem => ?_, ?_⟩
  · exact relayed.published p.world.commits.length o (p.world.state_length ▸ mem)
  · intro n e₁ e₂ before after first later earlier handed
    have le : (p.world.state n).entries <+: p.world.db.entries := by
      by_cases lt : n ≤ p.world.commits.length
      · have now := entries_prefix ((service_kept ..).reachable h).good.sound lt
        rwa [p.world.state_length] at now
      · have same : p.world.state n = p.world.db := p.world.state_of_le (by omega)
        exact same ▸ List.prefix_refl _
    obtain ⟨rest, whole⟩ := le
    have there : e₂ ∈ rest := by
      have stored : e₂ ∈ p.world.db.entries := by
        refine written e₂ ?_
        rw [show (relayOf p.world).handed = _ from handed]
        exact List.mem_append_right _ List.mem_cons_self
      rw [← whole] at stored
      exact (List.mem_append.mp stored).resolve_left later
    refine Relay.in_order relayed.relays ?_ earlier handed
    have pair : [e₁, e₂].Sublist ((p.world.state n).entries ++ rest) :=
      (List.singleton_sublist.mpr first).append (List.singleton_sublist.mpr there)
    rwa [whole] at pair

end Service

/-- A sweep, and a relay tick that finds three events. -/
def relayThreads : Nat → Invocation
  | 0 => .expireHolds 10 1 fun _ => ⟨fun i => 30 + i, fun i => 40 + i⟩
  | _ => .outboxRelayTick 10 id

/-- The hold of booking 5 lapses, is swept, and the tick hands over what happened. -/
def relayMoves : List (Nat × Move app) :=
  sampleMoves ++ [(4, Move.call (A := app) (.time 1000000))] ++ Pool.wholly 4 1000000 3 ++
    Pool.wholly 5 1000000 1 ++ (List.range 3).flatMap fun _ =>
      (5, Move.call (A := app) (.published (.ok ()))) :: Pool.wholly 5 1000000 1

theorem handed_in_order_sample : ∃ p, Pool.run relayMoves
      (service sampleAirports 0 true true (sampleThreads relayThreads)) = some p ∧
    p.world.env.handed.map (·.id) = [1, 2, 40] ∧
    ∀ e ∈ p.world.env.handed, e ∈ p.world.db.entries := by
  have handed : ((Pool.run relayMoves
      (service sampleAirports 0 true true (sampleThreads relayThreads))).map fun p =>
        p.world.env.handed.map (·.id)) = some [1, 2, 40] := by decide +kernel
  obtain ⟨p, ran, handed⟩ := Option.map_eq_some_iff.mp handed
  exact ⟨p, ran, handed, (handed_in_order (Pool.run_reachable ran)).1⟩

/-! ### Expiries -/

section Service

variable {airports : Table Airport} {clock : Instant} {steady idempotent : Bool}
  {invocations : Nat → Invocation} {p : Pool app UseCaseResult}

theorem holdsAnnounced_of_sound {w : World app} (sound : w.Sound)
    (first : w.initial.bookings = ∅) (n : Nat) : HoldsAnnounced (w.state n) := by
  induction n with
  | zero =>
      intro b mem
      rw [World.state_zero, first] at mem
      exact absurd mem (Table.not_mem_empty b)
  | succ n ih =>
      by_cases lt : n < w.commits.length
      · obtain ⟨c', committed, -⟩ := committed_of_sound sound lt
        exact committed.holdsAnnounced ih
      · rw [w.state_of_le (Nat.le_succ_of_le (not_lt.mp lt))]
        rwa [w.state_of_le (not_lt.mp lt)] at ih

/-- An entry of the outbox was enqueued by one of the commits. -/
theorem entry_origin {w : World app} (sound : w.Sound) (first : w.initial.outbox = ∅) {n : Nat}
    (le : n ≤ w.commits.length) {e : OutboxEntry} (mem : e ∈ (w.state n).entries) :
    ∃ l < n, e ∉ (w.state l).entries ∧ ∃ i x now r c', Committed w.timeline l i x now r c' ∧
      c'.log.Appends (w.state l) ∧ ∃ o ∈ c'.log.outbox, o.entry = e := by
  induction n with
  | zero =>
      obtain ⟨o, there, -⟩ := Db.mem_entries.mp mem
      rw [World.state_zero, first] at there
      exact absurd there (Table.not_mem_empty o)
  | succ n ih =>
      by_cases old : e ∈ (w.state n).entries
      · obtain ⟨l, lt, found⟩ := ih (Nat.le_of_succ_le le) old
        exact ⟨l, Nat.lt_succ_of_lt lt, found⟩
      · obtain ⟨c', committed, -⟩ := committed_of_sound sound le
        have mem' : e ∈ (w.timeline.state (n + 1)).entries := mem
        rcases committed.entries with new | same
        · rw [committed.enqueued new] at mem'
          obtain ⟨o, written, same⟩ := List.mem_map.mp ((List.mem_append.mp mem').resolve_left old)
          exact ⟨n, Nat.lt_succ_self n, old, _, _, _, _, c', committed, new, o, written, same⟩
        · rw [same] at mem'
          exact absurd mem' old

/-- A booking's expiry is handed over only after its hold was. -/
theorem held_handed_before_expired
    (h : (service airports clock steady idempotent invocations).Reachable p) {e : OutboxEntry}
    {before after : List OutboxEntry} (handed : p.world.env.handed = before ++ e :: after)
    (type : e.eventType = .bookingExpired) {id : Uuid}
    (about : e.payload.body.bookingId? = some id) :
    ∃ e' ∈ before, e'.eventType = .bookingHeld ∧ e'.payload.body.bookingId? = some id := by
  have sound := ((service_kept ..).reachable h).good.sound
  obtain ⟨written, -, inOrder⟩ := handed_in_order h
  have stored : e ∈ (p.world.state p.world.commits.length).entries := by
    rw [p.world.state_length]
    refine written e ?_
    rw [handed]
    exact List.mem_append_right _ List.mem_cons_self
  have start : p.world.initial = { airports } := h.initial_eq
  obtain ⟨l, lt, later, i, x, now, r, c', committed, new, o, mem, rfl⟩ :=
    entry_origin sound (congrArg Db.outbox start) (Nat.le_refl _) stored
  obtain ⟨b, there, rfl, due⟩ := committed.expiry mem new type about
  obtain ⟨e', first, held, about', deadline⟩ :=
    holdsAnnounced_of_sound sound (congrArg Db.bookings start) l b there
  refine ⟨e', inOrder l e' o.entry before after first later ?_ handed, held, about'⟩
  -- The hold lapsed fifteen minutes after it was announced.
  obtain ⟨-, lapsed, isDeadline, le⟩ := isDue_lapsed due
  have minutes : e'.createdAt + HOLD_DURATION_MS = lapsed :=
    Option.some.inj (deadline.symm.trans isDeadline)
  unfold HOLD_DURATION_MS at minutes
  unfold Instant at *
  omega

end Service

theorem held_handed_before_expired_sample : ∃ p e before, Pool.run relayMoves
      (service sampleAirports 0 true true (sampleThreads relayThreads)) = some p ∧
    p.world.env.handed = before ++ [e] ∧ e.eventType = .bookingExpired ∧
    ∃ e' ∈ before, e'.eventType = .bookingHeld ∧ e'.payload.body.bookingId? = some 5 := by
  have handed : ((Pool.run relayMoves
      (service sampleAirports 0 true true (sampleThreads relayThreads))).map fun p =>
        p.world.env.handed.map fun e => (e.eventType, e.payload.body.bookingId?)) =
      some ([(.flightCreated, none), (.bookingHeld, some 5)] ++ [(.bookingExpired, some 5)]) := by
    decide +kernel
  obtain ⟨p, ran, handed⟩ := Option.map_eq_some_iff.mp handed
  obtain ⟨before, rest, split, -, last⟩ := List.map_eq_append_iff.mp handed
  obtain ⟨e, rfl, event⟩ := List.map_eq_singleton_iff.mp last
  obtain ⟨type, about⟩ := Prod.ext_iff.mp event
  exact ⟨p, e, before, ran, split, type,
    held_handed_before_expired (Pool.run_reachable ran) split type about⟩

end FlightBooking
