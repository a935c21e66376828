import FlightBooking.Messaging.Delivery
import FlightBooking.Messaging.Sessions

/-!
Which runs lose no event.

Where nothing goes down with messages in its buffer, the message of every call of
`publish` that has resolved is with the broker or on its way. A row is marked only after
such a call, so the message of every marked row is (`published_events_received`). A
connection that drops between the two loses the event for good
(`buffered_event_lost`).
-/

namespace FlightBooking

open Relational ReadCommitted

namespace RabbitMqPublisher

variable {μ : Type} {p q : RabbitMqPublisher μ}

/-- The message is buffered, or received. -/
def Sent (p : RabbitMqPublisher μ) (destination : String) (message : μ) : Prop :=
  ∃ f, (f ∈ p.buffered ∨ f ∈ p.received) ∧ f.destination = destination ∧ f.message = message

/-- From `p` to `q` no message got lost, and no call resolved without sending one. -/
structure Continues (p q : RabbitMqPublisher μ) : Prop where
  frames : ∀ f, f ∈ p.buffered ∨ f ∈ p.received → f ∈ q.buffered ∨ f ∈ q.received
  received : p.received ⊆ q.received
  calls : ∀ (k : Nat) (c : PublishCall μ), p.publishes[k]? = some c → ∃ c', q.publishes[k]? = some c' ∧
    c'.destination = c.destination ∧ c'.message = c.message
  resolved : ∀ c' ∈ q.publishes, c'.phase = .resolved →
    c' ∈ p.publishes ∨ q.Sent c'.destination c'.message

theorem Sent.mono {destination : String} {message : μ} (h : p.Sent destination message)
    (continues : p.Continues q) : q.Sent destination message := by
  obtain ⟨f, mem, same⟩ := h
  exact ⟨f, continues.frames f mem, same⟩

/-- A step that leaves the calls and the messages alone. -/
theorem Continues.of_eq (publishes : q.publishes = p.publishes) (buffered : q.buffered = p.buffered)
    (received : q.received = p.received) : p.Continues q where
  frames f mem := by rwa [buffered, received]
  received := by rw [received]; exact List.Subset.refl _
  calls k c found := ⟨c, publishes ▸ found, rfl, rfl⟩
  resolved c mem _ := .inl (publishes ▸ mem)

/-- A call moves on without sending anything. -/
theorem continues_setPublish {k : Nat} (phase : PublishPhase) (unsent : phase ≠ .resolved) :
    p.Continues (p.setPublish k phase) where
  frames f mem := mem
  received := List.Subset.refl _
  calls j c found := by
    by_cases same : k = j
    · exact ⟨{ c with phase }, by simp [setPublish, found, same], rfl, rfl⟩
    · exact ⟨c, by simp [setPublish, found, same], rfl, rfl⟩
  resolved c mem resolved := by
    obtain ⟨j, found⟩ := List.mem_iff_getElem?.mp mem
    rw [setPublish, List.getElem?_modify] at found
    obtain ⟨c₀, before, rfl⟩ := Option.map_eq_some_iff.mp found
    split at resolved
    · exact absurd resolved unsent
    · rename_i other
      rw [if_neg other]
      exact .inl (List.mem_of_getElem? before)

theorem continues_publish (destination : String) (message : μ) :
    p.Continues (p.publish destination message) := by
  have appends : ∀ {phase : PublishPhase} {r : RabbitMqPublisher μ}, phase ≠ .resolved →
      r.publishes = p.publishes → r.buffered = p.buffered → r.received = p.received →
      p.Continues { r with publishes := r.publishes ++ [⟨destination, message, phase⟩] } := by
    intro phase r unsent publishes buffered received
    refine ⟨?_, ?_, ?_, ?_⟩
    · intro f mem
      rwa [← buffered, ← received] at mem
    · exact received ▸ List.Subset.refl _
    · intro k c found
      refine ⟨c, ?_, rfl, rfl⟩
      change (r.publishes ++ _)[k]? = _
      rw [publishes, List.getElem?_append_left (List.getElem?_eq_some_iff.mp found).1, found]
    · intro c mem resolved
      rcases List.mem_append.mp mem with mem | mem
      · exact .inl (publishes ▸ mem)
      · obtain rfl := List.mem_singleton.mp mem
        exact absurd resolved unsent
  rw [publish_eq]
  generalize p.getSession = answer, p.getSession_spec = spec
  cases spec with
  | current | closing | joined => exact appends (by intro same; cases same) rfl rfl rfl
  | opens => exact appends (by intro same; cases same) rfl rfl rfl

theorem continues_clearOpening (id : Nat) (session : Option PublisherSession) :
    p.Continues (p.clearOpening id session) where
  frames f mem := mem
  received := List.Subset.refl _
  calls k c found := by
    refine ⟨{ c with phase := c.phase.settled id session }, ?_, rfl, rfl⟩
    simp [clearOpening, found]
  resolved c mem resolved := by
    obtain ⟨c₀, mem₀, rfl⟩ := List.mem_map.mp mem
    have before : c₀.phase = .resolved := by
      cases is : c₀.phase with
      | resolved => rfl
      | joined id' =>
          rw [is] at resolved
          unfold PublishPhase.settled at resolved
          dsimp only at resolved
          split at resolved
          · cases session <;> cases resolved
          · cases resolved
      | got | assertingExchange | assertingQueue | rejected =>
          rw [is] at resolved
          cases resolved
    refine .inl ?_
    rw [before]
    change { c₀ with phase := PublishPhase.resolved } ∈ _
    rwa [← before]

theorem continues_sendToQueue {k : Nat} {session : PublisherSession} {call : PublishCall μ}
    (found : p.publishes[k]? = some call) : p.Continues (p.sendToQueue k session call) := by
  unfold sendToQueue
  split
  · obtain ⟨-, received, calls, -⟩ := continues_setPublish (p := p) (k := k)
      .rejected (by intro same; cases same)
    refine ⟨?_, received, ?_, ?_⟩
    · rintro f (mem | mem)
      · exact .inl (List.mem_append_left _ mem)
      · exact .inr mem
    · intro j c before
      by_cases same : k = j
      · exact ⟨{ c with phase := .resolved }, by simp [setPublish, before, same], rfl, rfl⟩
      · exact ⟨c, by simp [setPublish, before, same], rfl, rfl⟩
    · intro c mem _
      obtain ⟨j, at'⟩ := List.mem_iff_getElem?.mp mem
      change (p.publishes.modify k _)[j]? = _ at at'
      rw [List.getElem?_modify] at at'
      obtain ⟨c₀, before, rfl⟩ := Option.map_eq_some_iff.mp at'
      split
      · rename_i same
        subst same
        cases found.symm.trans before
        exact .inr ⟨_, .inl (List.mem_append_right _ (List.mem_singleton_self _)), rfl, rfl⟩
      · exact .inl (List.mem_of_getElem? before)
  · exact continues_setPublish _ (by intro same; cases same)

theorem continues_step [DecidableEq μ] {e : PublisherEvent μ} (taken : p.step e = some q)
    (connection : ∀ c, e = .connectionClose c → ∀ f ∈ p.buffered, f.session.connection ≠ c)
    (channel : ∀ c, e = .channelClose c → ∀ f ∈ p.buffered, f.session.channel ≠ c) :
    p.Continues q := by
  cases e with
  | connectSettles id ok =>
      obtain ⟨a, -, taken⟩ := Option.bind_eq_some_iff.mp taken
      obtain ⟨-, taken⟩ := Option.ite_none_right_eq_some.mp taken
      cases taken
      cases ok <;> exact .of_eq rfl rfl rfl
  | createChannelSettles id ok =>
      obtain ⟨a, -, taken⟩ := Option.bind_eq_some_iff.mp taken
      split at taken <;> cases taken
      cases ok <;> exact .of_eq rfl rfl rfl
  | discardSettles id =>
      obtain ⟨a, -, taken⟩ := Option.bind_eq_some_iff.mp taken
      split at taken <;> cases taken
      exact .of_eq rfl rfl rfl
  | proceed id =>
      obtain ⟨a, -, taken⟩ := Option.bind_eq_some_iff.mp taken
      unfold RabbitMqPublisher.proceed at taken
      split at taken
      · cases taken
        exact .of_eq rfl rfl rfl
      · cases taken
        exact .of_eq rfl rfl rfl
      · cases taken
        exact .of_eq rfl rfl rfl
      · split at taken <;> cases taken <;> exact .of_eq rfl rfl rfl
      · split at taken <;> cases taken
        · exact .of_eq rfl rfl rfl
        · exact continues_clearOpening ..
      all_goals cases taken
  | connectionClose c =>
      obtain ⟨-, taken⟩ := Option.ite_none_right_eq_some.mp taken
      cases taken
      rw [connectionClosed_eq]
      refine .of_eq rfl (List.filter_eq_self.mpr fun f mem => ?_) rfl
      exact decide_eq_true (connection c rfl f mem)
  | channelClose c =>
      obtain ⟨-, taken⟩ := Option.ite_none_right_eq_some.mp taken
      cases taken
      rw [channelClosed_eq]
      refine .of_eq rfl (List.filter_eq_self.mpr fun f mem => ?_) rfl
      exact decide_eq_true (channel c rfl f mem)
  | connectionError c | channelError c =>
      obtain ⟨-, taken⟩ := Option.ite_none_right_eq_some.mp taken
      cases taken
      exact .of_eq rfl rfl rfl
  | publish destination message =>
      obtain ⟨-, taken⟩ := Option.ite_none_right_eq_some.mp taken
      cases taken
      exact continues_publish destination message
  | publishGoesOn k ok =>
      obtain ⟨call, found, taken⟩ := Option.bind_eq_some_iff.mp taken
      unfold RabbitMqPublisher.publishGoesOn at taken
      split at taken
      · split at taken <;> cases taken
        exact continues_setPublish _ (by intro same; cases same)
      · cases taken
        refine continues_setPublish _ ?_
        cases ok <;> intro same <;> cases same
      · split at taken <;> cases taken
        · exact continues_sendToQueue found
        · exact continues_setPublish _ (by intro same; cases same)
      all_goals cases taken
  | close =>
      obtain ⟨-, taken⟩ := Option.ite_none_right_eq_some.mp taken
      cases taken
      exact .of_eq rfl rfl rfl
  | closeGoesOn k ok =>
      obtain ⟨c, -, taken⟩ := Option.bind_eq_some_iff.mp taken
      unfold RabbitMqPublisher.closeGoesOn at taken
      split at taken
      · split at taken <;> cases taken
        exact .of_eq rfl rfl rfl
      · cases taken
        exact .of_eq rfl rfl rfl
      · cases taken
        exact .of_eq rfl rfl rfl
      all_goals cases taken
  | receive session =>
      obtain ⟨frame, -, taken⟩ := Option.map_eq_some_iff.mp taken
      cases taken
      refine ⟨?_, List.subset_append_left .., fun k c found => ⟨c, found, rfl, rfl⟩,
        fun c mem _ => .inl mem⟩
      rintro f (mem | mem)
      · by_cases same : f = frame
        · exact .inr (List.mem_append_right _ (List.mem_singleton.mpr same))
        · exact .inl ((List.mem_erase_of_ne same).mpr mem)
      · exact .inr (List.mem_append_left _ mem)

end RabbitMqPublisher

namespace Delivery

variable {s s' : Delivery}

/-! ### Where messages are -/

/-- The entry's message is buffered, or received. -/
def Sent (s : Delivery) (entry : OutboxEntry) : Prop :=
  ∃ p ∈ s.processes, p.publisher.Sent entry.eventType.queue entry.payload

theorem sent_iff {entry : OutboxEntry} : s.Sent entry ↔ s.Received entry ∨ s.Buffered entry := by
  constructor
  · rintro ⟨p, memP, f, mem | mem, carries⟩
    · exact .inr ⟨p, memP, f, mem, carries⟩
    · exact .inl ⟨p, memP, f, mem, carries⟩
  · rintro (⟨p, memP, f, mem, carries⟩ | ⟨p, memP, f, mem, carries⟩)
    · exact ⟨p, memP, f, .inr mem, carries⟩
    · exact ⟨p, memP, f, .inl mem, carries⟩

/-- The entry is that of a stored row. -/
def Stored (s : Delivery) (entry : OutboxEntry) : Prop :=
  ∃ row ∈ s.db.outbox, row.entry = entry

/-- What is true of one process, `sent` and `stored` being true of the whole. -/
structure Traceable (sent stored : OutboxEntry → Prop) (p : RelayProcess) : Prop where
  calls : ∀ c ∈ p.publisher.publishes, c.phase = .resolved →
    p.publisher.Sent c.destination c.message
  publishing : ∀ t ∈ p.ticks, ∀ call, t.phase = .publishing call → ∃ entry rest c,
    t.pending = entry :: rest ∧ p.publisher.publishes[call]? = some c ∧
      c.destination = entry.eventType.queue ∧ c.message = entry.payload
  marking : ∀ t ∈ p.ticks, t.phase = .marking → ∀ entry, t.pending.head? = some entry → sent entry
  stored : ∀ t ∈ p.ticks, ∀ entry ∈ t.pending, stored entry

theorem Traceable.imp {sent sent' stored stored' : OutboxEntry → Prop} {p : RelayProcess}
    (h : Traceable sent stored p) (sends : ∀ entry, sent entry → sent' entry)
    (stores : ∀ entry, stored entry → stored' entry) : Traceable sent' stored' p :=
  ⟨h.calls, h.publishing, fun t mem phase entry head => sends entry (h.marking t mem phase entry head),
    fun t mem entry memE => stores entry (h.stored t mem entry memE)⟩

/-- The publisher goes on, the ticks wait. -/
theorem Traceable.publisher {sent stored : OutboxEntry → Prop} {p : RelayProcess}
    (h : Traceable sent stored p) {publisher : RabbitMqPublisher EventPayload}
    (continues : p.publisher.Continues publisher) : Traceable sent stored { p with publisher } where
  calls c mem resolved := by
    rcases continues.resolved c mem resolved with before | sent
    · exact (h.calls c before resolved).mono continues
    · exact sent
  publishing t mem call phase := by
    obtain ⟨entry, rest, c, pending, found, queue, payload⟩ := h.publishing t mem call phase
    obtain ⟨c', found', queue', payload'⟩ := continues.calls call c found
    exact ⟨entry, rest, c', pending, found', queue'.trans queue, payload'.trans payload⟩
  marking := h.marking
  stored := h.stored

/-- A tick is replaced. -/
theorem Traceable.setTick {sent stored : OutboxEntry → Prop} {p : RelayProcess}
    (h : Traceable sent stored p) {k : Nat} {t : RelayTick}
    (publishing : ∀ call, t.phase = .publishing call → ∃ entry rest c,
      t.pending = entry :: rest ∧ p.publisher.publishes[call]? = some c ∧
        c.destination = entry.eventType.queue ∧ c.message = entry.payload)
    (marking : t.phase = .marking → ∀ entry, t.pending.head? = some entry → sent entry)
    (stored' : ∀ entry ∈ t.pending, stored entry) :
    Traceable sent stored { p with ticks := p.ticks.set k t } := by
  refine ⟨h.calls, ?_, ?_, ?_⟩
  · intro t' mem
    rcases List.mem_or_eq_of_mem_set mem with old | rfl
    · exact h.publishing t' old
    · exact publishing
  · intro t' mem
    rcases List.mem_or_eq_of_mem_set mem with old | rfl
    · exact h.marking t' old
    · exact marking
  · intro t' mem
    rcases List.mem_or_eq_of_mem_set mem with old | rfl
    · exact h.stored t' old
    · exact stored'

theorem Traceable.endTick {sent stored : OutboxEntry → Prop} {p : RelayProcess}
    (h : Traceable sent stored p) (k : Nat) : Traceable sent stored (p.endTick k) := by
  refine h.setTick ?_ ?_ ?_
  · intro call phase
    cases phase
  · intro phase
    cases phase
  · intro entry mem
    cases mem

/-- The next entry is handed to the publisher. -/
theorem Traceable.goOn {sent stored : OutboxEntry → Prop} {p : RelayProcess}
    (h : Traceable sent stored p) (k : Nat) {pending : List OutboxEntry}
    (stored' : ∀ entry ∈ pending, stored entry) : Traceable sent stored (p.goOn k pending) := by
  cases pending with
  | nil => exact h.endTick k
  | cons entry rest =>
      have handed := h.publisher (p := p)
        (RabbitMqPublisher.continues_publish entry.eventType.queue entry.payload)
      refine handed.setTick ?_ ?_ stored'
      · intro call phase
        cases phase
        refine ⟨entry, rest, ⟨entry.eventType.queue, entry.payload, p.publisher.getSession.1⟩, rfl, ?_,
          rfl, rfl⟩
        have same : p.publisher.getSession.2.publishes = p.publisher.publishes := by
          generalize p.publisher.getSession = answer, p.publisher.getSession_spec = spec
          cases spec <;> rfl
        change (p.publisher.getSession.2.publishes ++ [_])[p.publisher.publishes.length]? = _
        rw [same]
        exact List.getElem?_concat_length
      · intro phase
        cases phase

theorem continues_goOn (k : Nat) (pending : List OutboxEntry) (p : RelayProcess) :
    p.publisher.Continues (p.goOn k pending).publisher := by
  cases pending with
  | nil => exact .of_eq rfl rfl rfl
  | cons entry rest => exact RabbitMqPublisher.continues_publish ..

/-! ### The outbox -/

/-- The UPDATE rewrites the entry's row in place, if it is there. -/
theorem mem_markPublished {entry : OutboxEntry} {now : Instant} {row : OutboxRow} :
    row ∈ (s.markPublished entry now).db.outbox ↔
      (∃ v ∈ s.db.outbox, v.entry.id = entry.id ∧ { v with publishedAt := some now } = row) ∨
        row ∈ s.db.outbox ∧ row.entry.id ≠ entry.id := by
  let p : OutboxRow → Bool := fun r => r.entry.id = entry.id
  let f : OutboxRow → OutboxRow := fun r => { r with publishedAt := some now }
  have outbox : (s.markPublished entry now).db.outbox =
      s.db.outbox.putAll ((s.db.outbox.recheck s.db.outbox p).map f) := rfl
  rw [outbox, Table.mem_putAll_map (f := f) (Table.nodup_recheck ..)
    (fun v mem => (Table.mem_recheck_self.mp mem).1) fun v => rfl]
  simp only [Table.mem_recheck_self, p, f, decide_eq_true_eq]
  constructor
  · rintro (⟨v, ⟨mem, own⟩, same⟩ | ⟨mem, out⟩)
    · exact .inl ⟨v, mem, own, same⟩
    · exact .inr ⟨mem, fun own => out ⟨mem, own⟩⟩
  · rintro (⟨v, mem, own, same⟩ | ⟨mem, other⟩)
    · exact .inl ⟨v, ⟨mem, own⟩, same⟩
    · exact .inr ⟨mem, fun h => other h.2⟩

theorem stored_markPublished {entry e : OutboxEntry} {now : Instant} (h : s.Stored e) :
    (s.markPublished entry now).Stored e := by
  obtain ⟨row, mem, rfl⟩ := h
  by_cases own : row.entry.id = entry.id
  · exact ⟨_, mem_markPublished.mpr (.inl ⟨row, mem, own, rfl⟩), rfl⟩
  · exact ⟨row, mem_markPublished.mpr (.inr ⟨mem, own⟩), rfl⟩

/-- The only row it marks is the entry's. -/
theorem marked_markPublished {entry : OutboxEntry} {now : Instant} (stored : s.Stored entry)
    {row : OutboxRow} (mem : row ∈ (s.markPublished entry now).db.outbox) :
    row.entry = entry ∨ row ∈ s.db.outbox := by
  rcases mem_markPublished.mp mem with ⟨v, memV, own, rfl⟩ | ⟨mem, -⟩
  · obtain ⟨row, memR, rfl⟩ := stored
    obtain rfl : v = row := Table.eq_of_key memV memR own
    exact .inl rfl
  · exact .inr mem

@[simp] theorem processes_markPublished (entry : OutboxEntry) (now : Instant) :
    (s.markPublished entry now).processes = s.processes := rfl

@[simp] theorem orphans_markPublished (entry : OutboxEntry) (now : Instant) :
    (s.markPublished entry now).orphans = s.orphans := rfl

theorem mem_enqueue {db db' : Db} {entry : OutboxEntry}
    (done : db.autocommit (FlightBooking.enqueue entry) = .ok ((), db')) {row : OutboxRow} :
    row ∈ db'.outbox ↔ row = ⟨entry, none⟩ ∨ row ∈ db.outbox := by
  unfold Db.autocommit at done
  rw [execute_query] at done
  have whole : FlightBooking.enqueue entry [] db db = if (db.outbox.find? entry.id).isSome then
      .error (.uniqueViolation "PK_outbox") else .ok { reply := (), writes := { outbox := [⟨entry, none⟩] } } := rfl
  change Except.map _ (Except.map _ (FlightBooking.enqueue entry [] db db)) = _ at done
  rw [whole] at done
  split at done
  · cases done
  · rename_i free
    cases done
    change row ∈ db.outbox.put ⟨entry, none⟩ ↔ _
    rw [Table.mem_put]
    refine or_congr_right (and_iff_left_of_imp ?_)
    rintro mem same
    have found := Table.find?_of_mem mem
    rw [same] at found
    exact free (Option.isSome_iff_exists.mpr ⟨row, found⟩)

/-- What a relay tick finds is stored. -/
theorem stored_findUnpublished {db db' : Db} {batchSize : Nat} {storage : Uuid → Nat}
    {pending : List OutboxEntry}
    (done : db.autocommit (findUnpublished batchSize storage) = .ok (pending, db')) :
    db' = db ∧ ∀ entry ∈ pending, ∃ row ∈ db.outbox, row.entry = entry := by
  cases done
  refine ⟨rfl, ?_⟩
  intro entry mem
  obtain ⟨row, memR, rfl⟩ := List.mem_map.mp mem
  have mem := List.mem_of_mem_take memR
  rw [unpublishedRows, List.mem_insertionSort] at mem
  exact ⟨row, (List.mem_filter.mp mem).1, rfl⟩

/-! ### Every step -/

/-- Every message is accounted for: what was sent for a marked row, and for a row whose
UPDATE is under way, is buffered or received. -/
structure Accounted (s : Delivery) : Prop where
  processes : ∀ p ∈ s.processes, Traceable s.Sent s.Stored p
  orphans : ∀ entry ∈ s.orphans, s.Sent entry ∧ s.Stored entry
  marked : ∀ row ∈ s.db.outbox, row.publishedAt ≠ none → s.Sent row.entry

/-- One process is replaced by one that has all its messages. -/
theorem sent_setProcess {i : Nat} {p p' : RelayProcess} (found : s.processes[i]? = some p)
    (frames : ∀ f, f ∈ p.publisher.buffered ∨ f ∈ p.publisher.received →
      f ∈ p'.publisher.buffered ∨ f ∈ p'.publisher.received) {entry : OutboxEntry}
    (h : s.Sent entry) : (s.setProcess i p').Sent entry := by
  obtain ⟨q, mem, sent⟩ := h
  obtain ⟨lt, here⟩ := List.getElem?_eq_some_iff.mp found
  obtain ⟨j, lt', at'⟩ := List.mem_iff_getElem.mp mem
  by_cases same : i = j
  · subst same
    obtain rfl : p = q := here.symm.trans at'
    obtain ⟨f, mem, carries⟩ := sent
    exact ⟨p', List.mem_set lt p', f, frames f mem, carries⟩
  · refine ⟨q, List.mem_iff_getElem.mpr ⟨j, by simpa [setProcess] using lt', ?_⟩, sent⟩
    exact (List.getElem_set_ne same ..).trans at'

/-- One process moves on. -/
theorem Accounted.setProcess (h : s.Accounted) {i : Nat} {p p' : RelayProcess}
    (found : s.processes[i]? = some p) (continues : p.publisher.Continues p'.publisher)
    (traceable : Traceable s.Sent s.Stored p → Traceable s.Sent s.Stored p') :
    (s.setProcess i p').Accounted := by
  have sends : ∀ entry, s.Sent entry → (s.setProcess i p').Sent entry := fun entry =>
    sent_setProcess found continues.frames
  refine ⟨?_, ?_, fun row mem published => sends _ (h.marked row mem published)⟩
  · intro q mem
    rcases List.mem_or_eq_of_mem_set mem with old | rfl
    · exact (h.processes q old).imp sends fun _ => id
    · exact (traceable (h.processes p (List.mem_of_getElem? found))).imp sends fun _ => id
  · intro entry mem
    obtain ⟨sent, stored⟩ := h.orphans entry mem
    exact ⟨sends entry sent, stored⟩

/-- The UPDATE of a row whose message was sent. -/
theorem Accounted.markPublished (h : s.Accounted) {entry : OutboxEntry} (sent : s.Sent entry)
    (stored : s.Stored entry) (now : Instant) : (s.markPublished entry now).Accounted := by
  have stores : ∀ e, s.Stored e → (s.markPublished entry now).Stored e := fun e =>
    stored_markPublished
  refine ⟨fun p mem => (h.processes p mem).imp (fun _ => id) stores, ?_, ?_⟩
  · intro e mem
    obtain ⟨sent, stored⟩ := h.orphans e mem
    exact ⟨sent, stores e stored⟩
  · intro row mem published
    rcases marked_markPublished stored mem with rfl | old
    · exact sent
    · exact h.marked row old published

theorem Accounted.markSettles (h : s.Accounted) {i k : Nat} {p : RelayProcess} {t : RelayTick}
    (found : s.processes[i]? = some p) (tick : p.ticks[k]? = some t) {now : Instant}
    {ends : Executed} (taken : s.markSettles i k t now ends p = some s') : s'.Accounted := by
  have traceable := h.processes p (List.mem_of_getElem? found)
  have memT := List.mem_of_getElem? tick
  unfold Delivery.markSettles at taken
  split at taken
  · rename_i entry rest phase pending
    have sent := traceable.marking t memT phase entry (by simp [pending])
    have stored := traceable.stored t memT
    rw [pending] at stored
    have head := stored entry (List.mem_cons_self ..)
    have marked := h.markPublished sent head now
    cases ends with
    | done =>
        cases taken
        refine marked.setProcess (i := i) found (continues_goOn k rest p) fun here => ?_
        exact here.goOn k fun e mem => stored_markPublished (stored e (List.mem_cons_of_mem _ mem))
    | unacknowledged =>
        cases taken
        exact marked.setProcess (i := i) found (.of_eq rfl rfl rfl) fun here => here.endTick k
    | failed =>
        cases taken
        exact h.setProcess (i := i) found (.of_eq rfl rfl rfl) fun here => here.endTick k
  · cases taken

theorem Accounted.publishSettles (h : s.Accounted) {i k : Nat} {p p' : RelayProcess} {t : RelayTick}
    (found : s.processes[i]? = some p) (tick : p.ticks[k]? = some t)
    (taken : publishSettles k t p = some p') : (s.setProcess i p').Accounted := by
  have traceable := h.processes p (List.mem_of_getElem? found)
  have memT := List.mem_of_getElem? tick
  unfold Delivery.publishSettles at taken
  split at taken
  · rename_i call phase
    split at taken
    · rename_i resolved
      cases taken
      refine h.setProcess (i := i) found (.of_eq rfl rfl rfl) fun here => ?_
      refine here.setTick (fun call phase => by cases phase) ?_ (here.stored t memT)
      intro _ entry head
      obtain ⟨entry', rest, c, pending, at', queue, payload⟩ :=
        traceable.publishing t memT call phase
      obtain rfl : entry' = entry := by simpa [pending] using head
      have phase' : c.phase = .resolved := by simpa [at'] using resolved
      have sent := traceable.calls c (List.mem_of_getElem? at') phase'
      rw [queue, payload] at sent
      exact ⟨p, List.mem_of_getElem? found, sent⟩
    · cases taken
      exact h.setProcess (i := i) found (.of_eq rfl rfl rfl) fun here => here.endTick k
    · cases taken
  · cases taken

/-- A process with nothing buffered goes down and is started again. -/
theorem Accounted.crash (h : s.Accounted) {i : Nat} {p : RelayProcess}
    (found : s.processes[i]? = some p) (empty : p.publisher.buffered = []) :
    Accounted { s.setProcess i (restart p) with orphans := s.orphans ++ marking p } := by
  have traceable := h.processes p (List.mem_of_getElem? found)
  have sends : ∀ entry, s.Sent entry → (s.setProcess i (restart p)).Sent entry := by
    intro entry
    refine sent_setProcess found ?_
    rintro f (mem | mem)
    · rw [empty] at mem
      cases mem
    · exact .inr mem
  refine ⟨?_, ?_, fun row mem published => sends _ (h.marked row mem published)⟩
  · intro q mem
    rcases List.mem_or_eq_of_mem_set mem with old | rfl
    · exact (h.processes q old).imp sends fun _ => id
    · refine ⟨?_, ?_, ?_, ?_⟩ <;> intro x mem <;> cases mem
  · intro entry mem
    rcases List.mem_append.mp mem with mem | mem
    · obtain ⟨sent, stored⟩ := h.orphans entry mem
      exact ⟨sends entry sent, stored⟩
    · obtain ⟨t, memT, head⟩ := List.mem_filterMap.mp mem
      obtain ⟨memT, phase⟩ := List.mem_filter.mp memT
      exact ⟨sends entry (traceable.marking t memT (of_decide_eq_true phase) entry head),
        traceable.stored t memT entry (List.mem_of_mem_head? head)⟩

theorem Accounted.step (h : s.Accounted) {e : DeliveryEvent} (kept : s.lossless e = true)
    (taken : s.step e = some s') : s'.Accounted := by
  cases e with
  | enqueue entry =>
      unfold Delivery.step at taken
      dsimp only at taken
      split at taken
      · rename_i db done
        cases taken
        have stores : ∀ e, s.Stored e → ∃ row ∈ db.outbox, row.entry = e := by
          rintro e ⟨row, mem, same⟩
          exact ⟨row, (mem_enqueue done).mpr (.inr mem), same⟩
        refine ⟨fun p mem => (h.processes p mem).imp (fun _ => id) stores, ?_, ?_⟩
        · intro e mem
          obtain ⟨sent, stored⟩ := h.orphans e mem
          exact ⟨sent, stores e stored⟩
        · intro row mem published
          rcases (mem_enqueue done).mp mem with rfl | old
          · exact absurd rfl published
          · exact h.marked row old published
      · cases taken
  | tick i =>
      obtain ⟨p, found, taken⟩ := Option.bind_eq_some_iff.mp taken
      obtain ⟨-, taken⟩ := Option.ite_none_right_eq_some.mp taken
      cases taken
      refine h.setProcess (i := i) found (.of_eq rfl rfl rfl) fun here => ?_
      refine ⟨here.calls, ?_, ?_, ?_⟩
      · intro t mem call phase
        rcases List.mem_append.mp mem with mem | mem
        · exact here.publishing t mem call phase
        · obtain rfl := List.mem_singleton.mp mem
          cases phase
      · intro t mem phase
        rcases List.mem_append.mp mem with mem | mem
        · exact here.marking t mem phase
        · obtain rfl := List.mem_singleton.mp mem
          cases phase
      · intro t mem entry memE
        rcases List.mem_append.mp mem with mem | mem
        · exact here.stored t mem entry memE
        · obtain rfl := List.mem_singleton.mp mem
          cases memE
  | found i k batchSize storage =>
      obtain ⟨p, found, taken⟩ := Option.bind_eq_some_iff.mp taken
      obtain ⟨t, -, taken⟩ := Option.bind_eq_some_iff.mp taken
      obtain ⟨-, taken⟩ := Option.ite_none_right_eq_some.mp taken
      split at taken
      · rename_i pending db done
        cases taken
        exact h.setProcess (i := i) found (continues_goOn k pending p) fun here =>
          here.goOn k (stored_findUnpublished done).2
      · cases taken
  | findFails i k =>
      obtain ⟨p, found, taken⟩ := Option.bind_eq_some_iff.mp taken
      obtain ⟨t, -, taken⟩ := Option.bind_eq_some_iff.mp taken
      obtain ⟨-, taken⟩ := Option.ite_none_right_eq_some.mp taken
      cases taken
      exact h.setProcess (i := i) found (.of_eq rfl rfl rfl) fun here => here.endTick k
  | settled i k =>
      obtain ⟨p, found, taken⟩ := Option.bind_eq_some_iff.mp taken
      obtain ⟨t, tick, taken⟩ := Option.bind_eq_some_iff.mp taken
      obtain ⟨p', settles, rfl⟩ := Option.map_eq_some_iff.mp taken
      exact h.publishSettles found tick settles
  | marked i k now ends =>
      obtain ⟨p, found, taken⟩ := Option.bind_eq_some_iff.mp taken
      obtain ⟨t, tick, taken⟩ := Option.bind_eq_some_iff.mp taken
      exact h.markSettles found tick taken
  | orphan entry now =>
      obtain ⟨mem, taken⟩ := Option.ite_none_right_eq_some.mp taken
      cases taken
      obtain ⟨sent, stored⟩ := h.orphans entry mem
      obtain ⟨processes, orphans, marked⟩ := h.markPublished sent stored now
      exact ⟨processes, fun e mem => orphans e (List.mem_of_mem_erase mem), marked⟩
  | publisher i e =>
      have publishes : ∀ destination message, e ≠ .publish destination message := by
        rintro destination message rfl
        cases taken
      have taken : ((s.processes[i]?).bind fun p => (p.publisher.step e).map fun publisher =>
          s.setProcess i { p with publisher }) = some s' := by
        cases e with
        | publish destination message => exact absurd rfl (publishes destination message)
        | _ => exact taken
      obtain ⟨p, found, taken⟩ := Option.bind_eq_some_iff.mp taken
      obtain ⟨publisher, moved, rfl⟩ := Option.map_eq_some_iff.mp taken
      have continues : p.publisher.Continues publisher := by
        refine RabbitMqPublisher.continues_step moved ?_ ?_
        · rintro c rfl f mem
          have all : (s.processes[i]?).all _ = true := kept
          rw [found, Option.all_some, List.all_eq_true] at all
          exact of_decide_eq_true (all f mem)
        · rintro c rfl f mem
          have all : (s.processes[i]?).all _ = true := kept
          rw [found, Option.all_some, List.all_eq_true] at all
          exact of_decide_eq_true (all f mem)
      exact h.setProcess (i := i) found continues fun here => here.publisher continues
  | crash i =>
      obtain ⟨p, found, taken⟩ := Option.map_eq_some_iff.mp taken
      cases taken
      have empty : (s.processes[i]?).all _ = true := kept
      rw [found, Option.all_some, List.isEmpty_iff] at empty
      exact h.crash found empty

theorem accounted_start (n : Nat) : (start n).Accounted := by
  refine ⟨?_, ?_, ?_⟩
  · intro p mem
    obtain rfl := List.eq_of_mem_replicate mem
    refine ⟨?_, ?_, ?_, ?_⟩ <;> intro x mem <;> cases mem
  · intro entry mem
    cases mem
  · intro row mem
    cases mem

/-! ### What the broker has -/

theorem received_setProcess {i : Nat} {p p' : RelayProcess} (found : s.processes[i]? = some p)
    (received : p.publisher.received ⊆ p'.publisher.received) {entry : OutboxEntry}
    (h : s.Received entry) : (s.setProcess i p').Received entry := by
  obtain ⟨q, mem, f, memF, carries⟩ := h
  obtain ⟨lt, here⟩ := List.getElem?_eq_some_iff.mp found
  obtain ⟨j, lt', at'⟩ := List.mem_iff_getElem.mp mem
  by_cases same : i = j
  · subst same
    obtain rfl : p = q := here.symm.trans at'
    exact ⟨p', List.mem_set lt p', f, received memF, carries⟩
  · refine ⟨q, List.mem_iff_getElem.mpr ⟨j, by simpa [setProcess] using lt', ?_⟩, f, memF, carries⟩
    exact (List.getElem_set_ne same ..).trans at'

/-- What the broker has received it has. -/
theorem received_step {e : DeliveryEvent} (taken : s.step e = some s') {entry : OutboxEntry}
    (h : s.Received entry) : s'.Received entry := by
  cases e with
  | enqueue =>
      unfold Delivery.step at taken
      dsimp only at taken
      split at taken <;> cases taken
      exact h
  | tick i =>
      obtain ⟨p, found, taken⟩ := Option.bind_eq_some_iff.mp taken
      obtain ⟨-, taken⟩ := Option.ite_none_right_eq_some.mp taken
      cases taken
      refine received_setProcess (i := i) found ?_ h
      exact List.Subset.refl _
  | found i k batchSize storage =>
      obtain ⟨p, found, taken⟩ := Option.bind_eq_some_iff.mp taken
      obtain ⟨t, -, taken⟩ := Option.bind_eq_some_iff.mp taken
      obtain ⟨-, taken⟩ := Option.ite_none_right_eq_some.mp taken
      split at taken <;> cases taken
      exact received_setProcess (i := i) found (continues_goOn k _ p).received h
  | findFails i k =>
      obtain ⟨p, found, taken⟩ := Option.bind_eq_some_iff.mp taken
      obtain ⟨t, -, taken⟩ := Option.bind_eq_some_iff.mp taken
      obtain ⟨-, taken⟩ := Option.ite_none_right_eq_some.mp taken
      cases taken
      refine received_setProcess (i := i) found ?_ h
      exact List.Subset.refl _
  | settled i k =>
      obtain ⟨p, found, taken⟩ := Option.bind_eq_some_iff.mp taken
      obtain ⟨t, -, taken⟩ := Option.bind_eq_some_iff.mp taken
      obtain ⟨p', settles, rfl⟩ := Option.map_eq_some_iff.mp taken
      refine received_setProcess (i := i) found ?_ h
      unfold Delivery.publishSettles at settles
      split at settles
      · split at settles <;> cases settles <;> exact List.Subset.refl _
      · cases settles
  | marked i k now ends =>
      obtain ⟨p, found, taken⟩ := Option.bind_eq_some_iff.mp taken
      obtain ⟨t, -, taken⟩ := Option.bind_eq_some_iff.mp taken
      unfold Delivery.markSettles at taken
      split at taken
      · rename_i e rest _ _
        have marked : (s.markPublished e now).Received entry := h
        cases ends with
        | done =>
            cases taken
            exact received_setProcess (i := i) found (continues_goOn k rest p).received marked
        | unacknowledged =>
            cases taken
            refine received_setProcess (i := i) found ?_ marked
            exact List.Subset.refl _
        | failed =>
            cases taken
            refine received_setProcess (i := i) found ?_ h
            exact List.Subset.refl _
      · cases taken
  | orphan e now =>
      obtain ⟨-, taken⟩ := Option.ite_none_right_eq_some.mp taken
      cases taken
      exact h
  | publisher i e =>
      cases e with
      | publish => cases taken
      | connectionClose c =>
          obtain ⟨p, found, taken⟩ := Option.bind_eq_some_iff.mp taken
          obtain ⟨publisher, moved, rfl⟩ := Option.map_eq_some_iff.mp taken
          obtain ⟨-, moved⟩ := Option.ite_none_right_eq_some.mp moved
          cases moved
          rw [RabbitMqPublisher.connectionClosed_eq]
          refine received_setProcess (i := i) found ?_ h
          exact List.Subset.refl _
      | channelClose c =>
          obtain ⟨p, found, taken⟩ := Option.bind_eq_some_iff.mp taken
          obtain ⟨publisher, moved, rfl⟩ := Option.map_eq_some_iff.mp taken
          obtain ⟨-, moved⟩ := Option.ite_none_right_eq_some.mp moved
          cases moved
          rw [RabbitMqPublisher.channelClosed_eq]
          refine received_setProcess (i := i) found ?_ h
          exact List.Subset.refl _
      | _ =>
          obtain ⟨p, found, taken⟩ := Option.bind_eq_some_iff.mp taken
          obtain ⟨publisher, moved, rfl⟩ := Option.map_eq_some_iff.mp taken
          have continues := RabbitMqPublisher.continues_step moved
            (fun c same => by cases same) (fun c same => by cases same)
          exact received_setProcess (i := i) found continues.received h
  | crash i =>
      obtain ⟨p, found, taken⟩ := Option.map_eq_some_iff.mp taken
      cases taken
      refine received_setProcess (i := i) found ?_ h
      exact List.Subset.refl _

/-- A row is marked by the step only if its message was sent; and if the broker has
caught up, it is not buffered any more. -/
theorem Accounted.step_marks (h : s.Accounted) {e : DeliveryEvent} (taken : s.step e = some s')
    {row : OutboxRow} (mem : row ∈ s'.db.outbox) (published : row.publishedAt ≠ none) :
    row ∈ s.db.outbox ∨
      (s.Sent row.entry ∧ (s.caughtUp e = true → ¬ s.Buffered row.entry)) := by
  cases e with
  | enqueue entry =>
      unfold Delivery.step at taken
      dsimp only at taken
      split at taken
      · rename_i db done
        cases taken
        rcases (mem_enqueue done).mp mem with rfl | old
        · exact absurd rfl published
        · exact .inl old
      · cases taken
  | tick i =>
      obtain ⟨p, -, taken⟩ := Option.bind_eq_some_iff.mp taken
      obtain ⟨-, taken⟩ := Option.ite_none_right_eq_some.mp taken
      cases taken
      exact .inl mem
  | found i k batchSize storage =>
      obtain ⟨p, -, taken⟩ := Option.bind_eq_some_iff.mp taken
      obtain ⟨t, -, taken⟩ := Option.bind_eq_some_iff.mp taken
      obtain ⟨-, taken⟩ := Option.ite_none_right_eq_some.mp taken
      split at taken <;> cases taken
      exact .inl mem
  | findFails i k =>
      obtain ⟨p, -, taken⟩ := Option.bind_eq_some_iff.mp taken
      obtain ⟨t, -, taken⟩ := Option.bind_eq_some_iff.mp taken
      obtain ⟨-, taken⟩ := Option.ite_none_right_eq_some.mp taken
      cases taken
      exact .inl mem
  | settled i k =>
      obtain ⟨p, -, taken⟩ := Option.bind_eq_some_iff.mp taken
      obtain ⟨t, -, taken⟩ := Option.bind_eq_some_iff.mp taken
      obtain ⟨p', -, rfl⟩ := Option.map_eq_some_iff.mp taken
      exact .inl mem
  | marked i k now ends =>
      obtain ⟨p, found, taken⟩ := Option.bind_eq_some_iff.mp taken
      obtain ⟨t, tick, taken⟩ := Option.bind_eq_some_iff.mp taken
      have traceable := h.processes p (List.mem_of_getElem? found)
      have memT := List.mem_of_getElem? tick
      unfold Delivery.markSettles at taken
      split at taken
      · rename_i entry rest phase pending
        have sent := traceable.marking t memT phase entry (by simp [pending])
        have stored := traceable.stored t memT entry (by simp [pending])
        have marks : ends ≠ .failed → row ∈ (s.markPublished entry now).db.outbox →
            row ∈ s.db.outbox ∨
              (s.Sent row.entry ∧ (s.caughtUp (.marked i k now ends) = true →
                ¬ s.Buffered row.entry)) := by
          intro executed mem
          rcases marked_markPublished stored mem with rfl | old
          · refine .inr ⟨sent, fun caught => ?_⟩
            simpa [caughtUp, executed, found, tick, pending] using caught
          · exact .inl old
        cases ends with
        | done =>
            cases taken
            exact marks (by intro same; cases same) mem
        | unacknowledged =>
            cases taken
            exact marks (by intro same; cases same) mem
        | failed =>
            cases taken
            exact .inl mem
      · cases taken
  | orphan entry now =>
      obtain ⟨memO, taken⟩ := Option.ite_none_right_eq_some.mp taken
      cases taken
      obtain ⟨sent, stored⟩ := h.orphans entry memO
      rcases marked_markPublished stored mem with rfl | old
      · exact .inr ⟨sent, fun caught => by simpa [caughtUp] using caught⟩
      · exact .inl old
  | publisher i e =>
      cases e with
      | publish => cases taken
      | _ =>
          obtain ⟨p, -, taken⟩ := Option.bind_eq_some_iff.mp taken
          obtain ⟨publisher, -, rfl⟩ := Option.map_eq_some_iff.mp taken
          exact .inl mem
  | crash i =>
      obtain ⟨p, -, taken⟩ := Option.map_eq_some_iff.mp taken
      cases taken
      exact .inl mem

/-! ### Every run -/

theorem accounted_run {n : Nat} {es : List DeliveryEvent}
    (ran : Machine.run (Machine.guarded lossless step) es (start n) = some s) : s.Accounted := by
  refine Machine.run_invariant ?_ ran (accounted_start n)
  intro s e s' accounted taken
  obtain ⟨kept, taken⟩ := Machine.guarded_eq_some.mp taken
  exact accounted.step kept taken

/-- In every run in which nothing goes down with messages in its buffer, the message of
every row that is marked published has been received by the broker, or a channel still
buffers it. If besides no row is marked while its message is buffered, it has been
received. -/
theorem published_events_received (n : Nat) :
    (∀ es s, Machine.run (Machine.guarded lossless step) es (start n) = some s →
      ∀ row ∈ s.db.outbox, row.publishedAt ≠ none → s.Received row.entry ∨ s.Buffered row.entry) ∧
    ∀ es s,
      Machine.run (Machine.guarded (fun s e => s.lossless e && s.caughtUp e) step) es (start n) =
        some s →
      ∀ row ∈ s.db.outbox, row.publishedAt ≠ none → s.Received row.entry := by
  constructor
  · intro es s ran row mem published
    exact sent_iff.mp ((accounted_run ran).marked row mem published)
  · intro es s ran
    have both : s.Accounted ∧
        ∀ row ∈ s.db.outbox, row.publishedAt ≠ none → s.Received row.entry := by
      refine Machine.run_invariant (I := fun s => s.Accounted ∧
        ∀ row ∈ s.db.outbox, row.publishedAt ≠ none → s.Received row.entry) ?_ ran
        ⟨accounted_start n, fun row mem => by cases mem⟩
      rintro s e s' ⟨accounted, received⟩ taken
      obtain ⟨careful, taken⟩ := Machine.guarded_eq_some.mp taken
      obtain ⟨kept, caught⟩ := Bool.and_eq_true_iff.mp careful
      refine ⟨accounted.step kept taken, fun row mem published => received_step taken ?_⟩
      rcases accounted.step_marks taken mem published with old | ⟨sent, unbuffered⟩
      · exact received row old published
      · exact (sent_iff.mp sent).resolve_right (unbuffered caught)
    exact both.2

/-! ### A run and its opposite -/

/-- The sweep expired a booking. -/
def sampleEntry : OutboxEntry :=
  ⟨11, .bookingExpired, ⟨11, 11, 900000, .bookingExpired 5 "BK-0005" 1 900000 [⟨1, 'A'⟩]⟩, 900000⟩

/-- A process starts, and a relay tick hands the event to its publisher. -/
def bufferEvents : List DeliveryEvent :=
  [.publisher 0 (.connectSettles 0 true), .publisher 0 (.proceed 0),
    .publisher 0 (.createChannelSettles 0 true), .publisher 0 (.proceed 0),
    .publisher 0 (.proceed 0), .enqueue sampleEntry, .tick 0, .found 0 0 20 (fun _ => 0),
    .publisher 0 (.publishGoesOn 0 true), .publisher 0 (.publishGoesOn 0 true),
    .publisher 0 (.publishGoesOn 0 true)]

/-- The broker receives it, and the row is marked. -/
def receivedEvents : List DeliveryEvent :=
  bufferEvents ++ [.publisher 0 (.receive ⟨0, 0⟩), .settled 0 0, .marked 0 0 900001 .done]

theorem published_events_received_sample : ∃ s,
    Machine.run (Machine.guarded (fun s e => s.lossless e && s.caughtUp e) step) receivedEvents
      (start 1) = some s ∧
    s.db.outbox.rows = [⟨sampleEntry, some 900001⟩] ∧ s.Received sampleEntry := by
  have ends : (Machine.run (Machine.guarded (fun s e => s.lossless e && s.caughtUp e) step)
      receivedEvents (start 1)).map (fun s => s.db.outbox.rows) =
      some [⟨sampleEntry, some 900001⟩] := by decide +kernel
  obtain ⟨s, ran, rows⟩ := Option.map_eq_some_iff.mp ends
  have mem : (⟨sampleEntry, some 900001⟩ : OutboxRow) ∈ s.db.outbox := by
    change _ ∈ s.db.outbox.rows
    rw [rows]
    exact List.mem_singleton_self _
  refine ⟨s, ran, rows, (published_events_received 1).2 _ s ran _ mem ?_⟩
  intro unpublished
  cases unpublished

/-- The connection drops before the broker receives it, and the row is marked. -/
def lostEvents : List DeliveryEvent :=
  bufferEvents ++ [.publisher 0 (.connectionClose 0), .settled 0 0, .marked 0 0 900001 .done]

/-- The row is marked, so no tick will find it again; no broker has received its message,
and no channel buffers it. -/
theorem buffered_event_lost : ∃ s, Machine.run step lostEvents (start 1) = some s ∧
    s.db.outbox.rows = [⟨sampleEntry, some 900001⟩] ∧
    unpublishedRows (fun _ => 0) s.db = [] ∧ ¬ s.Received sampleEntry ∧ ¬ s.Buffered sampleEntry := by
  have ends : (Machine.run step lostEvents (start 1)).map (fun s =>
      (s.db.outbox.rows, unpublishedRows (fun _ => 0) s.db, decide (s.Received sampleEntry),
        decide (s.Buffered sampleEntry))) =
      some ([⟨sampleEntry, some 900001⟩], [], false, false) := by decide +kernel
  obtain ⟨s, ran, ends⟩ := Option.map_eq_some_iff.mp ends
  simp only [Prod.mk.injEq, decide_eq_false_iff_not] at ends
  exact ⟨s, ran, ends⟩

end Delivery

end FlightBooking
