import FlightBooking.Notifier.Pipeline

/-!
What the notifier hears of.

Whatever the connections and the processes do, the queues carry the api's events and nothing
else: the notifier refuses none of them, and each line of its log is that of a stored event
(`only_events_arrive`). Where besides nothing goes down with messages in its buffer and no row
is marked too early, no published event is missed: its message waits or is held, or its line
is in the log; and once a process of the notifier is restarted it gets there
(`published_events_notified`).
-/

namespace FlightBooking

open Contracts Notifier

/-! ### The log -/

namespace Notifier

variable {s s' : State}

/-- Only a callback writes to the log, about the message that is held. -/
theorem State.log_step {e : Event} (taken : s.step e = some s') : s'.log = s.log ∨
    ∃ (i : Nat) (q : Source) (m : Message), (i, m) ∈ (s.queues q).messages.held ∧
      s'.log = s.log ++ [(onMessage q m.2).2] := by
  cases e with
  | assertExchange q | assertQueue q | publish q content =>
      cases taken
      exact .inl rfl
  | connects i ok | wakes i =>
      obtain ⟨p, -, taken⟩ := Option.bind_eq_some_iff.mp taken
      obtain ⟨p', -, rfl⟩ := Option.map_eq_some_iff.mp taken
      exact .inl rfl
  | subscribes i ok =>
      obtain ⟨p, -, taken⟩ := Option.bind_eq_some_iff.mp taken
      split at taken
      · split at taken
        · obtain ⟨after, -, rfl⟩ := Option.map_eq_some_iff.mp taken
          exact .inl rfl
        · cases taken
          exact .inl rfl
      · cases taken
  | deliver i q =>
      obtain ⟨p, -, taken⟩ := Option.bind_eq_some_iff.mp taken
      obtain ⟨-, taken⟩ := Option.ite_none_right_eq_some.mp taken
      obtain ⟨messages, -, rfl⟩ := Option.map_eq_some_iff.mp taken
      exact .inl rfl
  | message i q =>
      obtain ⟨p, -, taken⟩ := Option.bind_eq_some_iff.mp taken
      obtain ⟨m, holds, taken⟩ := Option.bind_eq_some_iff.mp taken
      obtain ⟨-, taken⟩ := Option.ite_none_left_eq_some.mp taken
      cases taken
      exact .inr ⟨i, q, m, WorkQueue.mem_of_holding? holds, rfl⟩
  | answered i q =>
      obtain ⟨p, -, taken⟩ := Option.bind_eq_some_iff.mp taken
      obtain ⟨m, -, taken⟩ := Option.bind_eq_some_iff.mp taken
      obtain ⟨answer, -, rfl⟩ := Option.map_eq_some_iff.mp taken
      exact .inl rfl
  | disconnect i =>
      obtain ⟨p, -, taken⟩ := Option.bind_eq_some_iff.mp taken
      obtain ⟨-, taken⟩ := Option.ite_none_right_eq_some.mp taken
      cases taken
      exact .inl rfl
  | stop i =>
      obtain ⟨p, -, rfl⟩ := Option.map_eq_some_iff.mp taken
      exact .inl rfl
  | start i =>
      obtain ⟨p, -, taken⟩ := Option.bind_eq_some_iff.mp taken
      obtain ⟨-, taken⟩ := Option.ite_none_right_eq_some.mp taken
      cases taken
      exact .inl rfl

theorem mem_numbered {taken : List (List UInt8)} {m : Message} (mem : m ∈ numbered taken) :
    m.2 ∈ taken := by
  obtain ⟨n, lt, rfl⟩ := List.mem_mapIdx.mp mem
  exact List.getElem_mem lt

theorem exists_numbered {taken : List (List UInt8)} {content : List UInt8} (mem : content ∈ taken) :
    ∃ place, (place, content) ∈ numbered taken := by
  obtain ⟨n, lt, rfl⟩ := List.mem_iff_getElem.mp mem
  exact ⟨n, List.mem_mapIdx.mpr ⟨n, lt, rfl⟩⟩

/-- What is in the queue, or was, was sent there. -/
theorem BrokerQueue.Sound.mem_taken {log : List LogLine} {q : Source} {b : BrokerQueue}
    (sound : b.Sound log q) {m : Message}
    (mem : m ∈ b.messages.contents ∨ m ∈ b.acked ∨ m ∈ b.deadLettered) : m.2 ∈ b.taken := by
  refine mem_numbered (sound.all.subset ?_)
  rw [List.append_assoc, List.mem_append, List.mem_append]
  exact mem

end Notifier

namespace Pipeline

variable {text : Uuid → List Char} {s s' : Pipeline}

/-- The lines of stored events. -/
def LogsEvents (text : Uuid → List Char) (s : Pipeline) : Prop :=
  ∀ line ∈ s.notifier.log, ∃ entry, s.delivery.Stored entry ∧
    line = (onMessage (sourceOf entry.eventType) (wire text entry.payload)).2

theorem LogsEvents.step (h : s.LogsEvents text) (sound : s.Sound text) {e : PipelineEvent}
    (taken : s.step text e = some s') : s'.LogsEvents text := by
  cases e with
  | notifier e =>
      obtain ⟨-, n, served, rfl⟩ := step_notifier taken
      rcases State.log_step served with same | ⟨i, q, m, holds, same⟩
      · intro line mem
        rw [same] at mem
        exact h line mem
      · intro line mem
        rw [same] at mem
        rcases List.mem_append.mp mem with mem | mem
        · exact h line mem
        · have held : m ∈ (s.notifier.queues q).messages.contents :=
            List.mem_append_right _ (List.mem_map_of_mem holds)
          obtain ⟨entry, stored, rfl, content⟩ :=
            sound.origin q m.2 ((sound.notifier.queues q).mem_taken (.inl held))
          exact ⟨entry, stored, by rw [List.mem_singleton.mp mem, content]⟩
  | api e =>
      obtain ⟨-, taken⟩ := Option.ite_none_right_eq_some.mp taken
      obtain ⟨d, moved, rfl⟩ := Option.map_eq_some_iff.mp taken
      have stores := (Delivery.step_moves moved).1
      have log : ∀ f, (arrive text f s.notifier).log = s.notifier.log := by
        intro f
        unfold arrive
        split <;> rfl
      intro line mem
      have before : line ∈ s.notifier.log := by
        split at mem
        · exact log _ ▸ mem
        · exact mem
      obtain ⟨entry, stored, same⟩ := h line before
      refine ⟨entry, ?_, same⟩
      split <;> exact stores entry stored

theorem logs_of_run {m n : Nat} {es : List PipelineEvent}
    (ran : Machine.run (step text) es (initial m n) = some s) : s.LogsEvents text := by
  have both : s.Sound text ∧ s.LogsEvents text := by
    refine Machine.run_invariant (I := fun s => s.Sound text ∧ s.LogsEvents text) ?_ ran
      ⟨sound_initial m n, fun line mem => absurd mem List.not_mem_nil⟩
    rintro s e s' ⟨sound, logs⟩ taken
    exact ⟨sound.step taken, logs.step sound taken⟩
  exact both.2

/-! ### Only events -/

/-- In every run, while every row of the outbox is an event of the api: no message is refused,
dropped or sent to a queue that is missing; what the queues carry are the messages of stored
events, each in the queue of its type; what was processed has its line in the log, and each
line of the log is that of a stored event. -/
theorem only_events_arrive (named : ∀ id, text id ≠ []) {m n : Nat} {es : List PipelineEvent}
    (ran : Machine.run (step text) es (initial m n) = some s)
    (accepted : ∀ row ∈ s.delivery.db.outbox, row.Accepted) :
    (∀ q, (s.notifier.queues q).deadLettered = [] ∧ (s.notifier.queues q).dropped = [] ∧
      (s.notifier.queues q).unroutable = []) ∧
    (∀ (q : Source), ∀ content ∈ (s.notifier.queues q).taken, ∃ row ∈ s.delivery.db.outbox,
      sourceOf row.entry.eventType = q ∧ content = wire text row.entry.payload) ∧
    (∀ (q : Source), ∀ m ∈ (s.notifier.queues q).acked, ∃ row ∈ s.delivery.db.outbox,
      m.2 = wire text row.entry.payload ∧ (row.entry.payload.contract text).line ∈ s.notifier.log) ∧
    ∀ line ∈ s.notifier.log, ∃ row ∈ s.delivery.db.outbox,
      line = (row.entry.payload.contract text).line := by
  have sound := sound_of_run ran
  have logs := logs_of_run ran
  have origin : ∀ (q : Source) (m : Message),
      m ∈ (s.notifier.queues q).acked ∨ m ∈ (s.notifier.queues q).deadLettered →
      ∃ row ∈ s.delivery.db.outbox, m.2 = wire text row.entry.payload ∧
        onMessage q m.2 = (.ack, (row.entry.payload.contract text).line) := by
    intro q m mem
    obtain ⟨entry, ⟨row, memR, rfl⟩, rfl, content⟩ :=
      sound.origin q m.2 ((sound.notifier.queues q).mem_taken (.inr mem))
    exact ⟨row, memR, content, by rw [content, onMessage_wire named (accepted row memR)]⟩
  refine ⟨?_, ?_, ?_, ?_⟩
  · intro q
    refine ⟨?_, (sound.notifier.queues q).kept, sound.routed q⟩
    refine List.eq_nil_iff_forall_not_mem.mpr fun m mem => ?_
    obtain ⟨row, -, -, verdict⟩ := origin q m (.inr mem)
    have refused := ((sound.notifier.queues q).refused m mem).1
    rw [verdict] at refused
    cases refused
  · intro q content mem
    obtain ⟨entry, ⟨row, memR, rfl⟩, queue, same⟩ := sound.origin q content mem
    exact ⟨row, memR, queue, same⟩
  · intro q m mem
    obtain ⟨row, memR, content, verdict⟩ := origin q m (.inl mem)
    have logged := ((sound.notifier.queues q).acked m mem).2
    rw [verdict] at logged
    exact ⟨row, memR, content, logged⟩
  · intro line mem
    obtain ⟨entry, ⟨row, memR, rfl⟩, same⟩ := logs line mem
    rw [onMessage_wire named (accepted row memR)] at same
    exact ⟨row, memR, same⟩

/-- Nothing goes down with messages in its buffer, and no row is marked while its message is
buffered. -/
def careful (s : Pipeline) : PipelineEvent → Bool
  | .api e => s.delivery.lossless e && s.delivery.caughtUp e
  | .notifier _ => true

/-! A booking expires, its event is relayed, and the notifier hears of it. -/

theorem uuidText_ne (id : Uuid) : uuidText id ≠ [] := by
  intro none
  rw [uuidText, List.append_eq_nil_iff] at none
  cases none.2

def notifiedEvents : List PipelineEvent :=
  [.notifier (.assertExchange .bookingExpired), .notifier (.assertQueue .bookingExpired)] ++
    Delivery.receivedEvents.map .api ++
    .notifier (.connects 0 true) :: List.replicate 20 (.notifier (.subscribes 0 true)) ++
    [.notifier (.deliver 0 .bookingExpired), .notifier (.message 0 .bookingExpired),
      .notifier (.answered 0 .bookingExpired)]

theorem notifiedEvents_run : ∃ s : Pipeline,
    Machine.run (Machine.guarded careful (step uuidText)) notifiedEvents (initial 1 1) = some s ∧
    s.delivery.db.outbox.rows = [⟨Delivery.sampleEntry, some 900001⟩] ∧
    (s.notifier.queues .bookingExpired).acked.length = 1 ∧
    ∀ row ∈ s.delivery.db.outbox, row.Accepted := by
  have ran : (Machine.run (Machine.guarded careful (step uuidText)) notifiedEvents
      (initial 1 1)).map (fun s =>
        (s.delivery.db.outbox.rows, (s.notifier.queues .bookingExpired).acked.length)) =
      some ([⟨Delivery.sampleEntry, some 900001⟩], 1) := by decide +kernel
  obtain ⟨s, ran, same⟩ := Option.map_eq_some_iff.mp ran
  obtain ⟨rows, acked⟩ := Prod.mk.inj same
  refine ⟨s, ran, rows, acked, ?_⟩
  intro row mem
  change row ∈ s.delivery.db.outbox.rows at mem
  rw [rows] at mem
  rw [List.mem_singleton.mp mem]
  have reference : "BK-0005" ≠ "" := by decide
  exact ⟨rfl, reference, List.cons_ne_nil _ _⟩

theorem only_events_arrive_sample : ∃ s : Pipeline,
    Machine.run (step uuidText) notifiedEvents (initial 1 1) = some s ∧
    (s.notifier.queues .bookingExpired).acked.length = 1 ∧
    (s.notifier.queues .bookingExpired).deadLettered = [] ∧
    ∀ line ∈ s.notifier.log, line = (Delivery.sampleEntry.payload.contract uuidText).line := by
  obtain ⟨s, guarded, rows, acked, accepted⟩ := notifiedEvents_run
  have ran := Machine.run_of_guarded guarded
  obtain ⟨nothing, -, -, lines⟩ := only_events_arrive uuidText_ne ran accepted
  refine ⟨s, ran, acked, (nothing .bookingExpired).1, ?_⟩
  intro line mem
  obtain ⟨row, memR, same⟩ := lines line mem
  change row ∈ s.delivery.db.outbox.rows at memR
  rw [rows] at memR
  rw [same, List.mem_singleton.mp memR]

/-! ### Every published event -/

/-- Where the messages of published rows are. -/
structure Published (s : Pipeline) : Prop where
  accounted : s.delivery.Accounted
  received : ∀ row ∈ s.delivery.db.outbox, row.publishedAt ≠ none → s.delivery.Received row.entry

theorem published_initial (m n : Nat) : (initial m n).Published :=
  ⟨Delivery.accounted_start m, fun _ mem => absurd mem List.not_mem_nil⟩

theorem Published.step (h : s.Published) {e : PipelineEvent} (kept : s.careful e = true)
    (taken : s.step text e = some s') : s'.Published := by
  cases e with
  | notifier e =>
      obtain ⟨-, n, -, rfl⟩ := step_notifier taken
      exact ⟨h.accounted, h.received⟩
  | api e =>
      obtain ⟨lossless, caught⟩ := Bool.and_eq_true_iff.mp kept
      obtain ⟨-, taken⟩ := Option.ite_none_right_eq_some.mp taken
      obtain ⟨d, moved, rfl⟩ := Option.map_eq_some_iff.mp taken
      have received : ∀ row ∈ d.db.outbox, row.publishedAt ≠ none → d.Received row.entry := by
        intro row mem published
        refine Delivery.received_step moved ?_
        rcases h.accounted.step_marks moved mem published with old | ⟨sent, unbuffered⟩
        · exact h.received row old published
        · exact (Delivery.sent_iff.mp sent).resolve_right (unbuffered caught)
      have accounted := h.accounted.step lossless moved
      split <;> exact ⟨accounted, received⟩

theorem published_of_run {m n : Nat} {es : List PipelineEvent}
    (ran : Machine.run (Machine.guarded careful (step text)) es (initial m n) = some s) :
    s.Published := by
  refine Machine.run_invariant ?_ ran (published_initial m n)
  intro s e s' h taken
  obtain ⟨kept, taken⟩ := Machine.guarded_eq_some.mp taken
  exact h.step kept taken

/-- What the broker received went to the queue of its type. -/
theorem Sound.taken_of_received (h : s.Sound text) {entry : OutboxEntry}
    (received : s.delivery.Received entry) :
    wire text entry.payload ∈ (s.notifier.queues (sourceOf entry.eventType)).taken := by
  obtain ⟨p, mem, f, memF, queue, message⟩ := received
  have there := h.arrived p mem f memF (sourceOf entry.eventType) (by rw [queue, named?_queue])
  rwa [message] at there

/-- Once it is neither waiting nor held, an event has its line in the log. -/
theorem Sound.line_of_done {n : Notifier.State} (sound : n.Sound) (named : ∀ id, text id ≠ [])
    {row : OutboxRow} (accepted : row.Accepted)
    (taken : wire text row.entry.payload ∈ (n.queues (sourceOf row.entry.eventType)).taken) :
    (∃ place, (place, wire text row.entry.payload) ∈
      (n.queues (sourceOf row.entry.eventType)).messages.contents) ∨
    (row.entry.payload.contract text).line ∈ n.log := by
  obtain ⟨place, mem⟩ := exists_numbered taken
  have queue := sound.queues (sourceOf row.entry.eventType)
  have verdict := onMessage_wire named accepted
  rcases List.mem_append.mp (queue.all.symm.subset mem) with mem | mem
  · rcases List.mem_append.mp mem with mem | mem
    · exact .inl ⟨place, mem⟩
    · have logged := (queue.acked _ mem).2
      rw [verdict] at logged
      exact .inr logged
  · have refused := (queue.refused _ mem).1
    rw [verdict] at refused
    cases refused

/-- What the notifier does alone. -/
theorem leads_notifier {P : Notifier.Event → Prop} (quiet : ∀ x content, ¬ P (.publish x content))
    {d : Delivery} {n n' : Notifier.State} (leads : Machine.Leads Notifier.State.step P n n') :
    Machine.Leads (step text) (fun e => ∃ e', e = .notifier e' ∧ P e') ⟨d, n⟩ ⟨d, n'⟩ := by
  obtain ⟨es, ran, all⟩ := leads
  induction es generalizing n with
  | nil =>
      cases ran
      exact .refl _
  | cons e es ih =>
      obtain ⟨mid, taken, ran⟩ := Option.bind_eq_some_iff.mp ran
      have admitted := all e List.mem_cons_self
      have later := ih ran fun e' mem => all e' (List.mem_cons_of_mem _ mem)
      refine .head (e := .notifier e) ?_ ⟨e, rfl, admitted⟩ later
      have lifted : (n.step e).map (fun notifier => (⟨d, notifier⟩ : Pipeline)) = some ⟨d, mid⟩ := by
        rw [taken, Option.map_some]
      cases e with
      | publish x content => exact absurd admitted (quiet x content)
      | _ => exact lifted

/-- The notifier's processes stay as many as they are. -/
theorem length_of_run {m n : Nat} {es : List PipelineEvent}
    (ran : Machine.run (step text) es (initial m n) = some s) : s.notifier.processes.length = n := by
  refine Machine.run_invariant (I := fun s => s.notifier.processes.length = n) ?_ ran
    List.length_replicate
  intro s e s' length taken
  cases e with
  | notifier e =>
      obtain ⟨-, n', served, rfl⟩ := step_notifier taken
      exact (State.length_step served).trans length
  | api e =>
      obtain ⟨-, taken⟩ := Option.ite_none_right_eq_some.mp taken
      obtain ⟨d, -, rfl⟩ := Option.map_eq_some_iff.mp taken
      split
      · unfold arrive
        split <;> exact length
      · exact length

/-- In every run in which nothing goes down with messages in its buffer and no row is marked
while its message is buffered, and every row is an event of the api: the event of each row that
is marked published waits for the notifier, or is held by a process of it, or its line is in the
log. And whatever became of the notifier's processes, once one of them is restarted it gets to
every one of these events, the api doing nothing. -/
theorem published_events_notified (named : ∀ id, text id ≠ []) {m n : Nat}
    {es : List PipelineEvent}
    (ran : Machine.run (Machine.guarded careful (step text)) es (initial m n) = some s)
    (accepted : ∀ row ∈ s.delivery.db.outbox, row.Accepted) :
    (∀ row ∈ s.delivery.db.outbox, row.publishedAt ≠ none →
      (∃ place, (place, wire text row.entry.payload) ∈
        (s.notifier.queues (sourceOf row.entry.eventType)).messages.contents) ∨
      (row.entry.payload.contract text).line ∈ s.notifier.log) ∧
    ∀ i < n, ∃ s', Machine.Leads (step text)
        (fun e => ∃ e', e = .notifier e' ∧ (e'.Restarting i ∨ e'.Serving)) s s' ∧
      s'.delivery = s.delivery ∧ ∀ row ∈ s.delivery.db.outbox, row.publishedAt ≠ none →
        (row.entry.payload.contract text).line ∈ s'.notifier.log := by
  have sound := sound_of_run (Machine.run_of_guarded ran)
  have published := published_of_run ran
  have arrived : ∀ row ∈ s.delivery.db.outbox, row.publishedAt ≠ none →
      wire text row.entry.payload ∈ (s.notifier.queues (sourceOf row.entry.eventType)).taken :=
    fun row mem marked => sound.taken_of_received (published.received row mem marked)
  constructor
  · intro row mem marked
    exact Sound.line_of_done sound.notifier named (accepted row mem) (arrived row mem marked)
  · intro i lt
    have length := length_of_run (Machine.run_of_guarded ran)
    have here := List.getElem?_eq_getElem (lt.trans_eq length.symm)
    obtain ⟨n₁, n₂, restarted, served, done⟩ := sound.notifier.recovers here
    have all : Machine.Leads State.step (fun e => e.Restarting i ∨ e.Serving) s.notifier n₂ :=
      (restarted.mono fun _ => .inl).trans (served.mono fun _ => .inr)
    refine ⟨⟨s.delivery, n₂⟩, leads_notifier ?_ all, rfl, ?_⟩
    · rintro x content (restarting | serving)
      · exact restarting
      · exact serving
    · intro row mem marked
      obtain ⟨taken, none⟩ := done (sourceOf row.entry.eventType)
      have there := arrived row mem marked
      rw [← taken] at there
      refine (Sound.line_of_done ((sound.notifier.leads restarted).leads served) named
        (accepted row mem) there).resolve_left ?_
      rintro ⟨place, mem⟩
      rw [none] at mem
      cases mem

theorem published_events_notified_sample : ∃ s : Pipeline,
    Machine.run (Machine.guarded careful (step uuidText)) notifiedEvents (initial 1 1) = some s ∧
    s.delivery.db.outbox.rows = [⟨Delivery.sampleEntry, some 900001⟩] ∧
    ∃ s' : Pipeline, s'.delivery = s.delivery ∧
      (Delivery.sampleEntry.payload.contract uuidText).line ∈ s'.notifier.log := by
  obtain ⟨s, ran, rows, -, accepted⟩ := notifiedEvents_run
  obtain ⟨s', -, same, logged⟩ :=
    (published_events_notified uuidText_ne ran accepted).2 0 Nat.zero_lt_one
  have mem : (⟨Delivery.sampleEntry, some 900001⟩ : OutboxRow) ∈ s.delivery.db.outbox := by
    change _ ∈ s.delivery.db.outbox.rows
    rw [rows]
    exact List.mem_singleton_self _
  refine ⟨s, ran, rows, s', same, logged _ mem ?_⟩
  intro unpublished
  cases unpublished

end Pipeline

end FlightBooking
