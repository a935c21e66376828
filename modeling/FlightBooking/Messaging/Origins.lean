import FlightBooking.Messaging.NoEventLost

/-!
Where the messages come from.

A channel buffers only what a call of `publish` was given, the broker receives only what a
channel buffered, and a process publishes only entries it found in the outbox: every message
that the broker ever receives is that of a stored row (`Genuine`).
-/

namespace FlightBooking

open Relational ReadCommitted

variable {μ : Type}

/-- What a call was given. -/
def PublishCall.given (c : PublishCall μ) : String × μ := (c.destination, c.message)

namespace RabbitMqPublisher

variable {p q : RabbitMqPublisher μ}

def given (p : RabbitMqPublisher μ) : List (String × μ) := p.publishes.map PublishCall.given

/-- A step of the publisher, as far as messages go: calls keep what they were given, a frame
is written when a call's queue has been asserted, and received once it has been written. -/
structure Transmits (p : RabbitMqPublisher μ) (e : PublisherEvent μ) (q : RabbitMqPublisher μ) :
    Prop where
  given : q.given = p.given
  buffered : ∀ f ∈ q.buffered, f ∈ p.buffered ∨ ∃ k c session, e = .publishGoesOn k true ∧
    p.publishes[k]? = some c ∧ c.phase = .assertingQueue session ∧
    f = ⟨session, c.destination, c.message⟩
  received : q.received = p.received ∨ ∃ session f, e = .receive session ∧
    p.buffered.find? (fun f => f.session = session) = some f ∧ q.received = p.received ++ [f]

/-- A step that neither writes nor receives. -/
theorem Transmits.quiet {e : PublisherEvent μ} (given : q.given = p.given)
    (buffered : q.buffered ⊆ p.buffered) (received : q.received = p.received) : p.Transmits e q :=
  ⟨given, fun _ mem => .inl (buffered mem), .inl received⟩

theorem given_setPublish (k : Nat) (phase : PublishPhase) : (p.setPublish k phase).given = p.given := by
  unfold given setPublish
  refine List.ext_getElem? fun j => ?_
  rw [List.getElem?_map, List.getElem?_modify, List.getElem?_map]
  cases p.publishes[j]? with
  | none => rfl
  | some c =>
      dsimp only [Option.map_some, Option.map_eq_map]
      split <;> rfl

theorem given_clearOpening (id : Nat) (session : Option PublisherSession) :
    (p.clearOpening id session).given = p.given := by
  simp only [given, clearOpening, List.map_map]
  rfl

theorem given_publish (destination : String) (message : μ) :
    (p.publish destination message).given = p.given ++ [(destination, message)] := by
  have same : p.getSession.2.publishes = p.publishes := by
    generalize p.getSession = answer, p.getSession_spec = spec
    cases spec <;> rfl
  simp only [given, publish_eq, same, List.map_append, List.map_cons, List.map_nil]
  rfl

theorem frames_publish (destination : String) (message : μ) :
    (p.publish destination message).buffered = p.buffered ∧
    (p.publish destination message).received = p.received := by
  rw [publish_eq]
  generalize p.getSession = answer, p.getSession_spec = spec
  cases spec <;> exact ⟨rfl, rfl⟩

theorem transmits_step [DecidableEq μ] {e : PublisherEvent μ} (taken : p.step e = some q)
    (other : ∀ destination message, e ≠ .publish destination message) : p.Transmits e q := by
  have same : ∀ {e} {q : RabbitMqPublisher μ}, q.publishes = p.publishes → q.buffered = p.buffered →
      q.received = p.received → p.Transmits e q := by
    intro e q publishes buffered received
    exact .quiet (by rw [given, publishes, given]) (by rw [buffered]; exact List.Subset.refl _) received
  have moves : ∀ {e} k phase, p.Transmits e (p.setPublish k phase) := fun k phase =>
    .quiet (given_setPublish k phase) (List.Subset.refl _) rfl
  cases e with
  | connectSettles id ok =>
      obtain ⟨a, -, taken⟩ := Option.bind_eq_some_iff.mp taken
      obtain ⟨-, taken⟩ := Option.ite_none_right_eq_some.mp taken
      cases taken
      cases ok <;> exact same rfl rfl rfl
  | createChannelSettles id ok =>
      obtain ⟨a, -, taken⟩ := Option.bind_eq_some_iff.mp taken
      split at taken <;> cases taken
      cases ok <;> exact same rfl rfl rfl
  | discardSettles id =>
      obtain ⟨a, -, taken⟩ := Option.bind_eq_some_iff.mp taken
      split at taken <;> cases taken
      exact same rfl rfl rfl
  | proceed id =>
      obtain ⟨a, -, taken⟩ := Option.bind_eq_some_iff.mp taken
      unfold RabbitMqPublisher.proceed at taken
      split at taken
      · cases taken
        exact same rfl rfl rfl
      · cases taken
        exact same rfl rfl rfl
      · cases taken
        exact same rfl rfl rfl
      · split at taken <;> cases taken <;> exact same rfl rfl rfl
      · split at taken <;> cases taken
        · exact same rfl rfl rfl
        · exact .quiet (given_clearOpening ..) (List.Subset.refl _) rfl
      all_goals cases taken
  | connectionClose c =>
      obtain ⟨-, taken⟩ := Option.ite_none_right_eq_some.mp taken
      cases taken
      rw [connectionClosed_eq]
      exact .quiet rfl (List.filter_subset_self ..) rfl
  | channelClose c =>
      obtain ⟨-, taken⟩ := Option.ite_none_right_eq_some.mp taken
      cases taken
      rw [channelClosed_eq]
      exact .quiet rfl (List.filter_subset_self ..) rfl
  | connectionError c | channelError c =>
      obtain ⟨-, taken⟩ := Option.ite_none_right_eq_some.mp taken
      cases taken
      exact same rfl rfl rfl
  | publish destination message => exact absurd rfl (other destination message)
  | publishGoesOn k ok =>
      obtain ⟨call, found, taken⟩ := Option.bind_eq_some_iff.mp taken
      unfold RabbitMqPublisher.publishGoesOn at taken
      split at taken
      · split at taken <;> cases taken
        exact moves _ _
      · cases taken
        exact moves _ _
      · rename_i session phase
        split at taken <;> cases taken
        · rename_i ok
          unfold RabbitMqPublisher.sendToQueue
          split
          · refine ⟨given_setPublish k .resolved, ?_, .inl rfl⟩
            intro f mem
            rcases List.mem_append.mp mem with mem | mem
            · exact .inl mem
            · exact .inr ⟨k, call, session, by rw [ok], found, phase, List.mem_singleton.mp mem⟩
          · exact moves _ _
        · exact moves _ _
      all_goals cases taken
  | close =>
      obtain ⟨-, taken⟩ := Option.ite_none_right_eq_some.mp taken
      cases taken
      exact same rfl rfl rfl
  | closeGoesOn k ok =>
      obtain ⟨c, -, taken⟩ := Option.bind_eq_some_iff.mp taken
      unfold RabbitMqPublisher.closeGoesOn at taken
      split at taken
      · split at taken <;> cases taken
        exact same rfl rfl rfl
      · cases taken
        exact same rfl rfl rfl
      · cases taken
        exact same rfl rfl rfl
      all_goals cases taken
  | receive session =>
      obtain ⟨frame, found, taken⟩ := Option.map_eq_some_iff.mp taken
      cases taken
      exact ⟨rfl, fun f mem => .inl (List.mem_of_mem_erase mem), .inr ⟨session, frame, rfl, found, rfl⟩⟩

end RabbitMqPublisher

/-! ### A process -/

/-- What a step of the system does to a process, `stored` being true of the outbox. -/
inductive RelayProcess.Moves (stored : OutboxEntry → Prop) (i : Nat) :
    DeliveryEvent → RelayProcess → RelayProcess → Prop where
  | ticks {e p p'} (publisher : p'.publisher = p.publisher)
      (pending : ∀ t ∈ p'.ticks, ∀ entry ∈ t.pending,
        (∃ t₀ ∈ p.ticks, entry ∈ t₀.pending) ∨ stored entry) : Moves stored i e p p'
  /-- An entry is handed to the publisher. -/
  | hands {e p p'} (entry : OutboxEntry)
      (publisher : p'.publisher = p.publisher.publish entry.eventType.queue entry.payload)
      (found : (∃ t₀ ∈ p.ticks, entry ∈ t₀.pending) ∨ stored entry)
      (pending : ∀ t ∈ p'.ticks, ∀ entry ∈ t.pending,
        (∃ t₀ ∈ p.ticks, entry ∈ t₀.pending) ∨ stored entry) : Moves stored i e p p'
  | transmits {e p publisher} (taken : p.publisher.step e = some publisher)
      (other : ∀ destination message, e ≠ .publish destination message) :
      Moves stored i (.publisher i e) p { p with publisher }
  | restarts {p} : Moves stored i (.crash i) p (Delivery.restart p)

theorem RelayProcess.Moves.goOn {stored : OutboxEntry → Prop} {i : Nat} {e : DeliveryEvent}
    {p : RelayProcess} (k : Nat) {pending : List OutboxEntry}
    (found : ∀ entry ∈ pending, (∃ t₀ ∈ p.ticks, entry ∈ t₀.pending) ∨ stored entry) :
    RelayProcess.Moves stored i e p (p.goOn k pending) := by
  have ticks : ∀ (t : RelayTick), (∀ entry ∈ t.pending, entry ∈ pending) →
      ∀ t' ∈ p.ticks.set k t, ∀ entry ∈ t'.pending,
        (∃ t₀ ∈ p.ticks, entry ∈ t₀.pending) ∨ stored entry := by
    intro t sub t' mem entry memE
    rcases List.mem_or_eq_of_mem_set mem with old | rfl
    · exact .inl ⟨t', old, memE⟩
    · exact found entry (sub entry memE)
  cases pending with
  | nil => exact .ticks rfl (ticks ⟨.ended, []⟩ fun entry mem => mem)
  | cons entry rest =>
      exact .hands entry rfl (found entry List.mem_cons_self) (ticks _ fun entry mem => mem)

theorem RelayProcess.Moves.setTick {stored : OutboxEntry → Prop} {i : Nat} {e : DeliveryEvent}
    {p : RelayProcess} (k : Nat) (t : RelayTick)
    (sub : ∀ entry ∈ t.pending, ∃ t₀ ∈ p.ticks, entry ∈ t₀.pending) :
    RelayProcess.Moves stored i e p { p with ticks := p.ticks.set k t } := by
  refine .ticks rfl fun t' mem entry memE => ?_
  rcases List.mem_or_eq_of_mem_set mem with old | rfl
  · exact .inl ⟨t', old, memE⟩
  · exact .inl (sub entry memE)

/-- All that the process has to do with messages comes from the outbox. -/
structure RelayProcess.Genuine (stored : OutboxEntry → Prop) (p : RelayProcess) : Prop where
  given : ∀ g ∈ p.publisher.given, ∃ entry, stored entry ∧ g = (entry.eventType.queue, entry.payload)
  buffered : ∀ f ∈ p.publisher.buffered, ∃ entry, stored entry ∧ Delivery.Carries f entry
  received : ∀ f ∈ p.publisher.received, ∃ entry, stored entry ∧ Delivery.Carries f entry
  pending : ∀ t ∈ p.ticks, ∀ entry ∈ t.pending, stored entry

theorem RelayProcess.Genuine.imp {stored stored' : OutboxEntry → Prop} {p : RelayProcess}
    (h : p.Genuine stored) (stores : ∀ entry, stored entry → stored' entry) : p.Genuine stored' where
  given g mem := (h.given g mem).imp fun entry => And.imp_left (stores entry)
  buffered f mem := (h.buffered f mem).imp fun entry => And.imp_left (stores entry)
  received f mem := (h.received f mem).imp fun entry => And.imp_left (stores entry)
  pending t mem entry memE := stores entry (h.pending t mem entry memE)

theorem RelayProcess.Genuine.moves {stored : OutboxEntry → Prop} {i : Nat} {e : DeliveryEvent}
    {p p' : RelayProcess} (h : p.Genuine stored) (moves : RelayProcess.Moves stored i e p p') :
    p'.Genuine stored := by
  have found : ∀ entry, (∃ t₀ ∈ p.ticks, entry ∈ t₀.pending) ∨ stored entry → stored entry := by
    rintro entry (⟨t, mem, memE⟩ | here)
    · exact h.pending t mem entry memE
    · exact here
  cases moves with
  | ticks publisher pending =>
      refine ⟨?_, ?_, ?_, fun t mem entry memE => found entry (pending t mem entry memE)⟩
      · rw [publisher]
        exact h.given
      · rw [publisher]
        exact h.buffered
      · rw [publisher]
        exact h.received
  | hands entry publisher here pending =>
      obtain ⟨buffered, received⟩ :=
        p.publisher.frames_publish entry.eventType.queue entry.payload
      refine ⟨?_, ?_, ?_, fun t mem entry memE => found entry (pending t mem entry memE)⟩
      · rw [publisher, RabbitMqPublisher.given_publish]
        intro g mem
        rcases List.mem_append.mp mem with mem | mem
        · exact h.given g mem
        · exact ⟨entry, found entry here, List.mem_singleton.mp mem⟩
      · rw [publisher, buffered]
        exact h.buffered
      · rw [publisher, received]
        exact h.received
  | transmits taken other =>
      have transmits := RabbitMqPublisher.transmits_step taken other
      refine ⟨?_, ?_, ?_, h.pending⟩
      · intro g mem
        exact h.given g (transmits.given ▸ mem)
      · intro f mem
        rcases transmits.buffered f mem with old | ⟨k, c, session, -, here, -, rfl⟩
        · exact h.buffered f old
        · have given : c.given ∈ p.publisher.given :=
            List.mem_map_of_mem (List.mem_of_getElem? here)
          obtain ⟨entry, stored, same⟩ := h.given _ given
          obtain ⟨destination, message⟩ := Prod.mk.inj same
          exact ⟨entry, stored, destination, message⟩
      · intro f mem
        rcases transmits.received with same | ⟨session, frame, -, first, same⟩
        · exact h.received f (same ▸ mem)
        · rw [same] at mem
          rcases List.mem_append.mp mem with mem | mem
          · exact h.received f mem
          · rw [List.mem_singleton.mp mem]
            exact h.buffered frame (List.mem_of_find?_eq_some first)
  | restarts =>
      refine ⟨?_, ?_, h.received, ?_⟩ <;> intro x mem <;> cases mem

/-! ### The system -/

namespace Delivery

variable {s s' : Delivery}

/-- A step moves one process at most, and rows stay. -/
theorem step_moves {e : DeliveryEvent} (taken : s.step e = some s') :
    (∀ entry, s.Stored entry → s'.Stored entry) ∧
    (s'.processes = s.processes ∨ ∃ i p p', s.processes[i]? = some p ∧
      s'.processes = s.processes.set i p' ∧ RelayProcess.Moves s.Stored i e p p') := by
  cases e with
  | enqueue entry =>
      unfold Delivery.step at taken
      dsimp only at taken
      split at taken
      · rename_i db done
        cases taken
        refine ⟨?_, .inl rfl⟩
        rintro e ⟨row, mem, same⟩
        exact ⟨row, (mem_enqueue done).mpr (.inr mem), same⟩
      · cases taken
  | tick i =>
      obtain ⟨p, found, taken⟩ := Option.bind_eq_some_iff.mp taken
      obtain ⟨-, taken⟩ := Option.ite_none_right_eq_some.mp taken
      cases taken
      refine ⟨fun _ stored => stored, .inr ⟨i, p, _, found, rfl, .ticks rfl ?_⟩⟩
      intro t mem entry memE
      rcases List.mem_append.mp mem with mem | mem
      · exact .inl ⟨t, mem, memE⟩
      · obtain rfl := List.mem_singleton.mp mem
        cases memE
  | found i k batchSize storage =>
      obtain ⟨p, found, taken⟩ := Option.bind_eq_some_iff.mp taken
      obtain ⟨t, -, taken⟩ := Option.bind_eq_some_iff.mp taken
      obtain ⟨-, taken⟩ := Option.ite_none_right_eq_some.mp taken
      split at taken
      · rename_i pending db done
        cases taken
        refine ⟨fun _ stored => stored, .inr ⟨i, p, _, found, rfl, .goOn k ?_⟩⟩
        exact fun entry mem => .inr ((stored_findUnpublished done).2 entry mem)
      · cases taken
  | findFails i k =>
      obtain ⟨p, found, taken⟩ := Option.bind_eq_some_iff.mp taken
      obtain ⟨t, -, taken⟩ := Option.bind_eq_some_iff.mp taken
      obtain ⟨-, taken⟩ := Option.ite_none_right_eq_some.mp taken
      cases taken
      refine ⟨fun _ stored => stored, .inr ⟨i, p, _, found, rfl, .setTick k _ ?_⟩⟩
      intro entry mem
      cases mem
  | settled i k =>
      obtain ⟨p, found, taken⟩ := Option.bind_eq_some_iff.mp taken
      obtain ⟨t, tick, taken⟩ := Option.bind_eq_some_iff.mp taken
      obtain ⟨p', settles, rfl⟩ := Option.map_eq_some_iff.mp taken
      refine ⟨fun _ stored => stored, .inr ⟨i, p, p', found, rfl, ?_⟩⟩
      unfold Delivery.publishSettles at settles
      split at settles
      · split at settles
        · cases settles
          exact .setTick k _ fun entry mem => ⟨t, List.mem_of_getElem? tick, mem⟩
        · cases settles
          exact .setTick k _ fun entry mem => absurd mem List.not_mem_nil
        · cases settles
      · cases settles
  | marked i k now ends =>
      obtain ⟨p, found, taken⟩ := Option.bind_eq_some_iff.mp taken
      obtain ⟨t, tick, taken⟩ := Option.bind_eq_some_iff.mp taken
      unfold Delivery.markSettles at taken
      split at taken
      · rename_i entry rest phase pending
        have ended : RelayProcess.Moves s.Stored i (.marked i k now ends) p (p.endTick k) :=
          .setTick k _ fun entry mem => absurd mem List.not_mem_nil
        have marks : ∀ e, s.Stored e → (s.markPublished entry now).Stored e :=
          fun e => stored_markPublished
        cases ends with
        | done =>
            cases taken
            refine ⟨marks, .inr ⟨i, p, _, found, rfl, .goOn k fun e mem => .inl ?_⟩⟩
            exact ⟨t, List.mem_of_getElem? tick, by rw [pending]; exact List.mem_cons_of_mem _ mem⟩
        | unacknowledged =>
            cases taken
            exact ⟨marks, .inr ⟨i, p, _, found, rfl, ended⟩⟩
        | failed =>
            cases taken
            exact ⟨fun _ stored => stored, .inr ⟨i, p, _, found, rfl, ended⟩⟩
      · cases taken
  | orphan entry now =>
      obtain ⟨mem, taken⟩ := Option.ite_none_right_eq_some.mp taken
      cases taken
      exact ⟨fun e => stored_markPublished, .inl rfl⟩
  | publisher i e =>
      have other : ∀ destination message, e ≠ .publish destination message := by
        rintro destination message rfl
        cases taken
      have taken : ((s.processes[i]?).bind fun p => (p.publisher.step e).map fun publisher =>
          s.setProcess i { p with publisher }) = some s' := by
        cases e with
        | publish destination message => exact absurd rfl (other destination message)
        | _ => exact taken
      obtain ⟨p, found, taken⟩ := Option.bind_eq_some_iff.mp taken
      obtain ⟨publisher, moved, rfl⟩ := Option.map_eq_some_iff.mp taken
      exact ⟨fun _ stored => stored, .inr ⟨i, p, _, found, rfl, .transmits moved other⟩⟩
  | crash i =>
      obtain ⟨p, found, taken⟩ := Option.map_eq_some_iff.mp taken
      cases taken
      exact ⟨fun _ stored => stored, .inr ⟨i, p, _, found, rfl, .restarts⟩⟩

/-- All messages come from the outbox. -/
def Genuine (s : Delivery) : Prop := ∀ p ∈ s.processes, p.Genuine s.Stored

theorem genuine_start (n : Nat) : (start n).Genuine := by
  intro p mem
  obtain rfl := List.eq_of_mem_replicate mem
  refine ⟨?_, ?_, ?_, ?_⟩ <;> intro x mem <;> cases mem

theorem Genuine.step (h : s.Genuine) {e : DeliveryEvent} (taken : s.step e = some s') :
    s'.Genuine := by
  obtain ⟨stores, same | ⟨i, p, p', found, processes, moves⟩⟩ := step_moves taken
  · intro q mem
    exact (h q (same ▸ mem)).imp stores
  · intro q mem
    rw [processes] at mem
    rcases List.mem_or_eq_of_mem_set mem with old | rfl
    · exact (h q old).imp stores
    · exact ((h p (List.mem_of_getElem? found)).moves moves).imp stores

end Delivery

end FlightBooking
