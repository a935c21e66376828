import FlightBooking.Messaging.Origins
import FlightBooking.Notifier.Recovery
import FlightBooking.Outbox.Accepted

/-!
The api and the notifier, with the broker between them.

The api's processes relay the outbox (`Delivery`), the notifier's consume the queues
(`Notifier.State`). The two meet in the broker: a message that it receives from a channel is
sent to the queue of its name, and a call of the publisher is confirmed only once the broker
has carried it out. Neither knows of the other.
-/

namespace FlightBooking

open Contracts Notifier

/-- The message of a payload: the relay reads the column, the publisher writes it out. -/
def wire (text : Uuid → List Char) (payload : EventPayload) : List UInt8 :=
  Utf8.encode (payload.contract text).toJson.jsonb.render

def Notifier.Source.named? (name : String) : Option Source :=
  Source.all.find? fun q => q.name = name

structure Pipeline where
  delivery : Delivery
  notifier : Notifier.State

inductive PipelineEvent where
  | api (e : DeliveryEvent)
  | notifier (e : Notifier.Event)

namespace Pipeline

/-- What the broker receives with the event. -/
def arrival (s : Pipeline) : DeliveryEvent → Option (Frame EventPayload)
  | .publisher i (.receive session) => (s.delivery.processes[i]?).bind fun p =>
      p.publisher.buffered.find? fun f => f.session = session
  | _ => none

/-- A call that has succeeded, the broker has carried out. -/
def confirmed (s : Pipeline) : DeliveryEvent → Bool
  | .publisher i (.publishGoesOn k true) =>
      ((s.delivery.processes[i]?).bind fun p => p.publisher.publishes[k]?).all fun c =>
        (Source.named? c.destination).all fun q =>
          match c.phase with
          | .assertingExchange _ => (s.notifier.queues q).dlx
          | .assertingQueue _ => (s.notifier.queues q).declared
          | _ => true
  | _ => true

/-- The message goes to the queue of its name. -/
def arrive (text : Uuid → List Char) (f : Frame EventPayload) (n : Notifier.State) :
    Notifier.State :=
  match Source.named? f.destination with
  | some q => n.setQueue q ((n.queues q).publish (wire text f.message))
  | none => n

def step (text : Uuid → List Char) (s : Pipeline) : PipelineEvent → Option Pipeline
  | .api e =>
      if s.confirmed e then
        (s.delivery.step e).map fun delivery => match s.arrival e with
          | some f => ⟨delivery, arrive text f s.notifier⟩
          | none => { s with delivery }
      else none
  | .notifier (.publish ..) => none
  | .notifier e => (s.notifier.step e).map fun notifier => { s with notifier }

/-- `m` processes of the api, and `n` of the notifier. -/
def initial (m n : Nat) : Pipeline := ⟨Delivery.start m, Notifier.State.initial n⟩

end Pipeline

/-! ### A message, read -/

theorem parse_wire (text : Uuid → List Char) (payload : EventPayload) :
    Json.parse (Utf8.decode (wire text payload)) = some (payload.contract text).toJson.jsonb := by
  rw [wire, Utf8.decode_encode, Json.parse_render (ContractEvent.exact _).jsonb]

/-- What the consumer's parser would be given is the message. -/
theorem delivered_wire (text : Uuid → List Char) (payload : EventPayload) :
    delivered (payload.contract text).toJson = Json.parse (Utf8.decode (wire text payload)) := by
  rw [delivered_exact (ContractEvent.exact _), parse_wire]

/-- The line that the notifier writes of an event. -/
def ContractEvent.line : ContractEvent → LogLine
  | .flightCreated e => flightCreatedLine e
  | .bookingHeld e => bookingHeldLine e
  | .bookingConfirmed e => bookingConfirmedLine e
  | .bookingCancelled e => bookingCancelledLine e
  | .bookingExpired e => bookingExpiredLine e

theorem handle_eq (type : EventType) (payload : Json.Value) :
    handle (sourceOf type) payload = (ContractEvent.parse type payload).map ContractEvent.line := by
  cases type <;> simp only [handle, sourceOf, ContractEvent.parse]
  · cases parseFlightCreatedEvent payload <;> rfl
  · cases parseBookingHeldEvent payload <;> rfl
  · cases parseBookingConfirmedEvent payload <;> rfl
  · cases parseBookingCancelledEvent payload <;> rfl
  · cases parseBookingExpiredEvent payload <;> rfl

/-- An event that the api wrote is processed, and the line is that of the event. -/
theorem onMessage_wire {text : Uuid → List Char} (named : ∀ id, text id ≠ []) {row : OutboxRow}
    (accepted : row.Accepted) :
    onMessage (sourceOf row.entry.eventType) (wire text row.entry.payload) =
      (.ack, (row.entry.payload.contract text).line) := by
  obtain ⟨queue, presentable⟩ := accepted
  have arrives := (EventPayload.contract_valid named presentable).arrives
  rw [EventPayload.contract_queue, ← queue, delivered_wire, parse_wire] at arrives
  have parsed := Option.some.inj arrives
  have handled : handle (sourceOf row.entry.eventType)
      (row.entry.payload.contract text).toJson.jsonb =
        .ok (row.entry.payload.contract text).line := by
    rw [handle_eq, parsed]
    rfl
  unfold onMessage
  rw [parse_wire]
  dsimp only
  rw [handled]

theorem named?_queue (type : EventType) : Source.named? type.queue = some (sourceOf type) := by
  cases type <;> decide

/-! ### The broker's side -/

namespace Notifier

variable {s s' : State} {b b' : BrokerQueue} {q : Source}

/-- Nothing that was declared is gone, and nothing was sent to the queue. -/
structure BrokerQueue.Keeps (b b' : BrokerQueue) : Prop extends b.Rises b' where
  taken : b'.taken = b.taken
  unroutable : b'.unroutable = b.unroutable

theorem BrokerQueue.Keeps.refl (b : BrokerQueue) : b.Keeps b := ⟨.refl b, rfl, rfl⟩

theorem State.keeps_setQueue (keeps : (s.queues q).Keeps b) (x : Source) :
    (s.queues x).Keeps ((s.setQueue q b).queues x) := by
  by_cases same : x = q
  · subst same
    simpa [State.setQueue] using keeps
  · simpa [State.setQueue, same] using .refl _

theorem Process.keeps_subscribes {p p' : Process} {rest : List Source} {call : SubscribeCall}
    (went : p.subscribes q rest b call = some (p', b')) : b.Keeps b' := by
  cases call with
  | assertExchange =>
      cases went
      exact ⟨⟨id, fun _ => rfl, id, id⟩, rfl, rfl⟩
  | assertDeadLetterQueue =>
      cases went
      exact ⟨⟨id, id, fun _ => rfl, id⟩, rfl, rfl⟩
  | bindQueue =>
      obtain ⟨-, went⟩ := Option.ite_none_right_eq_some.mp went
      cases went
      exact ⟨⟨id, id, id, fun _ => rfl⟩, rfl, rfl⟩
  | assertQueue =>
      cases went
      exact ⟨⟨fun _ => rfl, id, id, id⟩, rfl, rfl⟩
  | consume =>
      obtain ⟨-, went⟩ := Option.ite_none_right_eq_some.mp went
      cases went
      exact .refl b

theorem BrokerQueue.keeps_answered (i : Nat) (m : Message) (verdict : Verdict) (b : BrokerQueue) :
    b.Keeps (b.answered i m verdict) := by
  refine ⟨rises_answered .., taken_answered .., ?_⟩
  cases verdict with
  | ack => rfl
  | nack =>
      simp only [BrokerQueue.answered]
      split <;> rfl

/-- Only the api's publishers send. -/
theorem State.keeps_step {e : Event} (taken : s.step e = some s')
    (other : ∀ x content, e ≠ .publish x content) (q : Source) :
    (s.queues q).Keeps (s'.queues q) := by
  cases e with
  | assertExchange x =>
      cases taken
      have keeps : (s.queues x).Keeps (s.queues x).assertExchange :=
        ⟨⟨id, fun _ => rfl, id, id⟩, rfl, rfl⟩
      exact keeps_setQueue keeps q
  | assertQueue x =>
      cases taken
      have keeps : (s.queues x).Keeps (s.queues x).assertQueue :=
        ⟨⟨fun _ => rfl, id, id, id⟩, rfl, rfl⟩
      exact keeps_setQueue keeps q
  | publish x content => exact absurd rfl (other x content)
  | connects i ok | wakes i =>
      obtain ⟨p, -, taken⟩ := Option.bind_eq_some_iff.mp taken
      obtain ⟨p', -, rfl⟩ := Option.map_eq_some_iff.mp taken
      exact .refl _
  | subscribes i ok =>
      obtain ⟨p, -, taken⟩ := Option.bind_eq_some_iff.mp taken
      split at taken
      · split at taken
        · obtain ⟨after, went, rfl⟩ := Option.map_eq_some_iff.mp taken
          exact keeps_setQueue (Process.keeps_subscribes went) q
        · cases taken
          exact ⟨⟨id, id, id, id⟩, rfl, rfl⟩
      · cases taken
  | deliver i x =>
      obtain ⟨p, -, taken⟩ := Option.bind_eq_some_iff.mp taken
      obtain ⟨-, taken⟩ := Option.ite_none_right_eq_some.mp taken
      obtain ⟨messages, -, rfl⟩ := Option.map_eq_some_iff.mp taken
      have keeps : (s.queues x).Keeps { s.queues x with messages } :=
        ⟨⟨id, id, id, id⟩, rfl, rfl⟩
      exact keeps_setQueue keeps q
  | message i x =>
      obtain ⟨p, -, taken⟩ := Option.bind_eq_some_iff.mp taken
      obtain ⟨m, -, taken⟩ := Option.bind_eq_some_iff.mp taken
      obtain ⟨-, taken⟩ := Option.ite_none_left_eq_some.mp taken
      cases taken
      exact .refl _
  | answered i x =>
      obtain ⟨p, -, taken⟩ := Option.bind_eq_some_iff.mp taken
      obtain ⟨m, -, taken⟩ := Option.bind_eq_some_iff.mp taken
      obtain ⟨answer, -, rfl⟩ := Option.map_eq_some_iff.mp taken
      exact keeps_setQueue (BrokerQueue.keeps_answered ..) q
  | disconnect i =>
      obtain ⟨p, -, taken⟩ := Option.bind_eq_some_iff.mp taken
      obtain ⟨-, taken⟩ := Option.ite_none_right_eq_some.mp taken
      cases taken
      exact ⟨⟨id, id, id, id⟩, rfl, rfl⟩
  | stop i =>
      obtain ⟨p, -, rfl⟩ := Option.map_eq_some_iff.mp taken
      exact ⟨⟨id, id, id, id⟩, rfl, rfl⟩
  | start i =>
      obtain ⟨p, -, taken⟩ := Option.bind_eq_some_iff.mp taken
      obtain ⟨-, taken⟩ := Option.ite_none_right_eq_some.mp taken
      cases taken
      exact .refl _

end Notifier

/-! ### Both sides -/

/-- What a step does to a process's frames. -/
theorem RelayProcess.Moves.frames {stored : OutboxEntry → Prop} {i : Nat} {e : DeliveryEvent}
    {p p' : RelayProcess} (moves : RelayProcess.Moves stored i e p p') :
    (∀ f ∈ p'.publisher.buffered, f ∈ p.publisher.buffered ∨ ∃ k c session,
      e = .publisher i (.publishGoesOn k true) ∧ p.publisher.publishes[k]? = some c ∧
      c.phase = .assertingQueue session ∧ f = ⟨session, c.destination, c.message⟩) ∧
    (p'.publisher.received = p.publisher.received ∨ ∃ session f,
      e = .publisher i (.receive session) ∧
      p.publisher.buffered.find? (fun f => f.session = session) = some f ∧
      p'.publisher.received = p.publisher.received ++ [f]) := by
  cases moves with
  | ticks publisher =>
      rw [publisher]
      exact ⟨fun f mem => .inl mem, .inl rfl⟩
  | hands entry publisher =>
      obtain ⟨buffered, received⟩ :=
        p.publisher.frames_publish entry.eventType.queue entry.payload
      rw [publisher, buffered, received]
      exact ⟨fun f mem => .inl mem, .inl rfl⟩
  | transmits taken other =>
      have transmits := RabbitMqPublisher.transmits_step taken other
      constructor
      · intro f mem
        rcases transmits.buffered f mem with old | ⟨k, c, session, rfl, rest⟩
        · exact .inl old
        · exact .inr ⟨k, c, session, rfl, rest⟩
      · rcases transmits.received with same | ⟨session, f, rfl, rest⟩
        · exact .inl same
        · exact .inr ⟨session, f, rfl, rest⟩
  | restarts => exact ⟨fun f mem => absurd mem List.not_mem_nil, .inl rfl⟩

namespace Pipeline

variable {text : Uuid → List Char} {s s' : Pipeline}

/-- The broker has the queue of every message under way, and every message it received went
there; and there is nothing else in the queues. -/
structure Sound (text : Uuid → List Char) (s : Pipeline) : Prop where
  genuine : s.delivery.Genuine
  notifier : s.notifier.Sound
  declared : ∀ p ∈ s.delivery.processes, ∀ f ∈ p.publisher.buffered, ∀ q,
    Source.named? f.destination = some q → (s.notifier.queues q).declared = true
  arrived : ∀ p ∈ s.delivery.processes, ∀ f ∈ p.publisher.received, ∀ q,
    Source.named? f.destination = some q → wire text f.message ∈ (s.notifier.queues q).taken
  origin : ∀ (q : Source), ∀ content ∈ (s.notifier.queues q).taken, ∃ entry,
    s.delivery.Stored entry ∧ sourceOf entry.eventType = q ∧ content = wire text entry.payload
  routed : ∀ q, (s.notifier.queues q).unroutable = []

theorem sound_initial (m n : Nat) : (initial m n).Sound text where
  genuine := Delivery.genuine_start m
  notifier := State.sound_initial n
  declared p mem f memF := by
    obtain rfl := List.eq_of_mem_replicate mem
    cases memF
  arrived p mem f memF := by
    obtain rfl := List.eq_of_mem_replicate mem
    cases memF
  origin q content mem := absurd mem List.not_mem_nil
  routed q := rfl

/-- The notifier's processes go on. -/
theorem Sound.serves (h : s.Sound text) {e : Notifier.Event} {n : Notifier.State}
    (taken : s.notifier.step e = some n) (other : ∀ x content, e ≠ .publish x content) :
    ({ s with notifier := n } : Pipeline).Sound text := by
  have keeps := fun q => State.keeps_step taken other q
  refine ⟨h.genuine, h.notifier.step taken, ?_, ?_, ?_, ?_⟩
  · exact fun p mem f memF q found => (keeps q).declared (h.declared p mem f memF q found)
  · intro p mem f memF q found
    rw [(keeps q).taken]
    exact h.arrived p mem f memF q found
  · intro q content mem
    rw [(keeps q).taken] at mem
    exact h.origin q content mem
  · intro q
    rw [(keeps q).unroutable]
    exact h.routed q

/-- The message is added to the queue of its name, and nothing else changes. -/
theorem arrive_spec {f : Frame EventPayload} {n : Notifier.State}
    (declared : ∀ q, Source.named? f.destination = some q → (n.queues q).declared = true)
    (sound : n.Sound) :
    (arrive text f n).Sound ∧ ∀ q, (n.queues q).Rises ((arrive text f n).queues q) ∧
      ((arrive text f n).queues q).taken = (n.queues q).taken ++
        (if Source.named? f.destination = some q then [wire text f.message] else []) ∧
      ((arrive text f n).queues q).unroutable = (n.queues q).unroutable := by
  unfold arrive
  cases named : Source.named? f.destination with
  | none =>
      refine ⟨sound, fun q => ⟨.refl _, ?_, rfl⟩⟩
      simp
  | some q =>
      have here := declared q named
      refine ⟨sound.step (e := .publish q (wire text f.message)) rfl, ?_⟩
      intro x
      by_cases same : x = q
      · subst same
        simpa [State.setQueue, BrokerQueue.publish, here] using ⟨fun _ => rfl, id, id, id⟩
      · simpa [State.setQueue, same, Ne.symm same] using .refl _

theorem mem_of_arrival {e : DeliveryEvent} {f : Frame EventPayload} (h : s.arrival e = some f) :
    ∃ p ∈ s.delivery.processes, f ∈ p.publisher.buffered := by
  unfold arrival at h
  split at h
  · obtain ⟨p, found, first⟩ := Option.bind_eq_some_iff.mp h
    exact ⟨p, List.mem_of_getElem? found, List.mem_of_find?_eq_some first⟩
  · cases h

/-- The api's processes go on, and the broker may receive a message. -/
theorem Sound.relays (h : s.Sound text) {e : DeliveryEvent} {d : Delivery}
    (confirmed : s.confirmed e = true) (taken : s.delivery.step e = some d) {n : Notifier.State}
    (sound : n.Sound) (rises : ∀ q, (s.notifier.queues q).Rises (n.queues q))
    (grows : ∀ q, (s.notifier.queues q).taken ⊆ (n.queues q).taken)
    (arrives : ∀ f, s.arrival e = some f → ∀ q, Source.named? f.destination = some q →
      wire text f.message ∈ (n.queues q).taken)
    (origin : ∀ (q : Source), ∀ content ∈ (n.queues q).taken, ∃ entry, s.delivery.Stored entry ∧
      sourceOf entry.eventType = q ∧ content = wire text entry.payload)
    (routed : ∀ q, (n.queues q).unroutable = []) : (⟨d, n⟩ : Pipeline).Sound text := by
  obtain ⟨stores, moves⟩ := Delivery.step_moves taken
  have process : ∀ p' ∈ d.processes,
      (∀ f ∈ p'.publisher.buffered, ∀ q, Source.named? f.destination = some q →
        (n.queues q).declared = true) ∧
      ∀ f ∈ p'.publisher.received, ∀ q, Source.named? f.destination = some q →
        wire text f.message ∈ (n.queues q).taken := by
    have old : ∀ p ∈ s.delivery.processes,
        (∀ f ∈ p.publisher.buffered, ∀ q, Source.named? f.destination = some q →
          (n.queues q).declared = true) ∧
        ∀ f ∈ p.publisher.received, ∀ q, Source.named? f.destination = some q →
          wire text f.message ∈ (n.queues q).taken := fun p mem =>
      ⟨fun f memF q named => (rises q).declared (h.declared p mem f memF q named),
        fun f memF q named => grows q (h.arrived p mem f memF q named)⟩
    intro p' mem
    rcases moves with same | ⟨i, p, p₁, found, processes, moves⟩
    · exact old p' (same ▸ mem)
    · rw [processes] at mem
      rcases List.mem_or_eq_of_mem_set mem with mem | rfl
      · exact old p' mem
      · obtain ⟨declared, arrived⟩ := old p (List.mem_of_getElem? found)
        obtain ⟨buffered, received⟩ := moves.frames
        constructor
        · intro f memF q named
          rcases buffered f memF with before | ⟨k, c, session, rfl, call, phase, rfl⟩
          · exact declared f before q named
          · -- The queue was asserted before the message was written.
            have asserted : (s.notifier.queues q).declared = true := by
              simpa [Pipeline.confirmed, found, call, phase, named] using confirmed
            exact (rises q).declared asserted
        · intro f memF q named
          rcases received with same | ⟨session, frame, rfl, first, same⟩
          · exact arrived f (same ▸ memF) q named
          · rw [same] at memF
            rcases List.mem_append.mp memF with memF | memF
            · exact arrived f memF q named
            · obtain rfl := List.mem_singleton.mp memF
              exact arrives f (by simp [arrival, found, first]) q named
  refine ⟨h.genuine.step taken, sound, fun p mem => (process p mem).1, fun p mem => (process p mem).2,
    ?_, routed⟩
  intro q content mem
  obtain ⟨entry, stored, rest⟩ := origin q content mem
  exact ⟨entry, stores entry stored, rest⟩

/-- A step of the notifier sends nothing. -/
theorem step_notifier {e : Notifier.Event} (taken : s.step text (.notifier e) = some s') :
    (∀ x content, e ≠ .publish x content) ∧
    ∃ n, s.notifier.step e = some n ∧ s' = { s with notifier := n } := by
  have other : ∀ x content, e ≠ .publish x content := by
    rintro x content rfl
    cases taken
  have taken : (s.notifier.step e).map (fun notifier => { s with notifier }) = some s' := by
    cases e with
    | publish x content => exact absurd rfl (other x content)
    | _ => exact taken
  obtain ⟨n, served, rfl⟩ := Option.map_eq_some_iff.mp taken
  exact ⟨other, n, served, rfl⟩

theorem Sound.step (h : s.Sound text) {e : PipelineEvent} (taken : s.step text e = some s') :
    s'.Sound text := by
  cases e with
  | notifier e =>
      obtain ⟨other, n, served, rfl⟩ := step_notifier taken
      exact h.serves served other
  | api e =>
      obtain ⟨confirmed, taken⟩ := Option.ite_none_right_eq_some.mp taken
      obtain ⟨d, moved, rfl⟩ := Option.map_eq_some_iff.mp taken
      cases arrival : s.arrival e with
      | none =>
          refine h.relays confirmed moved h.notifier (fun q => .refl _)
            (fun q => List.Subset.refl _) ?_ h.origin h.routed
          intro f same
          cases arrival.symm.trans same
      | some f =>
          obtain ⟨p, memP, memF⟩ := mem_of_arrival arrival
          obtain ⟨sound, spec⟩ := @arrive_spec text f s.notifier (h.declared p memP f memF) h.notifier
          refine h.relays confirmed moved sound (fun q => (spec q).1) ?_ ?_ ?_ ?_
          · intro q content mem
            rw [(spec q).2.1]
            exact List.mem_append_left _ mem
          · intro f' same q named
            cases arrival.symm.trans same
            rw [(spec q).2.1, if_pos named]
            exact List.mem_append_right _ (List.mem_singleton_self _)
          · intro q content mem
            rw [(spec q).2.1] at mem
            rcases List.mem_append.mp mem with mem | mem
            · exact h.origin q content mem
            · split at mem
              · rename_i named
                obtain ⟨entry, stored, queue, message⟩ :=
                  (h.genuine p memP).buffered f memF
                rw [queue, named?_queue] at named
                refine ⟨entry, stored, Option.some.inj named, ?_⟩
                rw [List.mem_singleton.mp mem, message]
              · cases mem
          · intro q
            rw [(spec q).2.2]
            exact h.routed q

theorem sound_of_run {m n : Nat} {es : List PipelineEvent}
    (ran : Machine.run (step text) es (initial m n) = some s) : s.Sound text :=
  Machine.run_invariant (fun _ _ _ sound taken => sound.step taken) ran (sound_initial m n)

end Pipeline

end FlightBooking
