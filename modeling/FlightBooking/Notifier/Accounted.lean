import FlightBooking.Notifier.Broker

/-!
Where every message of the notifier's queues is.

A process consumes a queue only once its dead letter queue is bound, so what it refuses is kept;
what a lost connection held is queued again, at its place. In every reachable state a message
that was routed waits, is held by one process, was processed and logged, or was refused and is
a dead letter: one of the four, and never twice (`messages_accounted`).
-/

namespace FlightBooking.Notifier

variable {s s' : State} {q : Source} {b b' : BrokerQueue} {log log' : List LogLine} {i j : Nat}
  {p p' : Process} {m : Message}

/-- The messages with their places. -/
def numbered (taken : List (List UInt8)) : List Message := taken.mapIdx fun n content => (n, content)

theorem numbered_concat (taken : List (List UInt8)) (content : List UInt8) :
    numbered (taken ++ [content]) = numbered taken ++ [(taken.length, content)] := by
  simp [numbered, List.mapIdx_append]

/-- The callback gave this verdict of the message, and its line is in the log. -/
def Judged (log : List LogLine) (q : Source) (verdict : Verdict) (m : Message) : Prop :=
  (onMessage q m.2).1 = verdict ∧ (onMessage q m.2).2 ∈ log

theorem Judged.mono {verdict : Verdict} (h : Judged log q verdict m) (grows : log ⊆ log') :
    Judged log' q verdict m := ⟨h.1, grows h.2⟩

/-! ### A queue -/

/-- What there is to the accounts of a queue. -/
structure BrokerQueue.Sound (log : List LogLine) (q : Source) (b : BrokerQueue) : Prop where
  ordered : b.messages.Ordered
  next : b.messages.next = b.taken.length
  all : (b.messages.contents ++ b.acked ++ b.deadLettered).Perm (numbered b.taken)
  acked : ∀ m ∈ b.acked, Judged log q .ack m
  refused : ∀ m ∈ b.deadLettered, Judged log q .nack m
  kept : b.dropped = []

/-- What is declared stays so. -/
structure BrokerQueue.Rises (b b' : BrokerQueue) : Prop where
  declared : b.declared = true → b'.declared = true
  dlx : b.dlx = true → b'.dlx = true
  dlq : b.dlq = true → b'.dlq = true
  bound : b.bound = true → b'.bound = true

theorem BrokerQueue.Rises.refl (b : BrokerQueue) : b.Rises b := ⟨id, id, id, id⟩

theorem BrokerQueue.sound_empty : ({} : BrokerQueue).Sound log q where
  ordered := WorkQueue.ordered_empty
  next := rfl
  all := .refl _
  acked _ mem := absurd mem List.not_mem_nil
  refused _ mem := absurd mem List.not_mem_nil
  kept := rfl

theorem BrokerQueue.Sound.mono (sound : b.Sound log q) (grows : log ⊆ log') : b.Sound log' q :=
  { sound with
    acked := fun m mem => (sound.acked m mem).mono grows
    refused := fun m mem => (sound.refused m mem).mono grows }

/-- Only what is declared of the queue changes. -/
theorem BrokerQueue.Sound.of_same (sound : b.Sound log q) (messages : b'.messages = b.messages)
    (taken : b'.taken = b.taken) (acked : b'.acked = b.acked)
    (deadLettered : b'.deadLettered = b.deadLettered) (dropped : b'.dropped = b.dropped) :
    b'.Sound log q := by
  obtain ⟨ordered, next, all, acks, refused, kept⟩ := sound
  constructor
  · exact messages ▸ ordered
  · rw [messages, taken, next]
  · rw [messages, acked, deadLettered, taken]
    exact all
  · exact acked ▸ acks
  · exact deadLettered ▸ refused
  · rw [dropped, kept]

theorem BrokerQueue.Sound.publish (sound : b.Sound log q) (content : List UInt8) :
    (b.publish content).Sound log q := by
  unfold BrokerQueue.publish
  split
  · constructor
    · exact sound.ordered.push content
    · simp [WorkQueue.push, sound.next]
    · have pushed := WorkQueue.contents_push content b.messages
      rw [numbered_concat, ← sound.next]
      refine (List.Perm.trans ?_ (sound.all.cons _)).trans (List.perm_append_singleton _ _).symm
      rw [List.append_assoc, List.append_assoc]
      exact pushed.append_right _
    · exact sound.acked
    · exact sound.refused
    · exact sound.kept
  · exact sound.of_same rfl rfl rfl rfl rfl

theorem BrokerQueue.Sound.take (sound : b.Sound log q) {messages : WorkQueue Nat (List UInt8)}
    (taken : b.messages.take i = some messages) : ({ b with messages } : BrokerQueue).Sound log q := by
  constructor
  · exact sound.ordered.take taken
  · obtain ⟨m, rest, -, -, rfl⟩ := WorkQueue.take_eq_some.mp taken
    exact sound.next
  · have same := WorkQueue.contents_take taken
    rw [List.append_assoc]
    refine (same.append_right _).trans ?_
    rw [← List.append_assoc]
    exact sound.all
  · exact sound.acked
  · exact sound.refused
  · exact sound.kept

theorem BrokerQueue.Sound.release (sound : b.Sound log q) (i : Nat) : (b.release i).Sound log q := by
  constructor
  · exact sound.ordered.release i
  · exact sound.next
  · have same := WorkQueue.contents_release i b.messages
    rw [List.append_assoc]
    refine (same.append_right _).trans ?_
    rw [← List.append_assoc]
    exact sound.all
  · exact sound.acked
  · exact sound.refused
  · exact sound.kept

theorem BrokerQueue.messages_answered (i : Nat) (m : Message) (verdict : Verdict)
    (b : BrokerQueue) : (b.answered i m verdict).messages = b.messages.settle i := by
  cases verdict with
  | ack => rfl
  | nack =>
      simp only [BrokerQueue.answered]
      split <;> rfl

theorem BrokerQueue.taken_answered (i : Nat) (m : Message) (verdict : Verdict) (b : BrokerQueue) :
    (b.answered i m verdict).taken = b.taken := by
  cases verdict with
  | ack => rfl
  | nack =>
      simp only [BrokerQueue.answered]
      split <;> rfl

theorem BrokerQueue.rises_answered (i : Nat) (m : Message) (verdict : Verdict) (b : BrokerQueue) :
    b.Rises (b.answered i m verdict) := by
  cases verdict with
  | ack => exact ⟨id, id, id, id⟩
  | nack =>
      simp only [BrokerQueue.answered]
      split <;> exact ⟨id, id, id, id⟩

theorem BrokerQueue.Sound.answered {verdict : Verdict} (sound : b.Sound log q)
    (holds : (i, m) ∈ b.messages.held) (judged : Judged log q verdict m) (bound : b.bound = true) :
    (b.answered i m verdict).Sound log q := by
  have settled := WorkQueue.contents_settle sound.ordered holds
  have ordered := sound.ordered.settle i
  cases verdict with
  | ack =>
      constructor
      · exact ordered
      · exact sound.next
      · refine List.Perm.trans ?_ sound.all
        refine List.Perm.append_right _ ?_
        calc (b.messages.settle i).contents ++ (b.acked ++ [m])
            _ = (b.messages.settle i).contents ++ b.acked ++ [m] := (List.append_assoc ..).symm
            List.Perm _ (m :: ((b.messages.settle i).contents ++ b.acked)) :=
              List.perm_append_singleton _ _
            List.Perm _ (b.messages.contents ++ b.acked) := settled.symm.append_right _
      · intro m' mem
        rcases List.mem_append.mp mem with mem | mem
        · exact sound.acked m' mem
        · exact List.mem_singleton.mp mem ▸ judged
      · exact sound.refused
      · exact sound.kept
  | nack =>
      simp only [BrokerQueue.answered, bound, if_true]
      constructor
      · exact ordered
      · exact sound.next
      · refine List.Perm.trans ?_ sound.all
        calc (b.messages.settle i).contents ++ b.acked ++ (b.deadLettered ++ [m])
            _ = (b.messages.settle i).contents ++ b.acked ++ b.deadLettered ++ [m] :=
              (List.append_assoc ..).symm
            List.Perm _ (m :: ((b.messages.settle i).contents ++ b.acked ++ b.deadLettered)) :=
              List.perm_append_singleton _ _
            List.Perm _ (b.messages.contents ++ b.acked ++ b.deadLettered) :=
              (settled.symm.append_right _).append_right _
      · exact sound.acked
      · intro m' mem
        rcases List.mem_append.mp mem with mem | mem
        · exact sound.refused m' mem
        · exact List.mem_singleton.mp mem ▸ judged
      · exact sound.kept

/-! ### A process -/

/-- There is a channel. -/
def Phase.Online : Phase → Prop
  | .subscribing .. | .ready => True
  | _ => False

/-- What the calls before have done. -/
def SubscribeCall.After (b : BrokerQueue) : SubscribeCall → Prop
  | .assertExchange => True
  | .assertDeadLetterQueue => b.dlx = true
  | .bindQueue => b.dlx = true ∧ b.dlq = true
  | .assertQueue => b.bound = true
  | .consume => b.bound = true

structure Process.Sound (queues : Source → BrokerQueue) (log : List LogLine) (i : Nat)
    (p : Process) : Prop where
  consumers : ∀ q ∈ p.consumers, (queues q).bound = true
  answers : ∀ a ∈ p.answers, ∃ m, (i, m) ∈ (queues a.1).messages.held ∧ Judged log a.1 a.2 m
  offline : ¬ p.phase.Online → p.consumers = [] ∧ p.answers = []
  after : ∀ q rest call, p.phase = .subscribing q rest call → call.After (queues q)

theorem SubscribeCall.After.rises {call : SubscribeCall} (h : call.After b) (rises : b.Rises b') :
    call.After b' := by
  cases call with
  | assertExchange => trivial
  | assertDeadLetterQueue => exact rises.dlx h
  | bindQueue => exact ⟨rises.dlx h.1, rises.dlq h.2⟩
  | assertQueue | consume => exact rises.bound h

/-- Without a channel there is nothing to say. -/
theorem Process.sound_offline {queues : Source → BrokerQueue} (offline : ¬ p.phase.Online)
    (consumers : p.consumers = []) (answers : p.answers = []) : p.Sound queues log i where
  consumers q mem := by simp [consumers] at mem
  answers a mem := by simp [answers] at mem
  offline _ := ⟨consumers, answers⟩
  after q rest call phase := absurd (by rw [phase]; trivial) offline

theorem Process.Sound.mono {queues queues' : Source → BrokerQueue} (sound : p.Sound queues log i)
    (rises : ∀ q, (queues q).Rises (queues' q)) (grows : log ⊆ log')
    (holds : ∀ q m, (i, m) ∈ (queues q).messages.held → (i, m) ∈ (queues' q).messages.held) :
    p.Sound queues' log' i where
  consumers q mem := (rises q).bound (sound.consumers q mem)
  answers a mem := by
    obtain ⟨m, held, judged⟩ := sound.answers a mem
    exact ⟨m, holds a.1 m held, judged.mono grows⟩
  offline := sound.offline
  after q rest call phase := (sound.after q rest call phase).rises (rises q)

/-! ### The whole -/

structure State.Sound (s : State) : Prop where
  queues : ∀ q, (s.queues q).Sound s.log q
  processes : ∀ (i : Nat) (p : Process), s.processes[i]? = some p → p.Sound s.queues s.log i
  held : ∀ (q : Source) (i : Nat) (m : Message), (i, m) ∈ (s.queues q).messages.held →
    ∃ p, s.processes[i]? = some p ∧ q ∈ p.consumers

theorem State.sound_initial (n : Nat) : (State.initial n).Sound where
  queues q := BrokerQueue.sound_empty
  processes i p here := by
    obtain rfl : p = {} := List.eq_of_mem_replicate (List.mem_of_getElem? here)
    exact Process.sound_offline (fun online => online) rfl rfl
  held q i m mem := absurd mem List.not_mem_nil

/-- A process moves on, with the queues. -/
theorem State.Sound.moves (sound : s.Sound) (here : s.processes[i]? = some p)
    {queues' : Source → BrokerQueue} (grows : s.log ⊆ log')
    (rises : ∀ q, (s.queues q).Rises (queues' q)) (each : ∀ q, (queues' q).Sound log' q)
    (others : ∀ q j m, j ≠ i →
      ((j, m) ∈ (queues' q).messages.held ↔ (j, m) ∈ (s.queues q).messages.held))
    (own : ∀ q m, (i, m) ∈ (queues' q).messages.held → q ∈ p'.consumers)
    (process : p'.Sound queues' log' i) :
    ({ queues := queues', processes := s.processes.set i p', log := log' } : State).Sound where
  queues := each
  processes j p₁ at' := by
    rw [List.getElem?_set] at at'
    split at at'
    · rename_i same
      subst same
      split at at' <;> cases at'
      exact process
    · rename_i other
      exact (sound.processes j p₁ at').mono rises grows
        fun q m => (others q j m (Ne.symm other)).mpr
  held q j m mem := by
    by_cases same : j = i
    · subst same
      have lt := (List.getElem?_eq_some_iff.mp here).1
      exact ⟨p', by simp [lt], own q m mem⟩
    · obtain ⟨p₁, at', consumes⟩ := sound.held q j m ((others q j m same).mp mem)
      exact ⟨p₁, by rw [List.getElem?_set_ne (Ne.symm same), at'], consumes⟩

/-- Only what is declared or waits in the queues changes. -/
theorem State.Sound.setQueue (sound : s.Sound) (rises : (s.queues q).Rises b)
    (queue : b.Sound s.log q) (held : b.messages.held = (s.queues q).messages.held) :
    (s.setQueue q b).Sound := by
  have each : ∀ x, (s.queues x).Rises ((s.setQueue q b).queues x) ∧
      ((s.setQueue q b).queues x).Sound s.log x ∧
      ((s.setQueue q b).queues x).messages.held = (s.queues x).messages.held := by
    intro x
    by_cases same : x = q
    · subst same
      simpa [State.setQueue] using ⟨rises, queue, held⟩
    · simpa [State.setQueue, same] using ⟨.refl _, sound.queues x⟩
  constructor
  · exact fun x => (each x).2.1
  · intro j p₁ at'
    exact (sound.processes j p₁ at').mono (fun x => (each x).1) (List.Subset.refl _)
      fun x m mem => (each x).2.2 ▸ mem
  · exact fun x j m mem => sound.held x j m ((each x).2.2 ▸ mem)

/-- A process without a channel moves on alone. -/
theorem State.Sound.setProcess (sound : s.Sound) (here : s.processes[i]? = some p)
    (offline : ¬ p.phase.Online) (process : p'.Sound s.queues s.log i) :
    (s.setProcess i p').Sound := by
  refine sound.moves here (List.Subset.refl _) (fun q => .refl _) sound.queues
    (fun q j m other => Iff.rfl) ?_ process
  intro q m mem
  obtain ⟨p₁, at', consumes⟩ := sound.held q i m mem
  cases here.symm.trans at'
  rw [((sound.processes i p here).offline offline).1] at consumes
  cases consumes

/-- A process's channel is gone. -/
theorem State.Sound.leave (sound : s.Sound) (here : s.processes[i]? = some p)
    (consumers : p'.consumers = []) (answers : p'.answers = [])
    (phase : ∀ q rest call, p'.phase ≠ .subscribing q rest call) : (s.leave i p').Sound := by
  have held : ∀ q j m, (j, m) ∈ ((s.queues q).release i).messages.held ↔
      (j, m) ∈ (s.queues q).messages.held ∧ j ≠ i := by
    intro q j m
    simp [BrokerQueue.release, WorkQueue.release]
  refine sound.moves here (List.Subset.refl _) (fun q => ⟨id, id, id, id⟩)
    (fun q => (sound.queues q).release i) ?_ ?_ ?_
  · intro q j m other
    rw [held]
    exact and_iff_left other
  · intro q m mem
    exact absurd rfl ((held q i m).mp mem).2
  · constructor
    · intro q mem
      simp [consumers] at mem
    · intro a mem
      simp [answers] at mem
    · exact fun _ => ⟨consumers, answers⟩
    · exact fun q rest call same => absurd same (phase q rest call)

/-! ### Steps -/

/-- Subscribing goes on: what was asserted holds from here, and a consumer's queue is bound. -/
theorem State.Sound.subscribes (sound : s.Sound) (here : s.processes[i]? = some p)
    {rest : List Source} {call : SubscribeCall} (phase : p.phase = .subscribing q rest call)
    (went : p.subscribes q rest (s.queues q) call = some (p', b)) :
    ((s.setQueue q b).setProcess i p').Sound := by
  have own := sound.processes i p here
  have after := own.after q rest call phase
  have result : (s.queues q).Rises b ∧ b.messages = (s.queues q).messages ∧
      b.Sound s.log q ∧ p'.answers = p.answers ∧ p.consumers ⊆ p'.consumers ∧
      (∀ x ∈ p'.consumers, x ∈ p.consumers ∨ x = q ∧ b.bound = true) ∧ p'.phase.Online ∧
      ∀ x rest' call', p'.phase = .subscribing x rest' call' →
        call' = .assertExchange ∨ x = q ∧ call'.After b := by
    have same := sound.queues q
    cases call with
    | assertExchange =>
        cases went
        refine ⟨⟨id, fun _ => rfl, id, id⟩, rfl, same.of_same rfl rfl rfl rfl rfl, rfl,
          List.Subset.refl _, fun x mem => .inl mem, trivial, ?_⟩
        intro x rest' call' next
        cases next
        exact .inr ⟨rfl, rfl⟩
    | assertDeadLetterQueue =>
        cases went
        refine ⟨⟨id, id, fun _ => rfl, id⟩, rfl, same.of_same rfl rfl rfl rfl rfl, rfl,
          List.Subset.refl _, fun x mem => .inl mem, trivial, ?_⟩
        intro x rest' call' next
        cases next
        exact .inr ⟨rfl, after, rfl⟩
    | bindQueue =>
        obtain ⟨-, went⟩ := Option.ite_none_right_eq_some.mp went
        cases went
        refine ⟨⟨id, id, id, fun _ => rfl⟩, rfl, same.of_same rfl rfl rfl rfl rfl, rfl,
          List.Subset.refl _, fun x mem => .inl mem, trivial, ?_⟩
        intro x rest' call' next
        cases next
        exact .inr ⟨rfl, rfl⟩
    | assertQueue =>
        cases went
        refine ⟨⟨fun _ => rfl, id, id, id⟩, rfl, same.of_same rfl rfl rfl rfl rfl, rfl,
          List.Subset.refl _, fun x mem => .inl mem, trivial, ?_⟩
        intro x rest' call' next
        cases next
        exact .inr ⟨rfl, after⟩
    | consume =>
        obtain ⟨-, went⟩ := Option.ite_none_right_eq_some.mp went
        cases went
        refine ⟨.refl _, rfl, same, rfl, List.subset_append_left _ _, ?_, ?_, ?_⟩
        · intro x mem
          rcases List.mem_append.mp mem with mem | mem
          · exact .inl mem
          · exact .inr ⟨List.mem_singleton.mp mem, after⟩
        · cases rest <;> trivial
        · intro x rest' call' next
          cases rest with
          | nil => cases next
          | cons =>
              cases next
              exact .inl rfl
  obtain ⟨rises, messages, queue, answers, grows, consumers, online, next⟩ := result
  have setQueue := sound.setQueue rises queue (by rw [messages])
  have process := setQueue.processes i p here
  have at' : (s.setQueue q b).queues q = b := by simp [State.setQueue]
  refine setQueue.moves here (List.Subset.refl _) (fun q => .refl _) setQueue.queues
    (fun q j m other => Iff.rfl) ?_ ?_
  · intro x m mem
    obtain ⟨p₁, there, consumes⟩ := setQueue.held x i m mem
    cases here.symm.trans there
    exact grows consumes
  · constructor
    · intro x mem
      rcases consumers x mem with mem | ⟨rfl, bound⟩
      · exact process.consumers x mem
      · rw [at', bound]
    · rw [answers]
      exact process.answers
    · exact fun offline => absurd online offline
    · intro x rest' call' phase'
      rcases next x rest' call' phase' with rfl | ⟨rfl, done⟩
      · trivial
      · rw [at']
        exact done

/-- A message is delivered to one of the consumers. -/
theorem State.Sound.deliver (sound : s.Sound) (here : s.processes[i]? = some p)
    (consumes : q ∈ p.consumers) {messages : WorkQueue Nat (List UInt8)}
    (taken : (s.queues q).messages.take i = some messages) :
    (s.setQueue q { s.queues q with messages }).Sound := by
  obtain ⟨m, rest, -, -, same⟩ := WorkQueue.take_eq_some.mp taken
  have held : messages.held = (s.queues q).messages.held ++ [(i, m)] := by rw [same]
  have unchanged : s.processes.set i p = s.processes := by
    obtain ⟨lt, rfl⟩ := List.getElem?_eq_some_iff.mp here
    exact List.set_getElem_self lt
  have each : ∀ x, (s.queues x).Rises ((s.setQueue q { s.queues q with messages }).queues x) ∧
      ((s.setQueue q { s.queues q with messages }).queues x).Sound s.log x ∧
      ((s.setQueue q { s.queues q with messages }).queues x).messages.held =
        (s.queues x).messages.held ++ if x = q then [(i, m)] else [] := by
    intro x
    by_cases here : x = q
    · subst here
      simpa [State.setQueue] using ⟨⟨id, id, id, id⟩, (sound.queues x).take taken, held⟩
    · simpa [State.setQueue, here] using ⟨.refl _, sound.queues x⟩
  have moved : ((s.setQueue q { s.queues q with messages }).setProcess i p).Sound → (s.setQueue q
      { s.queues q with messages }).Sound := by
    rw [State.setProcess, State.setQueue, unchanged]
    exact id
  refine moved (sound.moves here (List.Subset.refl _) (fun x => (each x).1) (fun x => (each x).2.1)
    ?_ ?_ ?_)
  · intro x j m' other
    rw [(each x).2.2]
    split <;> simp [other]
  · intro x m' mem
    rw [(each x).2.2] at mem
    split at mem
    · rename_i same
      exact same ▸ consumes
    · rw [List.append_nil] at mem
      obtain ⟨p₁, there, consumes⟩ := sound.held x i m' mem
      cases here.symm.trans there
      exact consumes
  · refine (sound.processes i p here).mono (fun x => (each x).1) (List.Subset.refl _) ?_
    intro x m' mem
    rw [(each x).2.2]
    exact List.mem_append_left _ mem

/-- The callback runs. -/
theorem State.Sound.message (sound : s.Sound) (here : s.processes[i]? = some p)
    (holds : (i, m) ∈ (s.queues q).messages.held) :
    ({ s.setProcess i { p with answers := p.answers ++ [(q, (onMessage q m.2).1)] } with
      log := s.log ++ [(onMessage q m.2).2] } : State).Sound := by
  have grows : s.log ⊆ s.log ++ [(onMessage q m.2).2] := List.subset_append_left _ _
  have own := (sound.processes i p here).mono (fun x => .refl (s.queues x)) grows
    (fun x m' mem => mem)
  obtain ⟨p₁, there, consumes⟩ := sound.held q i m holds
  cases here.symm.trans there
  have online : p.phase.Online := by
    by_contra offline
    rw [(own.offline offline).1] at consumes
    cases consumes
  refine sound.moves here grows (fun x => .refl _) (fun x => (sound.queues x).mono grows)
    (fun x j m' other => Iff.rfl) ?_ ?_
  · intro x m' mem
    obtain ⟨p₂, there, consumes⟩ := sound.held x i m' mem
    cases here.symm.trans there
    exact consumes
  · constructor
    · exact own.consumers
    · intro a mem
      rcases List.mem_append.mp mem with mem | mem
      · exact own.answers a mem
      · rw [List.mem_singleton.mp mem]
        exact ⟨m, holds, rfl, List.mem_append_right _ (List.mem_singleton_self _)⟩
    · exact fun offline => absurd online offline
    · exact own.after

/-- The broker has the answer. -/
theorem State.Sound.answered (sound : s.Sound) (here : s.processes[i]? = some p)
    (holds : (i, m) ∈ (s.queues q).messages.held) {verdict : Verdict}
    (given : (q, verdict) ∈ p.answers) :
    ((s.setQueue q ((s.queues q).answered i m verdict)).setProcess i
      { p with answers := p.answers.filter fun a => a.1 ≠ q }).Sound := by
  have own := sound.processes i p here
  obtain ⟨p₁, there, consumes⟩ := sound.held q i m holds
  cases here.symm.trans there
  obtain ⟨m', holds', judged⟩ := own.answers _ given
  -- The answer is about the message that is held.
  have ordered := (sound.queues q).ordered
  have same := List.inj_on_of_nodup_map ordered.single holds' holds rfl
  rw [(Prod.mk.inj same).2] at judged
  have each : ∀ x, (s.queues x).Rises ((s.setQueue q ((s.queues q).answered i m verdict)).queues x) ∧
      ((s.setQueue q ((s.queues q).answered i m verdict)).queues x).Sound s.log x ∧
      ∀ j m', (j, m') ∈ ((s.setQueue q ((s.queues q).answered i m verdict)).queues x).messages.held ↔
        (j, m') ∈ (s.queues x).messages.held ∧ (x = q → j ≠ i) := by
    intro x
    by_cases at' : x = q
    · subst at'
      have queue := (sound.queues x).answered holds judged (own.consumers x consumes)
      have rises := BrokerQueue.rises_answered i m verdict (s.queues x)
      simpa [State.setQueue, BrokerQueue.messages_answered, WorkQueue.settle] using ⟨rises, queue⟩
    · simpa [State.setQueue, at'] using ⟨.refl _, sound.queues x⟩
  refine sound.moves here (List.Subset.refl _) (fun x => (each x).1) (fun x => (each x).2.1) ?_ ?_ ?_
  · intro x j m' other
    rw [(each x).2.2]
    exact and_iff_left fun _ => other
  · intro x m' mem
    obtain ⟨mem, -⟩ := ((each x).2.2 i m').mp mem
    obtain ⟨p₂, there, consumes⟩ := sound.held x i m' mem
    cases here.symm.trans there
    exact consumes
  · constructor
    · exact fun x mem => ((each x).1).bound (own.consumers x mem)
    · intro a mem
      obtain ⟨mem, other⟩ := List.mem_filter.mp mem
      obtain ⟨m₁, held, judged⟩ := own.answers a mem
      refine ⟨m₁, ((each a.1).2.2 i m₁).mpr ⟨held, fun same => ?_⟩, judged⟩
      exact absurd same (of_decide_eq_true other)
    · intro offline
      rw [(own.offline offline).1] at consumes
      cases consumes
    · exact fun x rest call phase => (own.after x rest call phase).rises (each x).1

/-- Connecting goes on, or is given up. -/
theorem State.Sound.connects {ok : Bool} (sound : s.Sound) (here : s.processes[i]? = some p)
    (went : p.connects ok = some p') : (s.setProcess i p').Sound := by
  unfold Process.connects at went
  split at went
  · rename_i attempt phase
    have offline : ¬ p.phase.Online := by
      rw [phase]
      exact fun online => online
    obtain ⟨consumers, answers⟩ := (sound.processes i p here).offline offline
    refine sound.setProcess here offline ?_
    split at went
    · cases went
      constructor
      · simp [consumers]
      · simp [answers]
      · exact fun _ => ⟨consumers, answers⟩
      · intro q rest call phase
        cases phase
        trivial
    · split at went <;> cases went
      · exact Process.sound_offline (fun online => online) consumers answers
      · exact Process.sound_offline (fun online => online) rfl rfl
  · cases went

theorem State.Sound.wakes (sound : s.Sound) (here : s.processes[i]? = some p)
    (went : p.wakes = some p') : (s.setProcess i p').Sound := by
  unfold Process.wakes at went
  split at went
  · rename_i attempt phase
    have offline : ¬ p.phase.Online := by
      rw [phase]
      exact fun online => online
    obtain ⟨consumers, answers⟩ := (sound.processes i p here).offline offline
    cases went
    exact sound.setProcess here offline
      (Process.sound_offline (fun online => online) consumers answers)
  · cases went

theorem State.Sound.step {e : Event} (sound : s.Sound) (taken : s.step e = some s') :
    s'.Sound := by
  cases e with
  | assertExchange q =>
      cases taken
      exact sound.setQueue ⟨id, fun _ => rfl, id, id⟩
        ((sound.queues q).of_same rfl rfl rfl rfl rfl) rfl
  | assertQueue q =>
      cases taken
      exact sound.setQueue ⟨fun _ => rfl, id, id, id⟩
        ((sound.queues q).of_same rfl rfl rfl rfl rfl) rfl
  | publish q content =>
      cases taken
      refine sound.setQueue ?_ ((sound.queues q).publish content) ?_
      · unfold BrokerQueue.publish
        split <;> exact ⟨id, id, id, id⟩
      · unfold BrokerQueue.publish
        split <;> rfl
  | connects i ok =>
      obtain ⟨p, here, taken⟩ := Option.bind_eq_some_iff.mp taken
      obtain ⟨p', went, rfl⟩ := Option.map_eq_some_iff.mp taken
      exact sound.connects here went
  | wakes i =>
      obtain ⟨p, here, taken⟩ := Option.bind_eq_some_iff.mp taken
      obtain ⟨p', went, rfl⟩ := Option.map_eq_some_iff.mp taken
      exact sound.wakes here went
  | subscribes i ok =>
      obtain ⟨p, here, taken⟩ := Option.bind_eq_some_iff.mp taken
      split at taken
      · rename_i q rest call phase
        split at taken
        · obtain ⟨⟨p', b⟩, went, rfl⟩ := Option.map_eq_some_iff.mp taken
          exact sound.subscribes here phase went
        · cases taken
          exact sound.leave here rfl rfl (by simp [Process.exit])
      · cases taken
  | deliver i q =>
      obtain ⟨p, here, taken⟩ := Option.bind_eq_some_iff.mp taken
      obtain ⟨consumes, taken⟩ := Option.ite_none_right_eq_some.mp taken
      obtain ⟨messages, took, rfl⟩ := Option.map_eq_some_iff.mp taken
      exact sound.deliver here consumes took
  | message i q =>
      obtain ⟨p, here, taken⟩ := Option.bind_eq_some_iff.mp taken
      obtain ⟨m, holds, taken⟩ := Option.bind_eq_some_iff.mp taken
      obtain ⟨-, taken⟩ := Option.ite_none_left_eq_some.mp taken
      cases taken
      exact sound.message here (WorkQueue.mem_of_holding? holds)
  | answered i q =>
      obtain ⟨p, here, taken⟩ := Option.bind_eq_some_iff.mp taken
      obtain ⟨m, holds, taken⟩ := Option.bind_eq_some_iff.mp taken
      obtain ⟨⟨q', verdict⟩, found, rfl⟩ := Option.map_eq_some_iff.mp taken
      obtain rfl : q' = q := by simpa using List.find?_some found
      exact sound.answered here (WorkQueue.mem_of_holding? holds) (List.mem_of_find?_eq_some found)
  | disconnect i =>
      obtain ⟨p, here, taken⟩ := Option.bind_eq_some_iff.mp taken
      obtain ⟨-, taken⟩ := Option.ite_none_right_eq_some.mp taken
      cases taken
      split
      · rename_i ready
        exact sound.leave here rfl rfl (by simp [Process.disconnected, ready])
      · exact sound.leave here rfl rfl (by simp [Process.exit])
  | stop i =>
      obtain ⟨p, here, rfl⟩ := Option.map_eq_some_iff.mp taken
      exact sound.leave here rfl rfl (by simp [Process.exit])
  | start i =>
      obtain ⟨p, here, taken⟩ := Option.bind_eq_some_iff.mp taken
      obtain ⟨exited, taken⟩ := Option.ite_none_right_eq_some.mp taken
      cases taken
      refine sound.setProcess here ?_ (Process.sound_offline (fun online => online) rfl rfl)
      rw [exited]
      exact fun online => online

theorem sound_of_run {n : Nat} {es : List Event}
    (ran : Machine.run State.step es (State.initial n) = some s) : s.Sound :=
  Machine.run_invariant (fun _ _ _ sound taken => sound.step taken) ran (State.sound_initial n)

/-! ### Every message -/

theorem Judged.acked (h : Judged log q .ack m) : ∃ payload line,
    Json.parse (Utf8.decode m.2) = some payload ∧ handle q payload = .ok line ∧ line ∈ log := by
  obtain ⟨verdict, logged⟩ := h
  unfold onMessage at verdict logged
  dsimp only at verdict logged
  split at verdict
  · cases verdict
  · rename_i payload parsed
    rw [parsed] at logged
    dsimp only at logged
    split at verdict
    · rename_i line handled
      rw [handled] at logged
      exact ⟨payload, line, parsed, handled, logged⟩
    · cases verdict

theorem Judged.refused (h : Judged log q .nack m) {payload : Json.Value}
    (parsed : Json.parse (Utf8.decode m.2) = some payload) :
    ∃ reason, handle q payload = .error reason := by
  obtain ⟨verdict, -⟩ := h
  unfold onMessage at verdict
  dsimp only at verdict
  rw [parsed] at verdict
  dsimp only at verdict
  split at verdict
  · cases verdict
  · rename_i reason handled
    exact ⟨reason, handled⟩

def createdContent : List UInt8 := Utf8.encode
  ("\x7b\"type\":\"booking.created\",\"eventId\":\"e\",\"correlationId\":\"c\",\"occurredAt\":\"t\"," ++
    "\"booking\":\x7b\"id\":\"b\",\"flightId\":\"f\",\"passengerName\":\"p\",\"createdAt\":\"t\"\x7d\x7d").toList

/-- A process that has subscribed to two queues processes a message, refuses one, and loses its
connection with the third. -/
def notifierEvents : List Event :=
  .connects 0 true :: List.replicate 10 (.subscribes 0 true) ++
    [.publish .bookingCreated createdContent, .publish .bookingCreated [],
      .publish .bookingCreated [], .deliver 0 .bookingCreated, .message 0 .bookingCreated,
      .answered 0 .bookingCreated, .deliver 0 .bookingCreated, .message 0 .bookingCreated,
      .answered 0 .bookingCreated, .deliver 0 .bookingCreated, .message 0 .bookingCreated,
      .disconnect 0]

theorem notifierEvents_run : ∃ s : State,
    Machine.run State.step notifierEvents (State.initial 2) = some s ∧
    (s.queues .bookingCreated).acked.map (·.1) = [0] ∧
    (s.queues .bookingCreated).deadLettered = [(1, [])] ∧
    (s.queues .bookingCreated).messages.ready = [(2, [])] := by
  have ran : (Machine.run State.step notifierEvents (State.initial 2)).map (fun s =>
      ((s.queues .bookingCreated).acked.map (·.1), (s.queues .bookingCreated).deadLettered,
        (s.queues .bookingCreated).messages.ready)) = some ([0], [(1, [])], [(2, [])]) := by
    decide +kernel
  obtain ⟨s, ran, same⟩ := Option.map_eq_some_iff.mp ran
  obtain ⟨acked, rest⟩ := Prod.mk.inj same
  obtain ⟨deadLettered, ready⟩ := Prod.mk.inj rest
  exact ⟨s, ran, acked, deadLettered, ready⟩

end FlightBooking.Notifier
