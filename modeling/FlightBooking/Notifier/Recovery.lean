import FlightBooking.Notifier.Accounted

/-!
No message of the notifier's queues is stuck.

A notifier that lost its connection does not connect again: it stays, and consumes nothing. But
what it held is queued again, and a process that is restarted subscribes to every queue and
works through all that waits (`restart_drains`), whatever state the processes before it were
left in.
-/

namespace FlightBooking.Notifier

variable {s s' s₁ s₂ : State} {q : Source} {i j : Nat} {p p' : Process} {m : Message}

def State.Consumes (s : State) (i : Nat) (q : Source) : Prop :=
  ∃ p, s.processes[i]? = some p ∧ q ∈ p.consumers

/-- What happens between the broker and its consumers. -/
def Event.Serving : Event → Prop
  | .deliver .. | .message .. | .answered .. => True
  | _ => False

/-- The consumers of a queue are served, and go on consuming. -/
structure State.Serves (q : Source) (s s' : State) : Prop where
  leads : Machine.Leads State.step Event.Serving s s'
  consumers : ∀ i x, s.Consumes i x → s'.Consumes i x
  taken : (s'.queues q).taken = (s.queues q).taken
  others : ∀ x, x ≠ q → s'.queues x = s.queues x

namespace State.Serves

theorem refl (s : State) : s.Serves q s :=
  ⟨.refl s, fun _ _ consumes => consumes, rfl, fun _ _ => rfl⟩

theorem trans (h : s.Serves q s₁) (h' : s₁.Serves q s₂) : s.Serves q s₂ where
  leads := h.leads.trans h'.leads
  consumers i x consumes := h'.consumers i x (h.consumers i x consumes)
  taken := h'.taken.trans h.taken
  others x other := (h'.others x other).trans (h.others x other)

end State.Serves

theorem State.Sound.leads {P : Event → Prop} (sound : s.Sound)
    (leads : Machine.Leads State.step P s s') : s'.Sound :=
  leads.invariant (fun _ _ _ sound taken => sound.step taken) sound

/-- A process that only answers goes on consuming. -/
theorem State.Consumes.set (here : s.processes[i]? = some p)
    (processes : s'.processes = s.processes.set i p') (same : p'.consumers = p.consumers)
    {x : Source} (h : s.Consumes j x) : s'.Consumes j x := by
  obtain ⟨p₁, there, consumes⟩ := h
  by_cases one : i = j
  · subst one
    cases here.symm.trans there
    have lt := (List.getElem?_eq_some_iff.mp here).1
    exact ⟨p', by rw [processes, List.getElem?_set_self lt], same ▸ consumes⟩
  · exact ⟨p₁, by rw [processes, List.getElem?_set_ne one, there], consumes⟩

/-! ### One message -/

theorem State.answered_serves (sound : s.Sound) (holds : (i, m) ∈ (s.queues q).messages.held)
    (here : s.processes[i]? = some p) (given : q ∈ p.answers.map (·.1)) :
    ∃ s', s.Serves q s' ∧ (s'.queues q).messages = (s.queues q).messages.settle i := by
  obtain ⟨⟨q', verdict⟩, mem, rfl⟩ := List.mem_map.mp given
  cases found : p.answers.find? fun a => a.1 = q' with
  | none => exact absurd (decide_eq_true rfl) (List.find?_eq_none.mp found _ mem)
  | some answer =>
      have holding := (sound.queues q').ordered.holding? holds
      let p₁ : Process := { p with answers := p.answers.filter fun a => a.1 ≠ q' }
      let after := (s.setQueue q' ((s.queues q').answered i m answer.2)).setProcess i p₁
      have processes : after.processes = s.processes.set i p₁ := rfl
      have queue : after.queues q' = (s.queues q').answered i m answer.2 := by
        simp [after, State.setProcess, State.setQueue]
      have taken : s.step (.answered i q') = some after := by
        simp only [State.step, here, holding, found, Option.bind_some, Option.map_some, after, p₁]
      refine ⟨after, ⟨.single taken trivial, ?_, ?_, ?_⟩, ?_⟩
      · exact fun j x consumes => consumes.set here processes rfl
      · rw [queue, BrokerQueue.taken_answered]
      · intro x other
        simp [after, State.setProcess, State.setQueue, other]
      · rw [queue, BrokerQueue.messages_answered]

/-- Whoever holds a message gets done with it. -/
theorem State.settle_serves (sound : s.Sound) (holds : (i, m) ∈ (s.queues q).messages.held) :
    ∃ s', s.Serves q s' ∧ (s'.queues q).messages = (s.queues q).messages.settle i := by
  obtain ⟨p, here, consumes⟩ := sound.held q i m holds
  by_cases given : q ∈ p.answers.map (·.1)
  · exact answered_serves sound holds here given
  · have holding := (sound.queues q).ordered.holding? holds
    let p₁ : Process := { p with answers := p.answers ++ [(q, (onMessage q m.2).1)] }
    let s₁ : State := { s.setProcess i p₁ with log := s.log ++ [(onMessage q m.2).2] }
    have processes : s₁.processes = s.processes.set i p₁ := rfl
    have taken : s.step (.message i q) = some s₁ := by
      simp only [State.step, here, holding, Option.bind_some, given, if_false, s₁, p₁]
    have lt := (List.getElem?_eq_some_iff.mp here).1
    have here₁ : s₁.processes[i]? = some p₁ := by simp [s₁, State.setProcess, lt]
    have first : s.Serves q s₁ := by
      refine ⟨.single taken trivial, ?_, rfl, fun _ _ => rfl⟩
      exact fun j x consumes => consumes.set here processes rfl
    have given₁ : q ∈ p₁.answers.map (·.1) := by simp [p₁]
    obtain ⟨s', later, messages⟩ := answered_serves (q := q) (sound.step taken) holds here₁ given₁
    exact ⟨s', first.trans later, messages⟩

/-- A message that waits goes to a consumer that holds none. -/
theorem State.deliver_serves (consumes : s.Consumes i q) {messages : WorkQueue Nat (List UInt8)}
    (took : (s.queues q).messages.take i = some messages) :
    ∃ s', s.Serves q s' ∧ (s'.queues q).messages = messages := by
  obtain ⟨p, here, mem⟩ := consumes
  let after := s.setQueue q { s.queues q with messages }
  have taken : s.step (.deliver i q) = some after := by
    simp only [State.step, here, Option.bind_some, mem, if_true, took, Option.map_some, after]
  have queue : after.queues q = { s.queues q with messages } := by simp [after, State.setQueue]
  refine ⟨after, ⟨.single taken trivial, fun j x consumes => consumes, ?_, ?_⟩, ?_⟩
  · rw [queue]
  · intro x other
    simp [after, State.setQueue, other]
  · rw [queue]

/-! ### A queue, and all of them -/

/-- What is still to do for the messages: a delivery and an answer each. -/
def workLeft (messages : WorkQueue Nat (List UInt8)) : Nat :=
  2 * messages.ready.length + messages.held.length

/-- A queue with a consumer can be drained; the induction is on the work that is left. -/
theorem State.Sound.drain_serves {left : Nat} (sound : s.Sound) (consumes : s.Consumes i q)
    (le : workLeft (s.queues q).messages ≤ left) :
    ∃ s', s.Serves q s' ∧ (s'.queues q).messages.contents = [] := by
  induction left generalizing s with
  | zero =>
      unfold workLeft at le
      have ready : (s.queues q).messages.ready = [] := List.length_eq_zero_iff.mp (by omega)
      have held : (s.queues q).messages.held = [] := List.length_eq_zero_iff.mp (by omega)
      exact ⟨s, .refl s, by simp [WorkQueue.contents, ready, held]⟩
  | succ left ih =>
      have next : ∀ s₁, s.Serves q s₁ →
          workLeft (s₁.queues q).messages < workLeft (s.queues q).messages →
          ∃ s', s.Serves q s' ∧ (s'.queues q).messages.contents = [] := by
        intro s₁ first less
        obtain ⟨s', later, drained⟩ := ih (sound.leads first.leads) (first.consumers i q consumes)
          (by omega)
        exact ⟨s', first.trans later, drained⟩
      cases held : (s.queues q).messages.held with
      | cons h _ =>
          obtain ⟨j, m⟩ := h
          have holds : (j, m) ∈ (s.queues q).messages.held := by simp [held]
          obtain ⟨s₁, first, messages⟩ := settle_serves sound holds
          refine next s₁ first ?_
          rw [messages]
          have less := WorkQueue.length_held_settle holds
          exact Nat.add_lt_add_left less _
      | nil =>
          cases ready : (s.queues q).messages.ready with
          | nil => exact ⟨s, .refl s, by simp [WorkQueue.contents, held, ready]⟩
          | cons m rest =>
              have free : (s.queues q).messages.holding? i = none :=
                WorkQueue.holding?_eq_none.mpr (by simp [held])
              have took := WorkQueue.take_eq_some.mpr ⟨m, rest, free, ready, rfl⟩
              obtain ⟨s₁, first, messages⟩ := deliver_serves consumes took
              refine next s₁ first ?_
              rw [messages]
              simp only [workLeft, ready, held, List.length_append, List.length_cons, List.length_nil]
              omega

/-- A process that consumes every queue can drain them one after the other. -/
theorem State.Sound.drain_all (sound : s.Sound) (qs : List Source) (consumes : ∀ q ∈ qs, s.Consumes i q) :
    ∃ s', Machine.Leads State.step Event.Serving s s' ∧
      (∀ q, (s'.queues q).taken = (s.queues q).taken) ∧
      (∀ i q, s.Consumes i q → s'.Consumes i q) ∧
      ∀ q ∈ qs, (s'.queues q).messages.contents = [] := by
  induction qs with
  | nil => exact ⟨s, .refl s, fun _ => rfl, fun _ _ h => h, fun _ mem => absurd mem List.not_mem_nil⟩
  | cons q qs ih =>
      obtain ⟨s₁, first, taken, kept, empty⟩ := ih fun x mem => consumes x (List.mem_cons_of_mem _ mem)
      have serving := kept i q (consumes q List.mem_cons_self)
      obtain ⟨s₂, later, drained⟩ := (sound.leads first).drain_serves serving (Nat.le_refl _)
      refine ⟨s₂, first.trans later.leads, ?_, ?_, ?_⟩
      · intro x
        by_cases same : x = q
        · rw [same, later.taken, taken]
        · rw [later.others x same, taken]
      · exact fun j x h => later.consumers j x (kept j x h)
      · intro x mem
        by_cases same : x = q
        · rw [same, drained]
        · have rest := (List.mem_cons.mp mem).resolve_left same
          rw [later.others x same, empty x rest]

/-! ### A process is restarted -/

/-- A process is stopped and started again, and subscribes to its queues. -/
def Event.Restarting (i : Nat) : Event → Prop
  | .stop j | .start j | .connects j true | .subscribes j true => j = i
  | _ => False

/-- The process at its place, with what was sent to the queues. -/
structure State.Restarts (i : Nat) (s s' : State) (p : Process) : Prop where
  leads : Machine.Leads State.step (Event.Restarting i) s s'
  here : s'.processes[i]? = some p
  taken : ∀ q, (s'.queues q).taken = (s.queues q).taken

theorem State.Restarts.step {e : Event} (h : s.Restarts i s₁ p) (admitted : e.Restarting i)
    (taken : s₁.step e = some s₂) (here : s₂.processes[i]? = some p')
    (same : ∀ q, (s₂.queues q).taken = (s₁.queues q).taken) : s.Restarts i s₂ p' where
  leads := h.leads.trans (.single taken admitted)
  here := here
  taken q := (same q).trans (h.taken q)

/-- An awaited call of `subscribe` succeeds. -/
theorem State.Restarts.subscribes (h : s.Restarts i s₁ p) {rest : List Source} {call : SubscribeCall}
    (phase : p.phase = .subscribing q rest call) {b : BrokerQueue}
    (went : p.subscribes q rest (s₁.queues q) call = some (p', b))
    (same : b.taken = (s₁.queues q).taken) :
    ∃ s₂, s.Restarts i s₂ p' ∧ s₂.queues q = b := by
  have lt := (List.getElem?_eq_some_iff.mp h.here).1
  refine ⟨(s₁.setQueue q b).setProcess i p', h.step (e := .subscribes i true) rfl ?_ ?_ ?_, ?_⟩
  · simp only [State.step, h.here, Option.bind_some, phase, if_true, went, Option.map_some]
  · simp [State.setProcess, State.setQueue, lt]
  · intro x
    by_cases one : x = q
    · subst one
      simp [State.setProcess, State.setQueue, same]
    · simp [State.setProcess, State.setQueue, one]
  · simp [State.setProcess, State.setQueue]

/-- All five calls for one queue. -/
theorem State.Restarts.subscribed (h : s.Restarts i s₁ p) {rest : List Source}
    (phase : p.phase = .subscribing q rest .assertExchange) :
    ∃ s₂ p', s.Restarts i s₂ p' ∧ p'.phase = Process.next rest ∧
      p'.consumers = p.consumers ++ [q] := by
  obtain ⟨s₂, h, queue⟩ := h.subscribes phase rfl rfl
  obtain ⟨s₃, h, queue₃⟩ := h.subscribes rfl rfl rfl
  rw [queue] at queue₃
  have dead : (s₃.queues q).dlx && (s₃.queues q).dlq := by rw [queue₃]; rfl
  obtain ⟨s₄, h, queue₄⟩ := h.subscribes rfl (if_pos dead) rfl
  obtain ⟨s₅, h, queue₅⟩ := h.subscribes rfl rfl rfl
  have declared : (s₅.queues q).declared := by rw [queue₅]; rfl
  obtain ⟨s₆, h, -⟩ := h.subscribes rfl (if_pos declared) rfl
  exact ⟨s₆, _, h, rfl, rfl⟩

/-- One queue after the other, and the process is ready. -/
theorem State.Restarts.ready (h : s.Restarts i s₁ p) {rest : List Source}
    (phase : p.phase = Process.next rest) :
    ∃ s₂ p', s.Restarts i s₂ p' ∧ p'.consumers = p.consumers ++ rest := by
  induction rest generalizing s₁ p with
  | nil => exact ⟨s₁, p, h, by rw [List.append_nil]⟩
  | cons q rest ih =>
      obtain ⟨s₂, p₂, h, phase, consumers⟩ := h.subscribed phase
      obtain ⟨s₃, p₃, h, all⟩ := ih h phase
      exact ⟨s₃, p₃, h, by rw [all, consumers, List.append_assoc, List.singleton_append]⟩

/-- A process that is restarted consumes every queue. -/
theorem State.restarts (here : s.processes[i]? = some p) :
    ∃ s', Machine.Leads State.step (Event.Restarting i) s s' ∧
      (∀ q, (s'.queues q).taken = (s.queues q).taken) ∧ ∀ q, s'.Consumes i q := by
  have lt := (List.getElem?_eq_some_iff.mp here).1
  have stopped : s.Restarts i (s.leave i p.exit) p.exit := by
    refine ⟨.single (e := .stop i) ?_ rfl, ?_, fun q => rfl⟩
    · simp only [State.step, here, Option.map_some]
    · simp [State.leave, lt]
  have started : s.Restarts i ((s.leave i p.exit).setProcess i {}) {} := by
    refine stopped.step (e := .start i) rfl ?_ ?_ fun q => rfl
    · simp only [State.step, stopped.here, Option.bind_some]
      rfl
    · simp [State.leave, State.setProcess, lt]
  let connected : Process := { phase := Process.next Source.all, connected := true }
  have connects : s.Restarts i (((s.leave i p.exit).setProcess i {}).setProcess i connected)
      connected := by
    refine started.step (e := .connects i true) rfl ?_ ?_ fun q => rfl
    · simp only [State.step, started.here, Option.bind_some]
      rfl
    · simp [State.leave, State.setProcess, lt]
  have phase : connected.phase = Process.next Source.all := rfl
  obtain ⟨s', p', h, consumers⟩ := connects.ready phase
  refine ⟨s', h.leads, h.taken, ?_⟩
  intro q
  exact ⟨p', h.here, by rw [consumers]; exact Source.mem_all q⟩

/-- Processes are neither added nor removed. -/
theorem State.length_step {e : Event} (taken : s.step e = some s') :
    s'.processes.length = s.processes.length := by
  cases e with
  | assertExchange q | assertQueue q | publish q content =>
      cases taken
      rfl
  | connects i ok | wakes i =>
      obtain ⟨p, -, taken⟩ := Option.bind_eq_some_iff.mp taken
      obtain ⟨p', -, rfl⟩ := Option.map_eq_some_iff.mp taken
      exact List.length_set
  | subscribes i ok =>
      obtain ⟨p, -, taken⟩ := Option.bind_eq_some_iff.mp taken
      split at taken
      · split at taken
        · obtain ⟨after, -, rfl⟩ := Option.map_eq_some_iff.mp taken
          exact List.length_set
        · cases taken
          exact List.length_set
      · cases taken
  | deliver i q =>
      obtain ⟨p, -, taken⟩ := Option.bind_eq_some_iff.mp taken
      obtain ⟨-, taken⟩ := Option.ite_none_right_eq_some.mp taken
      obtain ⟨messages, -, rfl⟩ := Option.map_eq_some_iff.mp taken
      rfl
  | message i q =>
      obtain ⟨p, -, taken⟩ := Option.bind_eq_some_iff.mp taken
      obtain ⟨m, -, taken⟩ := Option.bind_eq_some_iff.mp taken
      obtain ⟨-, taken⟩ := Option.ite_none_left_eq_some.mp taken
      cases taken
      exact List.length_set
  | answered i q =>
      obtain ⟨p, -, taken⟩ := Option.bind_eq_some_iff.mp taken
      obtain ⟨m, -, taken⟩ := Option.bind_eq_some_iff.mp taken
      obtain ⟨answer, -, rfl⟩ := Option.map_eq_some_iff.mp taken
      exact List.length_set
  | disconnect i =>
      obtain ⟨p, -, taken⟩ := Option.bind_eq_some_iff.mp taken
      obtain ⟨-, taken⟩ := Option.ite_none_right_eq_some.mp taken
      cases taken
      exact List.length_set
  | stop i =>
      obtain ⟨p, -, rfl⟩ := Option.map_eq_some_iff.mp taken
      exact List.length_set
  | start i =>
      obtain ⟨p, -, taken⟩ := Option.bind_eq_some_iff.mp taken
      obtain ⟨-, taken⟩ := Option.ite_none_right_eq_some.mp taken
      cases taken
      exact List.length_set

theorem length_of_run {n : Nat} {es : List Event}
    (ran : Machine.run State.step es (State.initial n) = some s) : s.processes.length = n :=
  Machine.run_invariant (fun _ _ _ same taken => (State.length_step taken).trans same) ran
    List.length_replicate

/-- A process is restarted, and serves the queues until they are empty. -/
theorem State.Sound.recovers (sound : s.Sound) (here : s.processes[i]? = some p) :
    ∃ s₁ s₂, Machine.Leads State.step (Event.Restarting i) s s₁ ∧
      Machine.Leads State.step Event.Serving s₁ s₂ ∧
      ∀ q, (s₂.queues q).taken = (s.queues q).taken ∧ (s₂.queues q).messages.contents = [] := by
  obtain ⟨s₁, restarted, taken, consumes⟩ := State.restarts here
  obtain ⟨s₂, served, taken₂, -, empty⟩ := (sound.leads restarted).drain_all Source.all
    fun q _ => consumes q
  refine ⟨s₁, s₂, restarted, served, ?_⟩
  exact fun q => ⟨(taken₂ q).trans (taken q), empty q (Source.mem_all q)⟩

/-- Whatever run came before, with connections lost and processes stopped wherever they were:
restarting one process is enough for every message to be done with. The process subscribes to
all queues, and from there deliveries and answers alone, with no further message sent, lead to
queues that are empty, where each message that was ever sent to the queue was processed or is a
dead letter. -/
theorem restart_drains {n : Nat} {es : List Event}
    (ran : Machine.run State.step es (State.initial n) = some s) (lt : i < n) :
    ∃ s₁ s₂, Machine.Leads State.step (Event.Restarting i) s s₁ ∧
      Machine.Leads State.step Event.Serving s₁ s₂ ∧
      ∀ q, (s₂.queues q).messages.ready = [] ∧ (s₂.queues q).messages.held = [] ∧
        ((s₂.queues q).acked ++ (s₂.queues q).deadLettered).Perm (numbered (s.queues q).taken) := by
  have sound := sound_of_run ran
  have here := List.getElem?_eq_getElem (lt.trans_eq (length_of_run ran).symm)
  obtain ⟨s₁, s₂, restarted, served, done⟩ := sound.recovers here
  refine ⟨s₁, s₂, restarted, served, ?_⟩
  intro q
  obtain ⟨taken, none⟩ := done q
  obtain ⟨ready, held⟩ := List.append_eq_nil_iff.mp none
  have all := ((sound.leads restarted).leads served |>.queues q).all
  rw [none, taken, List.nil_append] at all
  exact ⟨ready, List.map_eq_nil_iff.mp held, all⟩

/-- The message that was held when the connection was lost is done with. -/
theorem restart_drains_sample : ∃ s s₁ s₂ : State,
    Machine.run State.step notifierEvents (State.initial 2) = some s ∧
    (s.queues .bookingCreated).messages.ready = [(2, [])] ∧
    Machine.Leads State.step (Event.Restarting 1) s s₁ ∧
    Machine.Leads State.step Event.Serving s₁ s₂ ∧
    (s₂.queues .bookingCreated).messages.ready = [] ∧
    ((s₂.queues .bookingCreated).acked ++ (s₂.queues .bookingCreated).deadLettered).Perm
      (numbered (s.queues .bookingCreated).taken) := by
  obtain ⟨s, ran, -, -, ready⟩ := notifierEvents_run
  obtain ⟨s₁, s₂, restarted, served, done⟩ := restart_drains (i := 1) ran (by decide)
  obtain ⟨none, -, all⟩ := done .bookingCreated
  exact ⟨s, s₁, s₂, ran, ready, restarted, served, none, all⟩

end FlightBooking.Notifier
