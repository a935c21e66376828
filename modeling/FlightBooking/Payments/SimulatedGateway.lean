import FlightBooking.Flights.SearchCursor
import FlightBooking.Library.Machine
import FlightBooking.System.Application

/-!
The simulated payment gateway: `createSimulatedPaymentGateway`, one task of the event
loop at a time.

A call travels, arrives at the provider, and may hang there until its own timeout aborts
it; calls for one payment overlap as they like. What the provider did stays done, whether
or not its answer gets back. The results are what the port asks of any gateway
(`simulator_keeps_promise`), and that the provider's books change as those of the
provider the service is verified against (`books_step`).
-/

namespace FlightBooking

namespace Simulator

/-! ### The provider -/

def SUCCESS_TOKEN : String := "tok_success"
def DECLINE_TOKEN : String := "tok_decline"
def TIMEOUT_BEFORE_CHARGE_TOKEN : String := "tok_timeout_before_charge"
def LOST_RESPONSE_TOKEN : String := "tok_lost_response"
def REFUND_FAILS_TWICE_TOKEN : String := "tok_refund_fails_twice"
def REFUND_FAILS_PERMANENTLY_TOKEN : String := "tok_refund_fails_permanently"

def CHARGING_TOKENS : List String :=
  [SUCCESS_TOKEN, TIMEOUT_BEFORE_CHARGE_TOKEN, LOST_RESPONSE_TOKEN, REFUND_FAILS_TWICE_TOKEN,
    REFUND_FAILS_PERMANENTLY_TOKEN]

def TRANSIENT_REFUND_FAILURES : Nat := 2

/-- A map or a set with one key written. -/
def put {α : Type} (map : Uuid → α) (id : Uuid) (value : α) : Uuid → α :=
  fun other => if other = id then value else map other

/-- What the provider remembers. -/
structure Memory where
  charges : Uuid → Option Verdict := fun _ => none
  tokens : Uuid → Option String := fun _ => none
  unreachedOnce : Uuid → Bool := fun _ => false
  refunded : Uuid → Bool := fun _ => false
  refundAttempts : Uuid → Nat := fun _ => 0

def chargeReference (paymentId : Uuid) : String := "sim_ch_" ++ String.ofList (uuidText paymentId)

/-- What a token makes of a charge. -/
def verdictOf (request : ChargeRequest) : Verdict :=
  if CHARGING_TOKENS.contains request.paymentMethodToken then
    .succeeded (chargeReference request.paymentId)
  else
    .declined
      (if request.paymentMethodToken = DECLINE_TOKEN then "card_declined"
        else "unknown_payment_method")

/-- `provider`; no answer is `untilAborted`. -/
def Memory.charge (memory : Memory) (request : ChargeRequest) : Memory × Option Verdict :=
  match memory.charges request.paymentId with
  | some previous => (memory, some previous)
  | none =>
      let token := request.paymentMethodToken
      let reached := memory.unreachedOnce request.paymentId
      let unreachedOnce := put memory.unreachedOnce request.paymentId true
      if token = TIMEOUT_BEFORE_CHARGE_TOKEN ∧ !reached then ({ memory with unreachedOnce }, none)
      else
        let result := verdictOf request
        let charged := { memory with
          charges := put memory.charges request.paymentId (some result)
          tokens := put memory.tokens request.paymentId (some token) }
        if token = LOST_RESPONSE_TOKEN ∧ !reached then ({ charged with unreachedOnce }, none)
        else (charged, some result)

def Memory.refundAtProvider (memory : Memory) (request : RefundRequest) (token : String) :
    Memory × RefundResult :=
  if memory.refunded request.paymentId then (memory, .refunded)
  else if token = REFUND_FAILS_PERMANENTLY_TOKEN then
    (memory, .failed "card_account_closed" false)
  else
    let attempt := memory.refundAttempts request.paymentId + 1
    let counted := { memory with
      refundAttempts := put memory.refundAttempts request.paymentId attempt }
    if token = REFUND_FAILS_TWICE_TOKEN ∧ attempt ≤ TRANSIENT_REFUND_FAILURES then
      (counted, .failed "provider_unavailable" true)
    else ({ counted with refunded := put memory.refunded request.paymentId true }, .refunded)

/-- What `refund` does once the network has carried it. -/
def Memory.refund (memory : Memory) (request : RefundRequest) : Memory × RefundResult :=
  if memory.charges request.paymentId = some (.succeeded request.providerReference) then
    memory.refundAtProvider request ((memory.tokens request.paymentId).getD "")
  else (memory, .failed "unknown_charge" false)

/-! ### Calls -/

inductive Stage (α : Type) where
  /-- `network` waits. -/
  | travelling
  /-- The network is done; the provider runs next. -/
  | arrived
  /-- `untilAborted`. -/
  | hanging
  | answered (result : α)
  deriving DecidableEq, Repr

/-- A call, and whether its timeout has fired. -/
structure PortCall (ρ α : Type) where
  request : ρ
  aborted : Bool := false
  stage : Stage α
  deriving DecidableEq, Repr

variable {ρ α : Type}

def PortCall.start (delayMs : Nat) (request : ρ) : PortCall ρ α where
  request := request
  stage := if delayMs > 0 then .travelling else .arrived

/-- The wait of `network` is over. -/
def PortCall.deliver (call : PortCall ρ α) : Option (PortCall ρ α) :=
  match call.stage with
  | .travelling => some { call with stage := .arrived }
  | _ => none

/-- The timeout fires: what waits is aborted, and answers `timedOut`. -/
def PortCall.abort (timedOut : α) (call : PortCall ρ α) : Option (PortCall ρ α) :=
  if call.aborted then none
  else
    some { call with
      aborted := true
      stage := match call.stage with
        | .travelling => .answered timedOut
        | .hanging => .answered timedOut
        | stage => stage }

/-- The provider ran: an answer, or none before the call is aborted. -/
def PortCall.served (timedOut : α) (result : Option α) (call : PortCall ρ α) : PortCall ρ α :=
  { call with
    stage := match result with
      | some result => .answered result
      | none => if call.aborted then .answered timedOut else .hanging }

/-- One call of a list goes on. -/
def goOn (calls : List (PortCall ρ α)) (i : Nat)
    (f : PortCall ρ α → Option (PortCall ρ α)) : Option (List (PortCall ρ α)) := do
  let call ← calls[i]?
  let next ← f call
  pure (calls.set i next)

/-! ### The gateway -/

abbrev Charging := PortCall ChargeRequest ChargeResult

abbrev Refunding := PortCall RefundRequest RefundResult

/-- The provider's memory, the calls, and what had an effect at the provider: the
charges it decided and the refunds it made. -/
structure Gateway where
  memory : Memory := {}
  charging : List Charging := []
  refunding : List Refunding := []
  decided : List (ChargeRequest × Verdict) := []
  returned : List RefundRequest := []

inductive Event where
  | charge (request : ChargeRequest)
  | chargeDelivered (i : Nat)
  | chargeRuns (i : Nat)
  | chargeTimesOut (i : Nat)
  | refund (request : RefundRequest)
  | refundDelivered (i : Nat)
  | refundRuns (i : Nat)
  | refundTimesOut (i : Nat)

def chargeTimedOut : ChargeResult := .unknown "timeout"

def refundTimedOut : RefundResult := .unknown "timeout"

namespace Gateway

/-- The provider serves a charge that has arrived. -/
def serveCharge (i : Nat) (g : Gateway) : Option Gateway := do
  let call ← g.charging[i]?
  if call.stage = .arrived then
    let (memory, verdict) := g.memory.charge call.request
    let decided := match g.memory.charges call.request.paymentId with
      | some _ => []
      | none => ((memory.charges call.request.paymentId).map fun v => (call.request, v)).toList
    some { g with
      memory
      charging := g.charging.set i (call.served chargeTimedOut (verdict.map (·.result)))
      decided := g.decided ++ decided }
  else none

/-- The provider serves a refund that has arrived. -/
def serveRefund (i : Nat) (g : Gateway) : Option Gateway := do
  let call ← g.refunding[i]?
  if call.stage = .arrived then
    let (memory, result) := g.memory.refund call.request
    let returned := if memory.refunded call.request.paymentId &&
        !g.memory.refunded call.request.paymentId then [call.request] else []
    some { g with
      memory
      refunding := g.refunding.set i (call.served refundTimedOut (some result))
      returned := g.returned ++ returned }
  else none

def step (delayMs : Nat) (g : Gateway) : Event → Option Gateway
  | .charge request => some { g with charging := g.charging ++ [.start delayMs request] }
  | .chargeDelivered i => (goOn g.charging i PortCall.deliver).map fun charging => { g with charging }
  | .chargeRuns i => g.serveCharge i
  | .chargeTimesOut i =>
      (goOn g.charging i (PortCall.abort chargeTimedOut)).map fun charging => { g with charging }
  | .refund request => some { g with refunding := g.refunding ++ [.start delayMs request] }
  | .refundDelivered i =>
      (goOn g.refunding i PortCall.deliver).map fun refunding => { g with refunding }
  | .refundRuns i => g.serveRefund i
  | .refundTimesOut i =>
      (goOn g.refunding i (PortCall.abort refundTimedOut)).map fun refunding => { g with refunding }

end Gateway

/-! ### What the provider does -/

variable {memory memory' : Memory} {g g' : Gateway} {delayMs i : Nat} {e : Event}

@[simp] theorem put_self (map : Uuid → α) (id : Uuid) (value : α) : put map id value id = value :=
  if_pos rfl

theorem put_other (map : Uuid → α) {id other : Uuid} (apart : other ≠ id) (value : α) :
    put map id value other = map other :=
  if_neg apart

/-- A charge is answered from memory, or does not reach the provider, or is decided. -/
theorem charge_cases (memory : Memory) (request : ChargeRequest) :
    (∃ v, memory.charges request.paymentId = some v ∧ memory.charge request = (memory, some v)) ∨
      (memory.charges request.paymentId = none ∧ ∃ memory' out,
        memory.charge request = (memory', out) ∧ memory'.refunded = memory.refunded ∧
          ((memory'.charges = memory.charges ∧ out = none) ∨
            (memory'.charges = put memory.charges request.paymentId (some (verdictOf request)) ∧
              ∀ v ∈ out, v = verdictOf request))) := by
  unfold Memory.charge
  cases memory.charges request.paymentId with
  | some v => exact .inl ⟨v, rfl, rfl⟩
  | none =>
      right
      refine ⟨rfl, ?_⟩
      dsimp only
      split
      · exact ⟨_, _, rfl, rfl, .inl ⟨rfl, rfl⟩⟩
      · split
        · exact ⟨_, _, rfl, rfl, .inr ⟨rfl, by simp⟩⟩
        · exact ⟨_, _, rfl, rfl, .inr ⟨rfl, by simp⟩⟩

/-- A refund leaves the charges alone, and has an effect at most the first time, for a
charge that succeeded with its reference. -/
theorem refund_cases (memory : Memory) (request : RefundRequest) :
    ∃ memory' r, memory.refund request = (memory', r) ∧ memory'.charges = memory.charges ∧
      (memory'.refunded = memory.refunded ∨
        (memory.refunded request.paymentId = false ∧
          memory'.refunded = put memory.refunded request.paymentId true ∧
          memory.charges request.paymentId = some (.succeeded request.providerReference))) := by
  unfold Memory.refund
  split
  · next charged =>
      unfold Memory.refundAtProvider
      split
      · exact ⟨_, _, rfl, rfl, .inl rfl⟩
      · next fresh =>
          split
          · exact ⟨_, _, rfl, rfl, .inl rfl⟩
          · dsimp only
            split
            · exact ⟨_, _, rfl, rfl, .inl rfl⟩
            · exact ⟨_, _, rfl, rfl, .inr ⟨by simpa using fresh, rfl, charged⟩⟩
  · exact ⟨_, _, rfl, rfl, .inl rfl⟩

/-- Once a refund had its effect, it is answered so again. -/
theorem refund_again {request : RefundRequest}
    (charged : memory.charges request.paymentId = some (.succeeded request.providerReference))
    (refunded : memory.refunded request.paymentId = true) :
    memory.refund request = (memory, .refunded) := by
  rw [Memory.refund, if_pos charged, Memory.refundAtProvider, if_pos refunded]

theorem goOn_eq_some {calls calls' : List (PortCall ρ α)}
    {f : PortCall ρ α → Option (PortCall ρ α)} (h : goOn calls i f = some calls') :
    ∃ call next, calls[i]? = some call ∧ f call = some next ∧ calls' = calls.set i next := by
  obtain ⟨call, there, rest⟩ := Option.bind_eq_some_iff.mp h
  obtain ⟨next, moved, same⟩ := Option.bind_eq_some_iff.mp rest
  exact ⟨call, next, there, moved, (Option.some.inj same).symm⟩

namespace Gateway

theorem serveCharge_cases (h : g.serveCharge i = some g') :
    ∃ (call : Charging) (memory' : Memory) (out : Option Verdict),
      g.charging[i]? = some call ∧ call.stage = .arrived ∧
      memory'.refunded = g.memory.refunded ∧
      (∀ v ∈ out, memory'.charges call.request.paymentId = some v) ∧
      ((memory'.charges = g.memory.charges ∧
          g' = { g with
            memory := memory'
            charging := g.charging.set i (call.served chargeTimedOut (out.map (·.result))) }) ∨
        (g.memory.charges call.request.paymentId = none ∧ ∃ v,
          memory'.charges = put g.memory.charges call.request.paymentId (some v) ∧
          g' = { g with
            memory := memory'
            charging := g.charging.set i (call.served chargeTimedOut (out.map (·.result)))
            decided := g.decided ++ [(call.request, v)] })) := by
  obtain ⟨call, there, rest⟩ := Option.bind_eq_some_iff.mp h
  dsimp only at rest
  split at rest
  · next arrived =>
      obtain ⟨v, known, recalled⟩ | ⟨unknown, memory', out, ran, refunded, outcome⟩ :=
        charge_cases g.memory call.request
      · rw [recalled, known] at rest
        simp only [List.append_nil, Option.some.injEq] at rest
        refine ⟨call, g.memory, some v, there, arrived, rfl, by simp [known], .inl ⟨rfl, rest.symm⟩⟩
      · rw [ran, unknown] at rest
        obtain ⟨same, rfl⟩ | ⟨decided, own⟩ := outcome
        · simp only [same, unknown, Option.map_none, Option.toList_none, List.append_nil,
            Option.some.injEq] at rest
          exact ⟨call, memory', none, there, arrived, refunded, by simp, .inl ⟨same, rest.symm⟩⟩
        · simp only [decided, put_self, Option.map_some, Option.toList_some, Option.some.injEq] at rest
          refine ⟨call, memory', out, there, arrived, refunded, ?_,
            .inr ⟨unknown, _, decided, rest.symm⟩⟩
          intro v mem
          rw [decided, put_self, own v mem]
  · cases rest

theorem serveRefund_cases (h : g.serveRefund i = some g') :
    ∃ (call : Refunding) (memory' : Memory) (r : RefundResult),
      g.refunding[i]? = some call ∧ call.stage = .arrived ∧
      g.memory.refund call.request = (memory', r) ∧ memory'.charges = g.memory.charges ∧
      ((memory'.refunded = g.memory.refunded ∧
          g' = { g with
            memory := memory'
            refunding := g.refunding.set i (call.served refundTimedOut (some r)) }) ∨
        (g.memory.refunded call.request.paymentId = false ∧
          memory'.refunded = put g.memory.refunded call.request.paymentId true ∧
          g.memory.charges call.request.paymentId =
            some (.succeeded call.request.providerReference) ∧
          g' = { g with
            memory := memory'
            refunding := g.refunding.set i (call.served refundTimedOut (some r))
            returned := g.returned ++ [call.request] })) := by
  obtain ⟨call, there, rest⟩ := Option.bind_eq_some_iff.mp h
  dsimp only at rest
  split at rest
  · next arrived =>
      obtain ⟨memory', r, ran, charges, outcome⟩ := refund_cases g.memory call.request
      rw [ran] at rest
      obtain same | ⟨fresh, refunded, charged⟩ := outcome
      · simp only [same, Bool.and_not_self, Bool.false_eq_true, if_false, List.append_nil,
          Option.some.injEq] at rest
        exact ⟨call, memory', r, there, arrived, ran, charges, .inl ⟨same, rest.symm⟩⟩
      · simp only [refunded, put_self, fresh, Bool.not_false, Bool.and_self, if_true,
          Option.some.injEq] at rest
        exact ⟨call, memory', r, there, arrived, ran, charges,
          .inr ⟨fresh, refunded, charged, rest.symm⟩⟩
  · cases rest

/-! ### The provider's memory and the answers -/

/-- An answer is the recorded verdict, or the call's own timeout. -/
def Justified (charges : Uuid → Option Verdict) (call : Charging) : Prop :=
  ∀ r, call.stage = .answered r →
    (∃ v, charges call.request.paymentId = some v ∧ r = v.result) ∨
      (r = chargeTimedOut ∧ call.aborted = true)

structure Sound (g : Gateway) : Prop where
  answers : ∀ call ∈ g.charging, Justified g.memory.charges call
  decided : ∀ d ∈ g.decided, g.memory.charges d.1.paymentId = some d.2
  recorded : ∀ id v, g.memory.charges id = some v → ∃ d ∈ g.decided, d.1.paymentId = id
  once : (g.decided.map (·.1.paymentId)).Nodup
  returned : ∀ request ∈ g.returned, g.memory.refunded request.paymentId = true ∧
    g.memory.charges request.paymentId = some (.succeeded request.providerReference)
  returnedOnce : (g.returned.map (·.paymentId)).Nodup

theorem sound_initial : Sound {} where
  answers _ mem := by cases mem
  decided _ mem := by cases mem
  recorded _ _ known := by cases known
  once := .nil
  returned _ mem := by cases mem
  returnedOnce := .nil

variable {charges charges' : Uuid → Option Verdict} {call next : Charging}

/-- Charges stay; no charge is decided twice. -/
def Extends (charges charges' : Uuid → Option Verdict) : Prop :=
  ∀ id v, charges id = some v → charges' id = some v

theorem extends_put {id : Uuid} (unknown : charges id = none) (v : Verdict) :
    Extends charges (put charges id (some v)) := by
  intro other v' known
  have apart : other ≠ id := by
    rintro rfl
    rw [unknown] at known
    cases known
  rw [put_other _ apart, known]

theorem Justified.mono (more : Extends charges charges') (h : Justified charges call) :
    Justified charges' call := by
  intro r answered
  obtain ⟨v, known, rfl⟩ | timedOut := h r answered
  · exact .inl ⟨v, more _ _ known, rfl⟩
  · exact .inr timedOut

theorem justified_start (delayMs : Nat) (request : ChargeRequest) :
    Justified charges (.start delayMs request) := by
  intro r answered
  simp only [PortCall.start] at answered
  split at answered <;> cases answered

theorem justified_deliver (h : call.deliver = some next) : Justified charges next := by
  intro r answered
  unfold PortCall.deliver at h
  split at h
  · cases h
    cases answered
  · cases h

theorem justified_abort (before : Justified charges call)
    (h : call.abort chargeTimedOut = some next) : Justified charges next := by
  unfold PortCall.abort at h
  split at h
  · cases h
  · cases h
    intro r answered
    dsimp only at answered ⊢
    split at answered
    · cases answered
      exact .inr ⟨rfl, rfl⟩
    · cases answered
      exact .inr ⟨rfl, rfl⟩
    · obtain known | ⟨same, -⟩ := before r answered
      · exact .inl known
      · exact .inr ⟨same, rfl⟩

theorem justified_served {out : Option Verdict}
    (own : ∀ v ∈ out, charges call.request.paymentId = some v) :
    Justified charges (call.served chargeTimedOut (out.map (·.result))) := by
  intro r answered
  cases out with
  | some v =>
      cases answered
      exact .inl ⟨v, own v rfl, rfl⟩
  | none =>
      simp only [PortCall.served, Option.map_none] at answered
      split at answered
      · next fired =>
          cases answered
          exact .inr ⟨rfl, fired⟩
      · cases answered

/-- One call of the list goes on, the others stay. -/
theorem Sound.charging (sound : g.Sound) {calls : List Charging}
    (answers : ∀ call ∈ calls, Justified g.memory.charges call) :
    Sound { g with charging := calls } where
  answers := answers
  decided := sound.decided
  recorded := sound.recorded
  once := sound.once
  returned := sound.returned
  returnedOnce := sound.returnedOnce

theorem Sound.refunding (sound : g.Sound) (calls : List Refunding) :
    Sound { g with refunding := calls } where
  answers := sound.answers
  decided := sound.decided
  recorded := sound.recorded
  once := sound.once
  returned := sound.returned
  returnedOnce := sound.returnedOnce

theorem justified_set (answers : ∀ call ∈ g.charging, Justified charges call)
    (own : Justified charges next) : ∀ call ∈ g.charging.set i next, Justified charges call := by
  intro call mem
  rcases List.mem_or_eq_of_mem_set mem with mem | rfl
  · exact answers call mem
  · exact own

theorem Sound.serveCharge (sound : g.Sound) (h : g.serveCharge i = some g') : g'.Sound := by
  obtain ⟨call, memory', out, there, -, refunded, own, outcome⟩ := serveCharge_cases h
  obtain ⟨same, rfl⟩ | ⟨unknown, v, charges, rfl⟩ := outcome
  · constructor
    · intro call' mem
      dsimp only at mem ⊢
      rw [same] at own ⊢
      exact justified_set sound.answers (justified_served own) call' mem
    · simpa only [same] using sound.decided
    · simpa only [same] using sound.recorded
    · exact sound.once
    · simpa only [same, refunded] using sound.returned
    · exact sound.returnedOnce
  · have more : Extends g.memory.charges memory'.charges := by
      rw [charges]
      exact extends_put unknown v
    have known : memory'.charges call.request.paymentId = some v := by rw [charges, put_self]
    constructor
    · exact justified_set (fun call mem => (sound.answers call mem).mono more) (justified_served own)
    · intro d mem
      rcases List.mem_append.mp mem with mem | mem
      · exact more _ _ (sound.decided d mem)
      · obtain rfl := List.mem_singleton.mp mem
        exact known
    · intro id v' recorded
      by_cases same : id = call.request.paymentId
      · exact ⟨(call.request, v), List.mem_append_right _ (List.mem_singleton_self _), same.symm⟩
      · rw [charges, put_other _ same] at recorded
        obtain ⟨d, mem, own⟩ := sound.recorded id v' recorded
        exact ⟨d, List.mem_append_left _ mem, own⟩
    · rw [List.map_append, List.map_singleton, List.nodup_append]
      refine ⟨sound.once, List.nodup_singleton _, ?_⟩
      intro id mem id' mem'
      obtain ⟨d, there, rfl⟩ := List.mem_map.mp mem
      obtain rfl := List.mem_singleton.mp mem'
      intro same
      have decided := sound.decided d there
      rw [same, unknown] at decided
      cases decided
    · intro request mem
      obtain ⟨done, charged⟩ := sound.returned request mem
      exact ⟨by rw [refunded, done], more _ _ charged⟩
    · exact sound.returnedOnce

theorem Sound.serveRefund (sound : g.Sound) (h : g.serveRefund i = some g') : g'.Sound := by
  obtain ⟨call, memory', r, there, -, -, charges, outcome⟩ := serveRefund_cases h
  obtain ⟨same, rfl⟩ | ⟨fresh, refunded, charged, rfl⟩ := outcome
  · constructor
    · simpa only [charges] using sound.answers
    · simpa only [charges] using sound.decided
    · simpa only [charges] using sound.recorded
    · exact sound.once
    · simpa only [charges, same] using sound.returned
    · exact sound.returnedOnce
  · constructor
    · simpa only [charges] using sound.answers
    · simpa only [charges] using sound.decided
    · simpa only [charges] using sound.recorded
    · exact sound.once
    · intro request mem
      dsimp only
      rw [charges, refunded]
      rcases List.mem_append.mp mem with mem | mem
      · obtain ⟨done, charged⟩ := sound.returned request mem
        refine ⟨?_, charged⟩
        by_cases same : request.paymentId = call.request.paymentId
        · rw [same, put_self]
        · rw [put_other _ same, done]
      · obtain rfl := List.mem_singleton.mp mem
        exact ⟨put_self .., charged⟩
    · rw [List.map_append, List.map_singleton, List.nodup_append]
      refine ⟨sound.returnedOnce, List.nodup_singleton _, ?_⟩
      intro id mem id' mem'
      obtain ⟨request, there, rfl⟩ := List.mem_map.mp mem
      obtain rfl := List.mem_singleton.mp mem'
      intro same
      have done := (sound.returned request there).1
      rw [same, fresh] at done
      cases done

theorem Sound.step (sound : g.Sound) (taken : g.step delayMs e = some g') : g'.Sound := by
  cases e with
  | charge request =>
      cases taken
      refine sound.charging fun call mem => ?_
      rcases List.mem_append.mp mem with mem | mem
      · exact sound.answers call mem
      · obtain rfl := List.mem_singleton.mp mem
        exact justified_start delayMs request
  | chargeDelivered i =>
      obtain ⟨calls, moved, rfl⟩ := Option.map_eq_some_iff.mp taken
      obtain ⟨call, next, there, delivered, rfl⟩ := goOn_eq_some moved
      exact sound.charging (justified_set sound.answers (justified_deliver delivered))
  | chargeRuns i => exact sound.serveCharge taken
  | chargeTimesOut i =>
      obtain ⟨calls, moved, rfl⟩ := Option.map_eq_some_iff.mp taken
      obtain ⟨call, next, there, aborted, rfl⟩ := goOn_eq_some moved
      have before := sound.answers call (List.mem_of_getElem? there)
      exact sound.charging (justified_set sound.answers (justified_abort before aborted))
  | refund request =>
      cases taken
      exact sound.refunding _
  | refundDelivered i =>
      obtain ⟨calls, moved, rfl⟩ := Option.map_eq_some_iff.mp taken
      exact sound.refunding calls
  | refundRuns i => exact sound.serveRefund taken
  | refundTimesOut i =>
      obtain ⟨calls, moved, rfl⟩ := Option.map_eq_some_iff.mp taken
      exact sound.refunding calls

/-! ### What stays -/

/-- Verdicts and refunds stay. -/
def Follows (g g' : Gateway) : Prop :=
  Extends g.memory.charges g'.memory.charges ∧
    ∀ id, g.memory.refunded id = true → g'.memory.refunded id = true

theorem follows_refl (g : Gateway) : Follows g g := ⟨fun _ _ known => known, fun _ done => done⟩

theorem Follows.trans {g₁ g₂ g₃ : Gateway} (first : Follows g₁ g₂) (second : Follows g₂ g₃) :
    Follows g₁ g₃ :=
  ⟨fun id v known => second.1 id v (first.1 id v known), fun id done => second.2 id (first.2 id done)⟩

theorem follows_step (taken : g.step delayMs e = some g') : Follows g g' := by
  cases e with
  | charge request =>
      cases taken
      exact follows_refl g
  | chargeDelivered i =>
      obtain ⟨calls, -, rfl⟩ := Option.map_eq_some_iff.mp taken
      exact follows_refl g
  | chargeRuns i =>
      obtain ⟨call, memory', out, -, -, refunded, -, outcome⟩ := serveCharge_cases taken
      obtain ⟨same, rfl⟩ | ⟨unknown, v, charges, rfl⟩ := outcome
      · exact ⟨fun id v known => by rw [same, known], fun id done => by rw [refunded, done]⟩
      · refine ⟨?_, fun id done => by rw [refunded, done]⟩
        dsimp only
        rw [charges]
        exact extends_put unknown v
  | chargeTimesOut i =>
      obtain ⟨calls, -, rfl⟩ := Option.map_eq_some_iff.mp taken
      exact follows_refl g
  | refund request =>
      cases taken
      exact follows_refl g
  | refundDelivered i =>
      obtain ⟨calls, -, rfl⟩ := Option.map_eq_some_iff.mp taken
      exact follows_refl g
  | refundRuns i =>
      obtain ⟨call, memory', r, -, -, -, charges, outcome⟩ := serveRefund_cases taken
      obtain ⟨same, rfl⟩ | ⟨-, refunded, -, rfl⟩ := outcome
      · exact ⟨fun id v known => by rw [charges, known], fun id done => by rw [same, done]⟩
      · refine ⟨fun id v known => by rw [charges, known], fun id done => ?_⟩
        dsimp only
        rw [refunded]
        unfold put
        split
        · rfl
        · exact done
  | refundTimesOut i =>
      obtain ⟨calls, -, rfl⟩ := Option.map_eq_some_iff.mp taken
      exact follows_refl g

/-- The refund call had its answer. -/
def Answered (g : Gateway) (i : Nat) : Prop :=
  ∃ call r, g.refunding[i]? = some call ∧ call.stage = .answered r

/-- From `g` on, a refund that had its effect is answered `refunded`, or not in time. -/
def Repeats (g : Gateway) (refund : RefundRequest) (later : Gateway) : Prop :=
  ∀ i call r, later.refunding[i]? = some call → call.request.paymentId = refund.paymentId →
    call.request.providerReference = refund.providerReference → call.stage = .answered r →
      g.Answered i ∨ r = .refunded ∨ r = refundTimedOut

theorem repeats_self (g : Gateway) (refund : RefundRequest) : g.Repeats refund g :=
  fun _ call r there _ _ answered => .inl ⟨call, r, there, answered⟩

variable {later later' : Gateway} {refund : RefundRequest} {moved moved' : Refunding}

/-- One refund call goes on, the others stay. -/
theorem Repeats.set (repeats : g.Repeats refund later)
    (own : ∀ r, moved.request.paymentId = refund.paymentId →
      moved.request.providerReference = refund.providerReference → moved.stage = .answered r →
        g.Answered i ∨ r = .refunded ∨ r = refundTimedOut) :
    g.Repeats refund { later with refunding := later.refunding.set i moved } := by
  intro j call r there
  by_cases same : i = j
  · subst same
    by_cases inside : i < later.refunding.length
    · rw [List.getElem?_set_self inside] at there
      cases there
      exact own r
    · rw [List.getElem?_eq_none (by simpa using inside)] at there
      cases there
  · rw [List.getElem?_set_ne same] at there
    exact repeats j call r there

theorem Repeats.start (repeats : g.Repeats refund later) (delayMs : Nat) (request : RefundRequest) :
    g.Repeats refund { later with refunding := later.refunding ++ [.start delayMs request] } := by
  intro j call r there
  by_cases old : j < later.refunding.length
  · rw [List.getElem?_append_left old] at there
    exact repeats j call r there
  · intro _ _ answered
    rw [List.getElem?_append_right (Nat.not_lt.mp old)] at there
    obtain rfl := List.mem_singleton.mp (List.mem_of_getElem? there)
    simp only [PortCall.start] at answered
    split at answered <;> cases answered

theorem Repeats.abort (repeats : g.Repeats refund later) {call : Refunding}
    (there : later.refunding[i]? = some call) (aborted : call.abort refundTimedOut = some moved) :
    g.Repeats refund { later with refunding := later.refunding.set i moved } := by
  refine repeats.set fun r sameId sameReference answered => ?_
  unfold PortCall.abort at aborted
  split at aborted
  · cases aborted
  · cases aborted
    dsimp only at answered sameId sameReference
    split at answered
    · cases answered
      exact .inr (.inr rfl)
    · cases answered
      exact .inr (.inr rfl)
    · exact repeats i call r there sameId sameReference answered

/-- Where a refund had its effect, the next step repeats it. -/
theorem Repeats.step (repeats : g.Repeats refund later)
    (refunded : later.memory.refunded refund.paymentId = true)
    (charged : later.memory.charges refund.paymentId = some (.succeeded refund.providerReference))
    (taken : later.step delayMs e = some later') : g.Repeats refund later' := by
  cases e with
  | charge request =>
      cases taken
      exact repeats
  | chargeDelivered i =>
      obtain ⟨calls, -, rfl⟩ := Option.map_eq_some_iff.mp taken
      exact repeats
  | chargeRuns i =>
      obtain ⟨call, memory', out, -, -, -, -, outcome⟩ := serveCharge_cases taken
      obtain ⟨-, rfl⟩ | ⟨-, v, -, rfl⟩ := outcome
      · exact repeats
      · exact repeats
  | chargeTimesOut i =>
      obtain ⟨calls, -, rfl⟩ := Option.map_eq_some_iff.mp taken
      exact repeats
  | refund request =>
      cases taken
      exact repeats.start delayMs request
  | refundDelivered i =>
      obtain ⟨calls, moved, rfl⟩ := Option.map_eq_some_iff.mp taken
      obtain ⟨call, next, there, delivered, rfl⟩ := goOn_eq_some moved
      refine repeats.set fun r _ _ answered => ?_
      unfold PortCall.deliver at delivered
      split at delivered
      · cases delivered
        cases answered
      · cases delivered
  | refundRuns i =>
      obtain ⟨call, memory', r, there, -, ran, -, outcome⟩ := serveRefund_cases taken
      have served : g.Repeats refund { later with
          refunding := later.refunding.set i (call.served refundTimedOut (some r)) } := by
        refine repeats.set fun r' sameId sameReference answered => ?_
        have again : later.memory.refund call.request = (later.memory, .refunded) := by
          refine refund_again ?_ ?_
          · rw [show call.request.paymentId = _ from sameId,
              show call.request.providerReference = _ from sameReference, charged]
          · rw [show call.request.paymentId = _ from sameId, refunded]
        rw [again] at ran
        cases ran
        cases answered
        exact .inr (.inl rfl)
      obtain ⟨-, rfl⟩ | ⟨-, -, -, rfl⟩ := outcome
      · exact served
      · exact served
  | refundTimesOut i =>
      obtain ⟨calls, moved, rfl⟩ := Option.map_eq_some_iff.mp taken
      obtain ⟨call, next, there, aborted, rfl⟩ := goOn_eq_some moved
      exact repeats.abort there aborted

/-! ### Over every run -/

/-- Whole runs, from a gateway that was just created. -/
theorem sound_run {events : List Event} (ran : Machine.run (step delayMs) events {} = some g) :
    g.Sound :=
  Machine.run_invariant (fun _ _ _ sound taken => Sound.step sound taken) ran sound_initial

theorem follows_run {events : List Event} (ran : Machine.run (step delayMs) events g = some later) :
    Follows g later :=
  Machine.run_invariant (fun _ _ _ follows taken => follows.trans (follows_step taken)) ran
    (follows_refl g)

theorem repeats_run {events : List Event} (sound : g.Sound) (returned : refund ∈ g.returned)
    (ran : Machine.run (step delayMs) events g = some later) : g.Repeats refund later := by
  obtain ⟨refunded, charged⟩ := sound.returned refund returned
  have both : Follows g later ∧ g.Repeats refund later := by
    refine @Machine.run_invariant _ _ _ (fun later => Follows g later ∧ g.Repeats refund later)
      ?_ events g later ran ⟨follows_refl g, repeats_self g refund⟩
    rintro s e s' ⟨follows, repeats⟩ taken
    exact ⟨follows.trans (follows_step taken),
      repeats.step (follows.2 _ refunded) (follows.1 _ _ charged) taken⟩
  exact both.2

/-! ### The promise -/

/-- The caller knows what came of the charge. -/
def Definite : ChargeResult → Prop
  | .unknown _ => False
  | _ => True

def isSuccess : Verdict → Bool
  | .succeeded _ => true
  | .declined _ => false

/-- How often money was taken for a payment. -/
def timesTaken (g : Gateway) (id : Uuid) : Nat :=
  g.decided.countP fun d => d.1.paymentId = id && isSuccess d.2

/-- How often it was given back. -/
def timesReturned (g : Gateway) (id : Uuid) : Nat := g.returned.countP fun request => request.paymentId = id

theorem isSuccess_iff {v : Verdict} : isSuccess v = true ↔ ∃ reference, v = .succeeded reference := by
  cases v <;> simp [isSuccess]

theorem result_succeeded {v : Verdict} {reference : String} :
    v.result = .succeeded reference ↔ v = .succeeded reference := by
  cases v <;> simp [Verdict.result]

/-- Among entries with distinct keys, at most one has a key and a property. -/
theorem countP_le_one {α κ : Type} [DecidableEq κ] {key : α → κ} {entries : List α}
    (distinct : (entries.map key).Nodup) (k : κ) (p : α → Bool) :
    entries.countP (fun a => key a = k && p a) ≤ 1 := by
  calc entries.countP (fun a => key a = k && p a)
      ≤ entries.countP (fun a => key a == k) := List.countP_mono_left fun a _ both => by
        simp only [Bool.and_eq_true, decide_eq_true_eq] at both
        exact beq_iff_eq.mpr both.1
    _ = (entries.map key).count k := by rw [List.count, List.countP_map]; rfl
    _ ≤ 1 := List.nodup_iff_count_le_one.mp distinct k

/-- Money was taken exactly if the verdict on the charge is a success. -/
theorem Sound.taken_iff (sound : g.Sound) {id : Uuid} :
    g.timesTaken id = 1 ↔ ∃ reference, g.memory.charges id = some (.succeeded reference) := by
  constructor
  · intro once
    have some : 0 < g.timesTaken id := by omega
    obtain ⟨d, mem, both⟩ := List.countP_pos_iff.mp some
    simp only [Bool.and_eq_true, decide_eq_true_eq] at both
    obtain ⟨reference, success⟩ := isSuccess_iff.mp both.2
    refine ⟨reference, ?_⟩
    rw [← both.1, sound.decided d mem, success]
  · rintro ⟨reference, known⟩
    obtain ⟨d, mem, own⟩ := sound.recorded id _ known
    have success : d.2 = .succeeded reference := by
      have decided := sound.decided d mem
      rw [own, known] at decided
      exact (Option.some.inj decided).symm
    have some : 0 < g.timesTaken id := by
      refine List.countP_pos_iff.mpr ⟨d, mem, ?_⟩
      rw [own, success]
      simp [isSuccess]
    have once := countP_le_one sound.once id fun d => isSuccess d.2
    exact Nat.le_antisymm once some

/-- A definite answer is the recorded verdict. -/
theorem Sound.definite (sound : g.Sound) {call : Charging} (mem : call ∈ g.charging)
    {r : ChargeResult} (answered : call.stage = .answered r) (definite : Definite r) :
    ∃ v, g.memory.charges call.request.paymentId = some v ∧ r = v.result := by
  obtain known | ⟨rfl, -⟩ := sound.answers call mem r answered
  · exact known
  · exact definite.elim

/-- Where a definite answer was given, money was taken exactly if it is a success. -/
theorem Sound.taken_iff_succeeded (sound : g.Sound) {call : Charging} (mem : call ∈ g.charging)
    {r : ChargeResult} (answered : call.stage = .answered r) (definite : Definite r) :
    g.timesTaken call.request.paymentId = 1 ↔ ∃ reference, r = .succeeded reference := by
  obtain ⟨v, known, rfl⟩ := sound.definite mem answered definite
  rw [sound.taken_iff, known]
  simp only [Option.some.injEq, result_succeeded]

/-- The port's promise, over every sequence and interleaving of calls: the definite
answers to the charges of a payment agree; money is taken at most once, exactly if they
are a success; a refund has an effect at most once, and only for a charge that succeeded
with its reference; an unknown charge has timed out. In all that follows, a charge whose
money was taken is answered as a success, and a refund that had its effect is answered
`refunded`, if in time. -/
theorem simulator_keeps_promise {events : List Event}
    (ran : Machine.run (step delayMs) events {} = some g) :
    (∀ call ∈ g.charging, ∀ r, call.stage = .answered r → Definite r →
      (∀ call' ∈ g.charging, call'.request.paymentId = call.request.paymentId →
        ∀ r', call'.stage = .answered r' → Definite r' → r' = r) ∧
      (g.timesTaken call.request.paymentId = 1 ↔ ∃ reference, r = .succeeded reference)) ∧
    (∀ id, g.timesTaken id ≤ 1 ∧ g.timesReturned id ≤ 1) ∧
    (∀ refund ∈ g.returned, ∃ d ∈ g.decided, d.1.paymentId = refund.paymentId ∧
      d.2 = .succeeded refund.providerReference) ∧
    (∀ call ∈ g.charging, ∀ reason, call.stage = .answered (.unknown reason) →
      call.aborted = true) ∧
    ∀ more later, Machine.run (step delayMs) more g = some later →
      (∀ call ∈ later.charging, g.timesTaken call.request.paymentId = 1 →
        ∀ r, call.stage = .answered r → Definite r → ∃ reference, r = .succeeded reference) ∧
      ∀ refund ∈ g.returned, g.Repeats refund later := by
  have sound := sound_run ran
  refine ⟨?_, ?_, ?_, ?_, ?_⟩
  · intro call mem r answered definite
    refine ⟨?_, sound.taken_iff_succeeded mem answered definite⟩
    intro call' mem' same r' answered' definite'
    obtain ⟨v, known, rfl⟩ := sound.definite mem answered definite
    obtain ⟨v', known', rfl⟩ := sound.definite mem' answered' definite'
    rw [same, known] at known'
    rw [Option.some.inj known']
  · intro id
    refine ⟨countP_le_one sound.once id _, ?_⟩
    have once := countP_le_one sound.returnedOnce id fun _ => true
    simp only [Bool.and_true] at once
    exact once
  · intro refund mem
    obtain ⟨-, charged⟩ := sound.returned refund mem
    obtain ⟨d, decided, own⟩ := sound.recorded _ _ charged
    refine ⟨d, decided, own, ?_⟩
    have known := sound.decided d decided
    rw [own, charged] at known
    exact (Option.some.inj known).symm
  · intro call mem reason answered
    obtain ⟨v, -, same⟩ | ⟨-, aborted⟩ := sound.answers call mem _ answered
    · cases v <;> cases same
    · exact aborted
  · intro more later ran'
    refine ⟨?_, fun refund mem => repeats_run sound mem ran'⟩
    intro call mem taken r answered definite
    have sound' : later.Sound :=
      Machine.run_invariant (fun _ _ _ sound taken => Sound.step sound taken) ran' sound
    obtain ⟨reference, known⟩ := sound.taken_iff.mp taken
    rw [← sound'.taken_iff_succeeded mem answered definite, sound'.taken_iff]
    exact ⟨reference, (follows_run ran').1 _ _ known⟩

/-- A charge whose answer is lost, charged again with another token, and refunded twice. -/
def lostResponse : List Event :=
  [.charge ⟨7, ⟨1450000, by decide⟩, LOST_RESPONSE_TOKEN⟩, .chargeDelivered 0, .chargeRuns 0,
    .charge ⟨7, ⟨1450000, by decide⟩, DECLINE_TOKEN⟩, .chargeTimesOut 0, .chargeDelivered 1,
    .chargeRuns 1, .refund ⟨7, chargeReference 7, ⟨1450000, by decide⟩⟩, .refundDelivered 0,
    .refundRuns 0]

theorem simulator_keeps_promise_lostResponse :
    ∃ g, Machine.run (step 25) lostResponse {} = some g ∧
      g.charging.map (fun call => (call.request.paymentId, call.stage)) =
        [(7, .answered (.unknown "timeout")), (7, .answered (.succeeded (chargeReference 7)))] ∧
      g.timesTaken 7 = 1 ∧ g.timesReturned 7 ≤ 1 ∧
      ∀ more later, Machine.run (step 25) more g = some later →
        ∀ refund ∈ g.returned, g.Repeats refund later := by
  have runs : (Machine.run (step 25) lostResponse {}).map
      (fun g => g.charging.map fun call => (call.request.paymentId, call.stage)) =
      some [(7, .answered (.unknown "timeout")), (7, .answered (.succeeded (chargeReference 7)))] := by
    decide +kernel
  obtain ⟨g, ran, calls⟩ := Option.map_eq_some_iff.mp runs
  obtain ⟨agree, once, -, -, after⟩ := simulator_keeps_promise ran
  have second : ((7 : Uuid), Stage.answered (ChargeResult.succeeded (chargeReference 7))) ∈
      g.charging.map fun call => (call.request.paymentId, call.stage) := by
    rw [calls]
    exact .tail _ (List.mem_singleton_self _)
  obtain ⟨call, mem, same⟩ := List.mem_map.mp second
  have taken := (agree call mem _ (Prod.mk.inj same).2 trivial).2.mpr ⟨_, rfl⟩
  rw [(Prod.mk.inj same).1] at taken
  exact ⟨g, ran, calls, taken, (once 7).2, fun more later ran' => (after more later ran').2⟩

/-! ### The provider the service is verified against -/

/-- The books a provider keeps. -/
def books (g : Gateway) : Provider where
  verdicts := g.decided.map fun d => (d.1.paymentId, d.2)
  charged := (g.decided.filter fun d => isSuccess d.2).map fun d => (d.1.paymentId, d.1.amount)
  refunded := g.returned.map fun request => (request.paymentId, request.amount)

theorem Sound.verdict (sound : g.Sound) (id : Uuid) : g.books.verdict? id = g.memory.charges id := by
  rw [Provider.verdict?, books]
  cases found : (g.decided.map fun d => (d.1.paymentId, d.2)).find? fun v => v.1 = id with
  | none =>
      cases known : g.memory.charges id with
      | none => rfl
      | some v =>
          obtain ⟨d, mem, own⟩ := sound.recorded id v known
          have other := List.find?_eq_none.mp found _ (List.mem_map_of_mem mem)
          exact absurd own (by simpa using other)
  | some v =>
      obtain ⟨d, mem, rfl⟩ := List.mem_map.mp (List.mem_of_find?_eq_some found)
      have own : d.1.paymentId = id := by simpa using List.find?_some found
      rw [← own, sound.decided d mem, Option.map_some]

theorem Sound.charged (sound : g.Sound) {id : Uuid} :
    g.books.charged.any (fun c => c.1 = id) = true ↔
      ∃ reference, g.memory.charges id = some (.succeeded reference) := by
  simp only [books, List.any_map, List.any_eq_true, List.mem_filter, Function.comp_apply,
    decide_eq_true_eq]
  constructor
  · rintro ⟨d, ⟨mem, success⟩, own⟩
    obtain ⟨reference, success⟩ := isSuccess_iff.mp success
    exact ⟨reference, by rw [← own, sound.decided d mem, success]⟩
  · rintro ⟨reference, known⟩
    obtain ⟨d, mem, own⟩ := sound.recorded id _ known
    have decided := sound.decided d mem
    rw [own, known] at decided
    exact ⟨d, ⟨mem, isSuccess_iff.mpr ⟨reference, (Option.some.inj decided).symm⟩⟩, own⟩

/-- The books change as those of a provider that keeps the port's promise. -/
theorem books_step (sound : g.Sound) (taken : g.step delayMs e = some g') :
    g'.books = g.books ∨
      (∃ (request : ChargeRequest) (wanted : Verdict),
        g'.books = (g.books.charge request.paymentId request.amount wanted).2) ∨
      ∃ request : RefundRequest,
        g'.books = g.books.refund request.paymentId request.amount := by
  cases e with
  | charge request =>
      cases taken
      exact .inl rfl
  | chargeDelivered i =>
      obtain ⟨calls, -, rfl⟩ := Option.map_eq_some_iff.mp taken
      exact .inl rfl
  | chargeRuns i =>
      obtain ⟨call, memory', out, -, -, -, -, outcome⟩ := serveCharge_cases taken
      obtain ⟨-, rfl⟩ | ⟨unknown, v, -, rfl⟩ := outcome
      · exact .inl rfl
      · refine .inr (.inl ⟨call.request, v, ?_⟩)
        have fresh : g.books.verdict? call.request.paymentId = none := by
          rw [sound.verdict, unknown]
        have untaken : g.books.charged.any (fun c => c.1 = call.request.paymentId) = false := by
          rw [Bool.eq_false_iff, ne_eq, sound.charged, unknown]
          rintro ⟨_, h⟩
          cases h
        cases v with
        | succeeded reference =>
            simp only [Provider.charge, Provider.take, fresh, Option.getD_none, Option.isSome_none,
              Bool.false_eq_true, if_false, untaken]
            simp [books, isSuccess]
        | declined reason =>
            simp only [Provider.charge, fresh, Option.getD_none, Option.isSome_none,
              Bool.false_eq_true, if_false]
            simp [books, isSuccess]
  | chargeTimesOut i =>
      obtain ⟨calls, -, rfl⟩ := Option.map_eq_some_iff.mp taken
      exact .inl rfl
  | refund request =>
      cases taken
      exact .inl rfl
  | refundDelivered i =>
      obtain ⟨calls, -, rfl⟩ := Option.map_eq_some_iff.mp taken
      exact .inl rfl
  | refundRuns i =>
      obtain ⟨call, memory', r, -, -, -, -, outcome⟩ := serveRefund_cases taken
      obtain ⟨-, rfl⟩ | ⟨fresh, -, charged, rfl⟩ := outcome
      · exact .inl rfl
      · refine .inr (.inr ⟨call.request, ?_⟩)
        have isCharged := sound.charged.mpr ⟨_, charged⟩
        have unreturned : g.books.refunded.any (fun c => c.1 = call.request.paymentId) = false := by
          rw [Bool.eq_false_iff, ne_eq, books, List.any_map, List.any_eq_true]
          rintro ⟨request, mem, own⟩
          have done := (sound.returned request mem).1
          have isPayment : request.paymentId = call.request.paymentId := of_decide_eq_true own
          rw [isPayment, fresh] at done
          cases done
        simp only [Provider.refund, isCharged, unreturned, Bool.not_false, Bool.and_self, if_true]
        simp [books]
  | refundTimesOut i =>
      obtain ⟨calls, -, rfl⟩ := Option.map_eq_some_iff.mp taken
      exact .inl rfl

end Gateway

end Simulator

end FlightBooking
