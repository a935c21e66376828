import FlightBooking.Library.Discipline
import FlightBooking.System.Effects
import FlightBooking.System.UseCases

/-!
What the threads know when they act.

A thread acts on what earlier steps answered it: it settles the payment it started
or took from the queue, with the answer the provider gave; it stores a flight with
fares checked against an aircraft it found. `knowledge` states this for every
transaction and call, in terms of the commits and the logs of the environment, and
`invocation_acts` proves it of every use case and job.
-/

namespace FlightBooking

open Interaction ReadCommitted Relational

/-! ### What commits teach -/

/-- The payment a phase 1 started. -/
def Transaction.started? : (x : Transaction) → x.Result → Option Payment
  | .startPayment .., .started payment => some payment
  | _, _ => none

/-- The payments a reconciliation run claimed. -/
def Transaction.claimed? : (x : Transaction) → x.Result → Option (List Payment)
  | .claimDue .., payments => some payments
  | _, _ => none

/-- The payment a settlement or a recording works on. -/
def Transaction.records? : Transaction → Option Uuid
  | .settleDeclined payment .. | .settleCharged payment .. | .recordRefund payment .. =>
      some payment.id
  | .reschedule paymentId .. => some paymentId
  | _ => none

/-- The entries a relay tick found unpublished, in the order it hands them over. -/
def Transaction.unpublished? : (x : Transaction) → x.Result → Option (List OutboxEntry)
  | .findUnpublished .., entries => some entries
  | _, _ => none

/-- The aircraft a search found. -/
def Transaction.aircraft? : (x : Transaction) → x.Result → Option Aircraft
  | .findAircraft _, aircraft => aircraft
  | _, _ => none

/-! ### The logs of one thread -/

/-- The entries of a log that thread `t` made. -/
def ofThread {α : Type} (t : Nat) (log : List (Nat × α)) : List α :=
  (log.filter fun entry => entry.1 = t).map (·.2)

theorem ofThread_append {α : Type} (t : Nat) (log log' : List (Nat × α)) :
    ofThread t (log ++ log') = ofThread t log ++ ofThread t log' := by
  simp [ofThread]

theorem ofThread_own {α : Type} (t : Nat) (log : List (Nat × α)) (a : α) :
    ofThread t (log ++ [(t, a)]) = ofThread t log ++ [a] := by
  simp [ofThread]

theorem ofThread_other {α : Type} {t u : Nat} (ne : u ≠ t) (log : List (Nat × α)) (a : α) :
    ofThread t (log ++ [(u, a)]) = ofThread t log := by
  simp [ofThread, ne]

theorem mem_ofThread {α : Type} {t : Nat} {log : List (Nat × α)} {a : α} :
    a ∈ ofThread t log ↔ (t, a) ∈ log := by
  simp [ofThread]

/-- What thread `t` committed. -/
def commitsOf (t : Nat) (w : World app) : List (Commit app) :=
  w.commits.filter fun c => c.thread = t

/-- The batches thread `t` claimed. -/
def claimsOf (t : Nat) (w : World app) : List (List Payment) :=
  (commitsOf t w).filterMap fun c => c.tx.claimed? c.result

/-! ### What a thread relies on -/

/-- The environment moved, by others than thread `t`: its logs grew, and those of
`t` did not. -/
structure Env.Grows (t : Nat) (e e' : Env) : Prop where
  answers : e.chargeAnswers <+: e'.chargeAnswers
  refunded : e.provider.refunded <+: e'.provider.refunded
  handed : e.handed <+: e'.handed
  taken : ofThread t e'.taken = ofThread t e.taken
  refundCalls : ofThread t e'.refundCalls = ofThread t e.refundCalls
  dispatched : ofThread t e'.dispatched = ofThread t e.dispatched
  idempotent : e'.idempotent = e.idempotent
  steady : e'.steady = e.steady
  clock : e.steady = true → e.clock ≤ e'.clock

theorem Env.Grows.refl (t : Nat) (e : Env) : e.Grows t e :=
  ⟨List.prefix_refl _, List.prefix_refl _, List.prefix_refl _, rfl, rfl, rfl, rfl, rfl,
    fun _ => le_refl _⟩

theorem Env.Grows.trans {t : Nat} {e e' e'' : Env} (h : e.Grows t e') (h' : e'.Grows t e'') :
    e.Grows t e'' where
  answers := h.answers.trans h'.answers
  refunded := h.refunded.trans h'.refunded
  handed := h.handed.trans h'.handed
  taken := h'.taken.trans h.taken
  refundCalls := h'.refundCalls.trans h.refundCalls
  dispatched := h'.dispatched.trans h.dispatched
  idempotent := h'.idempotent.trans h.idempotent
  steady := h'.steady.trans h.steady
  clock steady := le_trans (h.clock steady) (h'.clock (h.steady.trans steady))

theorem Env.Grows.tick {t : Nat} {e e' : Env} {now : Instant} (h : e.tick now = some e') :
    e.Grows t e' := by
  unfold Env.tick at h
  split at h
  · cases h
  · rename_i forward
    cases h
    exact { Env.Grows.refl t e with
      clock := fun steady => not_lt.mp fun back => forward ⟨steady, back⟩ }

theorem Provider.refund_grows (p : Provider) (id : Uuid) (amount : Money) :
    p.refunded <+: (p.refund id amount).refunded := by
  unfold Provider.refund
  split
  · exact List.prefix_append _ _
  · exact List.prefix_refl _

theorem Provider.charge_refunded (p : Provider) (id : Uuid) (amount : Money) (wanted : Verdict) :
    (p.charge id amount wanted).2.refunded = p.refunded := by
  unfold Provider.charge Provider.take
  dsimp only
  split <;> split_ifs <;> rfl

theorem Env.logCharge_grows {t : Nat} (e : Env) (id : Uuid) (answer : Except Failure ChargeResult) :
    e.Grows t (e.logCharge id answer) := by
  cases answer with
  | error => exact .refl t e
  | ok r => exact { Env.Grows.refl t e with answers := List.prefix_append _ _ }

/-- Charging changes the provider's books and the log of answers only. -/
theorem Env.answerCharge_grows {t : Nat} {e e' : Env} {request : ChargeRequest} {choice : Choice} {r}
    (h : e.answerCharge request choice = some (r, e')) : e.Grows t e' := by
  have books : ∀ provider : Provider, provider.refunded = e.provider.refunded →
      e.Grows t { e with provider } := fun provider same =>
    { Env.Grows.refl t e with refunded := same ▸ List.prefix_refl _ }
  cases choice with
  | definite wanted =>
      cases h
      exact (books _ (Provider.charge_refunded ..)).trans (Env.logCharge_grows ..)
  | unclear acts answer =>
      cases h
      refine (books _ ?_).trans (Env.logCharge_grows ..)
      cases acts with
      | none => rfl
      | some wanted => exact Provider.charge_refunded ..
  | anyCharge answer =>
      unfold Env.answerCharge at h
      dsimp only at h
      split at h <;> cases h
      exact Env.logCharge_grows ..
  | _ => cases h

/-- The provider's books after a refund request it acted on or kept for later. -/
def Provider.asked (p : Provider) (acts : Bool) (id : Uuid) (amount : Money) : Provider :=
  if acts then p.refund id amount else { p with sentRefunds := p.sentRefunds ++ [(id, amount)] }

theorem Env.answerRefund_some {t : Nat} {e e' : Env} {request : RefundRequest} {choice : Choice} {r}
    (h : e.answerRefund t request choice = some (r, e')) : ∃ acts,
      e' = { e with
        provider := e.provider.asked acts request.paymentId request.amount
        refundCalls := e.refundCalls ++ [(t, request.paymentId)] } ∧
      (r = .ok .refunded → e.idempotent = true →
        ∃ c ∈ e'.provider.refunded, c.1 = request.paymentId) := by
  cases choice with
  | refund acts answer =>
      cases answer with
      | error err =>
          simp only [Env.answerRefund, Bool.false_eq_true, false_and, if_false] at h
          cases h
          exact ⟨acts, rfl, nofun⟩
      | ok back =>
          cases back with
          | refunded =>
              simp only [Env.answerRefund, true_and, Option.ite_none_left_eq_some] at h
              obtain ⟨may, same⟩ := h
              cases same
              refine ⟨acts, rfl, fun _ idempotent => ?_⟩
              simpa [Provider.asked, idempotent] using may
          | failed | unknown =>
              simp only [Env.answerRefund, Bool.false_eq_true, false_and, if_false] at h
              cases h
              exact ⟨acts, rfl, nofun⟩
  | _ => cases h

/-- A call of another thread. -/
theorem Env.perform_grows {t u : Nat} (ne : u ≠ t) {e e' : Env} {q : Call} {choice : Choice} {r}
    (h : e.perform u q choice = some (r, e')) : e.Grows t e' := by
  have refl := Env.Grows.refl t e
  unfold Env.perform at h
  split at h
  · obtain ⟨e'', ticked, same⟩ := Option.map_eq_some_iff.mp h
    cases same
    exact .tick ticked
  · exact Env.answerCharge_grows h
  · obtain ⟨acts, rfl, -⟩ := Env.answerRefund_some h
    refine { refl with refunded := ?_, refundCalls := ofThread_other ne .. }
    dsimp only [Provider.asked]
    split
    · exact Provider.refund_grows ..
    · exact List.prefix_refl _
  · cases h
    exact { refl with handed := List.prefix_append _ _ }
  · cases h
    exact { refl with dispatched := ofThread_other ne .. }
  · obtain ⟨job, -, same⟩ := Option.map_eq_some_iff.mp h
    cases same
    exact { refl with taken := ofThread_other ne .. }
  · cases h
    exact { refl with }
  · extract_lets done at h
    split at h
    · obtain ⟨-, rfl⟩ := Prod.ext_iff.mp (Option.some.inj h)
      exact refl
    · cases h
  · obtain ⟨s, -, same⟩ := Option.map_eq_some_iff.mp h
    cases same
    exact { refl with refunded := (Provider.charge_refunded ..) ▸ List.prefix_refl _ }
  · obtain ⟨s, -, same⟩ := Option.map_eq_some_iff.mp h
    cases same
    exact { refl with refunded := Provider.refund_grows .. }
  · cases h

/-- The world moved, by others than thread `t`. -/
structure Relies (t : Nat) (w w' : World app) : Prop where
  commits : w.commits <+: w'.commits
  own : commitsOf t w' = commitsOf t w
  env : w.env.Grows t w'.env

theorem Relies.refl (t : Nat) (w : World app) : Relies t w w :=
  ⟨List.prefix_refl _, rfl, .refl t _⟩

theorem Relies.trans {t : Nat} {w w' w'' : World app} (h : Relies t w w') (h' : Relies t w' w'') :
    Relies t w w'' :=
  ⟨h.commits.trans h'.commits, h'.own.trans h.own, h.env.trans h'.env⟩

theorem Relies.claims {t : Nat} {w w' : World app} (h : Relies t w w') :
    claimsOf t w' = claimsOf t w := by
  rw [claimsOf, h.own, claimsOf]

theorem commitsOf_commit_other {t : Nat} (w : World app) {c : Commit app} (ne : c.thread ≠ t) :
    commitsOf t (w.commit c) = commitsOf t w := by
  simp [commitsOf, ne]

theorem commitsOf_commit_own (w : World app) (c : Commit app) :
    commitsOf c.thread (w.commit c) = commitsOf c.thread w ++ [c] := by
  simp [commitsOf]

theorem claimsOf_commit_other {t : Nat} (w : World app) {c : Commit app} (ne : c.thread ≠ t) :
    claimsOf t (w.commit c) = claimsOf t w := by
  rw [claimsOf, commitsOf_commit_other w ne, claimsOf]

theorem claimsOf_commit_own (w : World app) (c : Commit app) :
    claimsOf c.thread (w.commit c) = claimsOf c.thread w ++ (c.tx.claimed? c.result).toList := by
  have last : [c].filterMap (fun c => c.tx.claimed? c.result) = (c.tx.claimed? c.result).toList := by
    cases h : c.tx.claimed? c.result <;> simp [h]
  rw [claimsOf, commitsOf_commit_own, List.filterMap_append, last, claimsOf]

/-! ### What a thread knows -/

/-- Thread `t` has the payment in hand: it started it, or took it from the queue. -/
def Holds (t : Nat) (w : World app) (payment : Payment) : Prop :=
  (∃ c ∈ w.commits, c.thread = t ∧ c.tx.started? c.result = some payment) ∨
    (t, payment) ∈ w.env.taken

/-- Thread `t` has not settled, recorded or put off a payment yet. -/
def Unrecorded (t : Nat) (w : World app) : Prop :=
  ∀ c ∈ commitsOf t w, c.tx.records? = none

/-- The clock has shown `now`, or it may show anything. -/
def Shown (w : World app) (now : Instant) : Prop :=
  w.env.steady = true → now ≤ w.env.clock

/-- What thread `t` knows when it begins a transaction. -/
def Knows (t : Nat) (x : Transaction) (w : World app) : Prop :=
  match x with
  | .createFlight flight .. =>
      (∃ c ∈ w.commits, c.tx.aircraft? c.result = some flight.aircraft) ∧
        checkFaresMatchSeats flight.fares (countSeatsByFareClass flight.aircraft.seats) = []
  | .cancelBooking _ _ _ _ _ now => Shown w now
  | .changeSeat _ _ _ _ _ _ _ now => Shown w now
  | .expireBatch now _ _ => Shown w now
  | .settleDeclined payment reason .. =>
      Holds t w payment ∧ (payment.id, .declined reason) ∈ w.env.chargeAnswers ∧ Unrecorded t w
  | .settleCharged payment reference .. =>
      Holds t w payment ∧ (payment.id, .succeeded reference) ∈ w.env.chargeAnswers ∧
        Unrecorded t w
  | .recordRefund payment record _ =>
      (t, payment) ∈ w.env.taken ∧ (record = .refunded → w.env.idempotent = true →
        ∃ c ∈ w.env.provider.refunded, c.1 = payment.id) ∧ Unrecorded t w
  | .reschedule id status _ => ∃ payment, (t, payment) ∈ w.env.taken ∧ payment.id = id ∧
      (status = if payment.status = .processing then .processing else .refundPending) ∧
      Unrecorded t w
  | .deleteCompletedBefore cutoff _ => Shown w (cutoff + IDEMPOTENCY_KEY_RETENTION_MS)
  | .markPublished id => ∃ entry ∈ w.env.handed, entry.id = id
  | _ => True

/-- What thread `t` knows when it makes a call. -/
def KnowsToCall (t : Nat) (q : Call) (w : World app) : Prop :=
  match q with
  | .charge request => ∃ payment, Holds t w payment ∧ request.paymentId = payment.id ∧
      request.amount = payment.amount
  | .refund request => ∃ payment, (t, payment) ∈ w.env.taken ∧ payment.status ≠ .processing ∧
      request.paymentId = payment.id ∧ request.amount = payment.amount ∧
      ofThread t w.env.refundCalls ++ [payment.id] <+:
        ((ofThread t w.env.taken).filter (·.status ≠ .processing)).map (·.id)
  | .publish entry => ∃ c ∈ w.commits, ∃ before after,
      c.tx.unpublished? c.result = some (before ++ entry :: after) ∧ ∀ e ∈ before, e ∈ w.env.handed
  | .dispatch payments => claimsOf t w = ofThread t w.env.dispatched ++ [payments]
  | _ => True

/-- Every thread acts on what it knows, and relies on the others not to undo it. -/
def knowledge : Discipline app where
  Rely := Relies
  May := Knows
  MayCall := KnowsToCall
  refl := Relies.refl
  trans _ _ _ _ := Relies.trans
  tick _ _ _ _ ticked := ⟨List.prefix_refl _, rfl, .tick ticked⟩
  call _ _ _ _ _ _ _ ne performed := ⟨List.prefix_refl _, rfl, Env.perform_grows ne performed⟩
  commit _ w _ ne := ⟨List.prefix_append _ _, commitsOf_commit_other w ne, .refl _ _⟩

/-! ### Programs that act on what they know -/

section Rules

variable {t : Nat} {w : World app} {α β : Type}

/-- Running the program from world `w` on, thread `t` does only what it knows it may. -/
def Acts (t : Nat) (p : UseCase α) (w : World app) : Prop :=
  knowledge.Follows t (fun _ _ => True) (fun _ => True) p w

theorem Acts.mono {p : UseCase α} {w' : World app} (moved : Relies t w w') (h : Acts t p w) :
    Acts t p w' :=
  Discipline.Follows.mono (D := knowledge) moved h

theorem acts_ret (a : α) : Acts t (.ret a) w := fun _ _ => trivial

theorem acts_fail (e : Failure) : Acts t (.fail e : UseCase α) w := fun _ _ => trivial

/-- A transaction, and what follows it. -/
theorem acts_run {x : Transaction} {f : x.Result → UseCase α}
    (h : ∀ w', Relies t w w' → Knows t x w' ∧ ∀ now r begun log held spans w'',
      Relies t (w'.commit ⟨t, x, now, r, begun, log, held, spans⟩) w'' → Acts t (f r) w'') :
    Acts t (app.run x >>= f) w := by
  refine Discipline.Follows.bind (Discipline.Follows.run fun w' moved => ?_)
  obtain ⟨knows, rest⟩ := h w' moved
  exact ⟨knows, trivial, fun now r begun log held spans =>
    ⟨fun w'' later => rest now r begun log held spans w'' later, fun _ _ => trivial⟩⟩

/-- A transaction at the end. -/
theorem acts_run_end {x : Transaction} (h : ∀ w', Relies t w w' → Knows t x w') :
    Acts t (app.run x) w :=
  Discipline.Follows.run fun w' moved => ⟨h w' moved, trivial, fun _ _ _ _ _ _ =>
    ⟨fun _ _ => trivial, fun _ _ => trivial⟩⟩

/-- A call, and what follows it. -/
theorem acts_ask {q : Call} {f : q.Answer → UseCase α}
    (h : ∀ w', Relies t w w' → KnowsToCall t q w' ∧ ∀ choice r env,
      Env.perform t w'.env q choice = some (r, env) →
        ∀ w'', Relies t { w' with env } w'' → Acts t (f r) w'') :
    Acts t (app.ask q >>= f) w :=
  Discipline.Follows.bind (Discipline.Follows.ask h)

theorem acts_rethrow {r : Except Failure β} {f : β → UseCase α} (h : ∀ b, r = .ok b → Acts t (f b) w) :
    Acts t (orRethrow r >>= f) w := by
  cases r with
  | ok b => exact h b rfl
  | error e => exact acts_fail e

theorem acts_map {p : UseCase β} {f : β → α} (h : Acts t p w) : Acts t (f <$> p) w :=
  Discipline.Follows.bind (h.imp (fun _ _ _ _ _ => trivial) fun _ _ => trivial)

/-- Reading the clock: the time it shows is shown from then on. -/
theorem acts_readClock {f : Instant → UseCase α}
    (h : ∀ now w', Relies t w w' → Shown w' now → Acts t (f now) w') :
    Acts t (app.ask .readClock >>= f) w := by
  refine acts_ask fun w' moved => ⟨trivial, fun choice now env performed w'' later => ?_⟩
  cases choice with
  | time at' =>
      obtain ⟨env', ticked, same⟩ := Option.map_eq_some_iff.mp performed
      cases same
      have own : Relies t w' { w' with env } := ⟨List.prefix_refl _, rfl, .tick ticked⟩
      refine h now w'' ((moved.trans own).trans later) fun steady => ?_
      have shows : env.clock = now := by
        unfold Env.tick at ticked
        split at ticked <;> cases ticked
        rfl
      have steady' : env.steady = true := later.env.steady.symm.trans steady
      exact shows ▸ later.env.clock steady'
  | _ => cases performed

theorem Shown.grows {w' : World app} {now : Instant} (shown : Shown w now)
    (grows : w.env.Grows t w'.env) : Shown w' now := fun steady =>
  le_trans (shown (grows.steady.symm.trans steady)) (grows.clock (grows.steady.symm.trans steady))

theorem Shown.mono {w' : World app} {now : Instant} (shown : Shown w now) (moved : Relies t w w') :
    Shown w' now := shown.grows moved.env

end Rules

/-! ### Requests -/

section Requests

variable {t : Nat} {w : World app}

theorem createBooking_acts (flightId : Option Uuid) (request : CreateBookingInput) (actor : Uuid)
    (ids : CreateBookingIds) (requestId : Option Uuid) :
    Acts t (createBooking flightId request actor ids requestId) w := by
  cases flightId with
  | none => exact acts_ret _
  | some flightId => exact acts_run_end fun _ _ => trivial

theorem cancelBooking_acts (bookingId : Option Uuid) (scope : BookingAccessScope) (actor : Uuid)
    (ids : CancelIds) (requestId : Option Uuid) :
    Acts t (cancelBooking bookingId scope actor ids requestId) w := by
  cases bookingId with
  | none => exact acts_ret _
  | some bookingId =>
      exact acts_readClock fun now w' _ shown => acts_run_end fun w'' moved => shown.mono moved

theorem changeSeat_acts (bookingId : Option Uuid) (position : Nat) (seat : SeatPosition)
    (scope : BookingAccessScope) (actor auditId : Uuid) (requestId : Option Uuid) :
    Acts t (changeSeat bookingId position seat scope actor auditId requestId) w := by
  cases bookingId with
  | none => exact acts_ret _
  | some bookingId =>
      exact acts_readClock fun now w' _ shown => acts_run_end fun w'' moved => shown.mono moved

theorem resolveFlight_ok {id : Uuid} {input : CreateFlightInput} {origin destination : Option Airport}
    {aircraft : Option Aircraft} {flight : Flight}
    (h : resolveFlight id input origin destination aircraft = .ok flight) :
    aircraft = some flight.aircraft ∧
      checkFaresMatchSeats flight.fares (countSeatsByFareClass flight.aircraft.seats) = [] := by
  unfold resolveFlight at h
  extract_lets unknown at h
  cases origin with
  | none => cases h
  | some origin =>
      cases destination with
      | none => cases h
      | some destination =>
          cases aircraft with
          | none => cases h
          | some aircraft =>
              dsimp only at h
              split at h
              · cases h
              · rename_i known
                cases h
                simpa [unknown] using known

theorem createFlight_acts (input : CreateFlightInput) (flightId actor auditId eventId : Uuid)
    (requestId : Option Uuid) : Acts t (createFlight input flightId actor auditId eventId requestId) w := by
  refine acts_run fun _ _ => ⟨trivial, fun _ origin _ _ _ _ w₁ _ => ?_⟩
  refine acts_run fun _ _ => ⟨trivial, fun _ destination _ _ _ _ w₂ _ => ?_⟩
  refine acts_run fun w' _ => ⟨trivial, fun now aircraft begun log held spans w₃ later => ?_⟩
  cases resolved : resolveFlight flightId input origin destination aircraft with
  | error issues => exact acts_ret _
  | ok flight =>
      obtain ⟨found, matched⟩ := resolveFlight_ok resolved
      refine acts_run fun w₄ moved => ⟨⟨⟨⟨t, .findAircraft input.aircraftRegistration, now, aircraft,
        begun, log, held, spans⟩, ?_, found⟩, matched⟩, fun _ _ _ _ _ _ _ _ => acts_ret _⟩
      exact moved.commits.subset (later.commits.subset (by simp [World.commit]))

theorem openFlight_acts (flightId : Option Uuid) (actor auditId : Uuid) (requestId : Option Uuid) :
    Acts t (openFlight flightId actor auditId requestId) w := by
  cases flightId with
  | none => exact acts_ret _
  | some flightId =>
      refine acts_run fun _ _ => ⟨trivial, fun _ flight _ _ _ _ w₁ _ => ?_⟩
      cases flight with
      | none => exact acts_ret _
      | some flight =>
          refine acts_readClock fun now w' _ _ => ?_
          dsimp only
          cases transitionFlight (effectiveFlightStatus flight.status flight.departureAt now) .open
              flight.departureAt now with
          | error rejection => exact acts_ret _
          | ok _ => exact acts_run fun _ _ => ⟨trivial, fun _ _ _ _ _ _ _ _ => acts_ret _⟩

theorem Holds.mono {w' : World app} {payment : Payment} (holds : Holds t w payment)
    (moved : Relies t w w') : Holds t w' payment := by
  rcases holds with ⟨c, mem, own, started⟩ | taken
  · exact .inl ⟨c, moved.commits.subset mem, own, started⟩
  · refine .inr (mem_ofThread.mp ?_)
    rw [moved.env.taken]
    exact mem_ofThread.mpr taken

theorem Unrecorded.mono {w' : World app} (unrecorded : Unrecorded t w) (moved : Relies t w w') :
    Unrecorded t w' := by
  rw [Unrecorded, moved.own]
  exact unrecorded

/-- What an answer says is logged. -/
theorem perform_charge_logs {env env' : Env} {request : ChargeRequest} {choice : Choice}
    {answer : ChargeResult}
    (h : env.perform t (.charge request) choice = some (.ok answer, env')) :
    (request.paymentId, answer) ∈ env'.chargeAnswers := by
  change env.answerCharge request choice = some (.ok answer, env') at h
  cases choice with
  | definite wanted =>
      cases h
      exact List.mem_append_right _ (List.mem_singleton.mpr rfl)
  | unclear acts reply =>
      cases reply with
      | error e => cases h
      | ok text =>
          cases h
          exact List.mem_append_right _ (List.mem_singleton.mpr rfl)
  | anyCharge reply =>
      unfold Env.answerCharge at h
      dsimp only at h
      split at h <;> cases h
      exact List.mem_append_right _ (List.mem_singleton.mpr rfl)
  | _ => cases h

/-- A charge of a payment in hand, and what follows its answer. -/
theorem acts_charge {α : Type} {payment : Payment} {token : String} {f : ChargeResult → UseCase α}
    (holds : Holds t w payment)
    (h : ∀ answer w', Relies t w w' → (payment.id, answer) ∈ w'.env.chargeAnswers →
      Acts t (f answer) w') :
    Acts t (app.ask (.charge ⟨payment.id, payment.amount, token⟩) >>= fun answer =>
      orRethrow answer >>= f) w := by
  refine acts_ask fun w' moved => ⟨⟨payment, holds.mono moved, rfl, rfl⟩,
    fun choice r env performed w'' later => acts_rethrow fun answer same => ?_⟩
  subst same
  have own : Relies t w' { w' with env } := ⟨List.prefix_refl _, rfl, by
    exact Env.answerCharge_grows performed⟩
  exact h answer w'' ((moved.trans own).trans later)
    (later.env.answers.subset (perform_charge_logs performed))

theorem payForBooking_acts (bookingId : Option Uuid) (scope : BookingAccessScope) (actor : Uuid)
    (request : PaymentRequest) (ctx : PayForBookingContext) (fresh : commitsOf t w = []) :
    Acts t (payForBooking bookingId scope actor request ctx) w := by
  refine acts_run fun w' moved' => ⟨trivial, fun now r begun log held spans w'' later => ?_⟩
  cases r with
  | result r => exact acts_ret r
  | started payment =>
      have unrecorded : Unrecorded t w'' := by
        rw [Unrecorded, later.own, commitsOf_commit_own w' ⟨t, _, _, _, _, _, _, _⟩, moved'.own, fresh]
        intro c mem
        cases List.mem_singleton.mp mem
        rfl
      have holds : Holds t w'' payment := .inl ⟨⟨t, .startPayment bookingId scope actor request
        ctx.paymentId ctx.reconcileAfterMs, now, .started payment, begun, log, held, spans⟩,
        later.commits.subset (by simp [World.commit]), rfl, rfl⟩
      refine acts_charge holds fun answer w₁ charged answered => ?_
      replace holds := holds.mono charged
      replace unrecorded := unrecorded.mono charged
      cases answer with
      | declined reason =>
          exact acts_run fun w₂ moved => ⟨⟨holds.mono moved, moved.env.answers.subset answered,
            unrecorded.mono moved⟩, fun _ _ _ _ _ _ _ _ => acts_ret _⟩
      | unknown reason => exact acts_ret _
      | succeeded reference =>
          exact acts_run fun w₂ moved => ⟨⟨holds.mono moved, moved.env.answers.subset answered,
            unrecorded.mono moved⟩, fun _ _ _ _ _ _ _ _ => acts_ret _⟩

end Requests

/-! ### Jobs -/

section Jobs

variable {t : Nat} {w : World app}

theorem expireBatches_acts {now : Instant} {batchSize : Nat} {ids : Nat → ExpiryIds}
    (left done expired : Nat) (shown : Shown w now) :
    Acts t (expireBatches now batchSize ids left done expired) w := by
  induction left generalizing done expired w with
  | zero => exact acts_ret _
  | succ left ih =>
      refine acts_run fun w' moved => ⟨shown.mono moved, fun _ count _ _ _ _ w'' later => ?_⟩
      split
      · exact acts_ret _
      · exact ih _ _ ((shown.mono moved).grows later.env)

theorem expireHolds_acts (batchSize maxBatches : Nat) (ids : Nat → ExpiryIds) :
    Acts t (expireHolds batchSize maxBatches ids) w :=
  acts_readClock fun _ _ _ shown => expireBatches_acts _ _ _ shown

theorem cleanupBatches_acts {cutoff : Instant} {batchSize : Nat} (left done deleted : Nat)
    (shown : Shown w (cutoff + IDEMPOTENCY_KEY_RETENTION_MS)) :
    Acts t (cleanupBatches cutoff batchSize left done deleted) w := by
  induction left generalizing done deleted w with
  | zero => exact acts_ret _
  | succ left ih =>
      refine acts_run fun w' moved => ⟨shown.mono moved, fun _ count _ _ _ _ w'' later => ?_⟩
      split
      · exact acts_ret _
      · exact ih _ _ ((shown.mono moved).grows later.env)

theorem cleanupIdempotencyKeys_acts (batchSize maxBatches : Nat) :
    Acts t (cleanupIdempotencyKeys batchSize maxBatches) w :=
  acts_readClock fun now w' _ shown => cleanupBatches_acts _ _ _ (by simpa using shown)

/-! A promise of a batch: the payment taken from the queue is in hand. -/

theorem Relies.taken {w' : World app} {payment : Payment} (moved : Relies t w w')
    (taken : (t, payment) ∈ w.env.taken) : (t, payment) ∈ w'.env.taken := by
  refine mem_ofThread.mp ?_
  rw [moved.env.taken]
  exact mem_ofThread.mpr taken

theorem retryLater_acts {payment : Payment} (delayMs : Int) (taken : (t, payment) ∈ w.env.taken)
    (unrecorded : Unrecorded t w) : Acts t (retryLater payment delayMs) w :=
  acts_readClock fun _ _ moved _ => acts_run fun _ moved' =>
    ⟨⟨payment, moved'.taken (moved.taken taken), rfl, rfl, (unrecorded.mono moved).mono moved'⟩,
      fun _ _ _ _ _ _ _ _ => acts_ret _⟩

theorem reconcileCharge_acts {payment : Payment} (ids : SettleIds)
    (taken : (t, payment) ∈ w.env.taken) (unrecorded : Unrecorded t w) :
    Acts t (reconcileCharge payment ids) w := by
  unfold reconcileCharge
  cases payment.paymentMethodToken with
  | none => exact acts_fail _
  | some token =>
      refine acts_charge (.inr taken) fun answer w₁ moved answered => ?_
      have holds : Holds t w₁ payment := .inr (moved.taken taken)
      replace unrecorded := unrecorded.mono moved
      cases answer with
      | declined reason =>
          exact acts_run fun w₂ moved => ⟨⟨holds.mono moved, moved.env.answers.subset answered,
            unrecorded.mono moved⟩, fun _ _ _ _ _ _ _ _ => acts_ret _⟩
      | unknown reason => exact retryLater_acts _ (moved.taken taken) unrecorded
      | succeeded reference =>
          exact acts_run fun w₂ moved => ⟨⟨holds.mono moved, moved.env.answers.subset answered,
            unrecorded.mono moved⟩, fun _ _ _ _ _ _ _ _ => acts_ret _⟩

theorem recordRefund_acts {payment : Payment} {record : RefundRecord} {auditId : Uuid}
    {after : Reconciled} (taken : (t, payment) ∈ w.env.taken) (unrecorded : Unrecorded t w)
    (back : record = .refunded → w.env.idempotent = true →
      ∃ c ∈ w.env.provider.refunded, c.1 = payment.id) :
    Acts t (do app.run (.recordRefund payment record auditId); pure after) w := by
  refine acts_run fun w' moved => ⟨⟨moved.taken taken, fun same idempotent => ?_,
    unrecorded.mono moved⟩, fun _ _ _ _ _ _ _ _ => acts_ret _⟩
  obtain ⟨c, mem, own⟩ := back same (moved.env.idempotent.symm.trans idempotent)
  exact ⟨c, moved.env.refunded.subset mem, own⟩

theorem refundRefused_acts {payment : Payment} (reason : String) (retryable : Bool) (auditId : Uuid)
    (taken : (t, payment) ∈ w.env.taken) (unrecorded : Unrecorded t w) :
    Acts t (refundRefused payment reason retryable auditId) w := by
  unfold refundRefused
  split
  · exact recordRefund_acts taken unrecorded nofun
  · exact retryLater_acts _ taken unrecorded

theorem reconcileRefund_acts {payment : Payment} (auditId : Uuid)
    (status : payment.status ≠ .processing) (taken : ofThread t w.env.taken = [payment])
    (calls : ofThread t w.env.refundCalls = []) (unrecorded : Unrecorded t w) :
    Acts t (reconcileRefund payment auditId) w := by
  unfold reconcileRefund
  cases payment.providerReference with
  | none => exact acts_fail _
  | some reference =>
      have own : (t, payment) ∈ w.env.taken := mem_ofThread.mp (by simp [taken])
      refine acts_ask fun w' moved => ⟨⟨payment, moved.taken own, status, rfl, rfl, ?_⟩,
        fun choice r env performed w'' later => acts_rethrow fun answer same => ?_⟩
      · rw [moved.env.taken, moved.env.refundCalls, taken, calls]
        simp [status]
      · subst same
        obtain ⟨acts, rfl, back⟩ := Env.answerRefund_some performed
        have taken' : (t, payment) ∈ w''.env.taken := later.taken (moved.taken own)
        have unrecorded' : Unrecorded t w'' := by
          have before : Unrecorded t w' := unrecorded.mono moved
          rw [Unrecorded, later.own]
          exact before
        cases answer with
        | refunded =>
            refine recordRefund_acts taken' unrecorded' fun _ idempotent => ?_
            obtain ⟨c, mem, same⟩ := back rfl (later.env.idempotent.symm.trans idempotent)
            exact ⟨c, later.env.refunded.subset mem, same⟩
        | failed reason retryable => exact refundRefused_acts _ _ _ taken' unrecorded'
        | unknown reason => exact refundRefused_acts _ _ _ taken' unrecorded'

theorem reconcileWorker_acts (ids : SettleIds) (taken : ofThread t w.env.taken = [])
    (calls : ofThread t w.env.refundCalls = []) (fresh : commitsOf t w = []) :
    Acts t (reconcileWorker ids) w := by
  refine acts_ask fun w' moved => ⟨trivial, fun choice job env performed w'' later => ?_⟩
  have took : env.taken = w'.env.taken ++ [(t, job.2)] ∧ env.refundCalls = w'.env.refundCalls := by
    cases choice with
    | pick index =>
        obtain ⟨job', -, same⟩ := Option.map_eq_some_iff.mp performed
        cases same
        exact ⟨rfl, rfl⟩
    | _ => cases performed
  have taken' : ofThread t w''.env.taken = [job.2] := by
    rw [later.env.taken]
    change ofThread t env.taken = _
    rw [took.1, ofThread_own, moved.env.taken, taken, List.nil_append]
  have calls' : ofThread t w''.env.refundCalls = [] := by
    rw [later.env.refundCalls]
    change ofThread t env.refundCalls = _
    rw [took.2, moved.env.refundCalls, calls]
  have unrecorded : Unrecorded t w'' := by
    rw [Unrecorded, later.own]
    change ∀ c ∈ commitsOf t w', _
    rw [moved.own, fresh]
    exact fun c mem => absurd mem List.not_mem_nil
  have body : Acts t (if job.2.status = .processing then reconcileCharge job.2 ids
      else reconcileRefund job.2 ids.auditId) w'' := by
    split
    · exact reconcileCharge_acts ids (mem_ofThread.mp (by simp [taken'])) unrecorded
    · rename_i status
      exact reconcileRefund_acts ids.auditId status taken' calls' unrecorded
  have caught : Acts t (reconcile job.2 ids) w'' :=
    Discipline.Follows.tryCatch (body.imp (fun _ _ h => h) fun _ _ _ => acts_ret _)
  refine Discipline.Follows.bind (caught.imp (fun outcome w₃ _ => ?_) fun _ _ => trivial)
  exact acts_ask fun _ _ => ⟨trivial, fun _ _ _ _ _ _ => acts_ret _⟩

/-- Between its batches a run has dispatched what it claimed. -/
theorem reconcileBatches_acts {leaseMs : Int} {batchSize : Nat} (left done : Nat)
    (tally : List Reconciled) (even : claimsOf t w = ofThread t w.env.dispatched) :
    Acts t (reconcileBatches leaseMs batchSize left done tally) w := by
  induction left generalizing done tally w with
  | zero => exact acts_ret _
  | succ left ih =>
      refine acts_run fun w₁ moved => ⟨trivial, fun now claimed begun log held spans w₂ later => ?_⟩
      have claims : claimsOf t w₂ = ofThread t w₂.env.dispatched ++ [claimed] := by
        rw [later.claims, claimsOf_commit_own w₁ ⟨t, .claimDue leaseMs batchSize, now, claimed, begun,
          log, held, spans⟩, moved.claims, even, later.env.dispatched]
        exact congrArg (· ++ [claimed]) moved.env.dispatched.symm
      refine acts_ask fun w₃ moved₃ => ⟨?_, fun choice batch env performed w₄ later₄ => ?_⟩
      · change claimsOf t w₃ = _
        rw [moved₃.claims, moved₃.env.dispatched, claims]
      have even' : claimsOf t w₄ = ofThread t w₄.env.dispatched := by
        cases choice with
        | go =>
            cases performed
            rw [later₄.claims, later₄.env.dispatched]
            change claimsOf t w₃ = ofThread t (w₃.env.dispatched ++ [(t, claimed)])
            rw [ofThread_own, moved₃.claims, moved₃.env.dispatched, claims]
        | _ => cases performed
      refine acts_ask fun w₅ moved₅ => ⟨trivial, fun choice outcomes env performed w₆ later₆ => ?_⟩
      have same : env = w₅.env := by
        cases choice with
        | go =>
            simp only [app, Env.perform] at performed
            split at performed
            · exact (Prod.ext_iff.mp (Option.some.inj performed)).2.symm
            · cases performed
        | _ => cases performed
      subst same
      split
      · exact acts_ret _
      · refine ih _ _ ?_
        rw [later₆.claims, later₆.env.dispatched]
        change claimsOf t w₅ = ofThread t w₅.env.dispatched
        rw [moved₅.claims, moved₅.env.dispatched, even']

/-- A tick found these entries; those before `entries` are handed over. -/
def Ticks (w : World app) (entries : List OutboxEntry) : Prop :=
  ∃ c ∈ w.commits, ∃ before, c.tx.unpublished? c.result = some (before ++ entries) ∧
    ∀ e ∈ before, e ∈ w.env.handed

theorem Ticks.mono {w' : World app} {entries : List OutboxEntry} (ticks : Ticks w entries)
    (moved : Relies t w w') : Ticks w' entries := by
  obtain ⟨c, mem, before, found, handed⟩ := ticks
  exact ⟨c, moved.commits.subset mem, before, found, fun e mem =>
    moved.env.handed.subset (handed e mem)⟩

theorem Ticks.next {entry : OutboxEntry} {entries : List OutboxEntry}
    (ticks : Ticks w (entry :: entries)) (handed : entry ∈ w.env.handed) : Ticks w entries := by
  obtain ⟨c, mem, before, found, all⟩ := ticks
  refine ⟨c, mem, before ++ [entry], by simpa using found, fun e mem => ?_⟩
  rcases List.mem_append.mp mem with mem | mem
  · exact all e mem
  · exact List.mem_singleton.mp mem ▸ handed

theorem relayEntries_acts {entries : List OutboxEntry} (ticks : Ticks w entries) :
    Acts t (relayEntries entries) w := by
  induction entries generalizing w with
  | nil => exact acts_ret _
  | cons entry entries ih =>
      have body : knowledge.Follows t
          (fun stopped w' => stopped = false → Ticks w' (entry :: entries) ∧ entry ∈ w'.env.handed)
          (fun _ => True)
          (do
            let answer ← app.ask (.publish entry)
            orRethrow answer
            app.run (.markPublished entry.id)
            pure false) w := by
        refine Discipline.Follows.bind (Discipline.Follows.ask fun w₁ moved₁ =>
          ⟨?_, fun choice r env performed w₂ moved₂ => ?_⟩)
        · obtain ⟨c, mem, before, found, handed⟩ := ticks.mono moved₁
          exact ⟨c, mem, before, entries, found, handed⟩
        have handed : env.handed = w₁.env.handed ++ [entry] := by
          cases choice with
          | published ok =>
              cases performed
              rfl
          | _ => cases performed
        have grows : w₁.env.handed <+: w₂.env.handed :=
          (List.prefix_append _ _).trans (handed ▸ moved₂.env.handed)
        have here : entry ∈ w₂.env.handed := moved₂.env.handed.subset (by simp [handed])
        have ticks₂ : Ticks w₂ (entry :: entries) := by
          obtain ⟨c, mem, before, found, all⟩ := ticks.mono moved₁
          exact ⟨c, moved₂.commits.subset mem, before, found, fun e mem => grows.subset (all e mem)⟩
        cases r with
        | error e => exact fun _ _ => trivial
        | ok _ =>
            have knows : ∀ w₃, Relies t w₂ w₃ → Knows t (.markPublished entry.id) w₃ :=
              fun w₃ moved₃ => ⟨entry, moved₃.env.handed.subset here, rfl⟩
            change knowledge.Follows t _ _ (app.run (.markPublished entry.id) >>= fun _ =>
              pure false) w₂
            refine Discipline.Follows.bind (Discipline.Follows.run fun w₃ moved₃ =>
              ⟨knows w₃ moved₃, trivial, fun now r begun log held spans =>
                ⟨fun w₄ moved₄ w₅ moved₅ _ => ?_, fun _ _ => trivial⟩⟩)
            have committed : Ticks (w₃.commit ⟨t, .markPublished entry.id, now, r, begun, log, held,
                spans⟩) (entry :: entries) := by
              obtain ⟨c, mem, before, found, all⟩ := ticks₂.mono moved₃
              exact ⟨c, List.mem_append_left _ mem, before, found, all⟩
            exact ⟨(committed.mono moved₄).mono moved₅, moved₅.env.handed.subset
              (moved₄.env.handed.subset (moved₃.env.handed.subset here))⟩
      have ends : ∀ w', True → ∀ e : Failure, knowledge.Follows t
          (fun stopped w' => stopped = false → Ticks w' (entry :: entries) ∧ entry ∈ w'.env.handed)
          (fun _ => True) ((fun _ => pure true : Failure → UseCase Bool) e) w' :=
        fun _ _ _ _ _ => nofun
      have caught := Discipline.Follows.tryCatch (body.imp (fun _ _ h => h) ends)
      refine Discipline.Follows.bind (caught.imp (fun stopped w' known => ?_) fun _ _ => trivial)
      cases stopped with
      | true => exact acts_ret _
      | false =>
          obtain ⟨ticks, handed⟩ := known rfl
          exact ih (ticks.next handed)

theorem outboxRelayTick_acts (batchSize : Nat) (storage : Uuid → Nat) :
    Acts t (outboxRelayTick batchSize storage) w :=
  acts_run fun _ _ => ⟨trivial, fun now entries begun log held spans w' later =>
    relayEntries_acts ⟨⟨t, .findUnpublished batchSize storage, now, entries, begun, log, held, spans⟩,
      later.commits.subset (by simp [World.commit]), [], rfl, nofun⟩⟩

end Jobs

/-! ### Every thread -/

/-- Nothing is logged yet. -/
def Env.start (clock : Instant) (steady idempotent : Bool) : Env := { clock, steady, idempotent }

theorem invocation_acts (invocation : Invocation) (t : Nat) (db : Db) (clock : Instant)
    (steady idempotent : Bool) :
    Acts t invocation.code ⟨db, [], .start clock steady idempotent⟩ := by
  cases invocation with
  | registerAircraft => exact acts_map (acts_run_end fun _ _ => trivial)
  | createFlight input id actor audit event request =>
      exact acts_map (createFlight_acts input id actor audit event request)
  | openFlight id actor audit request => exact acts_map (openFlight_acts id actor audit request)
  | createBooking id input actor ids request =>
      exact acts_map (createBooking_acts id input actor ids request)
  | cancelBooking id scope actor ids request =>
      exact acts_map (cancelBooking_acts id scope actor ids request)
  | changeSeat id position seat scope actor audit request =>
      exact acts_map (changeSeat_acts id position seat scope actor audit request)
  | payForBooking id scope actor request ctx =>
      exact acts_map (payForBooking_acts id scope actor request ctx rfl)
  | expireHolds batchSize maxBatches ids => exact expireHolds_acts batchSize maxBatches ids
  | cleanupIdempotencyKeys batchSize maxBatches =>
      exact cleanupIdempotencyKeys_acts batchSize maxBatches
  | reconcilePayments => exact reconcileBatches_acts _ _ _ rfl
  | reconcileWorker ids => exact reconcileWorker_acts ids rfl rfl rfl
  | outboxRelayTick batchSize storage => exact outboxRelayTick_acts batchSize storage
  | lateCharge => exact acts_map (fun _ _ => ⟨trivial, fun _ _ _ _ => acts_ret _⟩)
  | lateRefund => exact acts_map (fun _ _ => ⟨trivial, fun _ _ _ _ => acts_ret _⟩)

/-- The service, with any requests and jobs as its threads. -/
def service (airports : Table Airport) (clock : Instant) (steady idempotent : Bool)
    (invocations : Nat → Invocation) : Pool app UseCaseResult :=
  Pool.initial { airports } (.start clock steady idempotent) fun t => (invocations t).code

theorem service_kept (airports : Table Airport) (clock : Instant) (steady idempotent : Bool)
    (invocations : Nat → Invocation) :
    knowledge.Kept (fun _ _ _ => True) (service airports clock steady idempotent invocations) :=
  Discipline.Kept.initial fun t => invocation_acts (invocations t) t _ clock steady idempotent

end FlightBooking
