import FlightBooking.Payments.Validity

/-!
The request and the reconciliation job meeting on one payment.

Both settle a payment from a copy that may be stale by the time they do. A settlement
commits only if the stored payment is still in progress, and then ends that, so one
settlement of a payment commits at most, whoever runs it (`settled_once`); all others
fail, and a transaction that fails leaves the world as it was. What a payment becomes
follows `PaymentEdge`, and it becomes FAILED only on the provider's word.
-/

namespace FlightBooking

open Relational ReadCommitted

variable {T : Timeline postgres} {n i : Nat} {x : Transaction} {now : Instant} {r : x.Result}
  {c' : Cursor postgres} {id : Uuid}

/-! ### Settling once -/

/-- The payment is stored and no longer in progress. -/
def Db.Settled (db : Db) (id : Uuid) : Prop :=
  ∃ p, db.payments.find? id = some p ∧ p.status ≠ .processing

/-- How many of the first `n` commits settled the payment. -/
def settlements (w : World app) (n : Nat) (id : Uuid) : Nat :=
  (w.commits.take n).countP fun c => c.tx.settles? = some id

/-- A settlement commits on a payment in progress only, and ends that. -/
theorem Effect.settles (effect : Effect T n i x now r c') (settles : x.settles? = some id) :
    ¬ (T.state n).Settled id ∧ (c'.log.apply (T.state n)).Settled id := by
  obtain ⟨response, p, p', k, -, on, after, answers, -⟩ := effect.settlement settles
  constructor
  · rintro ⟨p₀, found, left⟩
    rw [on.payment] at found
    cases found
    exact left on.processing
  · refine ⟨p', after, ?_⟩
    intro processing
    rw [processing] at answers
    cases answers

/-- Whatever else commits, the payment stays in progress or out of it. -/
theorem Effect.unsettles (effect : Effect T n i x now r c') (other : x.settles? ≠ some id) :
    (c'.log.apply (T.state n)).Settled id ↔ (T.state n).Settled id := by
  have change := effect.payment id
  unfold Db.Settled
  generalize (T.state n).payments.find? id = before at change
  generalize (c'.log.apply (T.state n)).payments.find? id = after at change
  have alike : ∀ {p p' : Payment}, (p'.status = .processing ↔ p.status = .processing) →
      ((∃ q, some p' = some q ∧ q.status ≠ .processing) ↔
        ∃ q, some p = some q ∧ q.status ≠ .processing) := by
    intro p p' same
    simp [same]
  cases change with
  | same => exact Iff.rfl
  | started on =>
      rw [on.payment]
      simp [NewPayment.toPayment]
  | declined same => exact absurd (congrArg some same) other
  | chargedTooLate same => exact absurd (congrArg some same) other
  | confirmed same => exact absurd (congrArg some same) other
  | cancelled _ status => exact alike (by simp [Payment.refundStarted, status])
  | claimed => exact alike Iff.rfl
  | @refundRecorded _ record _ _ _ _ _ status =>
      refine alike ?_
      cases record <;> simp [Payment.moved, RefundRecord.status, status]
  | rescheduled => exact alike Iff.rfl

/-- What the commits of a history add up to. -/
theorem settlements_of_sound {w : World app} (sound : w.Sound)
    (first : ∀ id, ¬ (w.state 0).Settled id) {n : Nat} (le : n ≤ w.commits.length) (id : Uuid) :
    settlements w n id ≤ 1 ∧ (settlements w n id = 1 ↔ (w.state n).Settled id) := by
  induction n with
  | zero => exact ⟨Nat.zero_le _, iff_of_false Nat.zero_ne_one (first id)⟩
  | succ n ih =>
      obtain ⟨atMost, once⟩ := ih (Nat.le_of_succ_le le)
      have lt : n < w.commits.length := le
      obtain ⟨c', committed, -⟩ := committed_of_sound sound lt
      have next : w.state (n + 1) = c'.log.apply (w.state n) := committed.next
      have count : settlements w (n + 1) id =
          settlements w n id + if w.commits[n].tx.settles? = some id then 1 else 0 := by
        unfold settlements
        rw [List.take_succ_eq_append_getElem lt, List.countP_append, List.countP_singleton]
        simp only [decide_eq_true_eq]
      by_cases settles : w.commits[n].tx.settles? = some id
      · obtain ⟨before, after⟩ := committed.effect.settles settles
        have none : settlements w n id ≠ 1 := fun one => before (once.mp one)
        rw [if_pos settles] at count
        rw [next]
        exact ⟨by omega, iff_of_true (by omega) after⟩
      · rw [if_neg settles, Nat.add_zero] at count
        rw [count, next]
        have same := committed.effect.unsettles settles
        exact ⟨atMost, once.trans same.symm⟩

/-! ### What the provider said -/

/-- A failed payment was declined by the provider, for the reason it records. -/
def DeclinedByProvider (w : World app) : Prop :=
  ∀ payment ∈ w.db.payments, payment.status = .failed →
    ∃ reason, (payment.id, .declined reason) ∈ w.env.chargeAnswers ∧
      payment.failureReason = some reason

theorem PaymentChange.failed {o : Option Payment} {p' : Payment}
    (h : PaymentChange T n i id x now r o (some p')) (failed : p'.status = .failed) :
    (∃ p, o = some p ∧ p.status = .failed ∧ p'.failureReason = p.failureReason) ∨
      ∃ payment reason actor ids, x = .settleDeclined payment reason actor ids ∧ payment.id = id ∧
        p'.failureReason = some reason := by
  cases h with
  | same => exact .inl ⟨p', rfl, failed, rfl⟩
  | started on =>
      rw [on.payment] at failed
      cases failed
  | declined same => exact .inr ⟨_, _, _, _, rfl, same, rfl⟩
  | chargedTooLate | confirmed | cancelled => cases failed
  | claimed => exact .inl ⟨_, rfl, failed, rfl⟩
  | @refundRecorded _ record => cases record <;> cases failed
  | rescheduled => exact .inl ⟨_, rfl, failed, rfl⟩

theorem DeclinedByProvider.commit {w : World app} (inv : DeclinedByProvider w) {c : Commit app}
    (sound : (w.commit c).Sound) (knows : Knows c.thread c.tx w) :
    DeclinedByProvider (w.commit c) := by
  obtain ⟨⟨c', committed⟩, before, after⟩ := committed_last sound
  intro payment mem failed
  have change := committed.effect.payment payment.id
  rw [← committed.next, before, after,
    show (w.commit c).db.payments.find? payment.id = some payment from Table.find?_of_mem mem] at change
  rcases change.failed failed with ⟨p, found, failed', same⟩ | ⟨p, reason, _, _, tx, same, reason'⟩
  · obtain ⟨reason, answered, why⟩ := inv p (Table.mem_of_find? found) failed'
    rw [show p.id = payment.id from Table.key_of_find? found] at answered
    exact ⟨reason, answered, same ▸ why⟩
  · rw [tx] at knows
    obtain ⟨-, answered, -⟩ := knows
    exact ⟨reason, same ▸ answered, reason'⟩

theorem DeclinedByProvider.moves {w w' : World app} (sound : w'.Sound) (inv : DeclinedByProvider w)
    (moves : knowledge.Moves w w') : DeclinedByProvider w' := by
  have grows : ∀ {env : Env}, w.env.chargeAnswers <+: env.chargeAnswers →
      DeclinedByProvider { w with env } := by
    intro env answers payment mem failed
    obtain ⟨reason, answered, why⟩ := inv payment mem failed
    exact ⟨reason, answers.subset answered, why⟩
  cases moves with
  | tick ticked => exact grows (Env.Grows.tick (t := 0) ticked).answers
  | @call t _ _ _ _ _ performed =>
      exact grows (Env.perform_grows (Nat.ne_of_lt (Nat.lt_succ_self t)) performed).answers
  | commit knows => exact inv.commit sound knows

section Service

variable {airports : Table Airport} {clock : Instant} {steady idempotent : Bool}
  {invocations : Nat → Invocation} {p : Pool app UseCaseResult}

theorem unsettled_of_service
    (h : (service airports clock steady idempotent invocations).Reachable p) (id : Uuid) :
    ¬ (p.world.state 0).Settled id := by
  rintro ⟨payment, found, -⟩
  rw [World.state_zero, h.initial_eq] at found
  cases found

/-- In every interleaving: of the settlements of a payment one commits at most, and one
has committed exactly if the payment is no longer in progress. A step of whoever it is
commits a transaction, which settles no payment that was settled before, or leaves the
database as it is; where a transaction fails the whole world stays as it was. From one
version to the next a payment stays, and keeps its status or moves along an edge of its
lifecycle; a payment that failed was declined by the provider. -/
theorem settled_once (h : (service airports clock steady idempotent invocations).Reachable p) :
    (∀ n ≤ p.world.commits.length, ∀ id, settlements p.world n id ≤ 1 ∧
      (settlements p.world n id = 1 ↔ (p.world.state n).Settled id)) ∧
    (∀ t m q, p.step t m = some q →
      ((q.world.db = p.world.db ∧ q.world.commits = p.world.commits) ∨
        ∃ c : Commit app, c.thread = t ∧ q.world = p.world.commit c ∧
          ∀ id, c.tx.settles? = some id → ¬ p.world.db.Settled id) ∧
      ∀ f ∈ q.failures, f ∈ p.failures ∨ q.world = p.world) ∧
    (∀ n < p.world.commits.length, ∀ id payment,
      (p.world.state n).payments.find? id = some payment →
      ∃ payment', (p.world.state (n + 1)).payments.find? id = some payment' ∧
        (payment'.status = payment.status ∨ PaymentEdge payment.status payment'.status)) ∧
    ∀ payment ∈ p.world.db.payments, payment.status = .failed →
      ∃ reason, (payment.id, .declined reason) ∈ p.world.env.chargeAnswers ∧
        payment.failureReason = some reason := by
  have kept := service_kept airports clock steady idempotent invocations
  have good := (kept.reachable h).good
  refine ⟨?_, ?_, ?_, ?_⟩
  · intro n le id
    exact settlements_of_sound good.sound (unsettled_of_service h) le id
  · intro t m q moved
    have steps := Pool.steps_of_step moved
    constructor
    · rcases steps.db_eq_or_commit with same | ⟨c, own, commits⟩
      · exact .inl same
      · refine .inr ⟨c, own, commits, ?_⟩
        intro id settles
        have sound := (good.step steps).sound
        rw [commits] at sound
        obtain ⟨⟨c', committed⟩, before, -⟩ := committed_last sound
        rw [← before]
        exact (committed.effect.settles settles).1
    · intro f mem
      rcases (kept.reachable h).failed steps f mem with old | ⟨same, -⟩
      · exact .inl old
      · exact .inr same
  · intro n lt id payment found
    obtain ⟨c', committed, -⟩ := committed_of_sound good.sound lt
    have change := committed.effect.payment id
    rw [← committed.next] at change
    rw [show p.world.timeline.state n = p.world.state n from rfl, found] at change
    obtain ⟨payment', found', -⟩ := change.bill
    rw [found'] at change
    exact ⟨payment', found', change.edge.imp_right And.left⟩
  · have declined : DeclinedByProvider p.world := by
      refine kept.invariant h ?_ fun w w' sound inv moves => inv.moves sound moves
      exact fun payment mem => absurd mem List.not_mem_nil
    exact declined

end Service

/-- A payment of the sample booking, before and after its settlement. -/
theorem settled_once_sample : ∃ p, Pool.run (sampleMoves ++ Pool.wholly 4 1 5 ++
      [(4, .call (.definite (.succeeded "ch_1")))] ++ Pool.wholly 4 2 7)
      (service sampleAirports 0 true true (sampleThreads fun _ => samplePayment)) = some p ∧
    settlements p.world 9 9 = 0 ∧ settlements p.world 10 9 = 1 ∧ (p.world.state 10).Settled 9 := by
  have counts : ((Pool.run (sampleMoves ++ Pool.wholly 4 1 5 ++
      [(4, .call (.definite (.succeeded "ch_1")))] ++ Pool.wholly 4 2 7)
      (service sampleAirports 0 true true (sampleThreads fun _ => samplePayment))).map fun p =>
        (p.world.commits.length, settlements p.world 9 9, settlements p.world 10 9)) =
      some (10, 0, 1) := by decide +kernel
  obtain ⟨p, ran, counts⟩ := Option.map_eq_some_iff.mp counts
  simp only [Prod.mk.injEq] at counts
  obtain ⟨length, before, after⟩ := counts
  have settled := (settled_once (Pool.run_reachable ran)).1 10 (Nat.le_of_eq length.symm) 9
  exact ⟨p, ran, before, after, settled.2.mp after⟩

end FlightBooking
