import FlightBooking.System.Knowledge
import FlightBooking.Idempotency.Correspondence

/-!
The payments that threads have in hand are copies of stored ones.

Whoever settles, refunds or reschedules a payment works from the row that phase 1
answered or a claim returned. The row may have moved on since, but what is paid, by
whom and for which booking never changes, so the copy is right about that
(`informed_of_service`).
-/

namespace FlightBooking

open Relational ReadCommitted

variable {T : Timeline postgres} {n i : Nat} {x : Transaction} {now : Instant} {r : x.Result}
  {c' : Cursor postgres}

/-! ### What stays of a payment -/

/-- What never changes about a payment: its id, its booking, its account and its amount. -/
def Payment.bill (p : Payment) : Uuid × Uuid × Uuid × Money :=
  (p.id, p.bookingId, p.accountId, p.amount)

theorem Payment.bill_iff {p q : Payment} : p.bill = q.bill ↔
    p.id = q.id ∧ p.bookingId = q.bookingId ∧ p.accountId = q.accountId ∧ p.amount = q.amount := by
  simp [bill]

theorem PaymentChange.bill {id : Uuid} {p : Payment} {o : Option Payment}
    (h : PaymentChange T n i id x now r (some p) o) : ∃ p', o = some p' ∧ p'.bill = p.bill := by
  cases h <;> exact ⟨_, rfl, rfl⟩

/-- The payment is stored, as the copy says or as it is by now. -/
def Db.HasBill (db : Db) (payment : Payment) : Prop :=
  ∃ p, db.payments.find? payment.id = some p ∧ p.bill = payment.bill

theorem Db.HasBill.of_find? {db : Db} {id : Uuid} {p : Payment}
    (found : db.payments.find? id = some p) : db.HasBill p := by
  obtain rfl : p.id = id := Table.key_of_find? found
  exact ⟨p, found, rfl⟩

theorem Effect.hasBill (effect : Effect T n i x now r c') {payment : Payment}
    (had : (T.state n).HasBill payment) : (c'.log.apply (T.state n)).HasBill payment := by
  obtain ⟨p, found, same⟩ := had
  have change := effect.payment payment.id
  rw [found] at change
  obtain ⟨p', found', same'⟩ := change.bill
  exact ⟨p', found', same'.trans same⟩

/-- A stored payment stays, with its bill. -/
theorem Unfolds.bill_stays (unfolds : Unfolds T n) {id : Uuid} {a m : Nat} (le : a ≤ m) (le' : m ≤ n)
    {p : Payment} (found : (T.state a).payments.find? id = some p) :
    ∃ p', (T.state m).payments.find? id = some p' ∧ p'.bill = p.bill := by
  induction m, le using Nat.le_induction with
  | base => exact ⟨p, found, rfl⟩
  | succ m le ih =>
      obtain ⟨p₁, found₁, bill₁⟩ := ih (by omega)
      obtain ⟨i, x, now, r, c', committed⟩ := unfolds m (by omega)
      have change := committed.effect.payment id
      rw [found₁, ← committed.next] at change
      obtain ⟨p₂, found₂, bill₂⟩ := change.bill
      exact ⟨p₂, found₂, bill₂.trans bill₁⟩

/-! ### What the queue holds -/

/-- A claim returned the payment. -/
def Claimed (w : World app) (payment : Payment) : Prop :=
  ∃ c ∈ w.commits, ∃ payments, c.tx.claimed? c.result = some payments ∧ payment ∈ payments

theorem Claimed.mono {w w' : World app} {payment : Payment} (h : Claimed w payment)
    (grows : w.commits <+: w'.commits) : Claimed w' payment := by
  obtain ⟨c, mem, rest⟩ := h
  exact ⟨c, grows.subset mem, rest⟩

theorem mem_claimsOf {t : Nat} {w : World app} {payments : List Payment}
    (h : payments ∈ claimsOf t w) : ∃ c ∈ w.commits, c.tx.claimed? c.result = some payments := by
  obtain ⟨c, mem, claimed⟩ := List.mem_filterMap.mp h
  exact ⟨c, (List.mem_filter.mp mem).1, claimed⟩

/-- A call queues the payments of a batch, or takes one off the queue. -/
theorem Env.perform_jobs {t : Nat} {e e' : Env} {q : Call} {choice : Choice} {a : q.Answer}
    (h : e.perform t q choice = some (a, e')) :
    (e'.queue = e.queue ∧ e'.taken = e.taken) ∨
    (∃ payments, q = .dispatch payments ∧ e'.taken = e.taken ∧
      e'.queue = e.queue ++ payments.map fun p => (e.batches, p)) ∨
    ∃ job ∈ e.queue, e'.taken = e.taken ++ [(t, job.2)] ∧ e'.queue ⊆ e.queue := by
  unfold Env.perform at h
  split at h
  · obtain ⟨e'', ticked, same⟩ := Option.map_eq_some_iff.mp h
    cases same
    unfold Env.tick at ticked
    split at ticked <;> cases ticked
    exact .inl ⟨rfl, rfl⟩
  · rename_i request choice
    have logged : ∀ (e : Env) id answer, (e.logCharge id answer).queue = e.queue ∧
        (e.logCharge id answer).taken = e.taken := by
      intro e id answer
      cases answer <;> exact ⟨rfl, rfl⟩
    unfold Env.answerCharge at h
    split at h
    · cases h
      exact .inl (logged ..)
    · cases h
      exact .inl (logged ..)
    · split at h <;> cases h
      exact .inl (logged ..)
    · cases h
  · obtain ⟨acts, rfl, -⟩ := Env.answerRefund_some h
    exact .inl ⟨rfl, rfl⟩
  · cases h
    exact .inl ⟨rfl, rfl⟩
  · cases h
    exact .inr (.inl ⟨_, rfl, rfl, rfl⟩)
  · obtain ⟨job, there, same⟩ := Option.map_eq_some_iff.mp h
    cases same
    exact .inr (.inr ⟨_, List.mem_of_getElem? there, rfl, List.eraseIdx_subset⟩)
  · cases h
    exact .inl ⟨rfl, rfl⟩
  · extract_lets done at h
    split at h
    · obtain ⟨-, rfl⟩ := Prod.ext_iff.mp (Option.some.inj h)
      exact .inl ⟨rfl, rfl⟩
    · cases h
  · obtain ⟨s, -, same⟩ := Option.map_eq_some_iff.mp h
    cases same
    exact .inl ⟨rfl, rfl⟩
  · obtain ⟨s, -, same⟩ := Option.map_eq_some_iff.mp h
    cases same
    exact .inl ⟨rfl, rfl⟩
  · cases h

/-- Every payment handed out is a copy of a stored one. -/
structure Lent (w : World app) : Prop where
  started : ∀ c ∈ w.commits, ∀ payment, c.tx.started? c.result = some payment →
    w.db.HasBill payment
  claimed : ∀ payment, Claimed w payment → w.db.HasBill payment
  queue : ∀ job ∈ w.env.queue, Claimed w job.2
  taken : ∀ job ∈ w.env.taken, Claimed w job.2

theorem Lent.holds {w : World app} (lent : Lent w) {t : Nat} {payment : Payment}
    (holds : Holds t w payment) : w.db.HasBill payment := by
  rcases holds with ⟨c, mem, -, started⟩ | taken
  · exact lent.started c mem payment started
  · exact lent.claimed payment (lent.taken _ taken)

/-- What a commit answers is stored by it. -/
theorem Committed.lends (h : Committed T n i x now r c') {payment : Payment}
    (answered : x.started? r = some payment ∨
      ∃ payments, x.claimed? r = some payments ∧ payment ∈ payments) :
    (T.state (n + 1)).payments.find? payment.id = some payment := by
  rw [h.next]
  have effect := h.effect
  rcases answered with started | ⟨payments, claimed, mem⟩
  · cases x with
    | startPayment =>
        cases r with
        | result answer => cases started
        | started p =>
            cases started
            obtain ⟨found, -⟩ := effect.started
            rw [show payment.id = _ from Table.key_of_find? found]
            exact found
    | _ => cases started
  · cases x with
    | claimDue leaseMs limit =>
        cases claimed
        cases effect with
        | nothing idle => exact idle.elim
        | laidOut flights => exact flights.elim
        | claimed distinct isDue log reply =>
            rw [Changes.apply_payments, log]
            refine Table.find?_putAll_of_mem ?_ (reply.mem_iff.mp mem)
            rw [List.map_map]
            exact distinct
    | _ => cases claimed

theorem Lent.commit {w : World app} (lent : Lent w) {c : Commit app}
    (sound : (w.commit c).Sound) : Lent (w.commit c) := by
  obtain ⟨⟨c', committed⟩, before, after⟩ := committed_last sound
  have stays : ∀ payment, w.db.HasBill payment → (w.commit c).db.HasBill payment := by
    intro payment had
    rw [← after, committed.next]
    exact committed.effect.hasBill (before ▸ had)
  have fresh : ∀ payment, c.tx.started? c.result = some payment ∨
      (∃ payments, c.tx.claimed? c.result = some payments ∧ payment ∈ payments) →
      (w.commit c).db.HasBill payment := by
    intro payment answered
    exact .of_find? (after ▸ committed.lends answered)
  have grows : w.commits <+: (w.commit c).commits := List.prefix_append ..
  constructor
  · intro c₁ mem payment started
    rcases List.mem_append.mp mem with mem | mem
    · exact stays payment (lent.started c₁ mem payment started)
    · obtain rfl := List.mem_singleton.mp mem
      exact fresh payment (.inl started)
  · rintro payment ⟨c₁, mem, claimed⟩
    rcases List.mem_append.mp mem with mem | mem
    · exact stays payment (lent.claimed payment ⟨c₁, mem, claimed⟩)
    · obtain rfl := List.mem_singleton.mp mem
      exact fresh payment (.inr claimed)
  · intro job mem
    exact (lent.queue job mem).mono grows
  · intro job mem
    exact (lent.taken job mem).mono grows

theorem Lent.call {w : World app} (lent : Lent w) {t : Nat} {q : Call} {choice : Choice}
    {a : q.Answer} {env : Env} (knows : KnowsToCall t q w)
    (performed : w.env.perform t q choice = some (a, env)) : Lent { w with env } := by
  refine ⟨lent.started, lent.claimed, ?_, ?_⟩
  · intro job mem
    rcases Env.perform_jobs performed with ⟨queue, -⟩ | ⟨payments, rfl, -, queue⟩ |
      ⟨_, -, -, queue⟩
    · exact lent.queue job (queue ▸ mem)
    · change job ∈ env.queue at mem
      rw [queue] at mem
      rcases List.mem_append.mp mem with mem | mem
      · exact lent.queue job mem
      · obtain ⟨payment, memP, rfl⟩ := List.mem_map.mp mem
        have claimed : payments ∈ claimsOf t w := by
          rw [show claimsOf t w = _ from knows]
          exact List.mem_append_right _ (List.mem_singleton_self _)
        obtain ⟨c, memC, claimed⟩ := mem_claimsOf claimed
        exact ⟨c, memC, payments, claimed, memP⟩
    · exact lent.queue job (queue mem)
  · intro job mem
    rcases Env.perform_jobs performed with ⟨-, taken⟩ | ⟨_, -, taken, -⟩ | ⟨job', mem', taken, -⟩
    · exact lent.taken job (taken ▸ mem)
    · exact lent.taken job (taken ▸ mem)
    · change job ∈ env.taken at mem
      rw [taken] at mem
      rcases List.mem_append.mp mem with mem | mem
      · exact lent.taken job mem
      · obtain rfl := List.mem_singleton.mp mem
        exact lent.queue job' mem'

theorem Lent.moves {w w' : World app} (sound : w'.Sound) (lent : Lent w)
    (moves : knowledge.Moves w w') : Lent w' := by
  cases moves with
  | tick ticked =>
      change w.env.tick _ = _ at ticked
      unfold Env.tick at ticked
      split at ticked <;> cases ticked
      exact ⟨lent.started, lent.claimed, lent.queue, lent.taken⟩
  | call knows performed => exact lent.call knows performed
  | commit _ => exact lent.commit sound

/-! ### Every transaction -/

/-- What a transaction works from is a copy of a stored payment, and only payments that
wait are put off. -/
def Transaction.Informed (x : Transaction) (db : Db) : Prop :=
  match x with
  | .settleDeclined payment .. => db.HasBill payment
  | .settleCharged payment .. => db.HasBill payment
  | .recordRefund payment .. => db.HasBill payment
  | .reschedule _ status _ => status = .processing ∨ status = .refundPending
  | _ => True

theorem Lent.informed {w : World app} (lent : Lent w) {t : Nat} {x : Transaction}
    (knows : Knows t x w) : x.Informed w.db := by
  cases x with
  | settleDeclined => exact lent.holds knows.1
  | settleCharged => exact lent.holds knows.1
  | recordRefund payment => exact lent.claimed payment (lent.taken _ knows.1)
  | reschedule id status =>
      obtain ⟨payment, -, -, rfl, -⟩ := knows
      change (if _ then _ else _) = _ ∨ (if _ then _ else _) = _
      split
      · exact .inl rfl
      · exact .inr rfl
  | _ => trivial

/-- The first `n` commits of the history are commits of the application that knew what
they were about. -/
def Informed (T : Timeline postgres) (n : Nat) : Prop :=
  ∀ m < n, ∃ i x now r c', Committed T m i x now r c' ∧ x.Informed (T.state m)

theorem Informed.unfolds (h : Informed T n) : Unfolds T n := fun m lt =>
  let ⟨i, x, now, r, c', committed, _⟩ := h m lt
  ⟨i, x, now, r, c', committed⟩

theorem Informed.mono {m : Nat} (h : Informed T n) (le : m ≤ n) : Informed T m :=
  fun j lt => h j (Nat.lt_of_lt_of_le lt le)

section Service

variable {airports : Table Airport} {clock : Instant} {steady idempotent : Bool}
  {invocations : Nat → Invocation} {p : Pool app UseCaseResult}

theorem lent_of_service (h : (service airports clock steady idempotent invocations).Reachable p) :
    Lent p.world := by
  refine (service_kept ..).invariant h ?_ fun w w' sound lent moves => lent.moves sound moves
  constructor
  · exact fun c mem => absurd mem List.not_mem_nil
  · rintro payment ⟨c, mem, -⟩
    exact absurd mem List.not_mem_nil
  · exact fun job mem => absurd mem List.not_mem_nil
  · exact fun job mem => absurd mem List.not_mem_nil

/-- Every commit of the service. -/
theorem informed_commit (h : (service airports clock steady idempotent invocations).Reachable p)
    {n : Nat} (lt : n < p.world.commits.length) :
    p.world.commits[n].tx.Informed (p.world.state n) := by
  have all : Lent p.world ∧ ∀ (n : Nat) (lt : n < p.world.commits.length),
      p.world.commits[n].tx.Informed (p.world.state n) := by
    refine (service_kept airports clock steady idempotent invocations).invariant h
      (P := fun w => Lent w ∧ ∀ (n : Nat) (lt : n < w.commits.length),
        w.commits[n].tx.Informed (w.state n)) ⟨lent_of_service .refl, ?_⟩ ?_
    · intro n lt
      exact absurd lt (Nat.not_lt_zero n)
    · rintro w w' sound ⟨lent, before⟩ moves
      refine ⟨lent.moves sound moves, ?_⟩
      cases moves with
      | tick | call => exact before
      | @commit c may =>
          intro n lt
          simp only [World.commit_commits, List.length_append, List.length_singleton] at lt
          rw [w.commit_state c (by omega)]
          rcases Nat.lt_or_ge n w.commits.length with old | ge
          · rw [show (w.commit c).commits[n] = w.commits[n] from List.getElem_append_left old]
            exact before n old
          · obtain rfl : n = w.commits.length := by omega
            rw [show (w.commit c).commits[w.commits.length] = c from
              List.getElem_concat_length rfl _, w.state_length]
            exact lent.informed may
  exact all.2 n lt

/-- Every transaction of the service that failed. -/
theorem informed_failure (h : (service airports clock steady idempotent invocations).Reachable p) :
    ∀ f ∈ p.failures, f.tx.Informed (p.world.state f.ended) := by
  refine (service_kept airports clock steady idempotent invocations).failures h
    (I := Lent) (fun q => lent_of_service) (P := fun f w => f.tx.Informed (w.state f.ended)) rfl ?_ ?_
  · intro f w lent ended may
    rw [ended, w.state_length]
    exact lent.informed may
  · intro f w w' le informed moves
    cases moves with
    | tick | call => exact informed
    | commit =>
        rw [World.commit_state _ _ le]
        exact informed

theorem informed_of_service (h : (service airports clock steady idempotent invocations).Reachable p) :
    Informed p.world.timeline p.world.commits.length := by
  intro n lt
  have good := (service_kept airports clock steady idempotent invocations).reachable h |>.good
  obtain ⟨c', committed, -⟩ := committed_of_sound good.sound lt
  exact ⟨_, _, _, _, c', committed, informed_commit h lt⟩

end Service

end FlightBooking
