import FlightBooking.Payments.Billing
import FlightBooking.Payments.Constraints
import FlightBooking.Payments.Leases

/-!
The provider's books and the payments table.

They are two ledgers that no transaction covers both of: money moves when the provider
acts, which may be long before its answer is recorded, or without an answer at all. Of a
provider that keeps the port's promise, `Books` is what ties them together whatever is in
flight, and the two balance at every moment (`ledger_balances`): what was taken and not
given back is what paid bookings cost, and what is still to be settled or given back.
-/

namespace FlightBooking

open Relational ReadCommitted

/-! ### The provider -/

namespace Provider

variable {p : Provider} {id id' : Uuid} {amount : Money} {wanted v : Verdict}

/-- The money of `id` was taken. -/
def Took (p : Provider) (id : Uuid) : Prop := ∃ c ∈ p.charged, c.1 = id

/-- The money of `id` was given back. -/
def GaveBack (p : Provider) (id : Uuid) : Prop := ∃ c ∈ p.refunded, c.1 = id

instance : DecidablePred p.Took := fun _ => inferInstanceAs (Decidable (∃ c ∈ p.charged, _))

instance : DecidablePred p.GaveBack := fun _ => inferInstanceAs (Decidable (∃ c ∈ p.refunded, _))

/-- Books in which money is taken once, and exactly for a charge that succeeded, and given
back once. -/
structure Sound (p : Provider) : Prop where
  chargedOnce : (p.charged.map (·.1)).Nodup
  taken : ∀ id, p.Took id ↔ ∃ reference, p.verdict? id = some (.succeeded reference)
  refundedOnce : (p.refunded.map (·.1)).Nodup
  given : ∀ id, p.GaveBack id → p.Took id

theorem verdict?_take (p : Provider) (id id' : Uuid) (amount : Money) :
    (p.take id amount).verdict? id' = p.verdict? id' := by
  unfold take
  split <;> rfl

theorem any_charged : (p.charged.any fun c => c.1 = id) = true ↔ p.Took id := by
  simp [Took]

theorem any_refunded : (p.refunded.any fun c => c.1 = id) = true ↔ p.GaveBack id := by
  simp [GaveBack]

theorem charged_take (p : Provider) (id : Uuid) (amount : Money) :
    (p.take id amount).charged = if p.Took id then p.charged else p.charged ++ [(id, amount)] := by
  unfold take
  by_cases taken : p.Took id
  · rw [if_pos taken, if_pos (any_charged.mpr taken)]
  · rw [if_neg taken, if_neg fun any => taken (any_charged.mp any)]

/-- The provider decides on an id once. -/
theorem verdict?_charge (p : Provider) (id id' : Uuid) (amount : Money) (wanted : Verdict) :
    (p.charge id amount wanted).2.verdict? id' =
      if id' = id then some (p.charge id amount wanted).1 else p.verdict? id' := by
  unfold charge
  cases known : p.verdict? id with
  | none =>
      have new : ∀ i, ({ p with verdicts := p.verdicts ++ [(id, wanted)] } : Provider).verdict? i =
          if i = id then some wanted else p.verdict? i := by
        intro i
        unfold verdict? at known ⊢
        rw [List.find?_append]
        by_cases same : i = id
        · subst same
          rw [Option.map_eq_none_iff.mp known]
          simp
        · rw [if_neg same]
          simp [Ne.symm same]
      cases wanted with
      | succeeded => simpa [verdict?_take] using new id'
      | declined => simpa using new id'
  | some v =>
      have old : p.verdict? id' = if id' = id then some v else p.verdict? id' := by
        split
        · rename_i same
          rw [same, known]
        · rfl
      cases v with
      | succeeded => simpa [verdict?_take] using old
      | declined => simpa using old

theorem charge_verdict (p : Provider) (id : Uuid) (amount : Money) (wanted : Verdict) :
    (p.charge id amount wanted).1 = (p.verdict? id).getD wanted := by
  unfold charge
  dsimp only
  split <;> rfl

/-- The verdict on an id stays. -/
theorem verdict?_charge_of_some {v : Verdict} (known : p.verdict? id' = some v) :
    (p.charge id amount wanted).2.verdict? id' = some v := by
  rw [verdict?_charge]
  split
  · rename_i same
    subst same
    rw [charge_verdict, known]
    rfl
  · exact known

/-- A charge that succeeds takes the money unless it was taken. -/
theorem charged_of_succeeded {reference : String}
    (h : (p.charge id amount wanted).1 = .succeeded reference) :
    (p.charge id amount wanted).2.charged =
      if p.Took id then p.charged else p.charged ++ [(id, amount)] := by
  rw [charge_verdict] at h
  unfold charge
  rw [h]
  dsimp only
  split <;> exact charged_take ..

theorem charged_of_declined {reason : String} (h : (p.charge id amount wanted).1 = .declined reason) :
    (p.charge id amount wanted).2.charged = p.charged := by
  rw [charge_verdict] at h
  unfold charge
  rw [h]
  dsimp only
  split <;> rfl

theorem charge_pending (p : Provider) (id : Uuid) (amount : Money) (wanted : Verdict) :
    (p.charge id amount wanted).2.sent = p.sent ∧
      (p.charge id amount wanted).2.sentRefunds = p.sentRefunds := by
  unfold charge take
  dsimp only
  split <;> split_ifs <;> exact ⟨rfl, rfl⟩

theorem mem_charged_charge {c : Uuid × Money} (mem : c ∈ (p.charge id amount wanted).2.charged) :
    c ∈ p.charged ∨ c = (id, amount) := by
  cases verdict : (p.charge id amount wanted).1 with
  | succeeded =>
      rw [charged_of_succeeded verdict] at mem
      split at mem
      · exact .inl mem
      · exact (List.mem_append.mp mem).imp (fun old => old) List.mem_singleton.mp
  | declined =>
      rw [charged_of_declined verdict] at mem
      exact .inl mem

theorem charged_sublist (p : Provider) (id : Uuid) (amount : Money) (wanted : Verdict) :
    p.charged <+: (p.charge id amount wanted).2.charged := by
  cases verdict : (p.charge id amount wanted).1 with
  | succeeded =>
      rw [charged_of_succeeded verdict]
      split
      · exact List.prefix_refl _
      · exact List.prefix_append _ _
  | declined => exact (charged_of_declined verdict).symm ▸ List.prefix_refl _

theorem Sound.charge (sound : p.Sound) (id : Uuid) (amount : Money) (wanted : Verdict) :
    (p.charge id amount wanted).2.Sound := by
  have refunded : (p.charge id amount wanted).2.refunded = p.refunded := charge_refunded ..
  have kept : ∀ i, p.Took i → (p.charge id amount wanted).2.Took i := by
    rintro i ⟨c, mem, same⟩
    exact ⟨c, (charged_sublist ..).subset mem, same⟩
  constructor
  · cases verdict : (p.charge id amount wanted).1 with
    | succeeded =>
        rw [charged_of_succeeded verdict]
        split
        · exact sound.chargedOnce
        · rename_i untaken
          rw [List.map_append, List.nodup_append]
          refine ⟨sound.chargedOnce, List.nodup_singleton _, ?_⟩
          rintro _ mem _ mem' rfl
          obtain ⟨c, there, same⟩ := List.mem_map.mp mem
          exact untaken ⟨c, there, same.trans (List.mem_singleton.mp mem')⟩
    | declined =>
        rw [charged_of_declined verdict]
        exact sound.chargedOnce
  · intro i
    rw [verdict?_charge]
    constructor
    · rintro ⟨c, mem, rfl⟩
      by_cases same : c.1 = id
      · rw [if_pos same]
        cases verdict : (p.charge id amount wanted).1 with
        | succeeded reference => exact ⟨reference, rfl⟩
        | declined reason =>
            rw [charged_of_declined verdict] at mem
            obtain ⟨reference, known⟩ := (sound.taken id).mp ⟨c, mem, same⟩
            rw [charge_verdict, known] at verdict
            cases verdict
      · rw [if_neg same]
        refine (sound.taken c.1).mp ⟨c, ?_, rfl⟩
        exact (mem_charged_charge mem).resolve_right fun new => same (congrArg Prod.fst new)
    · rintro ⟨reference, succeeded⟩
      split at succeeded
      · rename_i same
        subst same
        have verdict := Option.some.inj succeeded
        by_cases taken : p.Took i
        · exact kept i taken
        · refine ⟨(i, amount), ?_, rfl⟩
          rw [charged_of_succeeded verdict, if_neg taken]
          exact List.mem_append_right _ (List.mem_singleton_self _)
      · exact kept i ((sound.taken i).mpr ⟨reference, succeeded⟩)
  · rw [refunded]
    exact sound.refundedOnce
  · rintro i ⟨c, mem, same⟩
    rw [refunded] at mem
    exact kept i (sound.given i ⟨c, mem, same⟩)

theorem refunded_refund (p : Provider) (id : Uuid) (amount : Money) :
    (p.refund id amount).refunded =
      if p.Took id ∧ ¬ p.GaveBack id then p.refunded ++ [(id, amount)] else p.refunded := by
  unfold refund
  by_cases may : p.Took id ∧ ¬ p.GaveBack id
  · have bools : ((p.charged.any fun c => c.1 = id) && !(p.refunded.any fun c => c.1 = id)) = true := by
      rw [any_charged.mpr may.1, Bool.true_and, Bool.not_eq_true', ← Bool.not_eq_true, any_refunded]
      exact may.2
    rw [if_pos may, if_pos bools]
  · have bools : ¬ ((p.charged.any fun c => c.1 = id) &&
        !(p.refunded.any fun c => c.1 = id)) = true := by
      rw [Bool.and_eq_true, any_charged, Bool.not_eq_true', ← Bool.not_eq_true, any_refunded]
      exact may
    rw [if_neg may, if_neg bools]

theorem refund_rest (p : Provider) (id : Uuid) (amount : Money) :
    (p.refund id amount).verdicts = p.verdicts ∧ (p.refund id amount).charged = p.charged ∧
      (p.refund id amount).sent = p.sent ∧ (p.refund id amount).sentRefunds = p.sentRefunds := by
  unfold refund
  split <;> exact ⟨rfl, rfl, rfl, rfl⟩

theorem Sound.refund (sound : p.Sound) (id : Uuid) (amount : Money) : (p.refund id amount).Sound := by
  obtain ⟨verdicts, charged, -⟩ := refund_rest p id amount
  have took : ∀ i, (p.refund id amount).Took i ↔ p.Took i := by
    intro i
    unfold Took
    rw [charged]
  constructor
  · rw [charged]
    exact sound.chargedOnce
  · intro i
    rw [took, verdict?, verdicts]
    exact sound.taken i
  · rw [refunded_refund]
    split
    · rename_i may
      rw [List.map_append, List.nodup_append]
      refine ⟨sound.refundedOnce, List.nodup_singleton _, ?_⟩
      rintro _ mem _ mem' rfl
      obtain ⟨c, there, same⟩ := List.mem_map.mp mem
      exact may.2 ⟨c, there, same.trans (List.mem_singleton.mp mem')⟩
    · exact sound.refundedOnce
  · rintro i ⟨c, mem, rfl⟩
    rw [took]
    rw [refunded_refund] at mem
    split at mem
    · rename_i may
      rcases List.mem_append.mp mem with mem | mem
      · exact sound.given c.1 ⟨c, mem, rfl⟩
      · obtain rfl := List.mem_singleton.mp mem
        exact may.1
    · exact sound.given c.1 ⟨c, mem, rfl⟩

end Provider

/-! ### What a call does to the books -/

/-- A charge request was answered: the provider acted on it or keeps it, and a definite
answer says what it decided. -/
structure Env.Charges (e e' : Env) (request : ChargeRequest) : Prop where
  books : (∃ wanted, e'.provider = (e.provider.charge request.paymentId request.amount wanted).2) ∨
    e'.provider = { e.provider with sent := e.provider.sent ++ [(request.paymentId, request.amount)] }
  answers : ∀ a ∈ e'.chargeAnswers, a ∈ e.chargeAnswers ∨ a.1 = request.paymentId ∧
    ∀ v : Verdict, a.2 = v.result → e'.provider.verdict? request.paymentId = some v

theorem Verdict.result_inj {v v' : Verdict} (h : v.result = v'.result) : v = v' := by
  cases v <;> cases v' <;> cases h <;> rfl

theorem Env.answerCharge_charges {e e' : Env} {request : ChargeRequest} {choice : Choice} {a}
    (idempotent : e.idempotent = true) (h : e.answerCharge request choice = some (a, e')) :
    e.Charges e' request := by
  cases choice with
  | definite wanted =>
      cases h
      refine ⟨.inl ⟨wanted, rfl⟩, fun x mem => ?_⟩
      rcases List.mem_append.mp mem with mem | mem
      · exact .inl mem
      · obtain rfl := List.mem_singleton.mp mem
        refine .inr ⟨rfl, fun v same => ?_⟩
        have decided := e.provider.verdict?_charge request.paymentId request.paymentId
          request.amount wanted
        rw [if_pos rfl] at decided
        exact decided.trans (congrArg some (Verdict.result_inj same))
  | unclear acts answer =>
      have unclear : ∀ (provider : Provider) (reason : String),
          ∀ x ∈ e.chargeAnswers ++ [(request.paymentId, .unknown reason)],
            x ∈ e.chargeAnswers ∨ x.1 = request.paymentId ∧
              ∀ v : Verdict, x.2 = v.result → provider.verdict? request.paymentId = some v := by
        intro provider reason x mem
        rcases List.mem_append.mp mem with mem | mem
        · exact .inl mem
        · obtain rfl := List.mem_singleton.mp mem
          exact .inr ⟨rfl, fun v same => by cases v <;> cases same⟩
      cases acts with
      | none =>
          cases answer with
          | error =>
              cases h
              exact ⟨.inr rfl, fun x mem => .inl mem⟩
          | ok reason =>
              cases h
              exact ⟨.inr rfl, unclear _ reason⟩
      | some wanted =>
          cases answer with
          | error =>
              cases h
              exact ⟨.inl ⟨wanted, rfl⟩, fun x mem => .inl mem⟩
          | ok reason =>
              cases h
              exact ⟨.inl ⟨wanted, rfl⟩, unclear _ reason⟩
  | anyCharge answer =>
      unfold Env.answerCharge at h
      rw [idempotent] at h
      cases h
  | _ => cases h

/-- Who moves money: a charge, a refund, or the provider acting on what it had received. -/
theorem Env.perform_provider {t : Nat} {e e' : Env} {q : Call} {choice : Choice} {a : q.Answer}
    (idempotent : e.idempotent = true) (h : e.perform t q choice = some (a, e')) :
    (∃ request, q = .charge request ∧ e.Charges e' request) ∨
    (e'.chargeAnswers = e.chargeAnswers ∧ (e'.provider = e.provider ∨
      (∃ request acts, q = .refund request ∧
        e'.provider = e.provider.asked acts request.paymentId request.amount) ∨
      (∃ s ∈ e.provider.sent, ∃ wanted, e'.provider = (e.provider.charge s.1 s.2 wanted).2) ∨
      ∃ s ∈ e.provider.sentRefunds, e'.provider = e.provider.refund s.1 s.2)) := by
  unfold Env.perform at h
  split at h
  · obtain ⟨e'', ticked, same⟩ := Option.map_eq_some_iff.mp h
    cases same
    obtain ⟨rfl, -⟩ := Env.tick_some ticked
    exact .inr ⟨rfl, .inl rfl⟩
  · exact .inl ⟨_, rfl, Env.answerCharge_charges idempotent h⟩
  · obtain ⟨acts, rfl, -⟩ := Env.answerRefund_some h
    exact .inr ⟨rfl, .inr (.inl ⟨_, acts, rfl, rfl⟩)⟩
  · cases h
    exact .inr ⟨rfl, .inl rfl⟩
  · cases h
    exact .inr ⟨rfl, .inl rfl⟩
  · obtain ⟨job, -, same⟩ := Option.map_eq_some_iff.mp h
    cases same
    exact .inr ⟨rfl, .inl rfl⟩
  · cases h
    exact .inr ⟨rfl, .inl rfl⟩
  · extract_lets done at h
    split at h
    · obtain ⟨-, rfl⟩ := Prod.ext_iff.mp (Option.some.inj h)
      exact .inr ⟨rfl, .inl rfl⟩
    · cases h
  · rename_i wanted
    obtain ⟨s, found, same⟩ := Option.map_eq_some_iff.mp h
    cases same
    exact .inr ⟨rfl, .inr (.inr (.inl ⟨s, List.mem_of_find?_eq_some found, wanted, rfl⟩))⟩
  · obtain ⟨s, found, same⟩ := Option.map_eq_some_iff.mp h
    cases same
    exact .inr ⟨rfl, .inr (.inr (.inr ⟨s, List.mem_of_find?_eq_some found, rfl⟩))⟩
  · cases h

/-! ### The books and the payments -/

/-- A refund of the payment was started. -/
def PaymentStatus.Refunding (s : PaymentStatus) : Prop :=
  s = .refundPending ∨ s = .refunded ∨ s = .refundFailed

theorem PaymentEdge.refunding {s s' : PaymentStatus} (h : PaymentEdge s s') (started : s.Refunding) :
    s'.Refunding := by
  cases h with
  | succeeded | failed | chargedTooLate | cancelled =>
      rcases started with started | started | started <;> cases started
  | refunded => exact .inr (.inl rfl)
  | refundFailed => exact .inr (.inr rfl)

/-- What a payment's status says the provider did. -/
def Payment.Agrees (p : Payment) (books : Provider) : Prop :=
  match p.status with
  | .processing => True
  | .failed => ∃ reason, books.verdict? p.id = some (.declined reason)
  | .succeeded | .refundPending | .refundFailed =>
      ∃ reference, books.verdict? p.id = some (.succeeded reference)
  | .refunded => books.GaveBack p.id

/-- The provider's books went on. -/
structure Provider.Grows (p p' : Provider) : Prop where
  verdict : ∀ id v, p.verdict? id = some v → p'.verdict? id = some v
  gaveBack : ∀ id, p.GaveBack id → p'.GaveBack id

theorem Payment.Agrees.mono {p : Payment} {books books' : Provider} (agrees : p.Agrees books)
    (grows : books.Grows books') : p.Agrees books' := by
  unfold Agrees at agrees ⊢
  cases status : p.status with
  | processing => trivial
  | failed | succeeded | refundPending | refundFailed =>
      rw [status] at agrees
      obtain ⟨text, known⟩ := agrees
      exact ⟨text, grows.verdict _ _ known⟩
  | refunded =>
      rw [status] at agrees
      exact grows.gaveBack _ agrees

/-- What ties the provider's books to the payments: money that moved, or is asked for, moves
for a stored payment and in its amount; money that goes back goes back for a payment whose
refund was started; and no payment has a status the provider's answers do not bear out. -/
structure Books (w : World app) : Prop where
  idempotent : w.env.idempotent = true
  provider : w.env.provider.Sound
  answers : ∀ a ∈ w.env.chargeAnswers, ∀ v : Verdict, a.2 = v.result →
    w.env.provider.verdict? a.1 = some v
  charges : ∀ c ∈ w.env.provider.charged ++ w.env.provider.sent, ∃ p,
    w.db.payments.find? c.1 = some p ∧ p.amount = c.2
  refunds : ∀ c ∈ w.env.provider.refunded ++ w.env.provider.sentRefunds, ∃ p,
    w.db.payments.find? c.1 = some p ∧ p.amount = c.2 ∧ p.status.Refunding
  claims : ∀ payment, Claimed w payment → payment.status ≠ .processing → ∃ p,
    w.db.payments.find? payment.id = some p ∧ p.status.Refunding
  agree : ∀ p ∈ w.db.payments, p.Agrees w.env.provider

section Moves

variable {w : World app}

/-- Calls leave the database alone. -/
theorem Books.env (books : Books w) {env : Env} (idempotent : env.idempotent = true)
    (sound : env.provider.Sound) (grows : w.env.provider.Grows env.provider)
    (answers : ∀ a ∈ env.chargeAnswers, a ∈ w.env.chargeAnswers ∨
      ∀ v : Verdict, a.2 = v.result → env.provider.verdict? a.1 = some v)
    (charges : ∀ c ∈ env.provider.charged ++ env.provider.sent,
      c ∈ w.env.provider.charged ++ w.env.provider.sent ∨
        ∃ p, w.db.payments.find? c.1 = some p ∧ p.amount = c.2)
    (refunds : ∀ c ∈ env.provider.refunded ++ env.provider.sentRefunds,
      c ∈ w.env.provider.refunded ++ w.env.provider.sentRefunds ∨
        ∃ p, w.db.payments.find? c.1 = some p ∧ p.amount = c.2 ∧ p.status.Refunding) :
    Books { w with env } where
  idempotent := idempotent
  provider := sound
  answers a mem v same := by
    rcases answers a mem with old | new
    · exact grows.verdict _ _ (books.answers a old v same)
    · exact new v same
  charges c mem := (charges c mem).elim (books.charges c) fun new => new
  refunds c mem := (refunds c mem).elim (books.refunds c) fun new => new
  claims := books.claims
  agree p mem := (books.agree p mem).mono grows

theorem Provider.grows_charge (p : Provider) (id : Uuid) (amount : Money) (wanted : Verdict) :
    p.Grows (p.charge id amount wanted).2 where
  verdict _ _ := verdict?_charge_of_some
  gaveBack i gave := by
    unfold GaveBack
    rwa [charge_refunded]

theorem Provider.grows_refund (p : Provider) (id : Uuid) (amount : Money) :
    p.Grows (p.refund id amount) where
  verdict i v known := by
    unfold verdict?
    rwa [(refund_rest p id amount).1]
  gaveBack i gave := by
    obtain ⟨c, mem, same⟩ := gave
    exact ⟨c, (refund_grows p id amount).subset mem, same⟩

/-- The provider acts on a charge of a payment it knows the amount of. -/
theorem Books.charge (books : Books w) {env : Env} {id : Uuid} {amount : Money} {wanted : Verdict}
    (bill : ∃ p, w.db.payments.find? id = some p ∧ p.amount = amount)
    (acted : env.provider = (w.env.provider.charge id amount wanted).2)
    (idempotent : env.idempotent = true)
    (answers : ∀ a ∈ env.chargeAnswers, a ∈ w.env.chargeAnswers ∨
      ∀ v : Verdict, a.2 = v.result → env.provider.verdict? a.1 = some v) :
    Books { w with env } := by
  obtain ⟨sent, sentRefunds⟩ := w.env.provider.charge_pending id amount wanted
  have refunded := w.env.provider.charge_refunded id amount wanted
  refine books.env idempotent (acted ▸ books.provider.charge id amount wanted)
    (acted ▸ w.env.provider.grows_charge id amount wanted) answers ?_ ?_
  · intro c mem
    rw [acted, sent] at mem
    rcases List.mem_append.mp mem with mem | mem
    · rcases Provider.mem_charged_charge mem with old | rfl
      · exact .inl (List.mem_append_left _ old)
      · exact .inr bill
    · exact .inl (List.mem_append_right _ mem)
  · intro c mem
    rw [acted, sentRefunds, refunded] at mem
    exact .inl mem

/-- The provider gives money back for a payment whose refund was started. -/
theorem Books.refund (books : Books w) {env : Env} {id : Uuid} {amount : Money}
    (bill : ∃ p, w.db.payments.find? id = some p ∧ p.amount = amount ∧ p.status.Refunding)
    (acted : env.provider = w.env.provider.refund id amount)
    (idempotent : env.idempotent = true) (answers : env.chargeAnswers = w.env.chargeAnswers) :
    Books { w with env } := by
  obtain ⟨-, charged, sent, sentRefunds⟩ := Provider.refund_rest w.env.provider id amount
  refine books.env idempotent (acted ▸ books.provider.refund id amount)
    (acted ▸ w.env.provider.grows_refund id amount) (fun a mem => .inl (answers ▸ mem)) ?_ ?_
  · intro c mem
    rw [acted, sent, charged] at mem
    exact .inl mem
  · intro c mem
    rw [acted, sentRefunds, Provider.refunded_refund] at mem
    rcases List.mem_append.mp mem with mem | mem
    · split at mem
      · rcases List.mem_append.mp mem with mem | mem
        · exact .inl (List.mem_append_left _ mem)
        · obtain rfl := List.mem_singleton.mp mem
          exact .inr bill
      · exact .inl (List.mem_append_left _ mem)
    · exact .inl (List.mem_append_right _ mem)

/-- The provider keeps a request for later, or does nothing. -/
theorem Books.keep (books : Books w) {env : Env} (sent sentRefunds : List (Uuid × Money))
    (kept : env.provider = { w.env.provider with
      sent := w.env.provider.sent ++ sent, sentRefunds := w.env.provider.sentRefunds ++ sentRefunds })
    (charges : ∀ c ∈ sent, ∃ p, w.db.payments.find? c.1 = some p ∧ p.amount = c.2)
    (refunds : ∀ c ∈ sentRefunds, ∃ p, w.db.payments.find? c.1 = some p ∧ p.amount = c.2 ∧
      p.status.Refunding)
    (idempotent : env.idempotent = true)
    (answers : ∀ a ∈ env.chargeAnswers, a ∈ w.env.chargeAnswers ∨
      ∀ v : Verdict, a.2 = v.result → env.provider.verdict? a.1 = some v) :
    Books { w with env } := by
  obtain ⟨chargedOnce, taken, refundedOnce, given⟩ := books.provider
  refine books.env idempotent (kept ▸ ⟨chargedOnce, taken, refundedOnce, given⟩)
    (kept ▸ ⟨fun _ _ known => known, fun _ gave => gave⟩) answers ?_ ?_
  · intro c mem
    rw [kept, ← List.append_assoc] at mem
    exact (List.mem_append.mp mem).imp (fun old => old) (charges c)
  · intro c mem
    rw [kept, ← List.append_assoc] at mem
    exact (List.mem_append.mp mem).imp (fun old => old) (refunds c)

theorem Books.call (books : Books w) (lent : Lent w) {t : Nat} {q : Call} {choice : Choice}
    {a : q.Answer} {env : Env} (knows : KnowsToCall t q w)
    (performed : w.env.perform t q choice = some (a, env)) : Books { w with env } := by
  have idempotent : env.idempotent = true :=
    (Env.perform_grows (t := t + 1) (Nat.ne_of_lt (Nat.lt_succ_self t)) performed).idempotent.trans
      books.idempotent
  rcases Env.perform_provider books.idempotent performed with
    ⟨request, rfl, charges⟩ | ⟨answers, moved⟩
  · obtain ⟨payment, holds, isId, isAmount⟩ := knows
    obtain ⟨p, found, bill⟩ := lent.holds holds
    have known : ∃ p, w.db.payments.find? request.paymentId = some p ∧ p.amount = request.amount :=
      ⟨p, isId ▸ found, isAmount ▸ (Payment.bill_iff.mp bill).2.2.2⟩
    have answered : ∀ a ∈ env.chargeAnswers, a ∈ w.env.chargeAnswers ∨
        ∀ v : Verdict, a.2 = v.result → env.provider.verdict? a.1 = some v := by
      intro a mem
      rcases charges.answers a mem with old | ⟨same, decided⟩
      · exact .inl old
      · exact .inr (same ▸ decided)
    rcases charges.books with ⟨wanted, acted⟩ | kept
    · exact books.charge known acted idempotent answered
    · refine books.keep [(request.paymentId, request.amount)] [] (kept.trans ?_) (fun c mem => ?_)
        (fun c mem => ?_) idempotent answered
      · rw [List.append_nil]
      · obtain rfl := List.mem_singleton.mp mem
        exact known
      · exact absurd mem List.not_mem_nil
  · have answered : ∀ a ∈ env.chargeAnswers, a ∈ w.env.chargeAnswers ∨
        ∀ v : Verdict, a.2 = v.result → env.provider.verdict? a.1 = some v :=
      fun a mem => .inl (answers ▸ mem)
    rcases moved with same | ⟨request, acts, rfl, asked⟩ | ⟨s, mem, wanted, acted⟩ |
      ⟨s, mem, acted⟩
    · refine books.keep [] [] (same.trans ?_) (fun c mem => ?_) (fun c mem => ?_) idempotent answered
      · rw [List.append_nil, List.append_nil]
      · exact absurd mem List.not_mem_nil
      · exact absurd mem List.not_mem_nil
    · obtain ⟨payment, taken, waits, isId, isAmount, -⟩ := knows
      have claimed := lent.taken _ taken
      obtain ⟨p, found, bill⟩ := lent.claimed payment claimed
      obtain ⟨p', found', started⟩ := books.claims payment claimed waits
      cases found.symm.trans found'
      have known : ∃ p, w.db.payments.find? request.paymentId = some p ∧
          p.amount = request.amount ∧ p.status.Refunding :=
        ⟨p, isId ▸ found, isAmount ▸ (Payment.bill_iff.mp bill).2.2.2, started⟩
      cases acts with
      | true => exact books.refund known asked idempotent answers
      | false =>
          refine books.keep [] [(request.paymentId, request.amount)] (asked.trans ?_)
            (fun c mem => ?_) (fun c mem => ?_) idempotent answered
          · rw [List.append_nil]
            rfl
          · exact absurd mem List.not_mem_nil
          · obtain rfl := List.mem_singleton.mp mem
            exact known
    · exact books.charge (books.charges s (List.mem_append_right _ mem)) acted idempotent answered
    · exact books.refund (books.refunds s (List.mem_append_right _ mem)) acted idempotent answers

variable {T : Timeline postgres} {n i : Nat} {now : Instant} {id : Uuid}

/-- A payment is settled, or its refund recorded, on the provider's word. -/
theorem PaymentChange.agrees (books : Books w) {t : Nat} {x : Transaction} {r : x.Result}
    {o : Option Payment} {p' : Payment} (h : PaymentChange T n i id x now r o (some p'))
    (own : p'.id = id) (knows : Knows t x w)
    (before : ∀ p, o = some p → p.Agrees w.env.provider) : p'.Agrees w.env.provider := by
  cases h with
  | same => exact before p' rfl
  | started on =>
      rw [on.payment]
      trivial
  | @declined payment reason _ _ _ _ p same =>
      refine ⟨reason, ?_⟩
      have isId : (p.moved .failed now none (some reason)).id = payment.id := own.trans same.symm
      rw [isId]
      exact books.answers _ knows.2.1 (.declined reason) rfl
  | @chargedTooLate payment reference _ _ _ _ p same =>
      refine ⟨reference, ?_⟩
      have isId : (p.moved .refundPending now (some reference) none).id = payment.id :=
        own.trans same.symm
      rw [isId]
      exact books.answers _ knows.2.1 (.succeeded reference) rfl
  | @confirmed payment reference _ _ _ _ p _ _ _ same =>
      refine ⟨reference, ?_⟩
      have isId : (p.moved .succeeded now (some reference) none).id = payment.id :=
        own.trans same.symm
      rw [isId]
      exact books.answers _ knows.2.1 (.succeeded reference) rfl
  | @cancelled _ _ _ _ _ _ _ _ p _ paid =>
      have old := before p rfl
      unfold Payment.Agrees at old
      rw [paid] at old
      exact old
  | @claimed _ _ _ _ p => exact before p rfl
  | @refundRecorded payment record _ _ _ p same pending =>
      have old := before p rfl
      unfold Payment.Agrees at old
      rw [pending] at old
      cases record with
      | refunded =>
          obtain ⟨c, mem, isId⟩ := knows.2.1 rfl books.idempotent
          exact ⟨c, mem, isId.trans (same.trans own.symm)⟩
      | refundFailed => exact old
  | @rescheduled _ _ _ _ p => exact before p rfl

theorem Books.commit {c : Commit app} (books : Books w) (sound : (w.commit c).Sound)
    (knows : Knows c.thread c.tx w) : Books (w.commit c) := by
  obtain ⟨⟨c', committed⟩, before, after⟩ := committed_last sound
  have change := fun id => committed.effect.payment id
  rw [← committed.next, before, after] at change
  -- A stored payment stays, with its amount, and a refund that was started stays so.
  have stays : ∀ id p, w.db.payments.find? id = some p → ∃ p',
      (w.commit c).db.payments.find? id = some p' ∧ p'.amount = p.amount ∧
        (p.status.Refunding → p'.status.Refunding) := by
    intro id p found
    replace change := change id
    rw [found] at change
    obtain ⟨p', found', bill⟩ := change.bill
    rw [found'] at change
    refine ⟨p', found', (Payment.bill_iff.mp bill).2.2.2, fun started => ?_⟩
    rcases change.edge with same | ⟨edge, -⟩
    · exact same ▸ started
    · exact edge.refunding started
  constructor
  · exact books.idempotent
  · exact books.provider
  · exact books.answers
  · intro bill mem
    obtain ⟨p, found, amount⟩ := books.charges bill mem
    obtain ⟨p', found', same, -⟩ := stays _ p found
    exact ⟨p', found', same.trans amount⟩
  · intro bill mem
    obtain ⟨p, found, amount, started⟩ := books.refunds bill mem
    obtain ⟨p', found', same, still⟩ := stays _ p found
    exact ⟨p', found', same.trans amount, still started⟩
  · rintro payment ⟨c₁, mem, payments, claimed, among⟩ waits
    rcases List.mem_append.mp mem with mem | mem
    · obtain ⟨p, found, started⟩ := books.claims payment ⟨c₁, mem, payments, claimed, among⟩ waits
      obtain ⟨p', found', -, still⟩ := stays _ p found
      exact ⟨p', found', still started⟩
    · obtain rfl := List.mem_singleton.mp mem
      have stored := committed.lends (.inr ⟨payments, claimed, among⟩)
      rw [after] at stored
      obtain ⟨status, -⟩ := (committed.effect.claims_anew claimed).2 payment among
      exact ⟨payment, stored, .inl (status.resolve_left waits)⟩
  · intro p' mem
    have step := change p'.id
    rw [show (w.commit c).db.payments.find? p'.id = some p' from Table.find?_of_mem mem] at step
    refine step.agrees books rfl knows fun p found => ?_
    exact books.agree p (Table.mem_of_find? found)

theorem Books.moves {w' : World app} (books : Books w) (lent : Lent w) (sound : w'.Sound)
    (h : knowledge.Moves w w') : Books w' := by
  cases h with
  | tick ticked =>
      obtain ⟨rfl, -⟩ := Env.tick_some ticked
      exact ⟨books.idempotent, books.provider, books.answers, books.charges, books.refunds,
        books.claims, books.agree⟩
  | call knows performed => exact books.call lent knows performed
  | commit knows => exact books.commit sound knows

end Moves

/-! ### The balance -/

/-- What the entries of one of the provider's books add up to. -/
def ledgerTotal (book : List (Uuid × Money)) : Nat := (book.map fun c => c.2.amount).sum

/-- What the payments of one kind add up to. -/
def Db.owed (db : Db) (kind : Payment → Prop) [DecidablePred kind] : Nat :=
  ((db.payments.rows.filter kind).map fun p => p.amount.amount).sum

/-- Payments of two kinds that no payment has both of. -/
theorem Db.owed_or {db : Db} {kind left right : Payment → Prop} [DecidablePred kind]
    [DecidablePred left] [DecidablePred right]
    (either : ∀ p ∈ db.payments, kind p ↔ left p ∨ right p)
    (apart : ∀ p ∈ db.payments, left p → ¬ right p) :
    db.owed kind = db.owed left + db.owed right := by
  have rows : ∀ l : List Payment, (∀ p ∈ l, p ∈ db.payments) →
      ((l.filter kind).map fun p => p.amount.amount).sum =
        ((l.filter left).map fun p => p.amount.amount).sum +
          ((l.filter right).map fun p => p.amount.amount).sum := by
    intro l stored
    induction l with
    | nil => rfl
    | cons p l ih =>
        have rest := ih fun q mem => stored q (List.mem_cons_of_mem _ mem)
        have here := either p (stored p List.mem_cons_self)
        have one := apart p (stored p List.mem_cons_self)
        by_cases isLeft : left p
        · have noRight := one isLeft
          have isKind := here.mpr (.inl isLeft)
          simp only [List.filter_cons, isLeft, noRight, isKind, decide_true, decide_false, if_true,
            Bool.false_eq_true, if_false, List.map_cons, List.sum_cons]
          omega
        · by_cases isRight : right p
          · have isKind := here.mpr (.inr isRight)
            simp only [List.filter_cons, isLeft, isRight, isKind, decide_true, decide_false, if_true,
              Bool.false_eq_true, if_false, List.map_cons, List.sum_cons]
            omega
          · have noKind : ¬ kind p := fun is => (here.mp is).elim isLeft isRight
            simp only [List.filter_cons, isLeft, isRight, noKind, decide_false,
              Bool.false_eq_true, if_false]
            exact rest
  exact rows db.payments.rows fun _ mem => mem

/-- A book in which every id stands once, and with the amount of its payment. -/
theorem ledgerTotal_eq {db : Db} {book : List (Uuid × Money)} (once : (book.map (·.1)).Nodup)
    (known : ∀ c ∈ book, ∃ p, db.payments.find? c.1 = some p ∧ p.amount = c.2) :
    ledgerTotal book = db.owed fun p => ∃ c ∈ book, c.1 = p.id := by
  have perm : book.Perm ((db.payments.rows.filter fun p => ∃ c ∈ book, c.1 = p.id).map
      fun p => (p.id, p.amount)) := by
    rw [List.perm_ext_iff_of_nodup (List.Nodup.of_map _ once)]
    · intro c
      constructor
      · intro mem
        obtain ⟨p, found, amount⟩ := known c mem
        have own : p.id = c.1 := Table.key_of_find? found
        refine List.mem_map.mpr ⟨p, List.mem_filter.mpr ⟨Table.mem_of_find? found, ?_⟩, ?_⟩
        · exact decide_eq_true ⟨c, mem, own.symm⟩
        · rw [own, amount]
      · intro mem
        obtain ⟨p, there, rfl⟩ := List.mem_map.mp mem
        obtain ⟨stored, entered⟩ := List.mem_filter.mp there
        obtain ⟨c, mem', same⟩ := of_decide_eq_true entered
        obtain ⟨p', found, amount⟩ := known c mem'
        rw [same, show db.payments.find? p.id = some p from Table.find?_of_mem stored] at found
        cases found
        have whole : c = (p.id, p.amount) := Prod.ext same amount.symm
        exact whole ▸ mem'
    · refine List.Nodup.of_map (·.1) ?_
      rw [List.map_map]
      exact (db.payments.nodup.sublist (List.filter_sublist.map key))
  rw [ledgerTotal, (perm.map _).sum_eq, List.map_map]
  rfl

/-- Every status, as the books see it. -/
theorem Books.status {w : World app} (books : Books w) {p : Payment} (mem : p ∈ w.db.payments) :
    (w.env.provider.GaveBack p.id → p.status.Refunding) ∧
    (p.status = .failed → ¬ w.env.provider.Took p.id) ∧
    (p.status = .succeeded ∨ p.status.Refunding → w.env.provider.Took p.id) ∧
    (p.status = .refunded → w.env.provider.GaveBack p.id) := by
  have agrees := books.agree p mem
  unfold Payment.Agrees at agrees
  refine ⟨?_, fun failed took => ?_, fun paid => ?_, fun refunded => ?_⟩
  · rintro ⟨c, there, same⟩
    obtain ⟨p', found, -, started⟩ := books.refunds c (List.mem_append_left _ there)
    rw [same, show w.db.payments.find? p.id = some p from Table.find?_of_mem mem] at found
    cases found
    exact started
  · rw [failed] at agrees
    obtain ⟨reason, declined⟩ := agrees
    obtain ⟨reference, succeeded⟩ := (books.provider.taken p.id).mp took
    cases declined.symm.trans succeeded
  · rcases paid with succeeded | pending | refunded | refundFailed
    · rw [succeeded] at agrees
      exact (books.provider.taken p.id).mpr agrees
    · rw [pending] at agrees
      exact (books.provider.taken p.id).mpr agrees
    · rw [refunded] at agrees
      exact books.provider.given p.id agrees
    · rw [refundFailed] at agrees
      exact (books.provider.taken p.id).mpr agrees
  · rw [refunded] at agrees
    exact agrees

/-- The payments that were charged: refunded, paid for good, in a refund that has not
succeeded, or not settled yet. -/
theorem Books.split {w : World app} (books : Books w) :
    (w.db.owed fun p => ∃ c ∈ w.env.provider.charged, c.1 = p.id) =
      (w.db.owed fun p => ∃ c ∈ w.env.provider.refunded, c.1 = p.id) +
      w.db.owed (·.status = .succeeded) +
      w.db.owed (fun p => w.env.provider.Took p.id ∧ ¬ w.env.provider.GaveBack p.id ∧
        (p.status = .refundPending ∨ p.status = .refundFailed)) +
      w.db.owed (fun p => p.status = .processing ∧ w.env.provider.Took p.id) := by
  have kept : (w.db.owed fun p => ∃ c ∈ w.env.provider.charged, c.1 = p.id) =
      (w.db.owed fun p => ∃ c ∈ w.env.provider.refunded, c.1 = p.id) +
        w.db.owed fun p => w.env.provider.Took p.id ∧ ¬ w.env.provider.GaveBack p.id := by
    refine Db.owed_or (fun p _ => ?_) fun p _ back kept => kept.2 back
    constructor
    · intro took
      by_cases back : w.env.provider.GaveBack p.id
      · exact .inl back
      · exact .inr ⟨took, back⟩
    · rintro (back | ⟨took, -⟩)
      · exact books.provider.given p.id back
      · exact took
  have settled : (w.db.owed fun p => w.env.provider.Took p.id ∧ ¬ w.env.provider.GaveBack p.id) =
      w.db.owed (·.status = .succeeded) + w.db.owed fun p => w.env.provider.Took p.id ∧
        ¬ w.env.provider.GaveBack p.id ∧ p.status ≠ .succeeded := by
    refine Db.owed_or (fun p mem => ?_) fun p _ succeeded rest => rest.2.2 succeeded
    obtain ⟨refunding, -, paid, -⟩ := books.status mem
    constructor
    · rintro ⟨took, back⟩
      by_cases succeeded : p.status = .succeeded
      · exact .inl succeeded
      · exact .inr ⟨took, back, succeeded⟩
    · rintro (succeeded | ⟨took, back, -⟩)
      · refine ⟨paid (.inl succeeded), fun back => ?_⟩
        rcases refunding back with status | status | status <;> cases succeeded.symm.trans status
      · exact ⟨took, back⟩
  have open' : (w.db.owed fun p => w.env.provider.Took p.id ∧ ¬ w.env.provider.GaveBack p.id ∧
        p.status ≠ .succeeded) =
      w.db.owed (fun p => w.env.provider.Took p.id ∧ ¬ w.env.provider.GaveBack p.id ∧
        (p.status = .refundPending ∨ p.status = .refundFailed)) +
        w.db.owed (fun p => p.status = .processing ∧ w.env.provider.Took p.id) := by
    refine Db.owed_or (fun p mem => ?_) fun p _ refund processing => ?_
    · obtain ⟨refunding, failed, -, refunded⟩ := books.status mem
      constructor
      · rintro ⟨took, back, other⟩
        cases status : p.status with
        | processing => exact .inr ⟨rfl, took⟩
        | succeeded => exact absurd status other
        | failed => exact absurd took (failed status)
        | refundPending => exact .inl ⟨took, back, .inl rfl⟩
        | refunded => exact absurd (refunded status) back
        | refundFailed => exact .inl ⟨took, back, .inr rfl⟩
      · rintro (⟨took, back, pending | final⟩ | ⟨processing, took⟩)
        · exact ⟨took, back, fun succeeded => by cases pending.symm.trans succeeded⟩
        · exact ⟨took, back, fun succeeded => by cases final.symm.trans succeeded⟩
        · refine ⟨took, fun back => ?_, fun succeeded => by cases processing.symm.trans succeeded⟩
          rcases refunding back with status | status | status <;> cases processing.symm.trans status
    · rcases refund.2.2 with status | status <;> cases processing.1.symm.trans status
  rw [kept, settled, open']
  omega

section Service

variable {airports : Table Airport} {clock : Instant} {steady : Bool}
  {invocations : Nat → Invocation} {p : Pool app UseCaseResult}

theorem books_of_service (h : (service airports clock steady true invocations).Reachable p) :
    Books p.world := by
  have both : Lent p.world ∧ Books p.world := by
    refine (service_kept airports clock steady true invocations).invariant h
      (P := fun w => Lent w ∧ Books w) ⟨lent_of_service .refl, ?_⟩ ?_
    · constructor
      · rfl
      · exact ⟨List.nodup_nil, fun id => by simp [Provider.Took, Provider.verdict?, service, Env.start,
          Pool.initial], List.nodup_nil, fun id => by simp [Provider.GaveBack, service, Env.start,
          Pool.initial]⟩
      · exact fun a mem => absurd mem List.not_mem_nil
      · exact fun c mem => absurd mem List.not_mem_nil
      · exact fun c mem => absurd mem List.not_mem_nil
      · rintro payment ⟨c, mem, -⟩
        exact absurd mem List.not_mem_nil
      · exact fun q mem => absurd mem (Table.not_mem_empty q)
    · rintro w w' sound ⟨lent, books⟩ moves
      exact ⟨lent.moves sound moves, books.moves lent sound moves⟩
  exact both.2

/-- With a provider that keeps the port's promise, at every moment of every run: money was
taken for no payment that failed, and for every one that succeeded or whose refund was
started, in its amount; what is REFUNDED went back; a booking has one payment in progress
and one that succeeded at most, and the latter has the booking CONFIRMED and is what its
passengers' seats cost. What was taken is what went back, what confirmed bookings cost, what
waits or failed to go back, and what was taken for payments still in progress. -/
theorem ledger_balances (h : (service airports clock steady true invocations).Reachable p) :
    (∀ payment ∈ p.world.db.payments,
      (payment.status = .failed → ¬ p.world.env.provider.Took payment.id) ∧
      (payment.status = .succeeded ∨ payment.status.Refunding →
        (payment.id, payment.amount) ∈ p.world.env.provider.charged) ∧
      (payment.status = .refunded →
        (payment.id, payment.amount) ∈ p.world.env.provider.refunded) ∧
      (payment.status = .succeeded →
        p.world.db.bookingStatus payment.bookingId = some .confirmed) ∧
      sumMoney (p.world.db.prices payment.bookingId) = .ok payment.amount) ∧
    (∀ a ∈ p.world.db.payments, ∀ b ∈ p.world.db.payments, a.bookingId = b.bookingId →
      a.status = b.status → a.status = .processing ∨ a.status = .succeeded → a = b) ∧
    ledgerTotal p.world.env.provider.charged =
      ledgerTotal p.world.env.provider.refunded + p.world.db.owed (·.status = .succeeded) +
      p.world.db.owed (fun payment => p.world.env.provider.Took payment.id ∧
        ¬ p.world.env.provider.GaveBack payment.id ∧
        (payment.status = .refundPending ∨ payment.status = .refundFailed)) +
      p.world.db.owed (fun payment => payment.status = .processing ∧
        p.world.env.provider.Took payment.id) := by
  have books := books_of_service h
  have valid := paymentsValid_of_service h p.world.commits.length (Nat.le_refl _)
  have billed := billed_of_reachable h (Nat.le_refl _)
  rw [p.world.state_length] at valid billed
  -- What stands in a book under a payment's id stands there with its amount.
  have entry : ∀ (book : List (Uuid × Money)), (∀ c ∈ book, ∃ q,
      p.world.db.payments.find? c.1 = some q ∧ q.amount = c.2) → ∀ payment ∈ p.world.db.payments,
      (∃ c ∈ book, c.1 = payment.id) → (payment.id, payment.amount) ∈ book := by
    rintro book known payment mem ⟨c, there, same⟩
    obtain ⟨q, found, amount⟩ := known c there
    rw [same, show p.world.db.payments.find? payment.id = some payment from
      Table.find?_of_mem mem] at found
    cases found
    have whole : c = (payment.id, payment.amount) := Prod.ext same amount.symm
    exact whole ▸ there
  have charges : ∀ c ∈ p.world.env.provider.charged, ∃ q,
      p.world.db.payments.find? c.1 = some q ∧ q.amount = c.2 :=
    fun c mem => books.charges c (List.mem_append_left _ mem)
  have refunds : ∀ c ∈ p.world.env.provider.refunded, ∃ q,
      p.world.db.payments.find? c.1 = some q ∧ q.amount = c.2 := by
    intro c mem
    obtain ⟨q, found, amount, -⟩ := books.refunds c (List.mem_append_left _ mem)
    exact ⟨q, found, amount⟩
  refine ⟨fun payment mem => ?_, fun a memA b memB same status live => ?_, ?_⟩
  · obtain ⟨-, failed, paid, refunded⟩ := books.status mem
    exact ⟨failed, fun status => entry _ charges payment mem (paid status),
      fun status => entry _ refunds payment mem (refunded status), valid.confirmed payment mem,
      (billed payment mem).2⟩
  · rcases live with processing | succeeded
    · exact valid.processing a memA b memB same processing (status ▸ processing)
    · exact valid.succeeded a memA b memB same succeeded (status ▸ succeeded)
  · rw [ledgerTotal_eq books.provider.chargedOnce charges,
      ledgerTotal_eq books.provider.refundedOnce refunds]
    exact books.split

end Service

/-- The sample booking was paid for and cancelled: the provider still has the money. -/
theorem ledger_balances_cancelled : ∃ p, Pool.run refundMoves
      (service sampleAirports 0 true true refundThreads) = some p ∧
    p.world.db.payments.rows.map (·.status) = [.refundPending] ∧
    ledgerTotal p.world.env.provider.charged = 1500000 ∧
    ledgerTotal p.world.env.provider.charged =
      ledgerTotal p.world.env.provider.refunded + p.world.db.owed (·.status = .succeeded) +
      p.world.db.owed (fun payment => p.world.env.provider.Took payment.id ∧
        ¬ p.world.env.provider.GaveBack payment.id ∧
        (payment.status = .refundPending ∨ payment.status = .refundFailed)) +
      p.world.db.owed (fun payment => payment.status = .processing ∧
        p.world.env.provider.Took payment.id) := by
  have runs : (Pool.run refundMoves (service sampleAirports 0 true true refundThreads)).map (fun p =>
      (p.world.db.payments.rows.map (·.status), ledgerTotal p.world.env.provider.charged)) =
      some ([.refundPending], 1500000) := by
    decide +kernel
  obtain ⟨p, ran, same⟩ := Option.map_eq_some_iff.mp runs
  obtain ⟨statuses, taken⟩ := Prod.mk.inj same
  exact ⟨p, ran, statuses, taken, (ledger_balances (Pool.run_reachable ran)).2.2⟩

end FlightBooking
