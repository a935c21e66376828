import FlightBooking.System.Rows
import FlightBooking.System.UseCases

/-!
Keys and payments point at each other.

The link is made in phase 1, consumed by a settlement that knows the payment
only, and never cut while the payment is in progress: `Corresponds` holds of
every version of every history, so a settlement always finds its key.
-/

namespace FlightBooking

open Relational ReadCommitted

variable {T : Timeline postgres} {n i : Nat} {x : Transaction} {now : Instant} {r : x.Result}
  {c' : Cursor postgres}

/-- Payments in progress and keys in progress are linked one to one, and no key
points nowhere. -/
structure Corresponds (db : Db) : Prop where
  linked : ∀ p ∈ db.payments, p.status = .processing →
    ∃ k ∈ db.keys, k.paymentId = some p.id ∧ k.status = .inProgress
  inProgress : ∀ k ∈ db.keys, k.status = .inProgress →
    ∃ p ∈ db.payments, k.paymentId = some p.id ∧ p.status = .processing
  unique : ∀ k ∈ db.keys, ∀ k' ∈ db.keys, ∀ id, k.paymentId = some id → k'.paymentId = some id →
    k = k'
  known : ∀ k ∈ db.keys, ∀ id, k.paymentId = some id → ∃ p, db.payments.find? id = some p

/-! ### One commit -/

/-- A payment stays, whatever is committed. -/
theorem Effect.payment_stays (effect : Effect T n i x now r c') {id : Uuid} {p : Payment}
    (found : (T.state n).payments.find? id = some p) :
    ∃ p', (c'.log.apply (T.state n)).payments.find? id = some p' := by
  have change := effect.payment id
  rw [found] at change
  generalize (c'.log.apply (T.state n)).payments.find? id = after at change ⊢
  cases change <;> exact ⟨_, rfl⟩

/-- A started payment is in progress, linked to the key that started it. -/
theorem Effect.started {bookingId : Option Uuid} {scope : BookingAccessScope} {actor : Uuid}
    {request : PaymentRequest} {paymentId : Uuid} {reconcileAfterMs : Int} {p : Payment}
    (effect : Effect T n i (.startPayment bookingId scope actor request paymentId reconcileAfterMs)
      now (.started p) c') :
    (c'.log.apply (T.state n)).payments.find? paymentId = some p ∧
      (c'.log.apply (T.state n)).keys.find? (actor, request.idempotencyKey) =
        some { claimedKey actor request.idempotencyKey request.fingerprint now with
          paymentId := some paymentId } := by
  cases effect with
  | nothing idle =>
      obtain ⟨answer, h⟩ := idle
      cases h
  | laidOut on => exact on.elim
  | paid fresh held on =>
      cases on with
      | started on _ log =>
          have own : key p = paymentId := by rw [on.payment]; rfl
          rw [Changes.apply_payments, Changes.apply_keys, log]
          exact ⟨own ▸ (Table.find?_put ..).trans (if_pos rfl),
            (Table.find?_put ..).trans (if_pos rfl)⟩

/-- A settlement moves the payment and answers its key. -/
theorem Effect.settlement (effect : Effect T n i x now r c') {id : Uuid}
    (settles : x.settles? = some id) :
    ∃ response p p' k, x.answer? r = some response ∧ OpenOn T n id p k ∧
      (c'.log.apply (T.state n)).payments.find? id = some p' ∧ Answers p'.status response.status ∧
      (c'.log.apply (T.state n)).keys.find? (key k) = some (k.answered response now) := by
  have settled : ∀ {p p' : Payment} {k : IdempotencyKey} {response : StoredResponse},
      OpenOn T n id p k → c'.log.payments = [p'] → p'.id = p.id →
      c'.log.keys = [.put (k.answered response now)] → Answers p'.status response.status →
      x.answer? r = some response →
      ∃ response p p' k, x.answer? r = some response ∧ OpenOn T n id p k ∧
      (c'.log.apply (T.state n)).payments.find? id = some p' ∧ Answers p'.status response.status ∧
      (c'.log.apply (T.state n)).keys.find? (key k) = some (k.answered response now) := by
    intro p p' k response on log same log' answers answer
    have own : key p' = id := same.trans (Table.key_of_find? on.payment)
    refine ⟨response, p, p', k, answer, on, ?_, answers, ?_⟩
    · rw [Changes.apply_payments, log, ← own]
      exact (Table.find?_put ..).trans (if_pos rfl)
    · rw [Changes.apply_keys, log']
      exact (Table.find?_put ..).trans (if_pos rfl)
  cases effect with
  | nothing idle => cases x <;> first | exact idle.elim | cases settles
  | laidOut on => cases x <;> first | exact on.elim | cases settles
  | declined on _ status log =>
      cases settles
      exact settled on (congrArg Changes.payments log) rfl (congrArg Changes.keys log)
        (status ▸ .failed) rfl
  | chargedTooLate on _ status log =>
      cases settles
      exact settled on (congrArg Changes.payments log) rfl (congrArg Changes.keys log)
        (status ▸ .refundPending) rfl
  | confirmed on _ _ _ _ _ status log =>
      cases settles
      exact settled on (congrArg Changes.payments log) rfl (congrArg Changes.keys log)
        (status ▸ .succeeded) rfl
  | created | cancelled | reseated | expired | paid | claimed | refundRecorded | rescheduled
  | cleaned | published => cases settles

/-- A key that points at a payment did so before, or was just linked to a new one. -/
theorem Effect.link_origin (effect : Effect T n i x now r c') {k : IdempotencyKey} {id : Uuid}
    (mem : k ∈ (c'.log.apply (T.state n)).keys) (link : k.paymentId = some id) :
    (∃ k₀ ∈ (T.state n).keys, key k₀ = key k ∧ k₀.paymentId = some id) ∨
      ((T.state n).payments.find? id = none ∧ k.status = .inProgress ∧
        ∃ p, (c'.log.apply (T.state n)).payments.find? id = some p ∧ p.status = .processing ∧
          ∃ bookingId scope actor request reconcileAfterMs,
            x = .startPayment bookingId scope actor request id reconcileAfterMs ∧
            key k = (actor, request.idempotencyKey)) := by
  have change := effect.keyRow (key k)
  rw [Table.find?_of_mem mem] at change
  generalize before : (T.state n).keys.find? (key k) = k₀ at change
  cases change with
  | same => exact .inl ⟨k, Table.mem_of_find? before, rfl, link⟩
  | answered => cases link
  | linked at' on found =>
      cases link
      exact .inr ⟨on.fresh, rfl, _, found, by rw [on.payment]; rfl, _, _, _, _, _, rfl, at'⟩
  | settled _ _ _ at' =>
      exact .inl ⟨_, Table.mem_of_find? before, at', link⟩

/-- A payment in progress on both sides of a commit keeps its key as it is. -/
theorem Effect.key_stays (effect : Effect T n i x now r c') {id : Uuid} {p' : Payment}
    (after : (c'.log.apply (T.state n)).payments.find? id = some p')
    (processing : p'.status = .processing) {k : IdempotencyKey} (mem : k ∈ (T.state n).keys)
    (link : k.paymentId = some id) (open' : k.status = .inProgress) :
    k ∈ (c'.log.apply (T.state n)).keys := by
  have change := effect.keyRow (key k)
  rw [Table.find?_of_mem mem] at change
  generalize found : (c'.log.apply (T.state n)).keys.find? (key k) = k' at change
  cases change with
  | same => exact Table.mem_of_find? found
  | settled _ _ on _ paid answers =>
      -- The key that was answered is linked to the payment it settled.
      obtain rfl := Option.some.inj (link.symm.trans on.link)
      obtain rfl := Option.some.inj (after.symm.trans paid)
      rw [processing] at answers
      cases answers
  | deleted completed =>
      rw [open'] at completed
      cases completed

theorem Corresponds.step (inv : Corresponds (T.state n)) (effect : Effect T n i x now r c') :
    Corresponds (c'.log.apply (T.state n)) where
  linked p' mem processing := by
    have change := effect.payment p'.id
    have after := Table.find?_of_mem mem
    rw [show key p' = p'.id from rfl] at after
    rw [after] at change
    have stays : ∀ p, (T.state n).payments.find? p'.id = some p → p.status = .processing →
        ∃ k ∈ (c'.log.apply (T.state n)).keys, k.paymentId = some p'.id ∧ k.status = .inProgress := by
      intro p before processing'
      have same : p.id = p'.id := Table.key_of_find? before
      obtain ⟨k, memK, link, open'⟩ := inv.linked p (Table.mem_of_find? before) processing'
      rw [same] at link
      exact ⟨k, effect.key_stays after processing memK link open', link, open'⟩
    generalize before : (T.state n).payments.find? p'.id = p at change
    cases change with
    | same => exact stays p' before processing
    | started on => exact ⟨_, Table.mem_of_find? effect.started.2, rfl, rfl⟩
    | declined => cases processing
    | chargedTooLate => cases processing
    | confirmed => cases processing
    | cancelled => cases processing
    | claimed => exact stays _ before processing
    | @refundRecorded _ record =>
        cases record <;> cases processing
    | rescheduled => exact stays _ before processing
  inProgress k mem open' := by
    have here := Table.find?_of_mem mem
    have change := effect.keyRow (key k)
    rw [here] at change
    generalize before : (T.state n).keys.find? (key k) = k₀ at change
    cases change with
    | answered => cases open'
    | settled => cases open'
    | linked _ on found =>
        have own : _ = _ := Table.key_of_find? found
        exact ⟨_, Table.mem_of_find? found, congrArg some own.symm, by rw [on.payment]; rfl⟩
    | same =>
    have old := Table.mem_of_find? before
    obtain ⟨p, memP, link, processing⟩ := inv.inProgress k old open'
    -- Whoever settles the payment answers this key.
    have unsettled : x.settles? ≠ some p.id := by
      intro settles
      obtain ⟨response, _, _, k₁, -, on, -, -, answered⟩ := effect.settlement settles
      obtain rfl := inv.unique k old k₁ on.key p.id link on.link
      rw [here] at answered
      rw [Option.some.inj answered] at open'
      cases open'
    have change := effect.payment p.id
    rw [show (T.state n).payments.find? p.id = some p from Table.find?_of_mem memP] at change
    generalize after : (c'.log.apply (T.state n)).payments.find? p.id = p' at change
    cases change with
    | same => exact ⟨p, Table.mem_of_find? after, link, processing⟩
    | declined same => exact absurd (congrArg some same) unsettled
    | chargedTooLate same => exact absurd (congrArg some same) unsettled
    | confirmed same => exact absurd (congrArg some same) unsettled
    | cancelled _ paid => rw [processing] at paid; cases paid
    | claimed => exact ⟨_, Table.mem_of_find? after, link, processing⟩
    | refundRecorded _ pending => rw [processing] at pending; cases pending
    | rescheduled => exact ⟨_, Table.mem_of_find? after, link, processing⟩
  unique k mem k' mem' id link link' := by
    have keyed : ∀ k₀ ∈ (T.state n).keys, k₀.paymentId = some id →
        (T.state n).payments.find? id ≠ none := fun k₀ mem₀ link₀ gone => by
      obtain ⟨p, found⟩ := inv.known k₀ mem₀ id link₀
      rw [gone] at found
      cases found
    rcases effect.link_origin mem link with ⟨k₀, mem₀, at₀, link₀⟩ |
        ⟨gone, -, -, -, -, b, s, a, q, ms, rfl, at'⟩ <;>
      rcases effect.link_origin mem' link' with ⟨k₁, mem₁, at₁, link₁⟩ |
        ⟨gone₁, -, -, -, -, b₁, s₁, a₁, q₁, ms₁, same, at₁⟩
    · have same := inv.unique k₀ mem₀ k₁ mem₁ id link₀ link₁
      exact Table.eq_of_key mem mem' (at₀.symm.trans ((congrArg key same).trans at₁))
    · exact absurd gone₁ (keyed k₀ mem₀ link₀)
    · exact absurd gone (keyed k₁ mem₁ link₁)
    · cases same
      exact Table.eq_of_key mem mem' (at'.trans at₁.symm)
  known k mem id link := by
    rcases effect.link_origin mem link with ⟨k₀, mem₀, -, link₀⟩ | ⟨-, -, p, found, -⟩
    · obtain ⟨p, found⟩ := inv.known k₀ mem₀ id link₀
      exact effect.payment_stays found
    · exact ⟨p, found⟩

/-! ### Every version -/

theorem corresponds_of_empty {db : Db} (payments : db.payments = ∅) (keys : db.keys = ∅) :
    Corresponds db where
  linked p mem := by simp [payments] at mem
  inProgress k mem := by simp [keys] at mem
  unique k mem := by simp [keys] at mem
  known k mem := by simp [keys] at mem

theorem Unfolds.corresponds (unfolds : Unfolds T n) (first : Corresponds (T.state 0)) :
    ∀ m ≤ n, Corresponds (T.state m) := by
  intro m le
  induction m with
  | zero => exact first
  | succ m ih =>
      obtain ⟨i, x, now, r, c', -, effect, next, -, -⟩ := unfolds m le
      exact next ▸ (ih (by omega)).step effect

/-! ### A settlement finds its key -/

/-- The errors of a payment's transition are those of its table, or its own. -/
theorem transition_throws (id : Uuid) (before after : PaymentStatus)
    (reference reason : Option String) :
    Throws (fun e : Failure => ∀ id', e ≠ .keyOfPaymentNotInProgress id')
      (transition id before after now reference reason) := by
  refine throws_bind (throws_query fun skip snap cur e h id' => ?_) fun won => ?_
  · obtain ⟨constraint, rfl | rfl⟩ := movePayment_error h <;> exact nofun
  · cases won with
    | true => trivial
    | false => exact fun id' => nofun

theorem confirmHold_throws (id : Uuid) (scope : BookingAccessScope) :
    Throws (fun e : Failure => ∀ id', e ≠ .keyOfPaymentNotInProgress id')
      (confirmHold id scope now) := by
  refine throws_bind (throws_query fun skip snap cur e h => ?_) fun won => ?_
  · unfold confirmHoldRow at h
    split at h
    · cases h
    · extract_lets locks at h
      split at h <;> cases h
  · cases won with
    | false => trivial
    | true =>
        refine throws_bind ((findById_throws _ _).mono ?_) fun found => ?_
        · rintro e ⟨sum, rfl⟩ id'
          exact nofun
        · cases found with
          | none => exact fun id' => nofun
          | some booking => trivial

theorem mapM_toEventPassenger_error {bookingId : Uuid} {passengers : List BookingPassenger}
    {e : Failure} (h : passengers.mapM (toEventPassenger bookingId) = .error e) :
    e = .confirmedWithoutSeat bookingId := by
  induction passengers generalizing e with
  | nil => cases h
  | cons p passengers ih =>
      rw [List.mapM_cons] at h
      cases first : toEventPassenger bookingId p with
      | error e' =>
          rw [first] at h
          cases h
          unfold toEventPassenger at first
          split at first <;> cases first
          rfl
      | ok q =>
          rw [first] at h
          cases rest : passengers.mapM (toEventPassenger bookingId) with
          | error e' =>
              rw [rest] at h
              cases h
              exact ih rest
          | ok qs =>
              rw [rest] at h
              cases h

/-- The row of a payment that a transaction has locked is the same in every version
from then on. -/
theorem find?_payment_kept (framed : T.Framed) {id : Uuid} {cur : Nat} {p : Payment}
    (kept : T.Keeps (.payment id) cur n) (found : (T.state n).payments.find? id = some p) :
    ∀ m, cur ≤ m → m ≤ n → (T.state m).payments.find? id = some p := by
  intro m le le'
  have before : (T.state cur).payments.find? id = (T.state m).payments.find? id :=
    framed.agree le (kept.mono le')
  have after : (T.state cur).payments.find? id = (T.state n).payments.find? id :=
    framed.agree (Nat.le_trans le le') kept
  exact before.symm.trans (after.trans found)

theorem length_eq_one_of_unique {α : Type} {l : List α} {a : α} (distinct : l.Nodup)
    (mem : a ∈ l) (all : ∀ b ∈ l, b = a) : l.length = 1 := by
  classical
  have same := List.eq_replicate_iff.mpr ⟨rfl, all⟩
  have le := List.nodup_iff_count_le_one.mp distinct a
  rw [same, List.count_replicate_self] at le
  have := List.length_pos_of_mem mem
  omega

/-- While it holds the lock of a payment in progress, a transaction can complete the
payment's key. -/
theorem completeForPayment_aborts (framed : T.Framed) (unfolds : Unfolds T n)
    (inv : ∀ m ≤ n, Corresponds (T.state m)) {id : Uuid} {response : StoredResponse} {p : Payment}
    (found : (T.state n).payments.find? id = some p) (processing : p.status = .processing)
    {cur : Nat} (kept : T.Keeps (.payment id) cur n) {c : Cursor postgres}
    (unwritten : c.log.keys = []) (later : cur ≤ c.pos) {e : Failure} :
    ¬ Aborts T n (completeForPayment id response now) c e c' := by
  have paid := find?_payment_kept framed kept found
  have here : p.id = id := Table.key_of_find? found
  intro h
  rcases aborts_bind.mp h with failed | ⟨updated, c₁, main, rest⟩
  · obtain ⟨skip, snap, cur', -, -, -, failed, -⟩ := aborts_query failed
    cases failed
  obtain ⟨skip, snap, cur', out, le₁, le₂, le₃, done, rfl, rfl, -⟩ := commits_query.mp main
  obtain ⟨open', reply, distinct, -, isOpen, complete⟩ := completeKeyOfPayment_ok done
  rw [view_keys unwritten] at isOpen
  rw [view_keys unwritten, view_keys unwritten] at complete
  -- The key there was when the statement started is still there.
  obtain ⟨k, memK, link, inProgress⟩ := (inv snap (by omega)).linked p
    (Table.mem_of_find? (paid snap (by omega) (by omega))) processing
  rw [here] at link
  have stays : ∀ m, snap ≤ m → m ≤ cur' → k ∈ (T.state m).keys := by
    intro m le
    induction m, le using Nat.le_induction with
    | base => exact fun _ => memK
    | succ m le ih =>
        intro le'
        obtain ⟨i, x, now, r, c₂, -, effect, next, -, -⟩ := unfolds m (by omega)
        have after := paid (m + 1) (by omega) (by omega)
        rw [next] at after ⊢
        exact effect.key_stays after processing (ih (by omega)) link inProgress
  have mem := complete k (stays cur' le₂ (Nat.le_refl _)) memK link inProgress
  have one := length_eq_one_of_unique (distinct.of_map key) mem fun k' mem' =>
    (inv cur' le₃).unique k' (isOpen k' mem').1 k (isOpen k mem).1 id (isOpen k' mem').2.1 link
  rw [if_neg (not_not.mpr (reply.trans one))] at rest
  exact rest

theorem answerPayment_aborts (framed : T.Framed) (unfolds : Unfolds T n)
    (inv : ∀ m ≤ n, Corresponds (T.state m)) {payment : Payment} {decision : PaymentDecision}
    {p : Payment} (found : (T.state n).payments.find? payment.id = some p)
    (processing : p.status = .processing) {cur : Nat} (kept : T.Keeps (.payment payment.id) cur n)
    {c : Cursor postgres} (unwritten : c.log.keys = []) (later : cur ≤ c.pos) {e : Failure} :
    ¬ Aborts T n (answerPayment payment decision now) c e c' := by
  intro h
  rcases aborts_bind.mp h with failed | ⟨_, c₁, -, rest⟩
  · exact completeForPayment_aborts framed unfolds inv found processing kept unwritten later failed
  · exact rest

section Settlements

variable {payment : Payment} {actor : AuditActor} {ids : SettleIds} {id : Uuid}

theorem declined_aborts (framed : T.Framed) (unfolds : Unfolds T n)
    (inv : ∀ m ≤ n, Corresponds (T.state m)) {reason : String} :
    ¬ Aborts T n (declined payment reason actor ids now) (.start i)
      (.keyOfPaymentNotInProgress id) c' := by
  intro h
  rcases aborts_bind.mp h with failed | ⟨_, c₁, moved, rest⟩
  · exact failed.throws (transition_throws ..) id rfl
  obtain ⟨p, cur, found, processing, log, -, -, -, pos, kept⟩ := transition_commits framed rfl moved
  rcases aborts_bind.mp rest with failed | ⟨_, c₂, recorded, rest⟩
  · cases failed.throws (recordAudit_throws _)
  · refine answerPayment_aborts framed unfolds inv found processing kept ?_ ?_ rest
    · rw [recordAudit_commits recorded, log]
      rfl
    · exact pos ▸ recorded.pos_le

theorem chargedTooLate_aborts (framed : T.Framed) (unfolds : Unfolds T n)
    (inv : ∀ m ≤ n, Corresponds (T.state m)) {reference : String} {c : Cursor postgres}
    (clean : c.log = {}) :
    ¬ Aborts T n (chargedTooLate payment reference actor ids now) c
      (.keyOfPaymentNotInProgress id) c' := by
  intro h
  rcases aborts_bind.mp h with failed | ⟨_, c₁, moved, rest⟩
  · exact failed.throws (transition_throws ..) id rfl
  obtain ⟨p, cur, found, processing, log, -, -, -, pos, kept⟩ :=
    transition_commits framed (by rw [clean]) moved
  rcases aborts_bind.mp rest with failed | ⟨_, c₂, recorded, rest⟩
  · cases failed.throws (recordAudit_throws _)
  · refine answerPayment_aborts framed unfolds inv found processing kept ?_ ?_ rest
    · rw [recordAudit_commits recorded, log, clean]
      rfl
    · exact pos ▸ recorded.pos_le

theorem charged_aborts (framed : T.Framed) (unfolds : Unfolds T n)
    (inv : ∀ m ≤ n, Corresponds (T.state m)) {reference : String} :
    ¬ Aborts T n (charged payment reference actor ids now) (.start i)
      (.keyOfPaymentNotInProgress id) c' := by
  intro h
  rcases aborts_bind.mp h with failed | ⟨confirmed, c₁, confirms, rest⟩
  · exact failed.throws (confirmHold_throws ..) id rfl
  rcases confirmHold_commits framed confirms with ⟨rfl, log⟩ |
    ⟨booking, confirmed', snap, cur, at', -, -, -, -, rfl, log, -⟩
  · exact chargedTooLate_aborts framed unfolds inv log rest
  rcases aborts_bind.mp rest with failed | ⟨_, c₂, moved, rest⟩
  · exact failed.throws (transition_throws ..) id rfl
  obtain ⟨p, cur', found, processing, log₂, -, -, -, pos, kept⟩ :=
    transition_commits framed (by rw [log]) moved
  rcases aborts_bind.mp rest with failed | ⟨_, c₃, recorded, rest⟩
  · cases failed.throws (recordAudit_throws _)
  rcases aborts_bind.mp rest with failed | ⟨passengers, c₄, mapped, records⟩
  · obtain ⟨failed, -⟩ := aborts_orThrow.mp failed
    cases mapM_toEventPassenger_error failed
  obtain ⟨-, rfl⟩ := commits_orThrow.mp mapped
  rcases aborts_bind.mp records with failed | ⟨_, c₅, enqueued, answers⟩
  · cases failed.throws (enqueue_throws _)
  · refine answerPayment_aborts framed unfolds inv found processing kept ?_ ?_ answers
    · rw [enqueue_commits enqueued, recordAudit_commits recorded, log₂, log]
      rfl
    · exact pos ▸ Nat.le_trans recorded.pos_le enqueued.pos_le

end Settlements

/-! ### Answers -/

/-- In one of the first `n` commits payment `id` left PROCESSING, and the key's
response says what for. -/
def LeftWith (T : Timeline postgres) (n : Nat) (id : Uuid) (response : StoredResponse) : Prop :=
  ∃ j < n, ∃ p p', (T.state j).payments.find? id = some p ∧ p.status = .processing ∧
    (T.state (j + 1)).payments.find? id = some p' ∧ Answers p'.status response.status

/-- A completed key with a payment holds the response of the payment's outcome. -/
theorem Unfolds.leftWith (unfolds : Unfolds T n) (first : (T.state 0).keys = ∅) :
    ∀ m ≤ n, ∀ k ∈ (T.state m).keys, k.status = .completed → ∀ id, k.paymentId = some id →
      ∃ response, k.response = some response ∧ LeftWith T m id response := by
  intro m le
  induction m with
  | zero => exact fun k mem => by simp [first] at mem
  | succ m ih =>
      intro k mem completed id link
      obtain ⟨i, x, now, r, c', -, effect, next, -, -⟩ := unfolds m le
      have change := effect.keyRow (key k)
      rw [← next, Table.find?_of_mem mem] at change
      generalize before : (T.state m).keys.find? (key k) = k₀ at change
      cases change with
      | same =>
          obtain ⟨response, stored, j, lt, left⟩ :=
            ih (by omega) k (Table.mem_of_find? before) completed id link
          exact ⟨response, stored, j, by omega, left⟩
      | answered => cases link
      | linked => cases completed
      | settled _ _ on _ found answers =>
          obtain rfl := Option.some.inj (link.symm.trans on.link)
          exact ⟨_, rfl, m, Nat.lt_succ_self m, _, _, on.payment, on.processing, found, answers⟩

/-! ### Every interleaving -/

/-- In every version of every interleaving, payments in progress and keys in
progress are linked one to one; no settlement misses its key; and a completed key
holds the response of the outcome its payment left PROCESSING with. -/
theorem keys_correspond_to_payments {α : Type} {airports : Table Airport} {env : Env}
    {threads : Nat → App.Thread app α} {p : Pool app α}
    (h : (Pool.initial { airports } env threads : Pool app α).Reachable p) :
    (∀ n ≤ p.world.commits.length,
      (∀ payment ∈ (p.world.state n).payments, payment.status = .processing →
        ∃ k ∈ (p.world.state n).keys, k.paymentId = some payment.id ∧ k.status = .inProgress ∧
          ∀ k' ∈ (p.world.state n).keys, k'.paymentId = some payment.id → k' = k) ∧
      (∀ k ∈ (p.world.state n).keys, k.status = .inProgress →
        ∃! payment, payment ∈ (p.world.state n).payments ∧ k.paymentId = some payment.id ∧
          payment.status = .processing) ∧
      ∀ k ∈ (p.world.state n).keys, k.status = .completed → ∀ id, k.paymentId = some id →
        ∃ response, k.response = some response ∧ LeftWith p.world.timeline n id response) ∧
    ∀ f ∈ p.failures, f.tx.settles?.isSome → ∀ id, f.error ≠ .keyOfPaymentNotInProgress id := by
  have good := (Pool.initial_good _ env threads).reachable h
  have unfolds := unfolds_of_sound good.sound
  have start : p.world.state 0 = { airports } := by
    rw [World.state_zero, h.initial_eq]
    rfl
  have inv := unfolds.corresponds (corresponds_of_empty (by rw [show p.world.timeline.state 0 = _
    from start]) (by rw [show p.world.timeline.state 0 = _ from start]))
  refine ⟨fun n le => ⟨fun payment mem processing => ?_, fun k mem open' => ?_, ?_⟩, ?_⟩
  · obtain ⟨k, memK, link, open'⟩ := (inv n le).linked payment mem processing
    exact ⟨k, memK, link, open', fun k' mem' link' =>
      (inv n le).unique k' mem' k memK _ link' link⟩
  · obtain ⟨payment, memP, link, processing⟩ := (inv n le).inProgress k mem open'
    refine ⟨payment, ⟨memP, link, processing⟩, fun other ⟨mem', link', _⟩ => ?_⟩
    exact Table.eq_of_key mem' memP (Option.some.inj (link'.symm.trans link))
  · exact unfolds.leftWith (by rw [show p.world.timeline.state 0 = _ from start]) n le
  · intro f mem settles id
    obtain ⟨-, le, lost | aborts⟩ := good.failures f mem
    · rw [lost]
      exact nofun
    · obtain ⟨c', aborts, -⟩ := aborts _ (.refl _ _)
      rintro error
      rw [error] at aborts
      have framed := good.framed
      have before := unfolds.mono le
      have inv' := fun m (le' : m ≤ f.ended) => inv m (Nat.le_trans le' le)
      obtain ⟨thread, tx, now, begun, ended, error', spans⟩ := f
      cases tx with
      | settleDeclined => exact declined_aborts framed before inv' aborts
      | settleCharged => exact charged_aborts framed before inv' aborts
      | _ => cases settles

/-- A booking is paid: its key is in progress after phase 1 and holds 201 at the end. -/
theorem keys_correspond_to_payments_sample : ∃ p, Pool.run (sampleMoves ++ Pool.wholly 4 1 5 ++
      [(4, .call (.definite (.succeeded "ch_1")))] ++ Pool.wholly 4 2 7)
      (sampleStart {} fun _ => samplePayment) = some p ∧
    (p.world.state 9).keys.rows.map (fun k => (k.status, k.paymentId)) = [(.inProgress, some 9)] ∧
    p.world.db.keys.rows.map (fun k => (k.status, k.response.map (·.status))) =
      [(.completed, some 201)] ∧
    ∀ n ≤ p.world.commits.length, ∀ k ∈ (p.world.state n).keys, k.status = .completed →
      ∀ id, k.paymentId = some id →
        ∃ response, k.response = some response ∧ LeftWith p.world.timeline n id response := by
  have keys : ((Pool.run (sampleMoves ++ Pool.wholly 4 1 5 ++
      [(4, .call (.definite (.succeeded "ch_1")))] ++ Pool.wholly 4 2 7)
      (sampleStart {} fun _ => samplePayment)).map fun p =>
        ((p.world.state 9).keys.rows.map (fun k => (k.status, k.paymentId)),
          p.world.db.keys.rows.map (fun k => (k.status, k.response.map (·.status))))) =
      some ([(.inProgress, some 9)], [(.completed, some 201)]) := by decide +kernel
  obtain ⟨p, ran, keys⟩ := Option.map_eq_some_iff.mp keys
  obtain ⟨before, after⟩ := Prod.ext_iff.mp keys
  exact ⟨p, ran, before, after, fun n le =>
    ((keys_correspond_to_payments (Pool.run_reachable ran)).1 n le).2.2⟩

end FlightBooking
