import FlightBooking.Payments.ClaimDue
import FlightBooking.Payments.Constraints
import FlightBooking.Payments.RefundAttempts

/-!
The lease that keeps requests and workers apart.

Phase 1 and every claim hand out a copy of a payment whose `next_attempt_at` is when it may
be claimed again. Whoever works on the copy and records what came of it before that moment
has the payment for itself: until then the stored row is the copy (`Leased`), no claim finds
it due, and nobody else has it in hand (`leases_exclusive`).
-/

namespace FlightBooking

open Relational ReadCommitted

variable {T : Timeline postgres} {n i : Nat} {x : Transaction} {now : Instant} {r : x.Result}
  {c' : Cursor postgres} {w w' : World app} {t u : Nat} {q : Payment}

/-! ### The copies handed out -/

/-- The copies a commit hands out: of the payment phase 1 started, or of those claimed. -/
def leases (c : Commit app) : List Payment :=
  (c.tx.started? c.result).toList ++ (c.tx.claimed? c.result).getD []

def handedOut (w : World app) : List Payment := w.commits.flatMap leases

/-- Who has which copy in hand: the requests the payments they started, the workers those
they took from the queue. -/
def hands (w : World app) : List (Nat × Payment) :=
  w.commits.filterMap (fun c => (c.tx.started? c.result).map (c.thread, ·)) ++ w.env.taken

/-- The thread has settled, recorded or put off the payment. -/
def Recorded (t : Nat) (w : World app) (id : Uuid) : Prop :=
  ∃ c ∈ w.commits, c.thread = t ∧ c.tx.records? = some id

instance (t : Nat) (w : World app) (id : Uuid) : Decidable (Recorded t w id) :=
  inferInstanceAs (Decidable (∃ c ∈ w.commits, c.thread = t ∧ c.tx.records? = some id))

/-- Whoever has the copy in hand is done with the payment. -/
def Released (w : World app) (q : Payment) : Prop :=
  ∃ t, (t, q) ∈ hands w ∧ Recorded t w q.id

/-- The lease has not run out by `clock`. -/
def Payment.leasedAt (q : Payment) (clock : Instant) : Bool :=
  q.nextAttemptAt.any fun ends => clock < ends

/-- The lease has not run out by `clock`, or runs out just then. -/
def Payment.leasedThrough (q : Payment) (clock : Instant) : Bool :=
  q.nextAttemptAt.any fun ends => clock ≤ ends

theorem leasedAt_iff {clock : Instant} :
    q.leasedAt clock = true ↔ ∃ ends, q.nextAttemptAt = some ends ∧ clock < ends := by
  unfold Payment.leasedAt
  cases q.nextAttemptAt <;> simp

theorem mem_hands : (t, q) ∈ hands w ↔ Holds t w q := by
  simp only [hands, Holds, List.mem_append, List.mem_filterMap, Option.map_eq_some_iff,
    Prod.mk.injEq]
  constructor
  · rintro (⟨c, mem, p, started, own, rfl⟩ | taken)
    · exact .inl ⟨c, mem, own, started⟩
    · exact .inr taken
  · rintro (⟨c, mem, own, started⟩ | taken)
    · exact .inl ⟨c, mem, q, started, own, rfl⟩
    · exact .inr taken

theorem mem_leases {c : Commit app} : q ∈ leases c ↔ c.tx.started? c.result = some q ∨
    ∃ payments, c.tx.claimed? c.result = some payments ∧ q ∈ payments := by
  rw [leases, List.mem_append, Option.mem_toList]
  cases c.tx.claimed? c.result <;> simp

theorem handedOut_commit (w : World app) (c : Commit app) :
    handedOut (w.commit c) = handedOut w ++ leases c := by
  simp [handedOut]

/-- Threads keep what they have in hand, and what they recorded stays recorded. -/
theorem Released.mono (released : Released w q) (commits : w.commits <+: w'.commits)
    (taken : w.env.taken ⊆ w'.env.taken) : Released w' q := by
  obtain ⟨t, holds, c, mem, recorded⟩ := released
  refine ⟨t, mem_hands.mpr ?_, c, commits.subset mem, recorded⟩
  rcases mem_hands.mp holds with ⟨c', mem', rest⟩ | mem'
  · exact .inl ⟨c', commits.subset mem', rest⟩
  · exact .inr (taken mem')

/-! ### Each copy is handed out once -/

/-- Nothing moves a payment back: its status goes on, or its attempts grow. -/
theorem PaymentChange.onward {id : Uuid} {p p' : Payment}
    (h : PaymentChange T n i id x now r (some p) (some p')) :
    p.status.rank < p'.status.rank ∨ (p'.status = p.status ∧ p.attempts ≤ p'.attempts) := by
  cases h with
  | same => exact .inr ⟨rfl, Nat.le_refl _⟩
  | declined _ status => exact .inl (PaymentEdge.rank (status ▸ .failed))
  | chargedTooLate _ status => exact .inl (PaymentEdge.rank (status ▸ .chargedTooLate))
  | confirmed _ status => exact .inl (PaymentEdge.rank (status ▸ .succeeded))
  | cancelled _ status => exact .inl (PaymentEdge.rank (status ▸ .cancelled))
  | claimed => exact .inr ⟨rfl, Nat.le_succ _⟩
  | @refundRecorded _ record _ _ _ _ _ status =>
      cases record with
      | refunded => exact .inl (PaymentEdge.rank (status ▸ .refunded))
      | refundFailed => exact .inl (PaymentEdge.rank (status ▸ .refundFailed))
  | rescheduled => exact .inr ⟨rfl, Nat.le_refl _⟩

/-- The stored payment is the copy, or has gone on from it. -/
def Db.Follows (db : Db) (q : Payment) : Prop :=
  ∃ p, db.payments.find? q.id = some p ∧
    (q.status.rank < p.status.rank ∨ (p.status = q.status ∧ q.attempts ≤ p.attempts))

theorem Effect.follows (effect : Effect T n i x now r c') (follows : (T.state n).Follows q) :
    (c'.log.apply (T.state n)).Follows q := by
  obtain ⟨p, found, ahead⟩ := follows
  have change := effect.payment q.id
  rw [found] at change
  obtain ⟨p', found', -⟩ := change.bill
  rw [found'] at change
  refine ⟨p', found', ?_⟩
  rcases ahead with ahead | ⟨status, attempts⟩ <;>
    rcases change.onward with onward | ⟨status', attempts'⟩
  · exact .inl (ahead.trans onward)
  · exact .inl (status' ▸ ahead)
  · exact .inl (status ▸ onward)
  · exact .inr ⟨status'.trans status, attempts.trans attempts'⟩

/-- The copies handed out are different from one another, all of payments that wait, and
none is ahead of what is stored. -/
structure Distinct (w : World app) : Prop where
  nodup : (handedOut w).Nodup
  follows : ∀ q ∈ handedOut w, w.db.Follows q
  waits : ∀ q ∈ handedOut w, q.status = .processing ∨ q.status = .refundPending

/-- A claim answers copies that no earlier one is. -/
theorem Effect.claims_anew (effect : Effect T n i x now r c') {payments : List Payment}
    (claimed : x.claimed? r = some payments) : payments.Nodup ∧ ∀ q ∈ payments,
      (q.status = .processing ∨ q.status = .refundPending) ∧ ¬ (T.state n).Follows q := by
  cases x with
  | claimDue leaseMs limit =>
      cases claimed
      cases effect with
      | nothing idle => exact idle.elim
      | laidOut flights => exact flights.elim
      | @claimed _ _ _ _ _ due distinct isDue log reply =>
          have keys : (due.map (·.claimed now leaseMs)).map key = due.map key := List.map_map
          refine ⟨reply.nodup_iff.mpr (List.Nodup.of_map key (keys ▸ distinct)), fun q mem => ?_⟩
          obtain ⟨p, memP, rfl⟩ := List.mem_map.mp (reply.mem_iff.mp mem)
          obtain ⟨here, selected⟩ := isDue p memP
          refine ⟨isPaymentDue_status (p := p) selected, ?_⟩
          rintro ⟨p', found, ahead⟩
          obtain rfl : p = p' := Option.some.inj ((Table.find?_of_mem here).symm.trans found)
          rcases ahead with ahead | ⟨-, attempts⟩
          · exact Nat.lt_irrefl _ ahead
          · exact Nat.not_succ_le_self _ attempts
  | _ => cases claimed

theorem Effect.starts_anew (effect : Effect T n i x now r c') (started : x.started? r = some q) :
    q.status = .processing ∧ ¬ (T.state n).Follows q := by
  obtain ⟨_, _, _, _, _, _, _, _, on, -⟩ := effect.startedOn started
  constructor
  · rw [on.payment]
    rfl
  · rintro ⟨p, found, -⟩
    rw [on.fresh] at found
    cases found

/-- A commit hands out each payment once, as a copy that no earlier one is. -/
theorem Committed.lends_anew {c : Commit app}
    (committed : Committed T n c.begun c.tx c.now c.result c') :
    (leases c).Nodup ∧ ∀ q ∈ leases c, (T.state (n + 1)).payments.find? q.id = some q ∧
      (q.status = .processing ∨ q.status = .refundPending) ∧ ¬ (T.state n).Follows q := by
  constructor
  · rw [leases]
    cases claimed : c.tx.claimed? c.result with
    | none => cases c.tx.started? c.result <;> simp
    | some payments =>
        have idle : c.tx.started? c.result = none := by
          obtain ⟨t, x, now, r, begun, log, held, spans⟩ := c
          cases x <;> first | rfl | cases claimed
        rw [idle]
        exact (committed.effect.claims_anew claimed).1
  · intro q mem
    refine ⟨committed.lends (mem_leases.mp mem), ?_⟩
    rcases mem_leases.mp mem with started | ⟨payments, claimed, mem⟩
    · obtain ⟨status, fresh⟩ := committed.effect.starts_anew started
      exact ⟨.inl status, fresh⟩
    · exact (committed.effect.claims_anew claimed).2 q mem

theorem Distinct.commit (distinct : Distinct w) {c : Commit app} (sound : (w.commit c).Sound) :
    Distinct (w.commit c) := by
  obtain ⟨⟨c', committed⟩, before, after⟩ := committed_last sound
  obtain ⟨nodup, anew⟩ := committed.lends_anew
  rw [before, after] at anew
  have parts : ∀ q, q ∈ handedOut (w.commit c) → q ∈ handedOut w ∨ q ∈ leases c := fun q mem =>
    List.mem_append.mp (handedOut_commit w c ▸ mem)
  constructor
  · rw [handedOut_commit]
    refine distinct.nodup.append nodup fun q old new => ?_
    exact (anew q new).2.2 (distinct.follows q old)
  · intro q mem
    rcases parts q mem with old | new
    · rw [← after, committed.next]
      exact committed.effect.follows (before ▸ distinct.follows q old)
    · exact ⟨q, (anew q new).1, .inr ⟨rfl, Nat.le_refl _⟩⟩
  · intro q mem
    rcases parts q mem with old | new
    · exact distinct.waits q old
    · exact (anew q new).2.1

/-- Every copy in hand was handed out, to one thread. -/
theorem hands_subperm (traced : Traced w) : ((hands w).map (·.2)).Subperm (handedOut w) := by
  let started := w.commits.flatMap fun c => (c.tx.started? c.result).toList
  let claimed := w.commits.flatMap fun c => (c.tx.claimed? c.result).getD []
  have requests : (w.commits.filterMap fun c => (c.tx.started? c.result).map (c.thread, ·)).map
      (·.2) = started := by
    simp [started, List.map_filterMap, Function.comp_def, ← List.filterMap_eq_flatMap_toList]
  have workers : (w.env.taken.map (·.2)).Subperm claimed := by
    have taken := traced.taken_subperm
    rwa [claims, List.take_length] at taken
  have all : (started ++ claimed).Perm (handedOut w) := List.flatMap_append_perm ..
  rw [hands, List.map_append, requests]
  exact ((List.subperm_append_left started).mpr workers).trans all.subperm

/-- Two threads never have the same copy in hand. -/
theorem holder_unique (distinct : Distinct w) (traced : Traced w) (mine : (t, q) ∈ hands w)
    (yours : (u, q) ∈ hands w) : t = u := by
  obtain ⟨copies, perm, sub⟩ := hands_subperm traced
  have nodup : ((hands w).map (·.2)).Nodup := perm.nodup_iff.mp (distinct.nodup.sublist sub)
  exact (Prod.mk.inj (List.inj_on_of_nodup_map nodup mine yours rfl)).1

theorem handedOut_of_hands (traced : Traced w) (mine : (t, q) ∈ hands w) : q ∈ handedOut w :=
  (hands_subperm traced).subset (List.mem_map.mpr ⟨(t, q), mine, rfl⟩)

/-! ### What a lease protects -/

theorem not_due_of_leasedAt {clock : Instant} (leased : q.leasedAt clock = true)
    (le : now ≤ clock) : isPaymentDue now q = false := by
  obtain ⟨ends, here, ahead⟩ := leasedAt_iff.mp leased
  have late : ¬ ends ≤ now := not_le.mpr (lt_of_le_of_lt le ahead)
  simp [isPaymentDue, here, late]

/-- A payment that waits and is not due changes only by what its holder records. -/
theorem PaymentChange.kept {id : Uuid} {o : Option Payment}
    (h : PaymentChange T n i id x now r (some q) o) (other : x.records? ≠ some id)
    (waits : q.status = .processing ∨ q.status = .refundPending)
    (early : isPaymentDue now q = false) : o = some q := by
  cases h with
  | same => rfl
  | declined same | chargedTooLate same | confirmed same | refundRecorded same =>
      exact absurd (congrArg some same) other
  | rescheduled => exact absurd rfl other
  | cancelled _ status => simp [status] at waits
  | claimed due => exact absurd (early.symm.trans due) Bool.false_ne_true

/-- Until it is recorded or its lease runs out, a copy is what is stored. -/
def Leased (w : World app) : Prop :=
  ∀ q ∈ handedOut w, ¬ Released w q → q.leasedAt w.env.clock = true →
    w.db.payments.find? q.id = some q

/-- Whoever records a payment does so before the lease of the copy in hand runs out. -/
def InTime (w : World app) (c : Commit app) : Prop :=
  ∀ q, (c.thread, q) ∈ hands w → c.tx.records? = some q.id → q.leasedAt w.env.clock = true

/-- A thread records one payment it has in hand, once. -/
theorem Knows.records {id : Uuid} (knows : Knows t x w) (records : x.records? = some id) :
    Unrecorded t w ∧ ∃ payment, (t, payment) ∈ hands w ∧ payment.id = id := by
  cases x with
  | settleDeclined payment =>
      cases records
      exact ⟨knows.2.2, payment, mem_hands.mpr knows.1, rfl⟩
  | settleCharged payment =>
      cases records
      exact ⟨knows.2.2, payment, mem_hands.mpr knows.1, rfl⟩
  | recordRefund payment =>
      cases records
      exact ⟨knows.2.2, payment, mem_hands.mpr (.inr knows.1), rfl⟩
  | reschedule paymentId =>
      cases records
      obtain ⟨payment, taken, same, -, unrecorded⟩ := knows
      exact ⟨unrecorded, payment, mem_hands.mpr (.inr taken), same⟩
  | _ => cases records

theorem Leased.commit (leased : Leased w) (distinct : Distinct w) (traced : Traced w)
    {c : Commit app} (sound : (w.commit c).Sound) (knows : Knows c.thread c.tx w)
    (behind : c.now ≤ w.env.clock) (inTime : InTime w c) : Leased (w.commit c) := by
  obtain ⟨⟨c', committed⟩, before, after⟩ := committed_last sound
  have grows : w.commits <+: (w.commit c).commits := List.prefix_append ..
  intro q mem pending within
  rcases List.mem_append.mp (handedOut_commit w c ▸ mem) with old | new
  · have stored : w.db.payments.find? q.id = some q :=
      leased q old (fun released => pending (released.mono grows (List.Subset.refl _))) within
    by_cases records : c.tx.records? = some q.id
    · -- The copy in the hands of whoever records is the stored payment too, so it is this one.
      obtain ⟨unrecorded, payment, mine, same⟩ := knows.records records
      have free : ¬ Released w payment := by
        rintro ⟨u, theirs, c₀, mem₀, own, recorded⟩
        obtain rfl := holder_unique distinct traced theirs mine
        have idle := unrecorded c₀ (List.mem_filter.mpr ⟨mem₀, decide_eq_true own⟩)
        rw [recorded] at idle
        cases idle
      have here : w.db.payments.find? payment.id = some payment :=
        leased payment (handedOut_of_hands traced mine) free
          (inTime payment mine (same ▸ records))
      rw [same, stored] at here
      obtain rfl := Option.some.inj here
      refine absurd ⟨c.thread, mem_hands.mpr ?_, c, List.mem_append_right _
        (List.mem_singleton_self c), rfl, records⟩ pending
      exact (mem_hands.mp mine).imp (fun ⟨c₀, mem₀, rest⟩ => ⟨c₀, grows.subset mem₀, rest⟩) id
    · have change := committed.effect.payment q.id
      rw [← committed.next, before, after, stored] at change
      exact change.kept records (distinct.waits q old) (not_due_of_leasedAt within behind)
  · have last := (committed.lends_anew.2 q new).1
    rwa [after] at last

theorem taken_subset {e e' : Env} {call : Call} {choice : Choice} {a : call.Answer}
    (performed : e.perform t call choice = some (a, e')) : e.taken ⊆ e'.taken := by
  rcases Env.perform_jobs performed with ⟨-, same⟩ | ⟨_, -, same, -⟩ | ⟨_, -, same, -⟩ <;>
    simp [same]

theorem Leased.call (leased : Leased w) {choice : Choice} {call : Call} {a : call.Answer} {env : Env}
    (steady : w.env.steady = true) (performed : w.env.perform t call choice = some (a, env)) :
    Leased { w with env } := by
  have clock := (Env.perform_clock performed).2 steady
  have taken := taken_subset performed
  intro q mem pending within
  refine leased q mem (fun released => pending (released.mono (List.prefix_refl _) taken)) ?_
  obtain ⟨ends, here, ahead⟩ := leasedAt_iff.mp within
  exact leasedAt_iff.mpr ⟨ends, here, lt_of_le_of_lt clock ahead⟩

theorem Leased.tick (leased : Leased w) {env : Env} (steady : w.env.steady = true)
    (ticked : w.env.tick now = some env) : Leased { w with env } := by
  obtain ⟨rfl, forward⟩ := Env.tick_some ticked
  intro q mem pending within
  refine leased q mem pending ?_
  obtain ⟨ends, here, ahead⟩ := leasedAt_iff.mp within
  exact leasedAt_iff.mpr ⟨ends, here, lt_of_le_of_lt (forward steady) ahead⟩

/-! ### Who is live -/

/-- Who still works on which copy: it is handed out by now, the thread has it in hand or gets
it before the run ends, moves again, and has not recorded the payment. -/
def live (final : World app) (ahead : List (Nat × Move app)) (w : World app) :
    List (Nat × Payment) :=
  (hands final).filter fun h =>
    h.1 ∈ ahead.map (·.1) && h.2 ∈ handedOut w && !decide (Recorded h.1 w h.2.id)

theorem mem_live {final : World app} {ahead : List (Nat × Move app)} :
    (t, q) ∈ live final ahead w ↔ (t, q) ∈ hands final ∧ t ∈ ahead.map (·.1) ∧
      q ∈ handedOut w ∧ ¬ Recorded t w q.id := by
  simp [live, and_assoc]

/-- Whoever still works on a copy is within its lease. -/
def Punctual (within : Payment → Instant → Bool) (final : World app) (ahead : List (Nat × Move app))
    (p : Pool app UseCaseResult) : Prop :=
  ∀ h ∈ live final ahead p.world, within h.2 p.world.env.clock = true

/-- No two of those who still work, work on one payment. -/
def Exclusive (final : World app) (ahead : List (Nat × Move app)) (p : Pool app UseCaseResult) : Prop :=
  ∀ h ∈ live final ahead p.world, ∀ h' ∈ live final ahead p.world, h.2.id = h'.2.id → h = h'

instance (within : Payment → Instant → Bool) (final : World app) (ahead : List (Nat × Move app))
    (p : Pool app UseCaseResult) : Decidable (Punctual within final ahead p) :=
  inferInstanceAs (Decidable (∀ h ∈ live final ahead p.world,
    within h.2 p.world.env.clock = true))

instance (final : World app) (ahead : List (Nat × Move app)) (p : Pool app UseCaseResult) :
    Decidable (Exclusive final ahead p) :=
  inferInstanceAs (Decidable (∀ h ∈ live final ahead p.world, ∀ h' ∈ live final ahead p.world,
    h.2.id = h'.2.id → h = h'))

section Service

variable {airports : Table Airport} {clock : Instant} {steady idempotent : Bool}
  {invocations : Nat → Invocation} {p : Pool app UseCaseResult}

theorem distinct_of_service
    (h : (service airports clock steady idempotent invocations).Reachable p) : Distinct p.world := by
  refine (service_kept ..).invariant h ?_ fun w w' sound distinct moves => ?_
  · exact ⟨List.nodup_nil, fun q mem => absurd mem List.not_mem_nil,
      fun q mem => absurd mem List.not_mem_nil⟩
  · cases moves with
    | tick | call => exact ⟨distinct.nodup, distinct.follows, distinct.waits⟩
    | commit => exact distinct.commit sound

/-- What threads have in hand stays with them to the end of the run. -/
theorem hands_stay {q : Pool app UseCaseResult} (h : p.Reachable q) : hands p.world ⊆ hands q.world := by
  induction h with
  | refl => exact List.Subset.refl _
  | tail _ moved ih =>
      obtain ⟨t, m, moved⟩ := moved
      refine List.Subset.trans ih ?_
      have stays : ∀ {w w' : World app}, w.commits <+: w'.commits → w.env.taken ⊆ w'.env.taken →
          hands w ⊆ hands w' := by
        rintro w w' commits taken ⟨u, copy⟩ mem
        rcases mem_hands.mp mem with ⟨c, mem', rest⟩ | mem'
        · exact mem_hands.mpr (.inl ⟨c, commits.subset mem', rest⟩)
        · exact mem_hands.mpr (.inr (taken mem'))
      cases Pool.steps_of_step moved with
      | begin _ ticked =>
          obtain ⟨rfl, -⟩ := Env.tick_some ticked
          exact List.Subset.refl _
      | call _ performed => exact stays (List.prefix_refl _) (taken_subset performed)
      | commit => exact stays (List.prefix_append _ _) (List.Subset.refl _)
      | start | finish | error | lose | rollback => exact List.Subset.refl _

/-- A step of a punctual thread keeps what the leases protect. -/
theorem Leased.step {q : Pool app UseCaseResult} {m : Move app} {ahead : List (Nat × Move app)}
    {final : World app} (h : (service airports clock true idempotent invocations).Reachable p)
    (leased : Leased p.world) (punctual : Punctual Payment.leasedAt final ((t, m) :: ahead) p)
    (stay : hands p.world ⊆ hands final) (moved : p.step t m = some q) : Leased q.world := by
  have kept := (service_kept airports clock true idempotent invocations).reachable h
  have steady := steady_of_service h
  have sound : q.world.Sound := (kept.step (Pool.steps_of_step moved)).1.good.sound
  have behind := behind_of_service h steady
  have mine := kept.threads t
  cases Pool.steps_of_step moved with
  | begin _ ticked => exact leased.tick steady ticked
  | call _ performed => exact leased.call steady performed
  | start | finish | error | lose | rollback => exact leased
  | @commit x now begun cursor r k acknowledged thread =>
      rw [thread] at mine
      have knows : Knows t x p.world := (mine _ (Relies.refl t _)).1
      have distinct := distinct_of_service h
      have traced := traced_of_service h
      refine leased.commit distinct traced sound knows (behind t _ _ thread) ?_
      intro copy held records
      obtain ⟨unrecorded, -⟩ := knows.records records
      refine punctual (t, copy) (mem_live.mpr ⟨stay held, List.mem_cons_self, ?_, ?_⟩)
      · exact handedOut_of_hands traced held
      · rintro ⟨c, mem, own, recorded⟩
        have idle := unrecorded c (List.mem_filter.mpr ⟨mem, decide_eq_true own⟩)
        rw [recorded] at idle
        cases idle

/-- Where the leases protect them, no two live threads work on one payment. -/
theorem exclusive_of_leased {ahead : List (Nat × Move app)} {final : World app}
    (leased : Leased p.world) (punctual : Punctual Payment.leasedAt final ahead p) (distinct : Distinct final)
    (traced : Traced final) (stay : hands p.world ⊆ hands final) : Exclusive final ahead p := by
  have stored : ∀ t q, (t, q) ∈ live final ahead p.world →
      p.world.db.payments.find? q.id = some q := by
    intro t q works
    obtain ⟨holds, -, handed, pending⟩ := mem_live.mp works
    refine leased q handed ?_ (punctual _ works)
    rintro ⟨u, theirs, recorded⟩
    obtain rfl := holder_unique distinct traced (stay theirs) holds
    exact pending recorded
  rintro ⟨t, q⟩ works ⟨u, q'⟩ works' same
  have here := stored t q works
  have here' := stored u q' works'
  change q.id = q'.id at same
  rw [same, here'] at here
  obtain rfl := Option.some.inj here
  obtain ⟨holds, -⟩ := mem_live.mp works
  obtain ⟨holds', -⟩ := mem_live.mp works'
  rw [holder_unique distinct traced holds holds']

/-- In a version a service reached, attempts count the claims in the status. -/
theorem attempts_of_service (h : (service airports clock steady idempotent invocations).Reachable p)
    {payment : Payment} (mem : payment ∈ p.world.db.payments) : payment.attempts =
      claimCount p.world p.world.commits.length payment.id payment.status := by
  have sound := ((service_kept airports clock steady idempotent invocations).reachable h).good.sound
  have first : (p.world.state 0).payments = ∅ := by
    rw [World.state_zero, h.initial_eq]
    rfl
  have tally := tally_of_sound sound first (Nat.le_refl _) payment.id
  have found : p.world.db.payments.find? payment.id = some payment := Table.find?_of_mem mem
  rw [World.state_length, found] at tally
  exact tally.1.symm

/-- A payment that waits has its next attempt, and from then on a claim takes it. -/
theorem waiting_claimable (h : (service airports clock steady idempotent invocations).Reachable p)
    {payment : Payment} (mem : payment ∈ p.world.db.payments)
    (waits : payment.status = .processing ∨ payment.status = .refundPending) :
    ∃ due, payment.nextAttemptAt = some due ∧ ∀ now, due ≤ now → ∀ leaseMs limit,
      (p.world.db.payments.rows.filter (isPaymentDue now)).length ≤ limit →
      ∃ reply log, execute (S := postgres) [] p.world.db (query (claimDue now leaseMs limit)) {} =
        .ok (reply, log) ∧ payment.claimed now leaseMs ∈ reply := by
  have valid := paymentsValid_of_service h _ (Nat.le_refl _)
  rw [World.state_length] at valid
  obtain ⟨due, next⟩ := Option.isSome_iff_exists.mp ((valid.sound payment mem).nextAttempt.mp waits)
  refine ⟨due, next, fun now le leaseMs limit room => ?_⟩
  have isDue : isPaymentDue now payment = true := by
    rcases waits with status | status <;> simp [isPaymentDue, status, next, le]
  refine ⟨_, _, rfl, (List.mem_insertionSort _).mpr (List.mem_map.mpr ⟨payment, ?_, rfl⟩)⟩
  exact mem_duePayments_alone mem isDue room

/-- What the leases come to at a moment of a run. -/
structure LeasesHold (final : World app) (ahead : List (Nat × Move app))
    (p : Pool app UseCaseResult) : Prop where
  apart : Exclusive final ahead p
  claims : ∀ {t leaseMs limit now begun snap} {cursor : Cursor postgres}
    {rest : Prog postgres (List Payment)} {k skip q},
    p.threads t = .within ⟨.claimDue leaseMs limit, now, begun, cursor, some snap, rest⟩ k →
    p.step t (.finish skip) = some q → ∃ picked reply cursor', q.threads t =
        .within ⟨.claimDue leaseMs limit, now, begun, cursor', none, .ret reply⟩ k ∧
      reply.Perm (picked.map (·.claimed now leaseMs)) ∧
      Earliest now limit (p.world.state snap) p.world.db
        (fun id => p.lockedByOther t (.payment id) = true) picked
  attempts : ∀ payment ∈ p.world.db.payments, payment.attempts =
    claimCount p.world p.world.commits.length payment.id payment.status
  waiting : ∀ payment ∈ p.world.db.payments,
    (payment.status = .processing ∨ payment.status = .refundPending) →
    ∃ due, payment.nextAttemptAt = some due ∧ ∀ now, due ≤ now → ∀ leaseMs limit,
      (p.world.db.payments.rows.filter (isPaymentDue now)).length ≤ limit →
      ∃ reply log, execute (S := postgres) [] p.world.db (query (claimDue now leaseMs limit)) {} =
        .ok (reply, log) ∧ payment.claimed now leaseMs ∈ reply

/-- In every run under a steady clock in which whoever works on a payment is within its lease,
its end not counted, at every moment no two of them work on one payment, each claim takes the
earliest payments due and unlocked, `attempts` counts the claims since the payment entered its
status, which it does once, and every payment that waits can be claimed from its next
attempt on. -/
theorem leases_exclusive {schedule : List (Nat × Move app)} {final : Pool app UseCaseResult}
    (ran : Pool.run schedule (service airports clock true idempotent invocations) = some final)
    (punctual : Pool.Along (Punctual Payment.leasedAt final.world) schedule
      (service airports clock true idempotent invocations)) :
    Pool.Along (LeasesHold final.world) schedule
      (service airports clock true idempotent invocations) := by
  have last := Pool.run_reachable ran
  have distinct := distinct_of_service last
  have traced := traced_of_service last
  refine punctual.imp (I := fun ahead p =>
    (service airports clock true idempotent invocations).Reachable p ∧
      Pool.run ahead p = some final ∧ Leased p.world) ⟨.refl, ran, ?_⟩ ?_ ?_
  · exact fun q mem => absurd mem List.not_mem_nil
  · rintro ⟨t, m⟩ ahead p q ⟨reached, rest, leased⟩ now moved
    have stay := hands_stay (Pool.run_reachable rest)
    have rest' : Pool.run ahead q = some final := by
      rw [Pool.run, moved] at rest
      exact rest
    exact ⟨reached.tail ⟨t, m, moved⟩, rest', leased.step reached now stay moved⟩
  · rintro ahead p ⟨reached, rest, leased⟩ now
    exact {
      apart := exclusive_of_leased leased now distinct traced (hands_stay (Pool.run_reachable rest))
      claims := claimDue_step reached
      attempts := fun payment mem => attempts_of_service reached mem
      waiting := fun payment mem waits => waiting_claimable reached mem waits }

end Service

/-- Payment 9 is started and left in progress; a run claims it at 40001. -/
def unclearMoves : List (Nat × Move app) :=
  sampleMoves ++ Pool.wholly 4 1 5 ++ [(4, .call (.unclear none (.ok "timeout")))] ++
    Pool.wholly 6 40001 1 ++ [(6, Move.call (A := app) .go), (7, Move.call (A := app) (.pick 0))]

/-- Another run claims it at `now`. -/
def reclaimMoves (now : Instant) : List (Nat × Move app) :=
  Pool.wholly 8 now 1 ++ [(8, Move.call (A := app) .go), (9, Move.call (A := app) (.pick 0))]

/-- The first worker puts the payment off. -/
def postponeMoves (now : Instant) : List (Nat × Move app) :=
  [(7, .call (.unclear none (.ok "timeout"))), (7, .call (.time now))] ++ Pool.wholly 7 now 1

/-- The second one settles it. -/
def declineMoves (now : Instant) : List (Nat × Move app) :=
  (9, .call (.definite (.declined "card"))) :: Pool.wholly 9 now 3

def leasedMoves : List (Nat × Move app) :=
  unclearMoves ++ postponeMoves 40002 ++ reclaimMoves 400000 ++ declineMoves 400001

theorem leases_exclusive_reclaimed : ∃ p,
    Pool.run leasedMoves (service sampleAirports 0 true true refundThreads) = some p ∧
    p.world.env.taken.map (fun job => (job.1, job.2.id, job.2.nextAttemptAt)) =
      [(7, 9, some 80001), (9, 9, some 440000)] ∧
    Pool.Along (LeasesHold p.world) leasedMoves
      (service sampleAirports 0 true true refundThreads) := by
  have runs : (Pool.run leasedMoves (service sampleAirports 0 true true refundThreads)).map
      (fun p => (p.world.env.taken.map fun job => (job.1, job.2.id, job.2.nextAttemptAt),
        decide (Pool.Along (Punctual Payment.leasedAt p.world) leasedMoves
          (service sampleAirports 0 true true refundThreads)))) =
      some ([(7, 9, some 80001), (9, 9, some 440000)], true) := by
    decide +kernel
  obtain ⟨p, ran, same⟩ := Option.map_eq_some_iff.mp runs
  obtain ⟨taken, punctual⟩ := Prod.mk.inj same
  exact ⟨p, ran, taken, leases_exclusive ran (of_decide_eq_true punctual)⟩

/-- At the moment a lease runs out the payment is due: a worker that puts it off just then
meets the next one. -/
def lateMoves : List (Nat × Move app) :=
  unclearMoves ++ reclaimMoves 80001 ++ postponeMoves 80001 ++ declineMoves 80002

theorem leases_meet : ∃ p,
    Pool.run lateMoves (service sampleAirports 0 true true refundThreads) = some p ∧
    Pool.Along (Punctual Payment.leasedThrough p.world) lateMoves
      (service sampleAirports 0 true true refundThreads) ∧
    ¬ Pool.Along (Exclusive p.world) lateMoves
      (service sampleAirports 0 true true refundThreads) := by
  have runs : (Pool.run lateMoves (service sampleAirports 0 true true refundThreads)).map
      (fun p => (decide (Pool.Along (Punctual Payment.leasedThrough p.world) lateMoves
          (service sampleAirports 0 true true refundThreads)),
        decide (Pool.Along (Exclusive p.world) lateMoves
          (service sampleAirports 0 true true refundThreads)))) = some (true, false) := by
    decide +kernel
  obtain ⟨p, ran, same⟩ := Option.map_eq_some_iff.mp runs
  obtain ⟨punctual, meet⟩ := Prod.mk.inj same
  exact ⟨p, ran, of_decide_eq_true punctual, of_decide_eq_false meet⟩

end FlightBooking
