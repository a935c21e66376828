import FlightBooking.Payments.Validity
import Mathlib.Data.List.Flatten

/-!
How often a refund is tried.

Every call of the gateway's refund is made for one payment that one claim returned, and
`attempts` counts the claims since the payment entered its state (`attempts_eq`). The limit
on attempts is looked at only once the gateway has answered: an answer that is lost, or a
call that throws, leaves the payment to be claimed again, so the limit bounds the calls in
the runs where no claim finds it reached (`refund_calls_bounded`), and not in others.
-/

namespace FlightBooking

open Relational ReadCommitted

variable {T : Timeline postgres} {n i : Nat} {x : Transaction} {now : Instant} {r : x.Result}
  {c' : Cursor postgres} {w : World app} {id : Uuid}

/-! ### From a claim to a call -/

/-- What the first `n` commits claimed, batch after batch. -/
def claims (w : World app) (n : Nat) : List Payment :=
  (w.commits.take n).flatMap fun c => (c.tx.claimed? c.result).getD []

section Logs

variable {α : Type} [DecidableEq α]

theorem count_ofThread (t : Nat) (log : List (Nat × α)) (a : α) :
    (ofThread t log).count a = log.count (t, a) := by
  induction log with
  | nil => rfl
  | cons entry log ih =>
      obtain ⟨u, b⟩ := entry
      have ih' : ((log.filter fun e => e.1 = t).map (·.2)).count a = log.count (t, a) := ih
      by_cases same : u = t
      · simp [ofThread, same, List.count_cons, ih']
      · simp [ofThread, same, ih']

/-- A log that is part of another, thread by thread, is part of it. -/
theorem subperm_of_threads {log log' : List (Nat × α)}
    (h : ∀ t, ofThread t log <+: ofThread t log') : log.Subperm log' := by
  refine List.subperm_ext_iff.mpr fun entry _ => ?_
  obtain ⟨t, a⟩ := entry
  rw [← count_ofThread, ← count_ofThread]
  exact (h t).sublist.count_le a

end Logs

/-- The part of the environment that hands payments on. -/
def Env.jobs (e : Env) :
    List (Nat × Payment) × List (Nat × Payment) × List (Nat × List Payment) × List (Nat × Uuid) :=
  (e.queue, e.taken, e.dispatched, e.refundCalls)

/-- What a call of thread `t` does to that part. -/
inductive JobMove (t : Nat) (e e' : Env) : Call → Prop where
  | idle {q : Call} : e'.jobs = e.jobs → JobMove t e e' q
  | refund {request : RefundRequest} :
      e'.jobs = (e.queue, e.taken, e.dispatched, e.refundCalls ++ [(t, request.paymentId)]) →
      JobMove t e e' (.refund request)
  | dispatch {payments : List Payment} :
      e'.jobs = (e.queue ++ payments.map fun p => (e.batches, p), e.taken,
        e.dispatched ++ [(t, payments)], e.refundCalls) →
      JobMove t e e' (.dispatch payments)
  | take {job : Nat × Payment} {queue : List (Nat × Payment)} : e.queue.Perm (job :: queue) →
      e'.jobs = (queue, e.taken ++ [(t, job.2)], e.dispatched, e.refundCalls) →
      JobMove t e e' .take

theorem Env.perform_jobMove {t : Nat} {e e' : Env} {q : Call} {choice : Choice} {a : q.Answer}
    (h : e.perform t q choice = some (a, e')) : JobMove t e e' q := by
  unfold Env.perform at h
  split at h
  · obtain ⟨e'', ticked, same⟩ := Option.map_eq_some_iff.mp h
    cases same
    unfold Env.tick at ticked
    split at ticked <;> cases ticked
    exact .idle rfl
  · have logged : ∀ (e : Env) id answer, (e.logCharge id answer).jobs = e.jobs := by
      intro e id answer
      cases answer <;> rfl
    unfold Env.answerCharge at h
    split at h
    · cases h
      exact .idle (logged ..)
    · cases h
      exact .idle (logged ..)
    · split at h <;> cases h
      exact .idle (logged ..)
    · cases h
  · obtain ⟨acts, rfl, -⟩ := Env.answerRefund_some h
    exact .refund rfl
  · cases h
    exact .idle rfl
  · cases h
    exact .dispatch rfl
  · obtain ⟨job, there, same⟩ := Option.map_eq_some_iff.mp h
    cases same
    obtain ⟨inside, rfl⟩ := List.getElem?_eq_some_iff.mp there
    exact .take (List.getElem_cons_eraseIdx_perm inside).symm rfl
  · cases h
    exact .idle rfl
  · extract_lets done at h
    split at h
    · obtain ⟨-, rfl⟩ := Prod.ext_iff.mp (Option.some.inj h)
      exact .idle rfl
    · cases h
  · obtain ⟨s, -, same⟩ := Option.map_eq_some_iff.mp h
    cases same
    exact .idle rfl
  · obtain ⟨s, -, same⟩ := Option.map_eq_some_iff.mp h
    cases same
    exact .idle rfl
  · cases h

/-- The refunds a thread has in hand. -/
def refundsTaken (t : Nat) (taken : List (Nat × Payment)) : List Uuid :=
  ((ofThread t taken).filter (·.status ≠ .processing)).map (·.id)

/-- Every refund call is for a payment its thread took from the queue, every payment on
the queue or taken off it was dispatched, and every batch dispatched was claimed. -/
structure Traced (w : World app) : Prop where
  called : ∀ t, ofThread t w.env.refundCalls <+: refundsTaken t w.env.taken
  handed : (w.env.taken.map (·.2) ++ w.env.queue.map (·.2)).Perm (w.env.dispatched.flatMap (·.2))
  claimed : ∀ t, ofThread t w.env.dispatched <+: claimsOf t w

theorem refundsTaken_append (t : Nat) (taken more : List (Nat × Payment)) :
    refundsTaken t taken <+: refundsTaken t (taken ++ more) := by
  rw [refundsTaken, refundsTaken, ofThread_append, List.filter_append, List.map_append]
  exact List.prefix_append _ _

theorem Traced.call (traced : Traced w) {t : Nat} {q : Call} {env : Env}
    (knows : KnowsToCall t q w) (moved : JobMove t w.env env q) : Traced { w with env } := by
  cases moved with
  | idle same =>
      simp only [Env.jobs, Prod.mk.injEq] at same
      obtain ⟨queue, taken, dispatched, calls⟩ := same
      constructor
      · intro u
        change ofThread u env.refundCalls <+: refundsTaken u env.taken
        rw [calls, taken]
        exact traced.called u
      · change (env.taken.map _ ++ env.queue.map _).Perm (env.dispatched.flatMap _)
        rw [taken, queue, dispatched]
        exact traced.handed
      · intro u
        change ofThread u env.dispatched <+: claimsOf u w
        rw [dispatched]
        exact traced.claimed u
  | @refund request same =>
      simp only [Env.jobs, Prod.mk.injEq] at same
      obtain ⟨queue, taken, dispatched, calls⟩ := same
      obtain ⟨payment, -, -, own, -, called⟩ := knows
      constructor
      · intro u
        change ofThread u env.refundCalls <+: refundsTaken u env.taken
        rw [calls, taken]
        by_cases mine : t = u
        · subst mine
          rw [ofThread_own, own]
          exact called
        · rw [ofThread_other mine]
          exact traced.called u
      · change (env.taken.map _ ++ env.queue.map _).Perm (env.dispatched.flatMap _)
        rw [taken, queue, dispatched]
        exact traced.handed
      · intro u
        change ofThread u env.dispatched <+: claimsOf u w
        rw [dispatched]
        exact traced.claimed u
  | @dispatch payments same =>
      simp only [Env.jobs, Prod.mk.injEq] at same
      obtain ⟨queue, taken, dispatched, calls⟩ := same
      constructor
      · intro u
        change ofThread u env.refundCalls <+: refundsTaken u env.taken
        rw [calls, taken]
        exact traced.called u
      · change (env.taken.map _ ++ env.queue.map _).Perm (env.dispatched.flatMap _)
        rw [taken, queue, dispatched, List.map_append, ← List.append_assoc, List.flatMap_append,
          List.map_map]
        simpa using traced.handed.append_right payments
      · intro u
        change ofThread u env.dispatched <+: claimsOf u w
        rw [dispatched]
        by_cases mine : t = u
        · subst mine
          have all : claimsOf t w = ofThread t w.env.dispatched ++ [payments] := knows
          rw [ofThread_own]
          exact all ▸ List.prefix_refl _
        · rw [ofThread_other mine]
          exact traced.claimed u
  | @take job rest perm same =>
      simp only [Env.jobs, Prod.mk.injEq] at same
      obtain ⟨queue, taken, dispatched, calls⟩ := same
      constructor
      · intro u
        change ofThread u env.refundCalls <+: refundsTaken u env.taken
        rw [calls, taken]
        exact (traced.called u).trans (refundsTaken_append ..)
      · change (env.taken.map _ ++ env.queue.map _).Perm (env.dispatched.flatMap _)
        rw [taken, queue, dispatched, List.map_append, List.append_assoc]
        exact ((perm.map (·.2)).append_left _).symm.trans traced.handed
      · intro u
        change ofThread u env.dispatched <+: claimsOf u w
        rw [dispatched]
        exact traced.claimed u

theorem Traced.moves {w' : World app} (traced : Traced w) (moves : knowledge.Moves w w') :
    Traced w' := by
  cases moves with
  | tick ticked =>
      change w.env.tick _ = _ at ticked
      unfold Env.tick at ticked
      split at ticked <;> cases ticked
      exact ⟨traced.called, traced.handed, traced.claimed⟩
  | call knows performed => exact traced.call knows (Env.perform_jobMove performed)
  | @commit c _ =>
      refine ⟨traced.called, traced.handed, fun t => ?_⟩
      by_cases own : c.thread = t
      · subst own
        rw [claimsOf_commit_own]
        exact (traced.claimed _).trans (List.prefix_append _ _)
      · rw [claimsOf_commit_other w own]
        exact traced.claimed t

/-- The batches, each with the thread that claimed it. -/
def claimLog (w : World app) : List (Nat × List Payment) :=
  w.commits.filterMap fun c => (c.tx.claimed? c.result).map (c.thread, ·)

theorem ofThread_claimLog (t : Nat) (w : World app) : ofThread t (claimLog w) = claimsOf t w := by
  unfold claimLog claimsOf commitsOf
  induction w.commits with
  | nil => rfl
  | cons c commits ih =>
      unfold ofThread at *
      cases claimed : c.tx.claimed? c.result with
      | none => by_cases own : c.thread = t <;> simp [claimed, own, ih]
      | some payments => by_cases own : c.thread = t <;> simp [claimed, own, ih]

theorem flatMap_claimLog (w : World app) :
    (claimLog w).flatMap (·.2) = claims w w.commits.length := by
  unfold claimLog claims
  rw [List.take_length]
  induction w.commits with
  | nil => rfl
  | cons c commits ih =>
      cases claimed : c.tx.claimed? c.result with
      | none => simp [claimed, ih]
      | some payments => simp [claimed, ih]

/-- No copy is taken more often than it was claimed. -/
theorem Traced.taken_subperm (traced : Traced w) :
    (w.env.taken.map (·.2)).Subperm (claims w w.commits.length) := by
  have dispatched : w.env.dispatched.Subperm (claimLog w) :=
    subperm_of_threads fun t => by
      rw [ofThread_claimLog]
      exact traced.claimed t
  obtain ⟨log, perm, sub⟩ := dispatched
  have taken : (w.env.taken.map (·.2)).Subperm (w.env.taken.map (·.2) ++ w.env.queue.map (·.2)) :=
    (List.sublist_append_left ..).subperm
  have handed : (w.env.taken.map (·.2) ++ w.env.queue.map (·.2)).Perm (log.flatMap (·.2)) :=
    traced.handed.trans (perm.symm.flatMap_right _)
  have claimed : (log.flatMap (·.2)).Sublist ((claimLog w).flatMap (·.2)) := sub.flatMap _
  rw [← flatMap_claimLog]
  exact taken.trans (handed.subperm.trans claimed.subperm)

/-- No refund is called more often than it was claimed. -/
theorem Traced.calls_le (traced : Traced w) (id : Uuid) :
    w.env.refundCalls.countP (fun call => call.2 = id) ≤
      (claims w w.commits.length).countP fun p => p.id = id && p.status ≠ .processing := by
  let refunds := (w.env.taken.filter fun job => job.2.status ≠ .processing).map fun job =>
    (job.1, job.2.id)
  have refundsOf : ∀ t, ofThread t refunds = refundsTaken t w.env.taken := by
    intro t
    simp only [refunds, refundsTaken, ofThread]
    induction w.env.taken with
    | nil => rfl
    | cons job taken ih =>
        by_cases own : job.1 = t <;> by_cases refund : job.2.status = .processing <;>
          simp_all
  have called : w.env.refundCalls.Subperm refunds :=
    subperm_of_threads fun t => by
      rw [refundsOf]
      exact traced.called t
  calc w.env.refundCalls.countP (fun call => call.2 = id)
      ≤ refunds.countP fun call => call.2 = id := called.countP_le _
    _ = (w.env.taken.map (·.2)).countP fun p => p.id = id && p.status ≠ .processing := by
        simp only [refunds, List.countP_map, List.countP_filter]
        rfl
    _ ≤ _ := traced.taken_subperm.countP_le _

/-! ### What the attempts count -/

/-- How far a payment has come. -/
def PaymentStatus.rank : PaymentStatus → Nat
  | .processing => 0
  | .failed | .succeeded => 1
  | .refundPending => 2
  | .refunded | .refundFailed => 3

theorem PaymentEdge.rank {s s' : PaymentStatus} (h : PaymentEdge s s') : s.rank < s'.rank := by
  cases h <;> decide

/-- How often the first `n` commits claimed the payment in a status. -/
def claimCount (w : World app) (n : Nat) (id : Uuid) (s : PaymentStatus) : Nat :=
  (claims w n).countP fun p => p.id = id && p.status = s

/-- `attempts` counts the claims in the current status, and no later status was claimed. -/
def Tally : Option Payment → (PaymentStatus → Nat) → Prop
  | none, count => ∀ s, count s = 0
  | some p, count => count p.status = p.attempts ∧ ∀ s, p.status.rank < s.rank → count s = 0

/-- A payment from one version to the next, where it is not claimed. -/
inductive Untried : Option Payment → Option Payment → Prop where
  | absent : Untried none none
  | created {p : Payment} : p.attempts = 0 → Untried none (some p)
  | kept {p p' : Payment} : p'.status = p.status → p'.attempts = p.attempts →
      Untried (some p) (some p')
  | entered {p p' : Payment} : p.status.rank < p'.status.rank → p'.attempts = 0 →
      Untried (some p) (some p')

theorem Untried.tally {o o' : Option Payment} {count : PaymentStatus → Nat} (h : Untried o o')
    (tally : Tally o count) : Tally o' count := by
  cases h with
  | absent => exact tally
  | created none => exact ⟨(tally _).trans none.symm, fun s _ => tally s⟩
  | kept status attempts =>
      obtain ⟨counted, later⟩ := tally
      rw [← status, ← attempts] at counted
      exact ⟨counted, fun s ahead => later s (status ▸ ahead)⟩
  | entered later none =>
      exact ⟨(tally.2 _ later).trans none.symm, fun s later' => tally.2 s (later.trans later')⟩

theorem PaymentChange.untried {o o' : Option Payment} (h : PaymentChange T n i id x now r o o')
    (other : x.claimed? r = none) : Untried o o' := by
  have enters : ∀ {p p' : Payment}, PaymentEdge p.status p'.status → p'.attempts = 0 →
      Untried (some p) (some p') := fun edge none => .entered edge.rank none
  cases h with
  | same =>
      cases o with
      | none => exact .absent
      | some p => exact .kept rfl rfl
  | started on => exact .created (by rw [on.payment]; rfl)
  | declined _ status => exact enters (status ▸ .failed) rfl
  | chargedTooLate _ status => exact enters (status ▸ .chargedTooLate) rfl
  | confirmed _ status _ => exact enters (status ▸ .succeeded) rfl
  | cancelled _ status => exact enters (status ▸ .cancelled) rfl
  | claimed => cases other
  | @refundRecorded _ record _ _ _ _ _ status =>
      cases record with
      | refunded => exact enters (status ▸ .refunded) rfl
      | refundFailed => exact enters (status ▸ .refundFailed) rfl
  | rescheduled => exact .kept rfl rfl

/-- Rows with distinct keys, counted: one, or none. -/
theorem countP_due {due : List Payment} (distinct : (due.map key).Nodup) (id : Uuid) :
    (∃ p ∈ due, p.id = id ∧ ∀ s, (due.countP fun q => q.id = id && q.status = s) =
      if s = p.status then 1 else 0) ∨
    ((∀ p ∈ due, p.id ≠ id) ∧ ∀ s, (due.countP fun q => q.id = id && q.status = s) = 0) := by
  induction due with
  | nil => exact .inr ⟨fun _ mem => absurd mem List.not_mem_nil, fun _ => rfl⟩
  | cons p due ih =>
      obtain ⟨fresh, distinct⟩ := List.nodup_cons.mp distinct
      by_cases here : p.id = id
      · refine .inl ⟨p, List.mem_cons_self, here, fun s => ?_⟩
        have rest : (due.countP fun q => q.id = id && q.status = s) = 0 := by
          rw [List.countP_eq_zero]
          intro q mem selected
          simp only [Bool.and_eq_true, decide_eq_true_eq] at selected
          exact fresh (List.mem_map.mpr ⟨q, mem, selected.1.trans here.symm⟩)
        rw [List.countP_cons, rest]
        by_cases same : s = p.status
        · simp [here, same]
        · simp [here, same, Ne.symm same]
      · rcases ih distinct with ⟨q, mem, same, count⟩ | ⟨none, count⟩
        · refine .inl ⟨q, List.mem_cons_of_mem _ mem, same, fun s => ?_⟩
          rw [List.countP_cons_of_neg (by simp [here]), count]
        · refine .inr ⟨?_, fun s => ?_⟩
          · intro q mem
            rcases List.mem_cons.mp mem with rfl | mem
            · exact here
            · exact none q mem
          · rw [List.countP_cons_of_neg (by simp [here]), count]

/-- A commit claims the payment once, as it stands then, or does not claim it. -/
theorem Effect.tries (effect : Effect T n i x now r c') (id : Uuid) :
    (∃ p leaseMs, (T.state n).payments.find? id = some p ∧ isPaymentDue now p = true ∧
      (c'.log.apply (T.state n)).payments.find? id = some (p.claimed now leaseMs) ∧
      p.claimed now leaseMs ∈ (x.claimed? r).getD [] ∧
      ∀ s, (((x.claimed? r).getD []).countP fun q => q.id = id && q.status = s) =
        if s = p.status then 1 else 0) ∨
    (Untried ((T.state n).payments.find? id) ((c'.log.apply (T.state n)).payments.find? id) ∧
      ∀ s, (((x.claimed? r).getD []).countP fun q => q.id = id && q.status = s) = 0) := by
  have change := effect.payment id
  cases claimed : x.claimed? r with
  | none => exact .inr ⟨change.untried claimed, fun _ => rfl⟩
  | some payments =>
      cases x with
      | claimDue leaseMs limit =>
          cases claimed
          cases effect with
          | nothing idle => exact idle.elim
          | laidOut flights => exact flights.elim
          | @claimed _ _ _ _ _ due distinct isDue log reply =>
              have counted : ∀ s, (payments.countP fun q => q.id = id && q.status = s) =
                  due.countP fun q => q.id = id && q.status = s := by
                intro s
                rw [reply.countP_eq, List.countP_map]
                rfl
              have writes : (c'.log.apply (T.state n)).payments =
                  (T.state n).payments.putAll (due.map (·.claimed now leaseMs)) := by
                rw [Changes.apply_payments, log]
              have keys : (due.map (·.claimed now leaseMs)).map key = due.map key := List.map_map
              rw [Option.getD_some]
              simp only [counted]
              rcases countP_due distinct id with ⟨p, mem, rfl, count⟩ | ⟨none, count⟩
              · refine .inl ⟨p, leaseMs, Table.find?_of_mem (isDue p mem).1, (isDue p mem).2, ?_,
                  reply.mem_iff.mpr (List.mem_map_of_mem mem), count⟩
                rw [writes]
                exact Table.find?_putAll_of_mem (v := p.claimed now leaseMs) (keys ▸ distinct)
                  (List.mem_map_of_mem mem)
              · refine .inr ⟨?_, count⟩
                rw [writes, Table.find?_putAll_of_notMem]
                · cases (T.state n).payments.find? id with
                  | none => exact .absent
                  | some p => exact .kept rfl rfl
                · rw [keys]
                  intro mem
                  obtain ⟨p, mem, same⟩ := List.mem_map.mp mem
                  exact none p mem same
      | _ => cases claimed

/-! ### Every run -/

theorem claims_succ (lt : n < w.commits.length) :
    claims w (n + 1) = claims w n ++ (w.commits[n].tx.claimed? w.commits[n].result).getD [] := by
  rw [claims, List.take_succ_eq_append_getElem lt, List.flatMap_append, List.flatMap_singleton]
  rfl

theorem claimCount_succ (lt : n < w.commits.length) (id : Uuid) (s : PaymentStatus) :
    claimCount w (n + 1) id s = claimCount w n id s +
      ((w.commits[n].tx.claimed? w.commits[n].result).getD []).countP fun q =>
        q.id = id && q.status = s := by
  rw [claimCount, claims_succ lt, List.countP_append]
  rfl

/-- `attempts` is the number of claims since the payment entered its status. -/
theorem tally_of_sound (sound : w.Sound) (first : (w.state 0).payments = ∅)
    (le : n ≤ w.commits.length) (id : Uuid) :
    Tally ((w.state n).payments.find? id) (claimCount w n id) := by
  induction n with
  | zero =>
      rw [first]
      exact fun s => rfl
  | succ n ih =>
      have lt : n < w.commits.length := le
      have tally := ih (Nat.le_of_succ_le le)
      obtain ⟨c', committed, -⟩ := committed_of_sound sound lt
      have next : w.state (n + 1) = c'.log.apply (w.state n) := committed.next
      have counts : claimCount w (n + 1) id = fun s => claimCount w n id s +
          ((w.commits[n].tx.claimed? w.commits[n].result).getD []).countP fun q =>
            q.id = id && q.status = s := funext fun s => claimCount_succ lt id s
      rw [next, counts]
      rcases committed.effect.tries id with ⟨p, leaseMs, before, -, after, -, count⟩ |
        ⟨untried, count⟩
      · have before' : (w.state n).payments.find? id = some p := before
        rw [before'] at tally
        obtain ⟨counted, later⟩ := tally
        have after' : (c'.log.apply (w.state n)).payments.find? id = _ := after
        rw [after']
        constructor
        · dsimp only
          rw [count]
          change claimCount w n id p.status + (if p.status = p.status then 1 else 0) = p.attempts + 1
          rw [if_pos rfl, counted]
        · intro s ahead
          have other : s ≠ p.status := fun same => by
            rw [same] at ahead
            exact Nat.lt_irrefl _ ahead
          dsimp only
          rw [count, if_neg other]
          exact later s ahead
      · simp only [count, Nat.add_zero]
        exact untried.tally tally

/-- Only payments that wait are claimed. -/
theorem status_of_claims (sound : w.Sound) (le : n ≤ w.commits.length) :
    ∀ q ∈ claims w n, q.status = .processing ∨ q.status = .refundPending := by
  induction n with
  | zero => exact fun q mem => absurd mem List.not_mem_nil
  | succ n ih =>
      have lt : n < w.commits.length := le
      obtain ⟨c', committed, -⟩ := committed_of_sound sound lt
      intro q mem
      rw [claims_succ lt] at mem
      rcases List.mem_append.mp mem with old | new
      · exact ih (Nat.le_of_succ_le le) q old
      · have counted : 0 < ((w.commits[n].tx.claimed? w.commits[n].result).getD []).countP fun p =>
            p.id = q.id && p.status = q.status :=
          List.countP_pos_iff.mpr ⟨q, new, by simp⟩
        rcases committed.effect.tries q.id with ⟨p, _, -, due, -, -, count⟩ | ⟨-, count⟩
        · rw [count] at counted
          have same : q.status = p.status := by
            by_contra other
            rw [if_neg other] at counted
            exact Nat.lt_irrefl _ counted
          rw [same]
          exact isPaymentDue_status due
        · rw [count] at counted
          exact absurd counted (Nat.lt_irrefl _)

/-- The commit, made on `db`, claims no refund whose attempts are used up already. -/
def ClaimsBelowLimit (db : Db) (c : Commit app) : Prop :=
  ∀ q ∈ (c.tx.claimed? c.result).getD [], ∀ p ∈ db.payments.find? q.id,
    p.status = .refundPending → p.attempts < MAX_REFUND_ATTEMPTS

/-- No claim of the history does. -/
def ClaimedBelowLimit (w : World app) : Prop :=
  ∀ (n : Nat) (lt : n < w.commits.length), ClaimsBelowLimit (w.state n) w.commits[n]

instance (db : Db) (c : Commit app) : Decidable (ClaimsBelowLimit db c) :=
  inferInstanceAs (Decidable (∀ q ∈ (c.tx.claimed? c.result).getD [],
    ∀ p ∈ db.payments.find? q.id, p.status = .refundPending → p.attempts < MAX_REFUND_ATTEMPTS))

instance : DecidablePred ClaimedBelowLimit := fun w =>
  inferInstanceAs (Decidable (∀ n, ∀ _ : n < w.commits.length, ClaimsBelowLimit _ _))

theorem refundClaims_le (sound : w.Sound) (first : (w.state 0).payments = ∅)
    (below : ClaimedBelowLimit w) (le : n ≤ w.commits.length) (id : Uuid) :
    claimCount w n id .refundPending ≤ MAX_REFUND_ATTEMPTS := by
  induction n with
  | zero => exact Nat.zero_le _
  | succ n ih =>
      have lt : n < w.commits.length := le
      have before := ih (Nat.le_of_succ_le le)
      obtain ⟨c', committed, -⟩ := committed_of_sound sound lt
      rw [claimCount_succ lt]
      rcases committed.effect.tries id with ⟨p, leaseMs, found, -, -, mem, count⟩ | ⟨-, count⟩
      · rw [count]
        split
        · rename_i refund
          have tally := tally_of_sound sound first (Nat.le_of_lt lt) id
          have found' : (w.state n).payments.find? id = some p := found
          rw [found'] at tally
          have counted : claimCount w n id .refundPending = p.attempts := refund ▸ tally.1
          have own : (p.claimed w.commits[n].now leaseMs).id = id := Table.key_of_find? found'
          have left := below n lt _ mem p (own ▸ found') refund.symm
          omega
        · exact before
      · rw [count]
        exact before

section Service

variable {airports : Table Airport} {clock : Instant} {steady idempotent : Bool}
  {invocations : Nat → Invocation} {p : Pool app UseCaseResult}

theorem traced_of_service (h : (service airports clock steady idempotent invocations).Reachable p) :
    Traced p.world := by
  refine (service_kept ..).invariant h ?_ fun w w' _ traced moves => traced.moves moves
  exact ⟨fun _ => List.prefix_refl _, List.Perm.refl _, fun _ => List.prefix_refl _⟩

/-- In every run in which no claim takes a refund whose attempts are used up already, the
gateway's refund is called five times for a payment at most. -/
theorem refund_calls_bounded
    (h : (service airports clock steady idempotent invocations).Reachable p)
    (below : ClaimedBelowLimit p.world) (id : Uuid) :
    p.world.env.refundCalls.countP (fun call => call.2 = id) ≤ MAX_REFUND_ATTEMPTS := by
  have sound := ((service_kept airports clock steady idempotent invocations).reachable h).good.sound
  have first : (p.world.state 0).payments = ∅ := by
    rw [World.state_zero, h.initial_eq]
    rfl
  have waits : (claims p.world p.world.commits.length).countP
      (fun q => q.id = id && q.status ≠ .processing) =
      claimCount p.world p.world.commits.length id .refundPending := by
    refine List.countP_congr fun q mem => ?_
    rcases status_of_claims sound (Nat.le_refl _) q mem with status | status <;> simp [status]
  calc p.world.env.refundCalls.countP (fun call => call.2 = id)
      ≤ _ := (traced_of_service h).calls_le id
    _ = _ := waits
    _ ≤ _ := refundClaims_le sound first below (Nat.le_refl _) id

end Service

/-- Payment 9 is taken, and its booking cancelled. -/
def refundMoves : List (Nat × Move app) :=
  sampleMoves ++ Pool.wholly 4 1 5 ++ [(4, .call (.definite (.succeeded "ch_1")))] ++
    Pool.wholly 4 2 7 ++ [(5, .call (.time 3))] ++ Pool.wholly 5 3 8

/-- A run of the job, and a promise of it whose call of the gateway throws. The lease is the
only thing that keeps the payment from the next run. -/
def throwingAttempt (k : Nat) : List (Nat × Move app) :=
  Pool.wholly (6 + 2 * k) (40000 * k + 10) 1 ++
    [(6 + 2 * k, Move.call (A := app) .go), (7 + 2 * k, Move.call (A := app) (.pick 0)),
      (7 + 2 * k, Move.call (A := app) (.refund false (.error .gateway))),
      (7 + 2 * k, Move.call (A := app) .go)]

def refundThreads : Nat → Invocation := sampleThreads fun
  | 0 => samplePayment
  | 1 => sampleCancel
  | k + 2 => if k % 2 = 0 then .reconcilePayments 40000 20 1 else .reconcileWorker ⟨30 + k, 31, none⟩

theorem refund_calls_bounded_twice : ∃ p, Pool.run (refundMoves ++ throwingAttempt 0 ++
      throwingAttempt 1) (service sampleAirports 0 true true refundThreads) = some p ∧
    p.world.env.refundCalls = [(7, 9), (9, 9)] ∧
    p.world.env.refundCalls.countP (fun call => call.2 = 9) ≤ MAX_REFUND_ATTEMPTS := by
  have runs : (Pool.run (refundMoves ++ throwingAttempt 0 ++ throwingAttempt 1)
      (service sampleAirports 0 true true refundThreads)).map (fun p =>
        (p.world.env.refundCalls, decide (ClaimedBelowLimit p.world))) =
      some ([(7, 9), (9, 9)], true) := by
    decide +kernel
  obtain ⟨p, ran, same⟩ := Option.map_eq_some_iff.mp runs
  obtain ⟨calls, below⟩ := Prod.mk.inj same
  exact ⟨p, ran, calls, refund_calls_bounded (Pool.run_reachable ran) (of_decide_eq_true below) 9⟩

/-- Every call throws: the sixth claim leads to a sixth call, the payment still pending. -/
theorem sixth_refund_call : ∃ p, Pool.run (refundMoves ++ (List.range 6).flatMap throwingAttempt)
      (service sampleAirports 0 true true refundThreads) = some p ∧
    p.world.env.refundCalls.countP (fun call => call.2 = 9) = MAX_REFUND_ATTEMPTS + 1 ∧
    (p.world.db.payments.find? 9).map (fun q => (q.status, q.attempts)) =
      some (.refundPending, 6) := by
  have runs : (Pool.run (refundMoves ++ (List.range 6).flatMap throwingAttempt)
      (service sampleAirports 0 true true refundThreads)).map (fun p =>
        (p.world.env.refundCalls.countP (fun call => call.2 = 9),
          (p.world.db.payments.find? 9).map fun q => (q.status, q.attempts))) =
      some (MAX_REFUND_ATTEMPTS + 1, some (.refundPending, 6)) := by
    decide +kernel
  obtain ⟨p, ran, same⟩ := Option.map_eq_some_iff.mp runs
  exact ⟨p, ran, Prod.mk.inj same⟩

end FlightBooking
