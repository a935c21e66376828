import FlightBooking.Payments.Effects
import FlightBooking.System.Clock

/-!
What one claim takes.

The statement looks for due payments in its snapshot, in `next_attempt_at, id` order, passes
over those that others have locked, and takes up to `limit` of the others as they are now
(`claimDue_step`).
-/

namespace FlightBooking

open Relational ReadCommitted

/-- `picked` are the payments a claim may take at `now`: of those its snapshot shows due, that
are still due in `db` and that nobody has `locked`, the first `limit`. -/
structure Earliest (now : Instant) (limit : Nat) (snap db : Db) (locked : Uuid → Prop)
    (picked : List Payment) : Prop where
  atMost : picked.length ≤ limit
  due : ∀ q ∈ picked, q ∈ db.payments ∧ isPaymentDue now q = true
  unlocked : ∀ q ∈ picked, ¬ locked q.id
  first : ∀ p ∈ snap.payments, isPaymentDue now p = true →
    (∃ q ∈ db.payments, q.id = p.id ∧ isPaymentDue now q = true) → ¬ locked p.id →
    (∀ q ∈ picked, q.id ≠ p.id) → picked.length = limit ∧
      ∀ p' ∈ snap.payments, (∃ q ∈ picked, q.id = p'.id) → p'.dueBefore p

instance : Std.Total Payment.dueBefore where
  total a b := by
    unfold Payment.dueBefore
    unfold Uuid Instant
    omega

instance : IsTrans Payment Payment.dueBefore where
  trans a b c := by
    unfold Payment.dueBefore
    unfold Uuid Instant
    omega

theorem duePayments_earliest {now : Instant} {limit : Nat} {skip : List Row} {snap db : Db}
    {locked : Uuid → Prop} (skipped : ∀ id, Row.payment id ∈ skip → locked id)
    (free : ∀ q ∈ duePayments now limit skip snap db, ¬ locked q.id) :
    Earliest now limit snap db locked (duePayments now limit skip snap db) := by
  let found := (snap.payments.rows.filter (isPaymentDue now)).insertionSort Payment.dueBefore
  let rows := (db.payments.again (isPaymentDue now) found).filter fun p => Row.payment p.id ∉ skip
  have inside : ∀ v ∈ found, v ∈ snap.payments := fun v mem =>
    (List.mem_filter.mp ((List.mem_insertionSort _).mp mem)).1
  have ordered : rows.Pairwise fun a b => ∀ u ∈ snap.payments, ∀ v ∈ snap.payments,
      key u = key a → key v = key b → u.dueBefore v :=
    (Table.pairwise_again inside (List.pairwise_insertionSort Payment.dueBefore _)).filter _
  have picked : duePayments now limit skip snap db = rows.take limit := rfl
  constructor
  · exact List.length_take_le ..
  · exact fun q mem => mem_duePayments mem
  · exact free
  · intro p mem due still open' out
    obtain ⟨q, memQ, same, dueQ⟩ := still
    have there : q ∈ rows := by
      refine List.mem_filter.mpr ⟨(again_found now snap db).mem_iff.mpr ?_, ?_⟩
      · exact Table.mem_recheck.mpr ⟨memQ, dueQ, p, mem, same.symm, due⟩
      · exact decide_eq_true fun passed => open' (skipped p.id (same ▸ passed))
    have split : rows.take limit ++ rows.drop limit = rows := List.take_append_drop ..
    have later : q ∈ rows.drop limit := by
      rw [← split] at there
      exact (List.mem_append.mp there).resolve_left fun taken => out q taken same
    constructor
    · have left : 0 < (rows.drop limit).length := List.length_pos_of_mem later
      rw [List.length_drop] at left
      rw [picked, List.length_take]
      omega
    · rintro p' mem' ⟨q', taken, same'⟩
      rw [← split, List.pairwise_append] at ordered
      exact ordered.2.2 q' taken q later p' mem' p mem same'.symm same.symm

/-- Alone, and with room for all of them, a claim takes every due payment. -/
theorem mem_duePayments_alone {now : Instant} {limit : Nat} {db : Db} {q : Payment}
    (mem : q ∈ db.payments) (due : isPaymentDue now q = true)
    (room : (db.payments.rows.filter (isPaymentDue now)).length ≤ limit) :
    q ∈ duePayments now limit [] db db := by
  have perm := again_found now db db
  rw [Table.recheck_self] at perm
  unfold duePayments
  dsimp only
  rw [List.filter_eq_self.mpr fun p _ => decide_eq_true List.not_mem_nil,
    List.take_of_length_le (perm.length_eq.trans_le room)]
  exact perm.mem_iff.mpr (List.mem_filter.mpr ⟨mem, due⟩)

theorem lockedByOther_of_lock {p : Pool app UseCaseResult} {t : Nat} {row : Row} {wanted}
    (free : p.blocked t wanted = false) (mem : (row, .update) ∈ wanted) :
    p.lockedByOther t row ≠ true := by
  intro locked
  obtain ⟨l, memL, other⟩ := List.any_eq_true.mp locked
  simp only [Pool.blocked, List.any_eq_false] at free
  refine free _ mem (List.any_eq_true.mpr ⟨l, memL, ?_⟩)
  have conflicts : l.mode.conflicts .update = true := by cases l.mode <;> rfl
  simpa [conflicts] using other

/-- When the statement of a claim gets its locks, it takes the earliest payments that are due
and not locked by others, and answers them leased. -/
theorem claimDue_step {airports : Table Airport} {clock : Instant} {steady idempotent : Bool}
    {invocations : Nat → Invocation} {p q : Pool app UseCaseResult}
    (h : (service airports clock steady idempotent invocations).Reachable p) {t : Nat}
    {leaseMs : Int} {limit : Nat} {now : Instant} {begun snap : Nat} {cursor : Cursor postgres}
    {rest : Prog postgres (List Payment)} {k} {skip : List Row}
    (thread : p.threads t = .within ⟨.claimDue leaseMs limit, now, begun, cursor, some snap, rest⟩ k)
    (moved : p.step t (.finish skip) = some q) :
    ∃ picked reply cursor', q.threads t =
        .within ⟨.claimDue leaseMs limit, now, begun, cursor', none, .ret reply⟩ k ∧
      reply.Perm (picked.map (·.claimed now leaseMs)) ∧
      Earliest now limit (p.world.state snap) p.world.db
        (fun id => p.lockedByOther t (.payment id) = true) picked := by
  obtain ⟨snap', st, next, running, text, skipped, failed⟩ := Pool.step_finish thread moved
  obtain rfl := Option.some.inj running
  rcases Pool.single_of_reachable h thread (claimDue now leaseMs limit) rfl with
    ⟨same, log⟩ | ⟨reply, same⟩
  · have only : Interaction.Tree.act st next = query (claimDue now leaseMs limit) :=
      text.symm.trans same
    cases only
    -- Nothing precedes the statement, so it reads the versions as they are.
    have seen : ∀ db : Db, cursor.log.apply db = db := fun db => by
      rw [show cursor.log = postgres.none from log]
      exact postgres.apply_none db
    have found : cursor.view p.world.timeline snap = p.world.state snap := seen _
    dsimp only at failed
    rw [found, seen] at failed
    rcases failed with ⟨e, failed⟩ | ⟨out, done, free, after⟩
    · cases failed
    · cases done
      refine ⟨_, _, _, after, List.perm_insertionSort .., ?_⟩
      refine duePayments_earliest (fun id mem => skipped _ mem) fun q mem => ?_
      refine lockedByOther_of_lock free (List.mem_append_left _ ?_)
      exact List.mem_map.mpr ⟨q, mem, rfl⟩
  · cases text.symm.trans same

end FlightBooking
