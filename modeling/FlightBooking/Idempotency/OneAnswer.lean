import FlightBooking.Bookings.CancelAnswers
import FlightBooking.Idempotency.Correspondence
import FlightBooking.Payments.Validity
import FlightBooking.System.Clock

/-!
One Idempotency-Key, one answer, one payment.

A key is completed once and then stays as it is, until the cleanup deletes it a day after it
was claimed. So the answers of a key agree (`one_answer`); and a second payment with the same
key is for another booking, since the first one's hold lapsed long before
(`one_payment_per_key`).
-/

namespace FlightBooking

open Relational ReadCommitted

/-- Who asked for what in a phase 1, and what it came to. -/
def Transaction.phase1? : (x : Transaction) → x.Result → Option (Uuid × PaymentRequest × Started)
  | .startPayment _ _ actor request _ _, r => some (actor, request, r)
  | _, _ => none

/-- Commit `j` was a cleanup, which deleted the completed key `id`, claimed at `claimedAt`. -/
def CleanedUp (w : World app) (j : Nat) (id : Uuid × String) (claimedAt : Instant) : Prop :=
  ∃ lt : j < w.commits.length, ∃ cutoff limit, ∃ k : IdempotencyKey,
    w.commits[j].tx = .deleteCompletedBefore cutoff limit ∧ claimedAt < cutoff ∧
    (w.state j).keys.find? id = some k ∧ k.status = .completed ∧ k.createdAt = claimedAt ∧
    (w.state (j + 1)).keys.find? id = none

/-! ### One key through a run -/

/-- The same record, in progress or completed since. -/
structure IdempotencyKey.Becomes (k k' : IdempotencyKey) : Prop where
  fingerprint : k'.requestFingerprint = k.requestFingerprint
  createdAt : k'.createdAt = k.createdAt
  completed : k.status = .completed → k' = k

theorem IdempotencyKey.Becomes.refl (k : IdempotencyKey) : k.Becomes k := ⟨rfl, rfl, fun _ => rfl⟩

theorem IdempotencyKey.Becomes.trans {k k' k'' : IdempotencyKey} (h : k.Becomes k')
    (h' : k'.Becomes k'') : k.Becomes k'' where
  fingerprint := h'.fingerprint.trans h.fingerprint
  createdAt := h'.createdAt.trans h.createdAt
  completed done := by
    have same := h.completed done
    rw [← same]
    exact h'.completed (same ▸ done)

theorem KeyRowChange.lives {T : Timeline postgres} {n i : Nat} {after : Db} {id : Uuid × String}
    {x : Transaction} {now : Instant} {r : x.Result} {k : IdempotencyKey}
    {o : Option IdempotencyKey} (change : KeyRowChange T n i after id x now r (some k) o) :
    (∃ k', o = some k' ∧ k.Becomes k') ∨ (o = none ∧ k.status = .completed ∧
      ∃ cutoff limit, x = .deleteCompletedBefore cutoff limit ∧ k.createdAt < cutoff) := by
  cases change with
  | same => exact .inl ⟨k, rfl, .refl k⟩
  | settled _ _ on _ _ _ =>
      refine .inl ⟨_, rfl, rfl, rfl, fun done => ?_⟩
      rw [on.inProgress] at done
      cases done
  | deleted completed old => exact .inr ⟨rfl, completed, _, _, rfl, old⟩

section Run

variable {w : World app} {id : Uuid × String}

/-- One commit leaves a key there, or was the cleanup that deleted it. -/
theorem key_lives_step (sound : w.Sound) {n : Nat} (lt : n < w.commits.length) {k : IdempotencyKey}
    (found : (w.state n).keys.find? id = some k) :
    (∃ k', (w.state (n + 1)).keys.find? id = some k' ∧ k.Becomes k') ∨
      CleanedUp w n id k.createdAt := by
  obtain ⟨c', committed, -⟩ := committed_of_sound sound lt
  have change := committed.effect.keyRow id
  rw [← committed.next, show (w.timeline.state n).keys.find? id = some k from found] at change
  rcases change.lives with lives | ⟨gone, completed, cutoff, limit, cleanup, old⟩
  · exact .inl lives
  · exact .inr ⟨lt, cutoff, limit, k, cleanup, old, found, completed, rfl, gone⟩

/-- A key is there as it was or completed since, until a cleanup deletes it. -/
theorem key_lives (sound : w.Sound) {a m : Nat} (le : a ≤ m) (le' : m ≤ w.commits.length)
    {k : IdempotencyKey} (found : (w.state a).keys.find? id = some k) :
    (∃ k', (w.state m).keys.find? id = some k' ∧ k.Becomes k') ∨
      ∃ j, a ≤ j ∧ j < m ∧ CleanedUp w j id k.createdAt := by
  induction m, le using Nat.le_induction with
  | base => exact .inl ⟨k, found, .refl k⟩
  | succ m le ih =>
      rcases ih (Nat.le_of_succ_le le') with ⟨k', found', becomes⟩ | ⟨j, le, lt, cleaned⟩
      · rcases key_lives_step sound le' found' with ⟨k'', found'', becomes'⟩ | cleaned
        · exact .inl ⟨k'', found'', becomes.trans becomes'⟩
        · exact .inr ⟨m, le, Nat.lt_succ_self m, becomes.createdAt ▸ cleaned⟩
      · exact .inr ⟨j, le, Nat.lt_succ_of_lt lt, cleaned⟩

end Run

/-! ### Answers -/

section Answers

variable {T : Timeline postgres} {n i : Nat} {x : Transaction} {now : Instant} {r : x.Result}
  {c' : Cursor postgres} {id : Uuid × String} {response : StoredResponse}

end Answers

section Service

variable {airports : Table Airport} {clock : Instant} {steady idempotent : Bool}
  {invocations : Nat → Invocation} {p : Pool app UseCaseResult}

/-- The deadline of a booking is the one it had, or it was created just now. -/
theorem BookingChange.deadline {T : Timeline postgres} {n : Nat} {c' : Cursor postgres} {id : Uuid}
    {x : Transaction} {now : Instant} {r : x.Result} {o : Option BookingRow} {b : BookingRow}
    (change : BookingChange T n c' id x now r o (some b)) :
    (∃ b₀, o = some b₀ ∧ b₀.holdExpiresAt = b.holdExpiresAt) ∨
      b.holdExpiresAt = some (now + HOLD_DURATION_MS) := by
  cases change with
  | same => exact .inl ⟨b, rfl, rfl⟩
  | created on _ => exact .inr on.deadline
  | cancelled | expired | confirmed => exact .inl ⟨_, rfl, rfl⟩

/-- A phase 1 that started a payment found no record of its key, and left one. -/
theorem Effect.phase1 {T : Timeline postgres} {n i : Nat} {x : Transaction} {now : Instant}
    {r : x.Result} {c' : Cursor postgres} (effect : Effect T n i x now r c') {actor : Uuid}
    {request : PaymentRequest} {payment : Payment}
    (phase1 : x.phase1? r = some (actor, request, .started payment)) :
    x.started? r = some payment ∧
      (T.state n).keys.find? (actor, request.idempotencyKey) = none ∧
      ∃ k : IdempotencyKey, k.createdAt = now ∧
        (c'.log.apply (T.state n)).keys.find? (actor, request.idempotencyKey) = some k := by
  cases x with
  | startPayment =>
      cases phase1
      refine ⟨rfl, ?_, _, rfl, effect.started.2⟩
      cases effect with
      | nothing idle =>
          obtain ⟨answer, same⟩ := idle
          cases same
      | laidOut on => exact on.elim
      | paid fresh _ _ => exact fresh
  | _ => cases phase1

/-- A booking on hold was created fifteen minutes before its hold lapses. -/
theorem hold_began {w : World app} (sound : w.Sound) (first : w.initial.bookings = ∅) {m : Nat}
    (le : m ≤ w.commits.length) {id : Uuid} {b : BookingRow}
    (found : (w.state m).bookings.find? id = some b) :
    ∃ j, ∃ lt : j < w.commits.length, j < m ∧
      b.holdExpiresAt = some (w.commits[j].now + HOLD_DURATION_MS) := by
  induction m generalizing b with
  | zero =>
      rw [World.state_zero, first] at found
      cases found
  | succ m ih =>
      obtain ⟨c', committed, -⟩ := committed_of_sound sound le
      have change := committed.effect.booking id
      rw [← committed.next, show (w.timeline.state (m + 1)).bookings.find? id = some b from found]
        at change
      rcases change.deadline with ⟨b₀, before, same⟩ | deadline
      · obtain ⟨j, lt, earlier, deadline⟩ := ih (Nat.le_of_succ_le le) before
        exact ⟨j, lt, Nat.lt_succ_of_lt earlier, same ▸ deadline⟩
      · exact ⟨m, le, Nat.lt_succ_self m, deadline⟩

/-- A cleanup deletes only keys claimed a day before it begins. -/
theorem cleanup_waits (h : (service airports clock true idempotent invocations).Reachable p)
    {j : Nat} {id : Uuid × String} {claimedAt : Instant}
    (cleaned : CleanedUp p.world j id claimedAt) : ∃ lt : j < p.world.commits.length,
      claimedAt + IDEMPOTENCY_KEY_RETENTION_MS < p.world.commits[j].now := by
  have began := (service_kept airports clock true idempotent invocations).began h
    (I := fun w => w.env.steady = true) (fun q reached => steady_of_service reached)
    (Q := fun _ x now _ => ∀ cutoff limit, x = .deleteCompletedBefore cutoff limit →
      cutoff + IDEMPOTENCY_KEY_RETENTION_MS ≤ now) ?_
  · obtain ⟨lt, cutoff, limit, k, cleanup, old, -⟩ := cleaned
    obtain ⟨env, waits⟩ := began.2 _ (List.getElem_mem lt)
    have := waits cutoff limit cleanup
    refine ⟨lt, ?_⟩
    unfold Instant at *
    omega
  · rintro t x now w env steady knows ticked cutoff limit rfl
    obtain ⟨rfl, forward⟩ := Env.tick_some ticked
    exact le_trans (knows steady) (forward steady)

/-- No commit carries a time more than `lag` before an earlier commit's. -/
def Prompt (w : World app) (lag : Int) : Prop :=
  w.commits.Pairwise fun c c' => c.now ≤ c'.now + lag

instance (w : World app) (lag : Int) : Decidable (Prompt w lag) :=
  inferInstanceAs (Decidable (w.commits.Pairwise fun c c' => c.now ≤ c'.now + lag))

/-- A second payment started with the same key is for another booking, and a cleanup has
deleted the key in between. No transaction may stay open for half a day. -/
theorem one_payment_per_key (h : (service airports clock true idempotent invocations).Reachable p)
    {lag : Int} (prompt : Prompt p.world lag)
    (short : 2 * lag ≤ IDEMPOTENCY_KEY_RETENTION_MS - HOLD_DURATION_MS) {n m : Nat} (lt : n < m)
    (lt' : m < p.world.commits.length) {actor : Uuid} {request request' : PaymentRequest}
    {payment payment' : Payment}
    (first : p.world.commits[n].tx.phase1? p.world.commits[n].result =
      some (actor, request, .started payment))
    (second : p.world.commits[m].tx.phase1? p.world.commits[m].result =
      some (actor, request', .started payment'))
    (same : request'.idempotencyKey = request.idempotencyKey) :
    payment'.bookingId ≠ payment.bookingId ∧ ∃ j, n < j ∧ j < m ∧
      CleanedUp p.world j (actor, request.idempotencyKey) p.world.commits[n].now := by
  have sound := ((service_kept ..).reachable h).good.sound
  have empty : p.world.initial.bookings = ∅ := by rw [h.initial_eq]; rfl
  obtain ⟨c₁, committed₁, -⟩ := committed_of_sound sound (Nat.lt_trans lt lt')
  obtain ⟨c₂, committed₂, -⟩ := committed_of_sound sound lt'
  obtain ⟨started₁, -, k, claimedAt, stored⟩ := committed₁.effect.phase1 first
  obtain ⟨started₂, fresh, -⟩ := committed₂.effect.phase1 second
  rw [← committed₁.next] at stored
  obtain ⟨j, from', until', cleaned⟩ : ∃ j, n < j ∧ j < m ∧
      CleanedUp p.world j (actor, request.idempotencyKey) p.world.commits[n].now := by
    rcases key_lives sound lt (Nat.le_of_lt lt') stored with ⟨k', there, -⟩ | cleaned
    · rw [same] at fresh
      cases fresh.symm.trans there
    · exact claimedAt ▸ cleaned
  refine ⟨fun booking => ?_, j, from', until', cleaned⟩
  obtain ⟨_, _, _, _, row₁, s₁, _, _, on₁, of₁, -⟩ := committed₁.effect.startedOn started₁
  obtain ⟨_, _, _, _, row₂, s₂, _, _, on₂, of₂, -⟩ := committed₂.effect.startedOn started₂
  have own : row₂.id = row₁.id := of₂.symm.trans (booking.trans of₁)
  have le₁ : s₁ ≤ n := Nat.le_trans on₁.row_le on₁.passengers_le
  have le₂ : s₂ ≤ m := Nat.le_trans on₂.row_le on₂.passengers_le
  have read₁ := on₁.read
  have read₂ := on₂.read
  -- Both read the same deadline, which was set before the first payment.
  have deadline : row₂.holdExpiresAt = row₁.holdExpiresAt := by
    have unfolds := unfolds_of_sound sound
    rcases Nat.le_total s₁ s₂ with le | le
    · obtain ⟨status, later⟩ := unfolds.booking_fixed read₁ le (by omega)
      rw [own] at read₂
      have row := Option.some.inj (read₂.symm.trans later)
      rw [row]
    · obtain ⟨status, later⟩ := unfolds.booking_fixed read₂ le (by omega)
      rw [own] at later
      have row := Option.some.inj (read₁.symm.trans later)
      rw [row]
  obtain ⟨d, isD, begun⟩ := on₂.deadline
  obtain ⟨l, there, earlier, created⟩ := hold_began sound empty (by omega) read₁
  obtain ⟨there', waits⟩ := cleanup_waits h cleaned
  have lapse : d = p.world.commits[l].now + HOLD_DURATION_MS :=
    Option.some.inj (isD.symm.trans (deadline.trans created))
  have creation := List.pairwise_iff_getElem.mp prompt l n there (by omega) (by omega)
  have cleanup := List.pairwise_iff_getElem.mp prompt j m there' lt' until'
  unfold HOLD_DURATION_MS at lapse short
  unfold IDEMPOTENCY_KEY_RETENTION_MS at waits short
  unfold PAYMENT_START_MARGIN_MS at begun
  unfold Instant at *
  omega

end Service

/-- The payment is declined; a day later the key is cleaned up, and pays for booking 6. -/
def secondPaymentThreads : Nat → Invocation := sampleThreads fun
  | 0 => samplePayment
  | 1 => .cleanupIdempotencyKeys 10 1
  | 2 => .createBooking (some 1)
      (.chosen [("NGUYEN VAN AN", ⟨1, 'B'⟩)] (by decide) (by decide)) 7
      ⟨6, fun _ => "ABC235", 34, 32⟩ none
  | _ => .payForBooking (some 6) (.owner 7) 7 ⟨"key-1", "fingerprint-2", "tok_visa", sampleFare⟩
      ⟨8, ⟨40, 41, none⟩, 40000⟩

def secondPaymentMoves : List (Nat × Move app) :=
  sampleMoves ++ Pool.wholly 4 1 5 ++ [(4, .call (.definite (.declined "no funds")))] ++
    Pool.wholly 4 2 3 ++ [(5, .call (.time 86400002))] ++ Pool.wholly 5 86400003 1 ++
    Pool.wholly 6 86400004 5 ++ Pool.wholly 7 86400005 5

/-- What phase 1 came to in the commit there, if it was one. -/
def phase1At (w : World app) (n : Nat) : Option (Uuid × PaymentRequest × Started) :=
  w.commits[n]?.bind fun c => c.tx.phase1? c.result

theorem phase1At_some {w : World app} {n : Nat} {seen : Uuid × PaymentRequest × Started}
    (h : phase1At w n = some seen) :
    ∃ lt : n < w.commits.length, w.commits[n].tx.phase1? w.commits[n].result = some seen := by
  obtain ⟨c, there, phase1⟩ := Option.bind_eq_some_iff.mp h
  obtain ⟨lt, rfl⟩ := List.getElem?_eq_some_iff.mp there
  exact ⟨lt, phase1⟩

theorem one_payment_per_key_sample : ∃ p, Pool.run secondPaymentMoves
      (service sampleAirports 0 true true secondPaymentThreads) = some p ∧
    ∃ j, 8 < j ∧ j < 12 ∧ ∃ claimedAt, CleanedUp p.world j (7, "key-1") claimedAt := by
  have runs : (Pool.run secondPaymentMoves
      (service sampleAirports 0 true true secondPaymentThreads)).map (fun p =>
        (decide (Prompt p.world 0),
          decide (phase1At p.world 8 = some (7, ⟨"key-1", "fingerprint-1", "tok_visa", sampleFare⟩,
            .started ⟨9, 5, 7, sampleFare, .processing, none, none, some "tok_visa", 0, some 40001,
              1, 1⟩)),
          decide (phase1At p.world 12 = some (7, ⟨"key-1", "fingerprint-2", "tok_visa", sampleFare⟩,
            .started ⟨8, 6, 7, sampleFare, .processing, none, none, some "tok_visa", 0,
              some 86440005, 86400005, 86400005⟩)))) = some (true, true, true) := by
    decide +kernel
  obtain ⟨p, ran, same⟩ := Option.map_eq_some_iff.mp runs
  obtain ⟨prompt, rest⟩ := Prod.ext_iff.mp same
  obtain ⟨first, second⟩ := Prod.ext_iff.mp rest
  obtain ⟨_, first⟩ := phase1At_some (of_decide_eq_true first)
  obtain ⟨lt', second⟩ := phase1At_some (of_decide_eq_true second)
  obtain ⟨-, j, from', until', cleaned⟩ := one_payment_per_key (Pool.run_reachable ran)
    (of_decide_eq_true prompt) (by decide) (by decide) lt' first second rfl
  exact ⟨p, ran, j, from', until', _, cleaned⟩

end FlightBooking
