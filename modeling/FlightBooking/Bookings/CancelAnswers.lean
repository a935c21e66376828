import FlightBooking.Bookings.CancelRace

/-!
What a cancel that cancelled nothing answers.

The cancel's UPDATE decides and a later read explains. They disagree, and the
cancel throws, exactly when the booking became cancellable between the two
(`BecameCancellable`): a hold that had lapsed at the cancel's `now` was confirmed
by a transaction with an earlier `now`, or the booking was only then created.
-/

namespace FlightBooking

open Relational ReadCommitted Progress

variable {T : Timeline postgres} {n i : Nat} {c c' : Cursor postgres} {now : Instant} {id : Uuid}
  {scope : BookingAccessScope}

/-! ### What stays of a booking -/

/-- Everything of a booking but its status is as it was created. -/
theorem BookingChange.fixed {x : Transaction} {r : x.Result} {b : BookingRow}
    {o : Option BookingRow} (change : BookingChange T n c' id x now r (some b) o) :
    ∃ status, o = some { b with status } := by
  cases change with
  | same => exact ⟨b.status, rfl⟩
  | cancelled | expired | confirmed => exact ⟨_, rfl⟩

theorem Unfolds.booking_fixed (unfolds : Unfolds T n) {a m : Nat} {b : BookingRow}
    (found : (T.state a).bookings.find? id = some b) (le : a ≤ m) (le' : m ≤ n) :
    ∃ status, (T.state m).bookings.find? id = some { b with status } := by
  induction m, le using Nat.le_induction with
  | base => exact ⟨b.status, found⟩
  | succ m le ih =>
      obtain ⟨status, before⟩ := ih (by omega)
      obtain ⟨i, x, now, r, c', committed⟩ := unfolds m (by omega)
      have change := committed.effect.booking id
      rw [before, ← committed.next] at change
      exact change.fixed

/-- A booking was created, and is as it was created but for its status. -/
theorem Unfolds.booking_created (unfolds : Unfolds T n) (first : (T.state 0).bookings = ∅) {m : Nat}
    (le : m ≤ n) {b : BookingRow} (found : (T.state m).bookings.find? id = some b) :
    ∃ j < m, ∃ flightId actor now booking free status,
      CreatedOn T j flightId actor now booking free ∧ b = { booking.row with status } := by
  induction m generalizing b with
  | zero =>
      rw [first] at found
      cases found
  | succ m ih =>
      obtain ⟨i, x, now, r, c', committed⟩ := unfolds m le
      have change := committed.effect.booking id
      rw [← committed.next, found] at change
      generalize before : (T.state m).bookings.find? id = o at change
      have earlier : ∀ {b' : BookingRow}, o = some b' → (∃ status, b = { b' with status }) →
          ∃ j < m + 1, ∃ flightId actor now booking free status,
            CreatedOn T j flightId actor now booking free ∧ b = { booking.row with status } := by
        rintro b' same ⟨status, rfl⟩
        obtain ⟨j, lt, flightId, actor, now, booking, free, _, on, rfl⟩ :=
          ih (by omega) (before.trans same)
        exact ⟨j, by omega, flightId, actor, now, booking, free, status, on, rfl⟩
      cases change with
      | same => exact earlier rfl ⟨b.status, rfl⟩
      | created on _ => exact ⟨m, Nat.lt_succ_self m, _, _, _, _, _, _, on, rfl⟩
      | cancelled | expired | confirmed => exact earlier rfl ⟨_, rfl⟩

theorem Unfolds.flight_stays (unfolds : Unfolds T n) {flightId : Uuid} {a m : Nat} {f : FlightRow}
    (found : (T.state a).flights.find? flightId = some f) (le : a ≤ m) (le' : m ≤ n) :
    ∃ f', (T.state m).flights.find? flightId = some f' ∧ f'.departureAt = f.departureAt := by
  induction m, le using Nat.le_induction with
  | base => exact ⟨f, found, rfl⟩
  | succ m le ih =>
      obtain ⟨f', found', same⟩ := ih (by omega)
      obtain ⟨i, x, now, r, c', committed⟩ := unfolds m (by omega)
      obtain ⟨f'', found'', same'⟩ := committed.effect.flight found'
      rw [← committed.next] at found''
      exact ⟨f'', found'', same'.trans same⟩

/-- A booking's flight is there. -/
theorem Unfolds.flight_there (unfolds : Unfolds T n) (first : (T.state 0).bookings = ∅) {m : Nat}
    (le : m ≤ n) {b : BookingRow} (found : (T.state m).bookings.find? id = some b) :
    ∃ f, (T.state m).flights.find? b.flightId = some f := by
  obtain ⟨j, lt, flightId, actor, now, booking, free, status, on, rfl⟩ :=
    unfolds.booking_created first le found
  obtain ⟨k, le', sale⟩ := on.onSale
  obtain ⟨f, there, -⟩ := (Option.any_eq_true _ _).mp sale
  obtain ⟨f', there', -⟩ := unfolds.flight_stays there (m := m) (by omega) le
  exact ⟨f', (congrArg _ on.flight).trans there'⟩

/-! ### The classification -/

/-- The booking and its flight, as the follow-up read finds them. -/
def foundForCancel (id : Uuid) (scope : BookingAccessScope) (db : Db) :
    Option (BookingRow × FlightRow) :=
  ((db.bookings.find? id).filter fun b => scope.admits b.ownerAccountId).bind
    fun booking => (db.flights.find? booking.flightId).map fun flight => (booking, flight)

theorem foundForCancel_eq_some {db : Db} {b : BookingRow} {f : FlightRow} :
    foundForCancel id scope db = some (b, f) ↔ db.bookings.find? id = some b ∧
      scope.admits b.ownerAccountId = true ∧ db.flights.find? b.flightId = some f := by
  simp only [foundForCancel, Option.bind_eq_some_iff, Option.filter_eq_some_iff,
    Option.map_eq_some_iff, Prod.mk.injEq]
  constructor
  · rintro ⟨_, ⟨found, admitted⟩, _, there, rfl, rfl⟩
    exact ⟨found, admitted, there⟩
  · rintro ⟨found, admitted, there⟩
    exact ⟨b, ⟨found, admitted⟩, f, there, rfl, rfl⟩

/-- A booking the caller may see is classified, unless the UPDATE's own condition
holds of it. -/
theorem classifyNotCancelled_error {b : BookingRow} {f : FlightRow}
    (deadline : b.holdExpiresAt.isSome) (admitted : scope.admits b.ownerAccountId = true) :
    (∃ e, classifyNotCancelled b.status b.holdExpiresAt f.departureAt now = .error e) ↔
      isCancellable b f scope now = true := by
  obtain ⟨at', deadline⟩ := Option.isSome_iff_exists.mp deadline
  cases status : b.status <;>
    simp only [classifyNotCancelled, effectiveBookingStatus, isHoldLapsed, isCancellationWindowOpen,
      cancellableUntil, isCancellable, holdIsValid, status, deadline, admitted]
  · by_cases lapsed : at' ≤ now
    · simp [lapsed, not_lt.mpr lapsed]
    · simp [lapsed, not_le.mp lapsed]
  · by_cases window : f.departureAt - CANCELLATION_WINDOW_MS > now <;> simp [window]
  · simp
  · simp

theorem classifyNotCancelled_throws {status : BookingStatus} {deadline : Option Instant}
    {departureAt : Instant} {e : Failure}
    (h : classifyNotCancelled status deadline departureAt now = .error e) :
    ∃ name, e = .cancelMatchedNoRow name := by
  unfold classifyNotCancelled at h
  extract_lets effective at h
  split at h
  · cases h
  split at h
  · cases h
  split at h
  · cases h
  · cases h
    exact ⟨_, rfl⟩

/-! ### What the statements saw -/

theorem readForCancel_ok {skip : List Row} {snap cur : Db} {out}
    (h : readForCancel id scope skip snap cur = .ok out) :
    out.reply = foundForCancel id scope snap ∧ out.writes = {} := by
  cases h
  exact ⟨rfl, rfl⟩

/-- The pre-lock and the UPDATE of a cancel, whatever came after them. -/
theorem cancel_statements {c₁ c₂ : Cursor postgres} {u : Unit} {found : Option CancelledRow}
    (pre : Commits T n (query (lockCancellable id scope now)) (.start i) u c₁)
    (main : Commits T n (query (cancelBookingRow id scope now)) c₁ found c₂) :
    ∃ first locked snap cur, c₂.spans = [(first, locked), (snap, cur)] ∧ snap ≤ cur ∧ cur ≤ c₂.pos ∧
      (found = none ∧ c₂.log = {} ∧ ¬ CancelMatched T id scope now snap cur ∨
        (∃ row, found = some row) ∧ CancelMatched T id scope now snap cur) := by
  obtain ⟨skip₁, first, locked, out₁, -, -, -, done₁, -, rfl, -⟩ := commits_query.mp pre
  obtain ⟨skip₂, snap, cur, out₂, -, le, -, done₂, rfl, rfl, -⟩ := commits_query.mp main
  obtain ⟨writes₁, -⟩ := lockCancellable_ok done₁
  have log₁ : (Cursor.next (.start i) first locked out₁ : Cursor postgres).log = ({} : Changes) := by
    simp [writes₁, Changes.append]
  have view₁ : ∀ k, (Cursor.next (.start i) first locked out₁ : Cursor postgres).view T k =
      T.state k := fun k => by rw [Cursor.view, log₁]; rfl
  rw [view₁, view₁] at done₂
  refine ⟨first, locked, snap, cur, by simp, le, Nat.le_refl cur, ?_⟩
  rcases cancelBookingRow_ok done₂ with ⟨reply, writes, missed⟩ |
    ⟨row, flight, booking, target, newest, cancellable, reply, -, -⟩
  · refine .inl ⟨reply, by rw [Cursor.next_log, log₁, writes]; rfl, ?_⟩
    rintro ⟨found, flight, booking, target, newest, cancellable⟩
    rw [(missed _ target).2 booking newest] at cancellable
    cases cancellable
  · exact .inr ⟨⟨_, reply⟩, row, flight, booking, target, newest, cancellable⟩

/-- A committed cancel: the UPDATE matched, or the read explained why not. -/
theorem cancelInTransaction_saw {r : Except NotCancelled CancelledRow}
    (h : Commits T n (cancelInTransaction id scope now) (.start i) r c') :
    ∃ first locked snap cur,
      (c'.spans = [(first, locked), (snap, cur)] ∧ CancelMatched T id scope now snap cur) ∨
      ∃ snap' cur', c'.spans = [(first, locked), (snap, cur), (snap', cur')] ∧ snap' ≤ n ∧
        (∃ reason, r = .error reason) ∧ ∀ b f, foundForCancel id scope (T.state snap') = some (b, f) →
          ∀ e, classifyNotCancelled b.status b.holdExpiresAt f.departureAt now ≠ .error e := by
  obtain ⟨u, c₁, pre, rest⟩ := commits_bind.mp h
  obtain ⟨found, c₂, main, rest⟩ := commits_bind.mp rest
  obtain ⟨first, locked, snap, cur, spans, -, -, ⟨rfl, log, -⟩ | ⟨⟨row, rfl⟩, matched⟩⟩ :=
    cancel_statements pre main
  · obtain ⟨read, c₃, explain, rest⟩ := commits_bind.mp rest
    obtain ⟨skip, snap', cur', out, -, le, le', done, rfl, rfl, -⟩ := commits_query.mp explain
    obtain ⟨reply, -⟩ := readForCancel_ok done
    rw [Cursor.view, log] at reply
    refine ⟨first, locked, snap, cur, .inr ⟨snap', cur', ?_, Nat.le_trans le le', ?_,
      fun b f seen e failed => ?_⟩⟩
    · cases seen : out.reply with
      | none =>
          rw [seen] at rest
          obtain ⟨-, rfl⟩ := rest
          simp [spans]
      | some pair =>
          rw [seen] at rest
          obtain ⟨reason, -, -, rfl⟩ := commits_orThrow_bind.mp rest
          simp [spans]
    · cases seen : out.reply with
      | none =>
          rw [seen] at rest
          exact ⟨_, rest.1⟩
      | some pair =>
          rw [seen] at rest
          obtain ⟨reason, -, rfl, -⟩ := commits_orThrow_bind.mp rest
          exact ⟨reason, rfl⟩
    · rw [reply.trans seen] at rest
      obtain ⟨reason, ok, -⟩ := commits_orThrow_bind.mp rest
      rw [failed] at ok
      cases ok
  · obtain ⟨-, rfl⟩ := rest
    exact ⟨first, locked, snap, cur, .inl ⟨spans, matched⟩⟩

/-- A cancel that threw: the UPDATE had matched nothing, and the read found a booking
it could not classify. -/
theorem cancelInTransaction_threw {e : Failure}
    (h : Aborts T n (cancelInTransaction id scope now) (.start i) e c') :
    ∃ first locked snap cur snap' cur' b f,
      c'.spans = [(first, locked), (snap, cur), (snap', cur')] ∧ snap ≤ cur ∧ cur ≤ snap' ∧
      snap' ≤ n ∧ ¬ CancelMatched T id scope now snap cur ∧
      foundForCancel id scope (T.state snap') = some (b, f) ∧
      classifyNotCancelled b.status b.holdExpiresAt f.departureAt now = .error e := by
  rcases aborts_bind.mp h with failed | ⟨u, c₁, pre, rest⟩
  · obtain ⟨skip, snap, cur, -, -, -, failed, -⟩ := aborts_query failed
    unfold lockCancellable at failed
    split at failed <;> cases failed
  rcases aborts_bind.mp rest with failed | ⟨found, c₂, main, rest⟩
  · obtain ⟨skip, snap, cur, -, -, -, failed, -⟩ := aborts_query failed
    unfold cancelBookingRow at failed
    split at failed
    · cases failed
    · extract_lets locks at failed
      split at failed <;> cases failed
  obtain ⟨first, locked, snap, cur, spans, le, le', ⟨rfl, log, missed⟩ | ⟨⟨row, rfl⟩, -⟩⟩ :=
    cancel_statements pre main
  · rcases aborts_bind.mp rest with failed | ⟨read, c₃, explain, rest⟩
    · obtain ⟨skip, snap, cur, -, -, -, failed, -⟩ := aborts_query failed
      cases failed
    obtain ⟨skip, snap', cur', out, le₁, le₂, le₃, done, rfl, rfl, -⟩ := commits_query.mp explain
    obtain ⟨reply, -⟩ := readForCancel_ok done
    rw [Cursor.view, log] at reply
    cases seen : out.reply with
    | none =>
        rw [seen] at rest
        exact rest.elim
    | some pair =>
        obtain ⟨b, f⟩ := pair
        rw [seen] at rest
        rcases aborts_bind.mp rest with failed | ⟨_, _, -, rest⟩
        · obtain ⟨thrown, rfl⟩ := aborts_orThrow.mp failed
          exact ⟨first, locked, snap, cur, snap', cur', b, f, by simp [spans], le,
            Nat.le_trans le' le₁, Nat.le_trans le₂ le₃, missed, reply.symm.trans seen, thrown⟩
        · exact rest.elim
  · exact rest.elim

/-! ### The condition -/

/-- The booking became cancellable: on version `snap`, the UPDATE's snapshot, it was
not there, or HELD with a deadline at or before `now`; on version `snap'`, the
read's, the UPDATE's own condition holds of it. -/
structure BecameCancellable (T : Timeline postgres) (id : Uuid) (scope : BookingAccessScope)
    (now : Instant) (snap snap' : Nat) : Prop where
  before : ∀ b, (T.state snap).bookings.find? id = some b →
    b.status = .held ∧ holdIsDue b.holdExpiresAt now = true
  after : ∃ b f, foundForCancel id scope (T.state snap') = some (b, f) ∧
    isCancellable b f scope now = true

/-- The booking became cancellable between the UPDATE and the follow-up read of a
cancel whose statements had these spans. -/
def CancelOvertaken (T : Timeline postgres) (id : Uuid) (scope : BookingAccessScope) (now : Instant)
    (spans : List (Nat × Nat)) : Prop :=
  ∃ first locked snap cur snap' cur', [(first, locked), (snap, cur), (snap', cur')] <+: spans ∧
    BecameCancellable T id scope now snap snap'

theorem cancelTarget_eq_some {snap cur : Db} {b : BookingRow} {f : FlightRow} :
    cancelTarget id scope now snap cur = some (b, f) ↔ snap.bookings.find? id = some b ∧
      cur.flights.find? b.flightId = some f ∧ isCancellable b f scope now = true := by
  simp only [cancelTarget, Option.bind_eq_some_iff, Option.ite_none_right_eq_some, Option.some.injEq,
    Prod.mk.injEq]
  constructor
  · rintro ⟨_, found, _, there, cancellable, rfl, rfl⟩
    exact ⟨found, there, cancellable⟩
  · rintro ⟨found, there, cancellable⟩
    exact ⟨b, found, f, there, cancellable, rfl, rfl⟩

/-- What is due is no longer valid. -/
theorem not_valid_of_due {deadline : Option Instant} (due : holdIsDue deadline now = true) :
    holdIsValid deadline now = false := by
  cases deadline with
  | none => rfl
  | some at' => simpa [holdIsDue, holdIsValid] using due

theorem CancelMatched.not_became {snap cur snap' : Nat}
    (matched : CancelMatched T id scope now snap cur) :
    ¬ BecameCancellable T id scope now snap snap' := by
  obtain ⟨found, flight, _, target, -⟩ := matched
  obtain ⟨at', -, cancellable⟩ := cancelTarget_eq_some.mp target
  intro became
  obtain ⟨held, due⟩ := became.before found at'
  simp [isCancellable, held, not_valid_of_due due] at cancellable

theorem prefix_eq {α : Type} {a b l : List α} (ha : a <+: l) (hb : b <+: l)
    (same : a.length = b.length) : a = b :=
  (List.prefix_of_prefix_length_le ha hb (Nat.le_of_eq same)).eq_of_length same

section

variable (unfolds : Unfolds T n) (first : (T.state 0).bookings = ∅)

include unfolds first

/-- Where the UPDATE matched nothing and the read finds the booking cancellable, it
became so in between. -/
theorem became_of_not_matched {snap cur snap' : Nat} (le : snap ≤ cur) (le' : cur ≤ snap')
    (le'' : snap' ≤ n) (missed : ¬ CancelMatched T id scope now snap cur) {b : BookingRow}
    {f : FlightRow} (seen : foundForCancel id scope (T.state snap') = some (b, f))
    (cancellable : isCancellable b f scope now = true) :
    BecameCancellable T id scope now snap snap' := by
  refine ⟨fun b₀ found => ?_, b, f, seen, cancellable⟩
  obtain ⟨foundB, admitted, there⟩ := foundForCancel_eq_some.mp seen
  -- The booking on the three versions: only its status may differ.
  obtain ⟨s₁, found₁⟩ := unfolds.booking_fixed found le (by omega)
  obtain ⟨s₂, found₂⟩ := unfolds.booking_fixed found (Nat.le_trans le le') le''
  obtain rfl := Option.some.inj (foundB.symm.trans found₂)
  obtain ⟨g, there₁⟩ := unfolds.flight_there first (by omega) found₁
  obtain ⟨f', there₂, departs⟩ := unfolds.flight_stays there₁ le' le''
  obtain rfl := Option.some.inj (there.symm.trans there₂)
  have up := unfolds.rank_le id le (by omega)
  have up' := unfolds.rank_le id le' le''
  simp only [Db.bookingStatus, found, found₁, found₂, Option.map_some] at up up'
  have deadline : b₀.holdExpiresAt.isSome := by
    obtain ⟨j, -, _, _, _, _, _, _, on, rfl⟩ := unfolds.booking_created first (by omega) found
    exact Option.isSome_iff_exists.mpr ⟨_, on.deadline⟩
  have open' : s₂ = .confirmed → g.departureAt - CANCELLATION_WINDOW_MS > now := by
    rintro rfl
    have window := cancellable
    simp only [isCancellable, Bool.and_eq_true, Bool.or_eq_true, decide_eq_true_eq] at window
    rw [← departs]
    exact (window.1.resolve_right (by simp)).2
  have early : ∀ s, bookingRank (some s) ≤ bookingRank (some s₂) →
      s = .held ∨ s = .confirmed ∧ s₂ = .confirmed := by
    intro s le
    rcases isCancellable_live cancellable with rfl | rfl <;> cases s <;> simp_all [bookingRank]
  have cancel : ∀ s, bookingRank (some s) ≤ bookingRank (some s₂) →
      (s = .held → holdIsValid b₀.holdExpiresAt now = true) →
      isCancellable { b₀ with status := s } g scope now = true := by
    intro s le valid
    rcases early s le with rfl | ⟨rfl, confirmed⟩
    · simpa [isCancellable, valid rfl] using admitted
    · simpa [isCancellable, open' confirmed] using admitted
  by_contra undue
  have valid : b₀.status = .held → holdIsValid b₀.holdExpiresAt now = true := by
    intro held
    obtain ⟨at', deadline⟩ := Option.isSome_iff_exists.mp deadline
    simpa [held, holdIsDue, holdIsValid, deadline] using undue
  have valid₁ : s₁ = .held → holdIsValid b₀.holdExpiresAt now = true := by
    rintro rfl
    refine valid ((early _ (Nat.le_trans up up')).resolve_right fun h => ?_)
    rw [h.1] at up
    exact absurd up (by decide)
  exact missed ⟨b₀, g, { b₀ with status := s₁ }, cancelTarget_eq_some.mpr
    ⟨found, there₁, cancel b₀.status (Nat.le_trans up up') valid⟩, found₁, cancel s₁ up' valid₁⟩

/-- A cancel that failed threw for want of a reason if and only if it was overtaken. -/
theorem cancelBooking_threw_iff {actor : Uuid} {ids : CancelIds} {requestId : Option Uuid}
    {e : Failure}
    (h : Aborts T n (cancelBookingTransaction id scope actor ids requestId now) (.start i) e c') :
    (∃ status, e = .cancelMatchedNoRow status) ↔ CancelOvertaken T id scope now c'.spans := by
  rcases aborts_bind.mp h with failed | ⟨r, c₁, cancelled, rest⟩
  · obtain ⟨first', locked, snap, cur, snap', cur', b, f, spans, le, le', le'', missed, seen, thrown⟩ :=
      cancelInTransaction_threw failed
    obtain ⟨found, admitted, -⟩ := foundForCancel_eq_some.mp seen
    obtain ⟨j, -, _, _, _, _, _, _, on, rfl⟩ := unfolds.booking_created first le'' found
    have deadline : Booking.holdExpiresAt _ = _ := on.deadline
    have cancellable := (classifyNotCancelled_error (b := { Booking.row _ with status := _ })
      (Option.isSome_iff_exists.mpr ⟨_, deadline⟩) admitted).mp ⟨e, thrown⟩
    refine ⟨fun _ => ⟨first', locked, snap, cur, snap', cur', spans ▸ List.prefix_refl _,
      became_of_not_matched unfolds first le le' le'' missed seen cancellable⟩, fun _ => ?_⟩
    exact classifyNotCancelled_throws thrown
  · obtain ⟨first', locked, snap, cur, ⟨spans, matched⟩ |
      ⟨snap', cur', spans, -, ⟨reason, rfl⟩, -⟩⟩ := cancelInTransaction_saw cancelled
    · cases r with
      | error reason => exact rest.elim
      | ok row =>
          refine ⟨fun ⟨name, thrown⟩ => ?_, ?_⟩
          · refine absurd thrown (Aborts.throws
              (Q := fun e : Failure => ∀ name, e ≠ .cancelMatchedNoRow name) ?_ rest name)
            refine throws_bind (throws_query fun _ _ _ e failed name => ?_) fun payment =>
              throws_bind ((recordAudit_throws _).mono ?_) fun _ => throws_bind ?_ fun _ =>
              throws_bind ((enqueue_throws _).mono ?_) fun _ =>
              throws_bind ((findById_throws _ _).mono ?_) fun found => ?_
            · obtain ⟨constraint, rfl⟩ := markRefundPendingForCancelledBooking_error failed
              exact nofun
            · rintro e rfl name
              exact nofun
            · cases payment with
              | none => trivial
              | some payment => exact (recordAudit_throws _).mono fun e same name => same ▸ nofun
            · rintro e rfl name
              exact nofun
            · rintro e ⟨sum, rfl⟩ name
              exact nofun
            · cases found with
              | none => exact fun name => nofun
              | some booking => trivial
          rintro ⟨first₂, locked₂, snap₂, cur₂, snap', cur', seen, became⟩
          have before : [(first', locked), (snap, cur)] <+: c'.spans := spans ▸ rest.spans_prefix
          have same := prefix_eq ((List.prefix_append [(first₂, locked₂), (snap₂, cur₂)]
            [(snap', cur')]).trans seen) before rfl
          simp only [List.cons.injEq, Prod.mk.injEq] at same
          obtain ⟨-, ⟨rfl, -⟩, -⟩ := same
          exact (matched.not_became became).elim
    · exact rest.elim

/-- A cancel that committed was not overtaken. -/
theorem cancelBooking_not_overtaken {actor : Uuid} {ids : CancelIds} {requestId : Option Uuid} {r}
    (h : Commits T n (cancelBookingTransaction id scope actor ids requestId now) (.start i) r c') :
    ¬ CancelOvertaken T id scope now c'.spans := by
  rintro ⟨first₂, locked₂, snap₂, cur₂, snap', cur', seen, became⟩
  obtain ⟨r, c₁, cancelled, rest⟩ := commits_bind.mp h
  have before := rest.spans_prefix
  obtain ⟨first', locked, snap, cur, ⟨spans, matched⟩ |
    ⟨snap'', cur'', spans, le, -, explained⟩⟩ := cancelInTransaction_saw cancelled
  · rw [spans] at before
    have same := prefix_eq ((List.prefix_append [(first₂, locked₂), (snap₂, cur₂)]
      [(snap', cur')]).trans seen) before rfl
    simp only [List.cons.injEq, Prod.mk.injEq] at same
    obtain ⟨-, ⟨rfl, -⟩, -⟩ := same
    exact matched.not_became became
  · rw [spans] at before
    have same := prefix_eq seen before rfl
    simp only [List.cons.injEq, Prod.mk.injEq] at same
    obtain ⟨-, -, ⟨rfl, -⟩, -⟩ := same
    obtain ⟨b, f, found, cancellable⟩ := became.after
    obtain ⟨at', admitted, -⟩ := foundForCancel_eq_some.mp found
    obtain ⟨j, -, _, _, _, booking, _, status, on, rfl⟩ := unfolds.booking_created first le at'
    obtain ⟨e, thrown⟩ := (classifyNotCancelled_error (b := { booking.row with status })
      (Option.isSome_iff_exists.mpr ⟨_, on.deadline⟩) admitted).mpr cancellable
    exact explained _ _ found e thrown

end

/-- In every run, a cancel throws for want of a reason exactly when it was overtaken:
the only other way to fail is the loss of its connection or a constraint. -/
theorem cancel_throws_iff_overtaken {α : Type} {airports : Table Airport} {env : Env}
    {threads : Nat → App.Thread app α} {p : Pool app α}
    (h : (Pool.initial { airports } env threads : Pool app α).Reachable p) :
    (∀ f ∈ p.failures, ∀ id scope actor ids requestId now,
      f.tx = .cancelBooking id scope actor ids requestId now → f.error ≠ .lost →
      ((∃ status, f.error = .cancelMatchedNoRow status) ↔
        CancelOvertaken p.world.timeline id scope now f.spans)) ∧
    ∀ c ∈ p.world.commits, ∀ id scope actor ids requestId now,
      c.tx = .cancelBooking id scope actor ids requestId now →
      ¬ CancelOvertaken p.world.timeline id scope now c.spans := by
  have good := (Pool.initial_good _ env threads).reachable h
  have unfolds := unfolds_of_sound good.sound
  have start : p.world.state 0 = { airports } := by
    rw [World.state_zero, h.initial_eq]
    rfl
  have first : (p.world.timeline.state 0).bookings = ∅ := congrArg Db.bookings start
  refine ⟨fun f mem id scope actor ids requestId now cancel kept => ?_,
    fun c mem id scope actor ids requestId now cancel => ?_⟩
  · obtain ⟨-, le, lost | aborts⟩ := good.failures f mem
    · exact absurd lost kept
    · obtain ⟨c', aborts, spans⟩ := aborts _ (.refl _ _)
      rw [cancel] at aborts
      rw [← spans]
      exact cancelBooking_threw_iff (unfolds.mono le) first aborts
  · obtain ⟨m, lt, rfl⟩ := List.mem_iff_getElem.mp mem
    obtain ⟨c', ran, -, spans, -⟩ := good.sound.commits lt
    rw [← spans]
    generalize p.world.commits[m].result = r at ran
    revert r
    rw [cancel]
    intro r ran
    exact cancelBooking_not_overtaken (unfolds.mono (Nat.le_of_lt lt)) first ran

/-- Booking 5 is confirmed by a payment that read its clock just before the hold's
deadline, between the UPDATE and the read of a cancel that read its clock at the
deadline. -/
def overtakenMoves : List (Nat × Move app) :=
  let statements (t n : Nat) : List (Nat × Move app) :=
    (List.replicate n [(t, .start), (t, .finish [])]).flatten
  sampleMoves ++ Pool.wholly 4 1 5 ++ [(4, .call (.definite (.succeeded "ch_1")))] ++
    [(4, .begin 899999)] ++ statements 4 7 ++
    [(5, .call (.time 900000)), (5, .begin 900000)] ++ statements 5 2 ++ [(4, .commit true)] ++
    statements 5 1 ++ [(5, .rollback)]

theorem overtaken_sample : ∃ p, (sampleStart {} lapsedCancelThreads).Reachable p ∧
    ∃ f ∈ p.failures, (∃ actor ids requestId,
      f.tx = .cancelBooking 5 (.owner 7) actor ids requestId 900000) ∧
      f.error = .cancelMatchedNoRow "CONFIRMED" := by
  have ends : (Pool.run overtakenMoves (sampleStart {} lapsedCancelThreads)).map (fun p =>
      p.failures.any fun f => (match f.tx with
        | .cancelBooking id scope _ _ _ now => id = 5 && scope = .owner 7 && now = 900000
        | _ => false) && f.error = .cancelMatchedNoRow "CONFIRMED") = some true := by
    decide +kernel
  obtain ⟨p, ran, ends⟩ := Option.map_eq_some_iff.mp ends
  obtain ⟨f, mem, thrown⟩ := List.any_eq_true.mp ends
  rw [Bool.and_eq_true, decide_eq_true_eq] at thrown
  refine ⟨p, Pool.run_reachable ran, f, mem, ?_, thrown.2⟩
  have tx := thrown.1
  split at tx
  · rename_i id scope actor ids requestId now same
    simp only [Bool.and_eq_true, decide_eq_true_eq] at tx
    obtain ⟨⟨rfl, rfl⟩, rfl⟩ := tx
    exact ⟨actor, ids, requestId, same⟩
  · cases tx

/-- A cancel may throw that the booking is confirmed and yet matched no row. -/
theorem cancel_throws_overtaken : ∃ p, (sampleStart {} lapsedCancelThreads).Reachable p ∧
    ∃ f ∈ p.failures, ∃ id scope actor ids requestId now status,
      f.tx = .cancelBooking id scope actor ids requestId now ∧
      f.error = .cancelMatchedNoRow status := by
  obtain ⟨p, reachable, f, mem, ⟨actor, ids, requestId, cancel⟩, thrown⟩ := overtaken_sample
  exact ⟨p, reachable, f, mem, 5, .owner 7, actor, ids, requestId, 900000, _, cancel, thrown⟩

theorem cancel_throws_iff_overtaken_sample : ∃ p,
    (sampleStart {} lapsedCancelThreads).Reachable p ∧
    ∃ f ∈ p.failures, CancelOvertaken p.world.timeline 5 (.owner 7) 900000 f.spans := by
  obtain ⟨p, reachable, f, mem, ⟨actor, ids, requestId, cancel⟩, thrown⟩ := overtaken_sample
  refine ⟨p, reachable, f, mem, ?_⟩
  have kept : f.error ≠ .lost := by
    rw [thrown]
    exact nofun
  exact ((cancel_throws_iff_overtaken reachable).1 f mem 5 (.owner 7) actor ids requestId 900000
    cancel kept).mp ⟨_, thrown⟩

end FlightBooking
