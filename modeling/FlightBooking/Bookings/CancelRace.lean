import FlightBooking.Bookings.Endings
import FlightBooking.Inventory.Invariant

/-!
A cancel meeting a seat change, a confirmation or a sweep, statement by statement.

The cancel releases the seats that its UPDATE found in its own snapshot, so it is
right only while the booking's seats stand still from that snapshot on. Its
pre-lock sees to that, except for a hold that has lapsed at the cancel's `now`:
such a booking is left unlocked, and one that is confirmed in time by an earlier
`now` can be reseated while the UPDATE waits. `CancelGuarded` is the exact
condition, and `no_seat_survives` what follows from it.
-/

namespace FlightBooking

open Relational ReadCommitted Progress

variable {T : Timeline postgres} {n i : Nat} {x : Transaction} {now : Instant} {r : x.Result}
  {c' : Cursor postgres} {id : Uuid} {k : Uuid × SeatPosition}

/-! ### Who owns a seat -/

/-- The seat is booking `id`'s. -/
def OwnedBy (id : Uuid) (o : Option FlightSeat) : Prop := ∃ s, o = some s ∧ s.bookingId = some id

/-- Booking `id` owns seat `k`. -/
def Db.Owns (db : Db) (id : Uuid) (k : Uuid × SeatPosition) : Prop := OwnedBy id (db.seats.find? k)

/-- An AVAILABLE seat is nobody's. -/
def Db.FreeSeats (db : Db) : Prop :=
  ∀ k s, db.seats.find? k = some s → s.status = .available → s.bookingId = none

theorem SeatChange.free {held : List Row} {after : Db} {o o' : Option FlightSeat}
    (change : SeatChange T n held after o o')
    (free : ∀ s, o = some s → s.status = .available → s.bookingId = none) :
    ∀ s, o' = some s → s.status = .available → s.bookingId = none := by
  intro s at' available
  cases change with
  | same => exact free s at' available
  | laidOut _ unowned =>
      cases at'
      exact unowned
  | held | taken | booked =>
      cases at'
      cases available
  | released =>
      cases at'
      rfl

/-- A seat comes to a booking, or leaves it, only in a commit that has the booking
locked, and not while the booking is HELD. -/
theorem SeatChange.owner {held : List Row} {after : Db} {o o' : Option FlightSeat}
    (change : SeatChange T n held after o o')
    (free : ∀ s, o = some s → s.status = .available → s.bookingId = none) (id : Uuid) :
    (OwnedBy id o ↔ OwnedBy id o') ∨
      (.booking id ∈ held ∧
        ((T.state n).bookingStatus id ≠ some .held ∨ after.bookingStatus id ≠ some .held)) := by
  cases change with
  | same => exact .inl Iff.rfl
  | laidOut _ unowned =>
      refine .inl ⟨fun ⟨_, at', _⟩ => (nomatch at'), fun ⟨s, at', owned⟩ => ?_⟩
      cases at'
      rw [unowned] at owned
      cases owned
  | @held s id' available before _ locked =>
      by_cases same : id' = id
      · exact .inr ⟨same ▸ locked, .inl (by rw [← same, before]; exact nofun)⟩
      · refine .inl ⟨fun ⟨u, at', owned⟩ => ?_, fun ⟨u, at', owned⟩ => ?_⟩ <;> cases at'
        · rw [free _ rfl available] at owned
          cases owned
        · exact absurd (Option.some.inj owned) same
  | @released s id' owner closes locked =>
      by_cases same : id' = id
      · exact .inr ⟨same ▸ locked, .inr (same ▸ closes)⟩
      · refine .inl ⟨fun ⟨u, at', owned⟩ => ?_, fun ⟨u, at', owned⟩ => ?_⟩ <;> cases at'
        · exact absurd (Option.some.inj (owner.symm.trans owned)) same
        · cases owned
  | @taken s id' available confirmed _ locked =>
      by_cases same : id' = id
      · exact .inr ⟨same ▸ locked, .inl (by rw [← same, confirmed]; exact nofun)⟩
      · refine .inl ⟨fun ⟨u, at', owned⟩ => ?_, fun ⟨u, at', owned⟩ => ?_⟩ <;> cases at'
        · rw [free _ rfl available] at owned
          cases owned
        · exact absurd (Option.some.inj owned) same
  | @booked s =>
      exact .inl ⟨fun ⟨u, at', owned⟩ => ⟨_, rfl, by cases at'; exact owned⟩,
        fun ⟨u, at', owned⟩ => ⟨s, rfl, by cases at'; exact owned⟩⟩

theorem Unfolds.free_seats (unfolds : Unfolds T n) (first : (T.state 0).FreeSeats) :
    ∀ m ≤ n, (T.state m).FreeSeats := by
  intro m le
  induction m with
  | zero => exact first
  | succ m ih =>
      obtain ⟨i, x, now, r, c', committed⟩ := unfolds m le
      intro k
      rw [committed.next]
      exact (committed.effect.seat committed.covered k).free (ih (by omega) k)

/-- While a booking is locked, or HELD, it keeps its seats and gets no others. -/
theorem Unfolds.owns_iff (unfolds : Unfolds T n) (free : ∀ m ≤ n, (T.state m).FreeSeats) {a b : Nat}
    (le : a ≤ b) (le' : b ≤ n)
    (still : ∀ j, a ≤ j → j < b → .booking id ∉ T.locked j ∨
      ((T.state j).bookingStatus id = some .held ∧ (T.state (j + 1)).bookingStatus id = some .held)) :
    (T.state a).Owns id k ↔ (T.state b).Owns id k := by
  induction b, le using Nat.le_induction with
  | base => exact Iff.rfl
  | succ b le ih =>
      refine (ih (by omega) fun j from' before => still j from' (by omega)).trans ?_
      obtain ⟨i, x, now, r, c', committed⟩ := unfolds b (by omega)
      have change := committed.effect.seat committed.covered k
      rw [← committed.next, ← committed.locked] at change
      rcases change.owner (free b (by omega) k) id with same | ⟨locked, left⟩
      · exact same
      · rcases still b le (Nat.lt_succ_self b) with out | ⟨held, held'⟩
        · exact absurd locked out
        · exact absurd held' (left.resolve_left (not_not.mpr held))

/-! ### The condition -/

/-- The cancel's UPDATE, which started on version `snap` and locked `cur`, matched the
booking. -/
def CancelMatched (T : Timeline postgres) (id : Uuid) (scope : BookingAccessScope) (now : Instant)
    (snap cur : Nat) : Prop :=
  ∃ found flight booking,
    cancelTarget id scope now (T.state snap) (T.state cur) = some (found, flight) ∧
    (T.state cur).bookings.find? id = some booking ∧ isCancellable booking flight scope now = true

/-- The UPDATE matched the booking, but the pre-lock on version `first` had not. -/
def CancelUnlocked (T : Timeline postgres) (id : Uuid) (scope : BookingAccessScope) (now : Instant)
    (first snap cur : Nat) : Prop :=
  cancelTarget id scope now (T.state first) (T.state first) = none ∧
    CancelMatched T id scope now snap cur

/-- A cancel of booking `id` that had not locked it: between the snapshot of its
UPDATE and the version the UPDATE locked, the booking got no new seat. -/
def CancelGuarded (T : Timeline postgres) (id : Uuid) (scope : BookingAccessScope) (now : Instant)
    (spans : List (Nat × Nat)) : Prop :=
  ∀ first locked snap cur, [(first, locked), (snap, cur)] <+: spans →
    CancelUnlocked T id scope now first snap cur →
    ∀ k, (T.state cur).Owns id k → (T.state snap).Owns id k

/-- The cancels among the first `n` commits are guarded. -/
def CancelsGuarded (w : World app) (n : Nat) : Prop :=
  ∀ (m : Nat) (h : m < w.commits.length), m < n → ∀ id scope actor ids requestId now,
    w.commits[m].tx = .cancelBooking id scope actor ids requestId now →
    CancelGuarded w.timeline id scope now w.commits[m].spans

/-! ### No seat survives its booking -/

/-- Whoever owns a seat is HELD or CONFIRMED. -/
def Db.OwnersLive (db : Db) : Prop :=
  ∀ k id, db.Owns id k → ∃ s : BookingStatus, db.bookingStatus id = some s ∧ s.Live

theorem OwnedBy.of_find? {db : Db} {s : FlightSeat} (found : db.seats.find? k = some s)
    (owned : s.bookingId = some id) : db.Owns id k := ⟨s, found, owned⟩

/-- A seat owned on both versions is among those the statement writes. -/
theorem mem_lockedSeats_of_owns {ids : List Uuid} {snap cur : Db} {v : FlightSeat}
    (mem : id ∈ ids) (owns : snap.Owns id k) (found : cur.seats.find? k = some v)
    (owned : v.bookingId = some id) : v ∈ lockedSeats ids snap cur := by
  obtain ⟨u, foundU, ownedU⟩ := owns
  obtain ⟨memU, keyU⟩ := Table.find?_eq_some.mp foundU
  obtain ⟨memV, keyV⟩ := Table.find?_eq_some.mp found
  exact mem_lockedSeats.mpr ⟨memV, seatsOf_iff.mpr ⟨id, mem, owned⟩, u, memU, keyU.trans keyV.symm,
    seatsOf_iff.mpr ⟨id, mem, ownedU⟩⟩

/-- Between two versions on which it is HELD a booking is HELD. -/
theorem Unfolds.held_between (unfolds : Unfolds T n) {a b j : Nat}
    (held : (T.state a).bookingStatus id = some .held)
    (held' : (T.state b).bookingStatus id = some .held) (le : a ≤ j) (le' : j ≤ b) (le'' : b ≤ n) :
    (T.state j).bookingStatus id = some .held := by
  have up := unfolds.rank_le id le (by omega)
  have down := unfolds.rank_le id le' le''
  simp only [held, held'] at up down
  cases status : (T.state j).bookingStatus id with
  | none => simp [status, bookingRank] at up
  | some s =>
      cases s with
      | held => rfl
      | confirmed | cancelled | expired => simp [status, bookingRank] at down

/-- A commit that ends a booking frees the seats the booking owns. -/
theorem Committed.owners_live (h : Committed T n i x now r c') (unfolds : Unfolds T n)
    (free : ∀ m ≤ n, (T.state m).FreeSeats) (live : (T.state n).OwnersLive)
    (guarded : ∀ id scope actor ids requestId now',
      x = .cancelBooking id scope actor ids requestId now' →
      CancelGuarded T id scope now' c'.spans) : (T.state (n + 1)).OwnersLive := by
  rintro k id ⟨s, at', owned⟩
  have seat := h.effect.seat h.covered k
  have booking := h.effect.booking id
  rw [← h.next] at seat booking
  have gone : ∀ {ids : List Uuid} {snap cur : Nat}, id ∈ ids → (T.state snap).Owns id k →
      (T.state cur).Owns id k →
      Cursor.Frees c' T n (lockedSeats ids (T.state snap) (T.state cur)) → False := by
    intro ids snap cur mem ownsSnap ⟨v, foundV, ownedV⟩ frees
    have freed := frees v (mem_lockedSeats_of_owns mem ownsSnap foundV ownedV)
    rw [← h.next, Table.key_of_find? foundV, at'] at freed
    cases freed
    cases owned
  have stays : (T.state n).Owns id k →
      ∃ s : BookingStatus, (T.state (n + 1)).bookingStatus id = some s ∧ s.Live := by
    intro owns
    have kept : ∀ {m : Nat}, m ≤ n → T.Keeps (.booking id) m n → (T.state m).Owns id k :=
      fun le keeps => (unfolds.owns_iff free le (Nat.le_refl n) fun j from' before =>
        .inl (keeps j from' before)).mpr owns
    obtain ⟨st, status, isLive⟩ := live k id owns
    rw [Db.bookingStatus] at status ⊢
    generalize found : (T.state n).bookings.find? id = before at status booking
    generalize (T.state (n + 1)).bookings.find? id = after at booking
    cases booking with
    | same => exact ⟨st, status, isLive⟩
    | created => cases status
    | confirmed => exact ⟨.confirmed, rfl, .inr rfl⟩
    | @cancelled scope actor ids requestId now' _ _ b flight first locked snap cur on spans frees =>
        have ownsCur := kept on.cur_le on.kept
        refine (gone List.mem_cons_self ?_ ownsCur frees).elim
        cases pre : cancelTarget id scope now' (T.state first) (T.state first) with
        | some target =>
            have locks := on.preLock target pre
            exact kept (Nat.le_trans on.snap_le on.cur_le) fun j from' =>
              locks j (Nat.le_trans on.locked_le from')
        | none =>
            obtain ⟨found, matched⟩ := on.target
            exact guarded _ _ _ _ _ _ rfl first locked snap cur spans
              ⟨pre, found, flight, b, matched, on.newest, on.cancellable⟩ k ownsCur
    | @expired now' _ _ _ _ due snap cur b on mem frees =>
        obtain rfl : b.id = id := Table.key_of_find? found
        have ownsCur := kept on.cur_le (on.kept b mem)
        refine (gone (List.mem_map_of_mem mem) ?_ ownsCur frees).elim
        obtain ⟨u, memU, keyU, dueU⟩ := on.found b mem
        have heldSnap : (T.state snap).bookingStatus b.id = some .held := by
          have at' := Table.find?_of_mem memU
          rw [keyU] at at'
          exact (congrArg (Option.map _) at').trans (congrArg some (isDue_held dueU))
        have heldCur : (T.state cur).bookingStatus b.id = some .held :=
          (congrArg (Option.map _) (Table.find?_of_mem (on.newest b mem))).trans
            (congrArg some (isDue_held (on.isDue b mem)))
        have between := fun j => unfolds.held_between (j := j) heldSnap heldCur
        exact (unfolds.owns_iff free on.snap_le on.cur_le fun j from' before => .inr
          ⟨between j from' (Nat.le_of_lt before) on.cur_le,
            between (j + 1) (Nat.le_succ_of_le from') before on.cur_le⟩).mpr ownsCur
  generalize seatBefore : (T.state n).seats.find? k = o at seat
  rw [at'] at seat
  cases seat with
  | same => exact stays ⟨s, seatBefore, owned⟩
  | laidOut _ unowned =>
      rw [unowned] at owned
      cases owned
  | held _ _ status =>
      cases owned
      exact ⟨.held, status, .inl rfl⟩
  | released => cases owned
  | taken _ _ status =>
      cases owned
      exact ⟨.confirmed, status, .inr rfl⟩
  | booked => exact stays ⟨_, seatBefore, owned⟩

/-- In every run whose cancels are guarded, no seat is owned by a booking that was
cancelled or has expired. -/
theorem no_seat_survives {α : Type} {airports : Table Airport} {env : Env}
    {threads : Nat → App.Thread app α} {p : Pool app α}
    (h : (Pool.initial { airports } env threads : Pool app α).Reachable p) {n : Nat}
    (le : n ≤ p.world.commits.length) (guarded : CancelsGuarded p.world n) :
    ∀ s ∈ (p.world.state n).seats, ∀ id, s.bookingId = some id →
      ∀ status : BookingStatus, (p.world.state n).bookingStatus id = some status →
        ¬ status.Ended := by
  have good := (Pool.initial_good _ env threads).reachable h
  have unfolds := unfolds_of_sound good.sound
  have start : p.world.state 0 = { airports } := by
    rw [World.state_zero, h.initial_eq]
    rfl
  have none : ∀ k, (p.world.timeline.state 0).seats.find? k = none := fun k => by
    rw [show p.world.timeline.state 0 = _ from start]
    rfl
  have free := unfolds.free_seats fun k s found => by rw [none k] at found; cases found
  have live : ∀ m ≤ n, (p.world.timeline.state m).OwnersLive := by
    intro m le'
    induction m with
    | zero =>
        rintro k id ⟨s, found, -⟩
        rw [none k] at found
        cases found
    | succ m ih =>
        have lt : m < p.world.commits.length := by omega
        obtain ⟨c', committed, -, spans⟩ := committed_of_sound good.sound lt
        refine committed.owners_live (unfolds.mono (by omega)) (fun j le => free j (by omega))
          (ih (by omega)) fun id scope actor ids requestId now' cancel => ?_
        rw [spans]
        exact guarded m lt (by omega) id scope actor ids requestId now' cancel
  intro s mem id owned status at' ended
  obtain ⟨status', at'', isLive⟩ := live n (Nat.le_refl n) (key s) id ⟨s, Table.find?_of_mem mem, owned⟩
  cases at'.symm.trans at''
  rcases ended with rfl | rfl <;> rcases isLive with live | live <;> cases live

/-- Booking 5 is confirmed by a payment that read its clock just before the hold's
deadline, and cancelled by a cancel that read its clock at the deadline and so
did not lock it; while the cancel waits, seat 1A is changed for 1B. -/
def lapsedCancelMoves : List (Nat × Move app) :=
  let statements (t n : Nat) : List (Nat × Move app) :=
    (List.replicate n [(t, .start), (t, .finish [])]).flatten
  sampleMoves ++ Pool.wholly 4 1 5 ++ [(4, .call (.definite (.succeeded "ch_1")))] ++
    [(4, .begin 899999)] ++ statements 4 7 ++
    [(5, .call (.time 900000)), (5, .begin 900000)] ++ statements 5 1 ++ [(4, .commit true)] ++
    [(6, .call (.time 900001)), (6, .begin 900001)] ++ statements 6 9 ++
    [(5, .start), (6, .commit true), (5, .finish [])] ++ statements 5 6 ++ [(5, .commit true)]

def lapsedCancelThreads : Nat → Invocation
  | 0 => samplePayment
  | 1 => sampleCancel
  | _ => sampleSeatChange

/-- Seat 1B survives: it is BOOKED for a cancelled booking. -/
theorem seat_survives_lapsed_cancel : ∃ p, (sampleStart {} lapsedCancelThreads).Reachable p ∧
    ∃ s ∈ p.world.db.seats, s.status = .booked ∧ s.bookingId = some 5 ∧
      p.world.db.bookingStatus 5 = some .cancelled := by
  have ends : (Pool.run lapsedCancelMoves (sampleStart {} lapsedCancelThreads)).map (fun p =>
      ((p.world.db.seats.find? (1, ⟨1, 'B'⟩)).map fun s => (s.status, s.bookingId),
        p.world.db.bookingStatus 5)) =
      some (some (.booked, some 5), some .cancelled) := by decide +kernel
  obtain ⟨p, ran, ends⟩ := Option.map_eq_some_iff.mp ends
  obtain ⟨seat, status⟩ := Prod.ext_iff.mp ends
  obtain ⟨s, found, same⟩ := Option.map_eq_some_iff.mp seat
  obtain ⟨booked, owned⟩ := Prod.ext_iff.mp same
  exact ⟨p, Pool.run_reachable ran, s, Table.mem_of_find? found, booked, owned, status⟩

/-- A cancel that nobody comes between is guarded. -/
theorem cancelsGuarded_of_alone {w : World app} {n : Nat}
    (alone : ∀ c ∈ w.commits, ∀ span ∈ c.spans, span.1 = span.2) : CancelsGuarded w n := by
  intro m h _ id scope actor ids requestId now' _ first locked snap cur spans _ k owns
  have mem : (snap, cur) ∈ w.commits[m].spans := spans.subset (by simp)
  obtain rfl : snap = cur := alone _ (List.getElem_mem h) _ mem
  exact owns

/-- Booking 5 is paid, reseated and cancelled, one after the other. -/
theorem no_seat_survives_sample : ∃ p, Pool.run (sampleMoves ++ Pool.wholly 4 1 5 ++
      [(4, .call (.definite (.succeeded "ch_1")))] ++ Pool.wholly 4 2 7 ++
      [(6, .call (.time 3))] ++ Pool.wholly 6 3 9 ++ [(5, .call (.time 4))] ++ Pool.wholly 5 4 8)
      (sampleStart {} lapsedCancelThreads) = some p ∧
    p.world.db.bookingStatus 5 = some .cancelled ∧
    ∀ s ∈ (p.world.state p.world.commits.length).seats, ∀ id, s.bookingId = some id →
      ∀ status : BookingStatus, (p.world.state p.world.commits.length).bookingStatus id = some status →
        ¬ status.Ended := by
  have ends : (Pool.run (sampleMoves ++ Pool.wholly 4 1 5 ++
      [(4, .call (.definite (.succeeded "ch_1")))] ++ Pool.wholly 4 2 7 ++
      [(6, .call (.time 3))] ++ Pool.wholly 6 3 9 ++ [(5, .call (.time 4))] ++ Pool.wholly 5 4 8)
      (sampleStart {} lapsedCancelThreads)).map (fun p => (p.world.db.bookingStatus 5,
        p.world.commits.all fun c => c.spans.all fun span => span.1 = span.2)) =
      some (some .cancelled, true) := by decide +kernel
  obtain ⟨p, ran, ends⟩ := Option.map_eq_some_iff.mp ends
  obtain ⟨status, alone⟩ := Prod.ext_iff.mp ends
  refine ⟨p, ran, status, no_seat_survives (Pool.run_reachable ran) (Nat.le_refl _)
    (cancelsGuarded_of_alone ?_)⟩
  simpa using alone

end FlightBooking
