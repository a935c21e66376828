import FlightBooking.Bookings.CancelAnswers
import FlightBooking.Bookings.HoldSeats
import FlightBooking.Flights.Effects

/-!
What a hold that held nothing answers.

The hold statement decides, later reads explain. Seats of a flight are never added or
removed and a flight on sale stays on sale, so the explanation is true of what the
statement saw, with one exception: the statement found the flight off sale, and the
read that explains it finds it opened (`HoldOvertaken`). Then the seats are blamed.
-/

namespace FlightBooking

open Relational ReadCommitted

variable {T : Timeline postgres} {n i : Nat} {c c' : Cursor postgres} {now : Instant}
  {flightId bookingId : Uuid} {x : Transaction} {log : Changes} {refusal : HoldRefusal}
  {a m : Nat}

/-! ### What stays of a flight -/

theorem FlightsChange.flight_stays (change : FlightsChange T n x log) {f : FlightRow}
    (found : (T.state n).flights.find? flightId = some f) :
    ∃ f', (log.apply (T.state n)).flights.find? flightId = some f' ∧
      f'.departureAt = f.departureAt ∧ (f.status = .open → f'.status = .open) := by
  rw [Changes.apply_flights]
  cases change with
  | elsewhere _ flights | registered _ _ flights =>
      rw [flights]
      exact ⟨f, found, rfl, id⟩
  | @created flight _ _ _ _ _ _ _ on _ flights =>
      refine ⟨f, ?_, rfl, id⟩
      rw [flights, Table.putAll_cons, Table.putAll_nil, Table.find?_put, if_neg, found]
      rintro rfl
      exact Option.some_ne_none _ (found.symm.trans on.fresh)
  | @opened seen _ _ _ _ flight _ there _ _ flights =>
      rw [flights, Table.putAll_cons, Table.putAll_nil, Table.find?_put]
      split
      · rename_i same
        have own : key flight = seen.id := Table.key_of_find? there
        have same' : flightId = seen.id := same.trans own
        rw [same', there] at found
        cases found
        exact ⟨_, rfl, rfl, fun _ => rfl⟩
      · exact ⟨f, found, rfl, id⟩

/-- A seat stays, in its class. -/
theorem FlightsChange.seat_stays (change : FlightsChange T n x log) {s : FlightSeat}
    (mem : s ∈ (T.state n).seats) :
    ∃ o ∈ (log.apply (T.state n)).seats, key o = key s ∧ o.fareClass = s.fareClass := by
  rcases Table.find?_putAll_cases (T.state n).seats log.seats (key s) with old | ⟨v, memV, same, new⟩
  · exact ⟨s, Table.mem_of_find? (old.trans (Table.find?_of_mem mem)), rfl, rfl⟩
  · refine ⟨v, Table.mem_of_find? new, same, ?_⟩
    cases change with
    | elsewhere _ _ _ seats =>
        obtain ⟨o, memO, own, kind⟩ := seats v memV
        obtain rfl := Table.eq_of_key memO mem (own.trans same)
        exact kind.symm
    | registered _ _ _ _ seats | opened _ _ _ _ _ seats =>
        rw [seats] at memV
        cases memV
    | created _ _ _ _ _ fresh =>
        have free := fresh v memV
        rw [same, Table.find?_of_mem mem] at free
        cases free

/-- A flight that is there gets no new seat. -/
theorem FlightsChange.seat_old (change : FlightsChange T n x log) {f : FlightRow}
    (found : (T.state n).flights.find? flightId = some f) {s : FlightSeat}
    (mem : s ∈ (log.apply (T.state n)).seats) (own : s.flightId = flightId) :
    ∃ o ∈ (T.state n).seats, key o = key s ∧ o.fareClass = s.fareClass := by
  rcases Table.find?_putAll_cases (T.state n).seats log.seats (key s) with old | ⟨v, memV, same, new⟩
  · exact ⟨s, Table.mem_of_find? (old.symm.trans (Table.find?_of_mem mem)), rfl, rfl⟩
  · obtain rfl := Option.some.inj (new.symm.trans (Table.find?_of_mem mem))
    cases change with
    | elsewhere _ _ _ seats => exact seats v memV
    | registered _ _ _ _ seats | opened _ _ _ _ _ seats =>
        rw [seats] at memV
        cases memV
    | created on _ _ _ seats _ =>
        rw [seats] at memV
        obtain ⟨_, -, rfl⟩ := List.mem_map.mp memV
        rw [← own] at found
        exact (Option.some_ne_none _ (found.symm.trans on.fresh)).elim

section Unfold

variable (unfold : FlightsUnfold T n)

include unfold

theorem FlightsUnfold.onSale_stays (le : a ≤ m) (le' : m ≤ n)
    (sale : flightOnSale flightId now (T.state a) = true) :
    flightOnSale flightId now (T.state m) = true := by
  induction m, le using Nat.le_induction with
  | base => exact sale
  | succ m le ih =>
      obtain ⟨x, log, change, next⟩ := unfold m le'
      obtain ⟨f, found, onSale⟩ := flightOnSale_eq_true.mp (ih (by omega))
      obtain ⟨f', found', departure, status⟩ := change.flight_stays found
      rw [next, flightOnSale_eq_true]
      simp only [FlightBooking.onSale, Bool.and_eq_true, decide_eq_true_eq] at onSale
      exact ⟨f', found', by simp [FlightBooking.onSale, departure, status onSale.1, onSale.2]⟩

theorem FlightsUnfold.flight_stays (le : a ≤ m) (le' : m ≤ n) {f : FlightRow}
    (found : (T.state a).flights.find? flightId = some f) :
    ∃ f', (T.state m).flights.find? flightId = some f' := by
  induction m, le using Nat.le_induction with
  | base => exact ⟨f, found⟩
  | succ m le ih =>
      obtain ⟨x, log, change, next⟩ := unfold m le'
      obtain ⟨f', there⟩ := ih (by omega)
      obtain ⟨f'', found', -⟩ := change.flight_stays there
      exact ⟨f'', next ▸ found'⟩

theorem FlightsUnfold.seat_stays (le : a ≤ m) (le' : m ≤ n) {s : FlightSeat}
    (mem : s ∈ (T.state a).seats) :
    ∃ o ∈ (T.state m).seats, key o = key s ∧ o.fareClass = s.fareClass := by
  induction m, le using Nat.le_induction with
  | base => exact ⟨s, mem, rfl, rfl⟩
  | succ m le ih =>
      obtain ⟨x, log, change, next⟩ := unfold m le'
      obtain ⟨o, memO, same, kind⟩ := ih (by omega)
      obtain ⟨o', memO', same', kind'⟩ := change.seat_stays memO
      exact ⟨o', next ▸ memO', same'.trans same, kind'.trans kind⟩

theorem FlightsUnfold.seat_old (le : a ≤ m) (le' : m ≤ n) {f : FlightRow}
    (found : (T.state a).flights.find? flightId = some f) {s : FlightSeat}
    (mem : s ∈ (T.state m).seats) (own : s.flightId = flightId) :
    ∃ o ∈ (T.state a).seats, key o = key s ∧ o.fareClass = s.fareClass := by
  induction m, le using Nat.le_induction generalizing s with
  | base => exact ⟨s, mem, rfl, rfl⟩
  | succ m le ih =>
      obtain ⟨x, log, change, next⟩ := unfold m le'
      obtain ⟨f', there⟩ := unfold.flight_stays le (by omega) found
      rw [next] at mem
      obtain ⟨o, memO, same, kind⟩ := change.seat_old there mem own
      obtain ⟨o', memO', same', kind'⟩ :=
        ih (by omega) memO ((Prod.ext_iff.mp same).1.trans own)
      exact ⟨o', memO', same'.trans same, kind'.trans kind⟩

/-- Once a flight is on sale, its seats are those it has in every version. -/
theorem FlightsUnfold.seat_always (le : a ≤ n)
    (sale : flightOnSale flightId now (T.state a) = true) (le' : m ≤ n) {s : FlightSeat}
    (mem : s ∈ (T.state m).seats) (own : s.flightId = flightId) :
    ∃ o ∈ (T.state a).seats, key o = key s ∧ o.fareClass = s.fareClass := by
  rcases Nat.le_total m a with before | after
  · exact unfold.seat_stays before le mem
  · obtain ⟨f, found, -⟩ := flightOnSale_eq_true.mp sale
    exact unfold.seat_old after le' found mem own

end Unfold

/-! ### What an answer may say -/

/-- The hold statement's snapshot has the flight off sale, and the read that is to
explain its result finds it on sale. -/
def HoldOvertaken (T : Timeline postgres) (flightId : Uuid) (now : Instant)
    (spans : List (Nat × Nat)) : Prop :=
  ∃ snap cur snap' cur', [(snap, cur), (snap', cur')] <+: spans ∧
    flightOnSale flightId now (T.state snap) = false ∧
    flightOnSale flightId now (T.state snap') = true

/-- The refusal is true of the version the hold statement decided on, from `snap`,
where it found its rows, to `cur`, where it had locked them; what it says does not
exist exists in no version up to its commit. -/
structure HoldRefusal.TrueOn (T : Timeline postgres) (n : Nat) (flightId : Uuid)
    (request : SeatHoldRequest) (now : Instant) (snap cur : Nat) (refusal : HoldRefusal) : Prop where
  unknown : ∀ seats, refusal = .unknownSeats seats →
    ∀ code ∈ seats, ∀ m ≤ n, (T.state m).seats.find? (flightId, code) = none
  noClass : refusal = .fareClassNotOnFlight → ∃ count fareClass, request = .auto count fareClass ∧
    ∀ m ≤ n, ∀ s ∈ (T.state m).seats, s.flightId = flightId → s.fareClass ≠ fareClass
  unavailable : ∀ seats, refusal = .seatsUnavailable seats →
    ∀ code ∈ seats, ∃ s, (T.state cur).seats.find? (flightId, code) = some s ∧ s.status ≠ .available
  notEnough : refusal = .notEnoughSeats →
    ∀ m, snap ≤ m → m ≤ cur → flightOnSale flightId now (T.state m) = true
  offSale : flightOnSale flightId now (T.state snap) = false →
    refusal = .salesClosed ∨ refusal = .flightNotFound

/-- The refusal is true of what the transaction's first statement saw. -/
def HoldRefusal.Truthful (T : Timeline postgres) (n : Nat) (flightId : Uuid)
    (request : SeatHoldRequest) (now : Instant) (spans : List (Nat × Nat)) (refusal : HoldRefusal) :
    Prop :=
  ∃ snap cur, spans.head? = some (snap, cur) ∧ refusal.TrueOn T n flightId request now snap cur

/-- The refusal is true unless the hold was overtaken, and only then. -/
def HoldExplained (T : Timeline postgres) (n : Nat) (flightId : Uuid) (request : SeatHoldRequest)
    (now : Instant) (spans : List (Nat × Nat)) (refusal : HoldRefusal) : Prop :=
  refusal.Truthful T n flightId request now spans ↔ ¬ HoldOvertaken T flightId now spans

/-- A flight on sale in the statement's snapshot: a true answer was not overtaken. -/
theorem HoldExplained.onSale {request : SeatHoldRequest} {snap cur : Nat} {rest : List (Nat × Nat)}
    (sale : flightOnSale flightId now (T.state snap) = true)
    (truth : refusal.TrueOn T n flightId request now snap cur) :
    HoldExplained T n flightId request now ((snap, cur) :: rest) refusal := by
  refine iff_of_true ⟨snap, cur, rfl, truth⟩ ?_
  rintro ⟨snap', cur', _, _, seen, off, -⟩
  obtain ⟨same, -⟩ := List.cons_prefix_cons.mp seen
  cases same
  rw [sale] at off
  cases off

/-- A flight off sale in the statement's snapshot: the reason is read later, and is
one of the flight's exactly if it is still off sale. -/
theorem HoldExplained.offSale {request : SeatHoldRequest} {snap cur snap' cur' : Nat}
    {rest : List (Nat × Nat)} (off : flightOnSale flightId now (T.state snap) = false)
    (flight : flightOnSale flightId now (T.state snap') = false →
      refusal = .salesClosed ∨ refusal = .flightNotFound)
    (seats : flightOnSale flightId now (T.state snap') = true →
      ¬ (refusal = .salesClosed ∨ refusal = .flightNotFound)) :
    HoldExplained T n flightId request now ((snap, cur) :: (snap', cur') :: rest) refusal := by
  constructor
  · rintro ⟨first, locked, head, truth⟩ ⟨snap₂, cur₂, snap₃, cur₃, seen, -, opened⟩
    cases head
    obtain ⟨-, seen⟩ := List.cons_prefix_cons.mp seen
    obtain ⟨same, -⟩ := List.cons_prefix_cons.mp seen
    cases same
    exact seats opened (truth.offSale off)
  · intro not
    have closed : flightOnSale flightId now (T.state snap') = false := by
      refine Bool.eq_false_iff.mpr fun opened => not ⟨snap, cur, snap', cur', ?_, off, opened⟩
      exact List.cons_prefix_cons.mpr ⟨rfl, List.cons_prefix_cons.mpr ⟨rfl, List.nil_prefix⟩⟩
    refine ⟨snap, cur, rfl, ?_⟩
    rcases flight closed with rfl | rfl
    · exact ⟨nofun, nofun, nofun, nofun, fun _ => .inl rfl⟩
    · exact ⟨nofun, nofun, nofun, nofun, fun _ => .inr rfl⟩

/-- What the seats were blamed for was so, on a flight that was on sale. -/
theorem HoldExplained.blamed {request : SeatHoldRequest} {snap cur snap' cur' : Nat}
    {rest : List (Nat × Nat)} (opened : flightOnSale flightId now (T.state snap') = true)
    (seats : ¬ (refusal = .salesClosed ∨ refusal = .flightNotFound))
    (truth : flightOnSale flightId now (T.state snap) = true →
      refusal.TrueOn T n flightId request now snap cur) :
    HoldExplained T n flightId request now ((snap, cur) :: (snap', cur') :: rest) refusal := by
  cases sale : flightOnSale flightId now (T.state snap) with
  | true => exact .onSale sale (truth sale)
  | false =>
      refine .offSale sale (fun closed => ?_) fun _ => seats
      rw [opened] at closed
      cases closed

/-! ### The reads that explain -/

theorem classifyNothingHeld_commits {r : Option HoldRefusal} (log : c.log = {})
    (h : Commits T n (classifyNothingHeld flightId now) c r c') :
    ∃ snap cur, c.pos ≤ snap ∧ snap ≤ cur ∧ cur ≤ n ∧ c'.spans = c.spans ++ [(snap, cur)] ∧
      c'.pos = cur ∧ c'.log = {} ∧ r = flightRefusal (T.state snap) flightId now := by
  obtain ⟨found, c₁, read, rest⟩ := commits_bind.mp h
  obtain ⟨skip, snap, cur, out, le, le', le'', done, rfl, rfl, -⟩ := commits_query.mp read
  cases done
  have seen : (c.view T snap).flights.find? flightId = (T.state snap).flights.find? flightId := by
    rw [Cursor.view, log]
    rfl
  refine ⟨snap, cur, le, le', le'', ?_⟩
  rw [flightRefusal]
  simp only [seen] at rest
  cases flight : (T.state snap).flights.find? flightId with
  | none =>
      rw [flight] at rest
      obtain ⟨rfl, rfl⟩ := rest
      exact ⟨rfl, rfl, by simp [log, Changes.append], rfl⟩
  | some f =>
      rw [flight] at rest
      simp only [isBookable_eq_onSale] at rest
      cases sale : onSale f now <;> rw [sale] at rest <;> obtain ⟨rfl, rfl⟩ := rest <;>
        exact ⟨rfl, rfl, by simp [log, Changes.append], by simp [sale]⟩

theorem hasFareClass_commits {fareClass : FareClass} {r : Bool} (log : c.log = {})
    (h : Commits T n (query (hasFareClass flightId fareClass)) c r c') :
    ∃ snap cur, c.pos ≤ snap ∧ snap ≤ n ∧ c'.spans = c.spans ++ [(snap, cur)] ∧
      (r = true ↔ ∃ s ∈ (T.state snap).seats, s.flightId = flightId ∧ s.fareClass = fareClass) := by
  obtain ⟨skip, snap, cur, out, le, le', le'', done, rfl, rfl, -⟩ := commits_query.mp h
  cases done
  refine ⟨snap, cur, le, Nat.le_trans le' le'', rfl, ?_⟩
  have seen : (c.view T snap).seats = (T.state snap).seats := by
    rw [Cursor.view, log]
    rfl
  simp [seen]

theorem flightRefusal_cases (db : Db) (flightId : Uuid) (now : Instant) :
    (flightOnSale flightId now db = true ∧ flightRefusal db flightId now = none) ∨
    (flightOnSale flightId now db = false ∧
      (flightRefusal db flightId now = some .salesClosed ∨
        flightRefusal db flightId now = some .flightNotFound)) := by
  unfold flightRefusal flightOnSale
  cases db.flights.find? flightId with
  | none => exact .inr ⟨rfl, .inr rfl⟩
  | some flight => cases sale : onSale flight now <;> simp [sale]

/-! ### Chosen seats -/

/-- What the locked rows say of chosen seats that were not held. -/
def chosenReason (requested : List SeatPosition) (rows : List PricedSeat) : HoldRefusal :=
  let unknown := requested.filter fun code => rows.all fun row => row.position ≠ code
  if unknown.length > 0 then .unknownSeats unknown
  else .seatsUnavailable (requested.filter fun code =>
    rows.all fun row => row.position ≠ code ∨ row.status ≠ .available)

theorem chosenReason_blames (requested : List SeatPosition) (rows : List PricedSeat) :
    ¬ (chosenReason requested rows = .salesClosed ∨ chosenReason requested rows = .flightNotFound) := by
  unfold chosenReason
  extract_lets unknown
  split <;> simp

theorem classifyRefusal_commits {requested : List SeatPosition} {rows : List PricedSeat}
    {r : HoldRefusal} (log : c.log = {})
    (h : Commits T n (classifyRefusal flightId requested rows now) c r c') :
    (rows ≠ [] ∧ c' = c ∧ r = chosenReason requested rows) ∨
    (rows = [] ∧ ∃ snap cur, c.pos ≤ snap ∧ snap ≤ n ∧ c'.spans = c.spans ++ [(snap, cur)] ∧
      r = (flightRefusal (T.state snap) flightId now).getD (chosenReason requested rows)) := by
  obtain ⟨reason, c₁, why, rest⟩ := commits_bind.mp h
  have seats : ∀ {c₂ : Cursor postgres}, Commits T n (
      let unknown := requested.filter fun code => rows.all fun row => row.position ≠ code
      if unknown.length > 0 then pure (.unknownSeats unknown)
      else pure (.seatsUnavailable (requested.filter fun code =>
        rows.all fun row => row.position ≠ code ∨ row.status ≠ .available)) : Prog postgres HoldRefusal)
      c₂ r c' → r = chosenReason requested rows ∧ c' = c₂ := by
    intro c₂ rest
    unfold chosenReason
    extract_lets at rest ⊢
    split at rest <;> rename_i some <;> obtain ⟨rfl, rfl⟩ := rest
    · simp [some]
    · simp [some]
  unfold classifyRefusal.classifyIfEmpty at why
  split at why
  · rename_i empty
    obtain ⟨snap, cur, le, le', le'', spans, -, -, rfl⟩ := classifyNothingHeld_commits log why
    refine .inr ⟨List.isEmpty_iff.mp empty, snap, cur, le, Nat.le_trans le' le'', ?_⟩
    cases refusal : flightRefusal (T.state snap) flightId now with
    | some reason =>
        rw [refusal] at rest
        obtain ⟨rfl, rfl⟩ := rest
        exact ⟨spans, rfl⟩
    | none =>
        rw [refusal] at rest
        obtain ⟨same, rfl⟩ := seats rest
        exact ⟨spans, same⟩
  · rename_i some
    obtain ⟨rfl, rfl⟩ := why
    obtain ⟨same, rfl⟩ := seats rest
    exact .inl ⟨fun empty => some (by simp [empty]), rfl, same⟩

theorem holdChosen_rows {requested : List SeatPosition} {skip : List Row} {snap cur : Db} {out}
    (h : holdChosen flightId bookingId requested now skip snap cur = .ok out) :
    out.reply.1 = (requestedSeats flightId requested now snap cur).map (priceSeat cur) := by
  unfold holdChosen at h
  extract_lets locked locks verdict at h
  split at h <;> cases h <;> rfl

section Unfold

variable (unfold : FlightsUnfold T n)

include unfold

/-- On a flight that was on sale, the rows are the requested seats there are, as they
were when they were locked. -/
theorem mem_lockedRows {requested : List SeatPosition} {snap cur : Nat} (le : snap ≤ cur) (le' : cur ≤ n)
    (sale : flightOnSale flightId now (T.state snap) = true) {s : FlightSeat} :
    s ∈ requestedSeats flightId requested now (T.state snap) (T.state cur) ↔
      s ∈ (T.state cur).seats ∧ s.flightId = flightId ∧ s.position ∈ requested := by
  refine ⟨mem_requestedSeats, fun ⟨mem, own, wanted⟩ => ?_⟩
  have sale' := unfold.onSale_stays le le' sale
  obtain ⟨f, found, -⟩ := flightOnSale_eq_true.mp sale
  obtain ⟨o, memO, same, -⟩ := unfold.seat_old le le' found mem own
  obtain ⟨own', position⟩ := Prod.ext_iff.mp same
  rw [requestedSeats, sale, sale']
  refine (List.mem_insertionSort _).mpr (Table.mem_recheck.mpr ⟨mem, by simp [own, wanted], o, memO,
    same, ?_⟩)
  simp [show o.flightId = flightId from own'.trans own, show o.position = s.position from position,
    wanted]

theorem chosenReason_true {requested : List SeatPosition} {snap cur : Nat} (le : snap ≤ cur)
    (le' : cur ≤ n) (sale : flightOnSale flightId now (T.state snap) = true) :
    (chosenReason requested ((requestedSeats flightId requested now (T.state snap)
      (T.state cur)).map (priceSeat (T.state cur)))).TrueOn T n flightId (.chosen requested) now
      snap cur := by
  have rows : ∀ s, s ∈ requestedSeats flightId requested now (T.state snap) (T.state cur) ↔
      s ∈ (T.state cur).seats ∧ s.flightId = flightId ∧ s.position ∈ requested :=
    fun s => mem_lockedRows unfold le le' sale
  have notOff : flightOnSale flightId now (T.state snap) ≠ false := by simp [sale]
  unfold chosenReason
  extract_lets unknown
  split
  · refine ⟨fun seats same code mem m h => ?_, nofun, nofun, nofun, fun off => (notOff off).elim⟩
    cases same
    obtain ⟨wanted, missing⟩ := List.mem_filter.mp mem
    refine Table.find?_eq_none.mpr fun s memS same => ?_
    obtain ⟨own, position⟩ := Prod.ext_iff.mp same
    obtain ⟨o, memO, same', -⟩ :=
      unfold.seat_always le' (unfold.onSale_stays le le' sale) h memS own
    obtain ⟨own', position'⟩ := Prod.ext_iff.mp same'
    have here : o.position = code := position'.trans position
    have locked := (rows o).mpr ⟨memO, own'.trans own, here.symm ▸ wanted⟩
    have other := List.all_eq_true.mp missing _ (List.mem_map_of_mem locked)
    rw [decide_eq_true_eq] at other
    exact other here
  · rename_i known
    refine ⟨nofun, nofun, fun seats same code mem => ?_, nofun, fun off => (notOff off).elim⟩
    cases same
    obtain ⟨wanted, taken⟩ := List.mem_filter.mp mem
    have found : code ∉ unknown := by
      rw [List.length_eq_zero_iff.mp (Nat.eq_zero_of_not_pos known)]
      exact List.not_mem_nil
    have row : ∃ s ∈ requestedSeats flightId requested now (T.state snap) (T.state cur),
        s.position = code := by
      by_contra none
      refine found (List.mem_filter.mpr ⟨wanted, List.all_eq_true.mpr fun row mem => ?_⟩)
      obtain ⟨s, memS, rfl⟩ := List.mem_map.mp mem
      exact decide_eq_true fun same => none ⟨s, memS, same⟩
    obtain ⟨s, memS, rfl⟩ := row
    obtain ⟨here, own, -⟩ := (rows s).mp memS
    have status := List.all_eq_true.mp taken _ (List.mem_map_of_mem memS)
    rw [decide_eq_true_eq] at status
    refine ⟨s, ?_, status.resolve_left fun not => not rfl⟩
    rw [← own]
    exact Table.find?_of_mem here

/-- The flight is off sale when the reason is read: so it was at the statement. -/
theorem HoldExplained.closed {request : SeatHoldRequest} {snap cur snap' cur' : Nat}
    (le : snap ≤ snap') (le' : snap' ≤ n) (closed : flightOnSale flightId now (T.state snap') = false)
    (reason : refusal = .salesClosed ∨ refusal = .flightNotFound) :
    HoldExplained T n flightId request now [(snap, cur), (snap', cur')] refusal := by
  have off : flightOnSale flightId now (T.state snap) = false := by
    refine Bool.eq_false_iff.mpr fun sale => ?_
    rw [unfold.onSale_stays le le' sale] at closed
    cases closed
  refine .offSale off (fun _ => reason) fun opened => ?_
  rw [closed] at opened
  cases opened

/-- An auto hold that was refused says why. -/
theorem holdAutoSeats_explained {count : Nat} {fareClass : FareClass} (positive : 0 < count)
    (h : Commits T n (holdAutoSeats flightId bookingId count fareClass now) (.start i)
      (.error refusal) c') :
    HoldExplained T n flightId (.auto count fareClass) now c'.spans refusal := by
  obtain ⟨held, c₁, main, rest⟩ := commits_bind.mp h
  obtain ⟨skip, snap, cur, out, le, le', le'', done, rfl, rfl, -⟩ := commits_query.mp main
  simp only [Cursor.start_view] at done
  split at rest
  · obtain ⟨_, _, -, same, -⟩ := commits_bind.mp rest
    cases same
  rename_i nothing
  have log : ((Cursor.start i).next snap cur out : Cursor postgres).log = ({} : Changes) := by
    rcases holdAuto_ok done with ⟨-, writes⟩ | ⟨free, -, length, -, -, reply, -⟩
    · simp [writes, Changes.append]
    · exact (nothing (by simp [reply, length, positive])).elim
  obtain ⟨reason, c₂, why, rest⟩ := commits_bind.mp rest
  obtain ⟨snap', cur', le₁, le₂, le₃, spans, pos, log', rfl⟩ := classifyNothingHeld_commits log why
  have first : c₂.spans = [(snap, cur), (snap', cur')] := by simp [spans]
  have le₀ : snap ≤ snap' := Nat.le_trans le' le₁
  rcases flightRefusal_cases (T.state snap') flightId now with ⟨opened, none⟩ | ⟨closed, reason⟩
  · rw [none] at rest
    obtain ⟨hasClass, c₃, look, same, rfl⟩ := commits_bind.mp rest
    obtain ⟨snap₃, cur₃, le₄, le₅, spans₃, found⟩ := hasFareClass_commits log' look
    cases same
    rw [spans₃, first]
    refine HoldExplained.blamed opened (by cases hasClass <;> simp) fun sale => ?_
    have notOff : flightOnSale flightId now (T.state snap) ≠ false := by simp [sale]
    cases hasClass with
    | true =>
        exact ⟨nofun, nofun, nofun, fun _ m h h' => unfold.onSale_stays h (by omega) sale,
          fun off => (notOff off).elim⟩
    | false =>
        refine ⟨nofun, fun _ => ⟨count, fareClass, rfl, fun m h s mem own kind => ?_⟩, nofun, nofun,
          fun off => (notOff off).elim⟩
        have onSale := unfold.onSale_stays (show snap ≤ snap₃ by omega) le₅ sale
        obtain ⟨o, memO, same, kind'⟩ := unfold.seat_always le₅ onSale h mem own
        have some := found.mpr ⟨o, memO, (Prod.ext_iff.mp same).1.trans own, kind'.trans kind⟩
        cases some
  · have blamed : refusal = .salesClosed ∨ refusal = .flightNotFound := by
      rcases reason with reason | reason <;> rw [reason] at rest <;> obtain ⟨same, -⟩ := rest <;>
        cases same
      · exact .inl rfl
      · exact .inr rfl
    have spans' : c'.spans = [(snap, cur), (snap', cur')] := by
      rcases reason with reason | reason <;> rw [reason] at rest <;> obtain ⟨-, rfl⟩ := rest <;>
        exact first
    rw [spans']
    exact HoldExplained.closed unfold le₀ (by omega) closed blamed

/-- Chosen seats that were refused: so does it say why. -/
theorem holdChosenSeats_explained {requested : List SeatPosition} (nonempty : requested ≠ [])
    (h : Commits T n (holdChosenSeats flightId bookingId requested now) (.start i)
      (.error refusal) c') :
    HoldExplained T n flightId (.chosen requested) now c'.spans refusal := by
  obtain ⟨held, c₁, main, rest⟩ := commits_bind.mp h
  obtain ⟨skip, snap, cur, out, le, le', le'', done, rfl, rfl, -⟩ := commits_query.mp main
  simp only [Cursor.start_view] at done
  have isRows := holdChosen_rows done
  cases answer : out.reply with
  | mk rows held =>
      rw [answer] at rest isRows
      subst isRows
      cases held with
      | true =>
          simp only [if_true] at rest
          obtain ⟨_, _, -, same, -⟩ := commits_bind.mp rest
          cases same
      | false =>
          have log : ((Cursor.start i).next snap cur out : Cursor postgres).log = ({} : Changes) := by
            rcases holdChosen_ok done with ⟨-, writes⟩ | ⟨_, -, -, -, -, reply, -⟩
            · simp [writes.resolve_right nonempty, Changes.append]
            · rw [answer] at reply
              exact Bool.noConfusion (Prod.ext_iff.mp reply).2
          simp only [Bool.false_eq_true, if_false] at rest
          obtain ⟨reason, c₂, why, same, rfl⟩ := commits_bind.mp rest
          cases same
          rcases classifyRefusal_commits log why with ⟨some, rfl, rfl⟩ |
            ⟨-, snap', cur', le₁, le₂, spans, rfl⟩
          · have sale : flightOnSale flightId now (T.state snap) = true := by
              by_contra off
              exact some (by simp [requestedSeats, off])
            exact .onSale sale (chosenReason_true unfold le' le'' sale)
          · rw [show c'.spans = [(snap, cur), (snap', cur')] by simp [spans]]
            rcases flightRefusal_cases (T.state snap') flightId now with ⟨opened, none⟩ |
              ⟨closed, reason⟩
            · rw [none]
              exact .blamed opened (chosenReason_blames _ _) (chosenReason_true unfold le' le'')
            · refine HoldExplained.closed unfold (Nat.le_trans le' le₁) le₂ closed ?_
              rcases reason with reason | reason <;> rw [reason] <;> simp

theorem holdSeats_explained {request : CreateBookingInput}
    (h : Commits T n (holdSeats flightId bookingId (toHoldRequest request) now) (.start i)
      (.error refusal) c') :
    HoldExplained T n flightId (toHoldRequest request) now c'.spans refusal := by
  have sensible := toHoldRequest_sensible request
  cases asked : toHoldRequest request with
  | auto count fareClass =>
      rw [asked] at h sensible
      exact holdAutoSeats_explained unfold sensible h
  | chosen requested =>
      rw [asked] at h sensible
      exact holdChosenSeats_explained unfold sensible.1 h

/-- A CreateBooking that was refused. -/
theorem createBooking_explained {request : CreateBookingInput} {actor : Uuid} {ids : CreateBookingIds}
    {requestId : Option Uuid}
    (h : Commits T n (createBookingTransaction flightId request actor ids requestId now) (.start i)
      (.error refusal) c') :
    HoldExplained T n flightId (toHoldRequest request) now c'.spans refusal := by
  obtain ⟨held, c₁, hold, rest⟩ := commits_bind.mp h
  cases held with
  | error reason =>
      obtain ⟨same, rfl⟩ := rest
      cases same
      exact holdSeats_explained unfold hold
  | ok seats =>
      obtain ⟨_, _, -, rest⟩ := commits_bind.mp rest
      obtain ⟨_, _, -, rest⟩ := commits_bind.mp rest
      obtain ⟨_, _, -, rest⟩ := commits_bind.mp rest
      obtain ⟨_, _, -, rest⟩ := commits_bind.mp rest
      obtain ⟨_, _, -, same, -⟩ := commits_bind.mp rest
      cases same

end Unfold

/-! ### Every interleaving -/

/-- The flight, the seats asked for and the reason of a refused CreateBooking. -/
def Transaction.refused? :
    (x : Transaction) → x.Result → Option (Uuid × SeatHoldRequest × HoldRefusal)
  | .createBooking flightId request .., .error refusal =>
      some (flightId, toHoldRequest request, refusal)
  | _, _ => none

theorem refused_explained (unfold : FlightsUnfold T n) {r : x.Result} {request : SeatHoldRequest}
    (ran : Commits T n (x.body now) (.start i) r c')
    (refused : x.refused? r = some (flightId, request, refusal)) :
    HoldExplained T n flightId request now c'.spans refusal := by
  cases x with
  | createBooking flightId' input actor ids requestId =>
      cases r with
      | ok booking => cases refused
      | error reason =>
          cases refused
          exact createBooking_explained unfold ran
  | _ => cases refused

/-- In every run a refused hold is told the truth exactly when the flight was not
opened between the statement that refused it and the read that explains it. -/
theorem refusal_true_iff {α : Type} {db : Db} {env : Env} {threads : Nat → App.Thread app α}
    {p : Pool app α} (h : (Pool.initial db env threads : Pool app α).Reachable p) :
    ∀ n, ∀ lt : n < p.world.commits.length, ∀ flightId request refusal,
      p.world.commits[n].tx.refused? p.world.commits[n].result = some (flightId, request, refusal) →
      (refusal.Truthful p.world.timeline n flightId request p.world.commits[n].now
          p.world.commits[n].spans ↔
        ¬ HoldOvertaken p.world.timeline flightId p.world.commits[n].now p.world.commits[n].spans) := by
  intro n lt flightId request refusal refused
  have sound := ((Pool.initial_good db env threads).reachable h).sound
  obtain ⟨c', ran, -, spans, -⟩ := sound.commits lt
  rw [← spans]
  exact refused_explained ((flightsUnfold_of_sound sound).mono (Nat.le_of_lt lt)) ran refused

/-- Seat 1A is asked for while the flight is not open yet; it is opened before the
reason is read. -/
def openedMeanwhile : List (Nat × Move app) :=
  Pool.wholly 0 0 2 ++ Pool.wholly 1 0 1 ++ Pool.wholly 1 0 1 ++ Pool.wholly 1 0 1 ++
    Pool.wholly 1 0 5 ++ [(3, .begin 0), (3, .start), (3, .finish [])] ++ Pool.wholly 2 0 1 ++
    [(2, Move.call (A := app) (.time 0))] ++ Pool.wholly 2 0 2 ++ [(3, .start), (3, .finish []), (3, .commit true)]

/-- The seat is said not to exist, and is free. -/
theorem openedMeanwhile_sample : ∃ p, (sampleStart {} fun _ => sampleBooking).Reachable p ∧
    ∃ lt : 7 < p.world.commits.length,
      p.world.commits[7].tx.refused? p.world.commits[7].result =
        some (1, .chosen [⟨1, 'A'⟩], .unknownSeats [⟨1, 'A'⟩]) ∧
      ((p.world.timeline.state 7).seats.find? (1, ⟨1, 'A'⟩)).isSome := by
  have ends : (Pool.run openedMeanwhile (sampleStart {} fun _ => sampleBooking)).map (fun p =>
      (p.world.commits[7]?.bind fun c => c.tx.refused? c.result,
        ((p.world.state 7).seats.find? (1, ⟨1, 'A'⟩)).isSome)) =
      some (some (1, .chosen [⟨1, 'A'⟩], .unknownSeats [⟨1, 'A'⟩]), true) := by
    decide +kernel
  obtain ⟨p, ran, ends⟩ := Option.map_eq_some_iff.mp ends
  obtain ⟨refused, there⟩ := Prod.ext_iff.mp ends
  obtain ⟨c, at', refused⟩ := Option.bind_eq_some_iff.mp refused
  obtain ⟨lt, rfl⟩ := List.getElem?_eq_some_iff.mp at'
  exact ⟨p, Pool.run_reachable ran, lt, refused, there⟩

/-- A refused hold may be told that a seat of the flight does not exist. -/
theorem refusal_untrue : ∃ p, (sampleStart {} fun _ => sampleBooking).Reachable p ∧
    ∃ n, ∃ lt : n < p.world.commits.length, ∃ flightId request refusal,
      p.world.commits[n].tx.refused? p.world.commits[n].result = some (flightId, request, refusal) ∧
      ¬ refusal.Truthful p.world.timeline n flightId request p.world.commits[n].now
        p.world.commits[n].spans := by
  obtain ⟨p, reachable, lt, refused, there⟩ := openedMeanwhile_sample
  refine ⟨p, reachable, 7, lt, _, _, _, refused, ?_⟩
  rintro ⟨snap, cur, -, truth⟩
  have gone := truth.unknown _ rfl ⟨1, 'A'⟩ List.mem_cons_self 7 (Nat.le_refl _)
  rw [gone] at there
  cases there

theorem refusal_true_iff_sample : ∃ p, (sampleStart {} fun _ => sampleBooking).Reachable p ∧
    ∃ n, ∃ lt : n < p.world.commits.length, ∃ flightId,
      HoldOvertaken p.world.timeline flightId p.world.commits[n].now p.world.commits[n].spans := by
  obtain ⟨p, reachable, lt, refused, there⟩ := openedMeanwhile_sample
  refine ⟨p, reachable, 7, lt, 1, ?_⟩
  by_contra not
  obtain ⟨snap, cur, -, truth⟩ :=
    (refusal_true_iff reachable 7 lt _ _ _ refused).mpr not
  have gone := truth.unknown _ rfl ⟨1, 'A'⟩ List.mem_cons_self 7 (Nat.le_refl _)
  rw [gone] at there
  cases there

end FlightBooking
