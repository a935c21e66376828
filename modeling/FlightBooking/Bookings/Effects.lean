import FlightBooking.Bookings.Transactions

/-!
What each booking statement can do: one lemma a statement, saying what it saw
and what it changed. Later proofs cite these and never unfold a statement.
-/

namespace FlightBooking

open Relational ReadCommitted

variable {skip : List Row} {snap cur : Db} {T : Timeline postgres} {n : Nat}
  {c c' : Cursor postgres} {α β : Type}

/-! ### Throwing -/

@[simp] theorem commits_raise {e : Failure} {r : α} : ¬ Commits T n (raise e) c r c' := id

@[simp] theorem commits_orThrow {v : Except Failure α} {r : α} :
    Commits T n (orThrow v) c r c' ↔ v = .ok r ∧ c' = c := by
  cases v with
  | ok a => exact and_congr_left fun _ => ⟨fun h => h ▸ rfl, fun h => by cases h; rfl⟩
  | error e => exact ⟨False.elim, fun h => by cases h.1⟩

theorem commits_orThrow_bind {v : Except Failure α} {f : α → Prog postgres β} {r : β} :
    Commits T n (orThrow v >>= f) c r c' ↔ ∃ a, v = .ok a ∧ Commits T n (f a) c r c' := by
  rw [commits_bind]
  constructor
  · rintro ⟨a, c₁, first, rest⟩
    obtain ⟨ok, rfl⟩ := commits_orThrow.mp first
    exact ⟨a, ok, rest⟩
  · rintro ⟨a, ok, rest⟩
    exact ⟨a, c, commits_orThrow.mpr ⟨ok, rfl⟩, rest⟩

theorem aborts_orThrow {v : Except Failure α} {e : Failure} :
    Aborts T n (orThrow v) c e c' ↔ v = .error e ∧ c' = c := by
  cases v with
  | ok a => exact ⟨False.elim, fun h => by cases h.1⟩
  | error e' => exact and_congr_left fun _ => ⟨fun h => h ▸ rfl, fun h => by cases h; rfl⟩

/-- A list is mapped only if every element is. -/
theorem forall₂_of_mapM {f : α → Except Failure β} {xs : List α} {ys : List β}
    (h : xs.mapM f = .ok ys) : List.Forall₂ (fun x y => f x = .ok y) xs ys := by
  induction xs generalizing ys with
  | nil =>
      cases h
      exact .nil
  | cons x xs ih =>
      rw [List.mapM_cons] at h
      cases first : f x with
      | error e =>
          rw [first] at h
          cases h
      | ok y =>
          rw [first] at h
          cases rest : xs.mapM f with
          | error e =>
              rw [rest] at h
              cases h
          | ok ys' =>
              rw [rest] at h
              cases h
              exact .cons first (ih rest)

/-! ### Seats of bookings -/

theorem seatsOf_iff {ids : List Uuid} {s : FlightSeat} :
    seatsOf ids s = true ↔ ∃ id ∈ ids, s.bookingId = some id := by
  cases h : s.bookingId <;> simp [seatsOf, h]

theorem mem_lockedSeats {ids : List Uuid} {s : FlightSeat} :
    s ∈ lockedSeats ids snap cur ↔ s ∈ cur.seats ∧ seatsOf ids s = true ∧
      ∃ u ∈ snap.seats, key u = key s ∧ seatsOf ids u = true :=
  Table.mem_recheck

theorem nodup_lockedSeats (ids : List Uuid) (snap cur : Db) :
    ((lockedSeats ids snap cur).map key).Nodup :=
  Table.nodup_recheck ..

theorem lockedSeats_sub {ids : List Uuid} {s : FlightSeat} (h : s ∈ lockedSeats ids snap cur) :
    s ∈ cur.seats :=
  (mem_lockedSeats.mp h).1

@[simp] theorem key_releaseSeat (s : FlightSeat) : key (releaseSeat s) = key s := rfl

@[simp] theorem key_bookSeat (s : FlightSeat) : key (bookSeat s) = key s := rfl

@[simp] theorem key_holdSeat (id : Uuid) (s : FlightSeat) : key (holdSeat id s) = key s := rfl

@[simp] theorem key_takeSeat (id : Uuid) (s : FlightSeat) : key (takeSeat id s) = key s := rfl

/-! ### Statements that only read -/

theorem findBooking_ok {id : Uuid} {scope : BookingAccessScope} {out}
    (h : findBooking id scope skip snap cur = .ok out) :
    out.reply = (snap.bookings.find? id).filter (fun b => scope.admits b.ownerAccountId) ∧
      out.writes = {} := by
  cases h
  exact ⟨rfl, rfl⟩

theorem findPassengers_ok {id : Uuid} {out} (h : findPassengers id skip snap cur = .ok out) :
    out.reply = (snap.passengers.rows.filter fun p => p.bookingId = id).insertionSort
        (fun p q => p.position ≤ q.position) ∧ out.writes = {} := by
  cases h
  exact ⟨rfl, rfl⟩

theorem lockCancellable_ok {id : Uuid} {scope : BookingAccessScope} {now : Instant} {out}
    (h : lockCancellable id scope now skip snap cur = .ok out) :
    out.writes = {} ∧ ∀ target, cancelTarget id scope now snap snap = some target →
      (.booking id, .update) ∈ out.locks := by
  unfold lockCancellable at h
  split at h
  · rename_i found
    cases h
    exact ⟨rfl, fun target some => by rw [found] at some; cases some⟩
  · cases h
    exact ⟨rfl, fun _ _ => by simp⟩

/-! ### Cancel -/

/-- The cancel statement matched no row, or it cancelled the booking as it is now
and released the seats its snapshot had found. -/
theorem cancelBookingRow_ok {id : Uuid} {scope : BookingAccessScope} {now : Instant} {out}
    (h : cancelBookingRow id scope now skip snap cur = .ok out) :
    (out.reply = none ∧ out.writes = {} ∧ ∀ target, cancelTarget id scope now snap cur = some target →
      (.booking id, .noKeyUpdate) ∈ out.locks ∧ ∀ b, cur.bookings.find? id = some b →
        isCancellable b target.2 scope now = false) ∨
    ∃ found flight booking, cancelTarget id scope now snap cur = some (found, flight) ∧
      cur.bookings.find? id = some booking ∧ isCancellable booking flight scope now = true ∧
      out.reply = some ⟨booking.flightId, booking.reference,
        sortedPositions (lockedSeats [id] snap cur)⟩ ∧
      out.writes = { bookings := [{ booking with status := .cancelled }],
                     seats := (lockedSeats [id] snap cur).map releaseSeat } ∧
      (.booking id, .noKeyUpdate) ∈ out.locks := by
  unfold cancelBookingRow at h
  split at h
  · rename_i missing
    cases h
    exact .inl ⟨rfl, rfl, fun target some => by rw [missing] at some; cases some⟩
  · rename_i found flight target
    split at h
    · rename_i dropped
      cases h
      refine .inl ⟨rfl, rfl, fun target' some => ⟨by simp, fun b newest => ?_⟩⟩
      rw [target] at some
      cases some
      rw [newest] at dropped
      simpa [Option.filter] using dropped
    · rename_i booking kept
      cases h
      obtain ⟨newest, cancellable⟩ := Option.filter_eq_some_iff.mp kept
      exact .inr ⟨found, flight, booking, target, newest, cancellable, rfl, rfl, by simp⟩

/-! ### Expire and confirm -/

theorem mem_dueHolds {now : Instant} {limit : Nat} {b : BookingRow}
    (h : b ∈ dueHolds now limit skip snap cur) : b ∈ cur.bookings ∧ isDue now b = true ∧
      ∃ u ∈ snap.bookings, key u = key b ∧ isDue now u = true := by
  have sorted := (List.mem_insertionSort _).mp (List.mem_of_mem_take h)
  exact Table.mem_recheck.mp (List.mem_filter.mp sorted).1

theorem nodup_dueHolds (now : Instant) (limit : Nat) (skip : List Row) (snap cur : Db) :
    ((dueHolds now limit skip snap cur).map key).Nodup := by
  have all : (((snap.bookings.recheck cur.bookings (isDue now)).filter fun b =>
      Row.booking b.id ∉ skip).map key).Nodup :=
    (Table.nodup_recheck ..).sublist (List.filter_sublist.map key)
  have sorted := (((List.perm_insertionSort BookingRow.dueBefore _).map key).nodup_iff).mpr all
  exact sorted.sublist ((List.take_sublist ..).map key)

theorem expireDueHolds_ok {now : Instant} {limit : Nat} {out}
    (h : expireDueHolds now limit skip snap cur = .ok out) :
    let due := dueHolds now limit skip snap cur
    out.reply.map (·.bookingId) = due.map (·.id) ∧
      out.writes = { bookings := due.map fun b => { b with status := .expired },
                     seats := (lockedSeats (due.map (·.id)) snap cur).map releaseSeat } ∧
      ∀ b ∈ due, (.booking b.id, .update) ∈ out.locks := by
  cases h
  refine ⟨by simp [Function.comp_def], rfl, fun b mem => ?_⟩
  simp only [List.mem_append, List.mem_map]
  exact .inl ⟨b, mem, rfl⟩

theorem confirmHoldRow_ok {id : Uuid} {scope : BookingAccessScope} {now : Instant} {out}
    (h : confirmHoldRow id scope now skip snap cur = .ok out) :
    (out.reply = false ∧ out.writes = {}) ∨
    ∃ found booking, snap.bookings.find? id = some found ∧ isConfirmable scope now found = true ∧
      cur.bookings.find? id = some booking ∧ isConfirmable scope now booking = true ∧
      out.reply = true ∧
      out.writes = { bookings := [{ booking with status := .confirmed }],
                     seats := (lockedSeats [id] snap cur).map bookSeat } ∧
      (.booking id, .noKeyUpdate) ∈ out.locks := by
  unfold confirmHoldRow at h
  split at h
  · cases h
    exact .inl ⟨rfl, rfl⟩
  · rename_i found matched
    split at h
    · cases h
      exact .inl ⟨rfl, rfl⟩
    · rename_i booking kept
      cases h
      obtain ⟨old, confirmable⟩ := Option.filter_eq_some_iff.mp matched
      obtain ⟨newest, confirmable'⟩ := Option.filter_eq_some_iff.mp kept
      exact .inr ⟨found, booking, old, confirmable, newest, confirmable', rfl, rfl, by simp⟩

theorem isConfirmable_held {scope : BookingAccessScope} {now : Instant} {b : BookingRow}
    (h : isConfirmable scope now b = true) : b.status = .held := by
  simp only [isConfirmable, Bool.and_eq_true, decide_eq_true_eq] at h
  exact h.1.1

theorem isDue_held {now : Instant} {b : BookingRow} (h : isDue now b = true) :
    b.status = .held := by
  simp only [isDue, Bool.and_eq_true, decide_eq_true_eq] at h
  exact h.1

theorem isCancellable_live {b : BookingRow} {f : FlightRow} {scope : BookingAccessScope}
    {now : Instant} (h : isCancellable b f scope now = true) :
    b.status = .held ∨ b.status = .confirmed := by
  simp only [isCancellable, Bool.and_eq_true, Bool.or_eq_true, decide_eq_true_eq] at h
  exact h.1.symm.imp (·.1) (·.1)

/-! ### Seat change -/

theorem lockBookingAndFlight_some {id : Uuid} {scope : BookingAccessScope} {out b f}
    (h : lockBookingAndFlight id scope skip snap cur = .ok out) (found : out.reply = some (b, f)) :
    cur.bookings.find? id = some b ∧ cur.flights.find? b.flightId = some f ∧
      (.booking id, .update) ∈ out.locks := by
  unfold lockBookingAndFlight at h
  extract_lets target at h
  split at h
  · cases h
    cases found
  · cases h
    obtain ⟨b', admitted, rest⟩ := Option.bind_eq_some_iff.mp found
    obtain ⟨f', flight, same⟩ := Option.map_eq_some_iff.mp rest
    cases same
    exact ⟨(Option.filter_eq_some_iff.mp admitted).1, flight, by simp⟩

theorem lockBookingAndFlight_writes {id : Uuid} {scope : BookingAccessScope} {out}
    (h : lockBookingAndFlight id scope skip snap cur = .ok out) : out.writes = {} := by
  unfold lockBookingAndFlight at h
  extract_lets target at h
  split at h <;> cases h <;> rfl

theorem lockSeats_ok {flightId : Uuid} {positions : List SeatPosition} {out}
    (h : lockSeats flightId positions skip snap cur = .ok out) :
    out.writes = {} ∧ ∀ s ∈ out.reply, s ∈ cur.seats ∧ s.flightId = flightId ∧
      s.position ∈ positions ∧ (.seat (key s), .update) ∈ out.locks := by
  cases h
  refine ⟨rfl, fun s mem => ?_⟩
  obtain ⟨memCur, wanted, u, memSnap, same, wanted'⟩ := Table.mem_recheck.mp mem
  simp only [Bool.and_eq_true, decide_eq_true_eq] at wanted
  refine ⟨memCur, wanted.1, wanted.2, List.mem_map.mpr ⟨u, ?_, by rw [same]⟩⟩
  exact List.mem_filter.mpr ⟨memSnap, wanted'⟩

/-- Alone, the statement finds every seat it asks for. -/
theorem mem_lockSeats_alone {flightId : Uuid} {positions : List SeatPosition} {out}
    (h : lockSeats flightId positions skip cur cur = .ok out) {s : FlightSeat} (mem : s ∈ cur.seats)
    (here : s.flightId = flightId) (wanted : s.position ∈ positions) : s ∈ out.reply := by
  cases h
  exact Table.mem_recheck_self.mpr ⟨mem, by simp [here, wanted]⟩

/-- The seat that the change frees or takes, as it is now. -/
theorem updateSeat_ok {flightId : Uuid} {position : SeatPosition}
    {assign : FlightSeat → FlightSeat} {out}
    (h : updateSeat flightId position assign skip snap cur = .ok out) {s : FlightSeat}
    (mem : s ∈ cur.seats) (here : key s = (flightId, position)) (old : ∃ u ∈ snap.seats, key u = key s) :
    out.writes = { seats := [assign s] } := by
  cases h
  set found := snap.seats.recheck cur.seats fun s =>
    s.flightId = flightId && s.position = position with hFound
  have wanted : ∀ u : FlightSeat,
      (u.flightId = flightId && u.position = position : Bool) = true ↔
        key u = (flightId, position) := fun u => by
    simp [key, Prod.ext_iff]
  have all : ∀ u, u ∈ found ↔ u = s := by
    intro u
    simp only [hFound, Table.mem_recheck, wanted]
    constructor
    · rintro ⟨memU, hereU, -⟩
      exact Table.eq_of_key memU mem (hereU.trans here.symm)
    · rintro rfl
      obtain ⟨v, memV, same⟩ := old
      exact ⟨mem, here, v, memV, same, same.trans here⟩
  have nodup : found.Nodup := List.Nodup.of_map _ (Table.nodup_recheck ..)
  have single : found = [s] :=
    List.perm_singleton.mp ((List.perm_ext_iff_of_nodup nodup (by simp)).mpr (by simpa using all))
  rw [single]
  rfl

theorem updateSeat_passengers {flightId : Uuid} {position : SeatPosition}
    {assign : FlightSeat → FlightSeat} {out}
    (h : updateSeat flightId position assign skip snap cur = .ok out) :
    out.writes.passengers = [] := by
  cases h
  rfl

theorem updatePassengerSeat_ok {id : Uuid} {position : Nat} {seat : SeatPosition} {out}
    (h : updatePassengerSeat id position seat skip snap cur = .ok out) :
    out.writes = { passengers := ((cur.passengers.find? (id, position)).toList.map
      fun p => { p with seat := some seat }) } := by
  unfold updatePassengerSeat at h
  split at h
  · cases h
  · cases h
    rfl

theorem updatePassengerSeat_error {id : Uuid} {position : Nat} {seat : SeatPosition} {e}
    (h : updatePassengerSeat id position seat skip snap cur = .error e) :
    ∃ p ∈ cur.passengers, p.bookingId = id ∧ p.seat = some seat := by
  unfold updatePassengerSeat at h
  split at h
  · rename_i taken
    obtain ⟨p, mem, here⟩ := List.any_eq_true.mp taken
    simp only [Bool.and_eq_true, decide_eq_true_eq] at here
    exact ⟨p, mem, here.1.1, here.2⟩
  · cases h

/-- The seat check passes only on an own booked seat and a free one of its class. -/
theorem seatVerdict_none {id : Uuid} {old new : SeatPosition} {locked : List FlightSeat}
    (h : seatVerdict id old new locked = .ok none) :
    ∃ own ∈ locked, ∃ wanted ∈ locked, own.position = old ∧ own.bookingId = some id ∧
      own.status = .booked ∧ wanted.position = new ∧ wanted.status = .available ∧
      wanted.fareClass = own.fareClass := by
  unfold seatVerdict at h
  split at h
  · cases h
  · rename_i own hOwn
    obtain ⟨foundOwn, booked⟩ := Option.filter_eq_some_iff.mp hOwn
    simp only [Bool.and_eq_true, decide_eq_true_eq] at booked
    split at h
    · cases h
    · rename_i wanted foundWanted
      split at h
      · cases h
      · rename_i sameClass
        split at h
        · cases h
        · rename_i free
          refine ⟨own, List.mem_of_find?_eq_some foundOwn, wanted,
            List.mem_of_find?_eq_some foundWanted, by simpa using List.find?_some foundOwn,
            booked.1, booked.2, by simpa using List.find?_some foundWanted,
            not_not.mp free, not_not.mp sameClass⟩

theorem seatVerdict_error {id : Uuid} {old new : SeatPosition} {locked : List FlightSeat} {e}
    (h : seatVerdict id old new locked = .error e) :
    e = .seatNotBooked old id ∧ ∀ s ∈ locked, s.position = old →
      (∀ u ∈ locked, u.position = old → u = s) → ¬ (s.bookingId = some id ∧ s.status = .booked) := by
  unfold seatVerdict at h
  split at h
  · rename_i missing
    cases h
    refine ⟨rfl, fun s mem here only booked => ?_⟩
    cases found : locked.find? fun s => s.position = old with
    | none => exact absurd here (by simpa using List.find?_eq_none.mp found s mem)
    | some u =>
        have same := only u (List.mem_of_find?_eq_some found) (by simpa using List.find?_some found)
        rw [found, same] at missing
        simp [Option.filter, booked] at missing
  · split at h
    · cases h
    · split at h
      · cases h
      · split at h <;> cases h

/-! ### Hold -/

theorem mem_holdCandidates {flightId : Uuid} {count : Nat} {fareClass : FareClass} {now : Instant}
    {s : FlightSeat} (h : s ∈ holdCandidates flightId count fareClass now skip snap cur) :
    s ∈ cur.seats ∧ s.flightId = flightId ∧ s.status = .available ∧ s.fareClass = fareClass := by
  unfold holdCandidates at h
  split at h
  · have sorted := (List.mem_insertionSort _).mp (List.mem_of_mem_take h)
    obtain ⟨mem, free, -⟩ := Table.mem_recheck.mp (List.mem_filter.mp sorted).1
    simp only [isFree, Bool.and_eq_true, decide_eq_true_eq] at free
    exact ⟨mem, free.1.1, free.1.2, free.2⟩
  · cases h

theorem onSale_of_holdCandidates {flightId : Uuid} {count : Nat} {fareClass : FareClass}
    {now : Instant} (h : holdCandidates flightId count fareClass now skip snap cur ≠ []) :
    flightOnSale flightId now cur = true := by
  unfold holdCandidates at h
  split at h
  · rename_i sale
    exact (Bool.and_eq_true _ _ ▸ sale).2
  · exact absurd rfl h

theorem nodup_holdCandidates (flightId : Uuid) (count : Nat) (fareClass : FareClass)
    (now : Instant) (skip : List Row) (snap cur : Db) :
    ((holdCandidates flightId count fareClass now skip snap cur).map key).Nodup := by
  unfold holdCandidates
  split
  · refine List.Nodup.sublist ((List.take_sublist ..).map key) ?_
    refine (((List.perm_insertionSort FlightSeat.before _).map key).nodup_iff).mpr ?_
    exact (Table.nodup_recheck ..).sublist (List.filter_sublist.map key)
  · exact List.nodup_nil

theorem holdAuto_ok {flightId id : Uuid} {count : Nat} {fareClass : FareClass} {now : Instant} {out}
    (h : holdAuto flightId id count fareClass now skip snap cur = .ok out) :
    (out.reply = [] ∧ out.writes = {}) ∨
    ∃ free : List FlightSeat, (free.map key).Nodup ∧ free.length = count ∧
      (∀ s ∈ free, s ∈ cur.seats ∧ s.flightId = flightId ∧ s.status = .available) ∧
      (free ≠ [] → flightOnSale flightId now cur = true) ∧
      out.reply = (free.map (holdSeat id)).map (priceSeat cur) ∧
      out.writes = { seats := free.map (holdSeat id) } := by
  unfold holdAuto at h
  extract_lets candidates locks at h
  split at h
  · rename_i enough
    cases h
    refine .inr ⟨_, nodup_holdCandidates .., enough, fun s mem => ?_, onSale_of_holdCandidates, rfl,
      rfl⟩
    obtain ⟨mem, here, free, -⟩ := mem_holdCandidates mem
    exact ⟨mem, here, free⟩
  · cases h
    exact .inl ⟨rfl, rfl⟩

theorem mem_requestedSeats {flightId : Uuid} {requested : List SeatPosition} {now : Instant}
    {s : FlightSeat} (h : s ∈ requestedSeats flightId requested now snap cur) :
    s ∈ cur.seats ∧ s.flightId = flightId ∧ s.position ∈ requested := by
  unfold requestedSeats at h
  split at h
  · obtain ⟨mem, wanted, -⟩ := Table.mem_recheck.mp ((List.mem_insertionSort _).mp h)
    simp only [Bool.and_eq_true, decide_eq_true_eq] at wanted
    exact ⟨mem, wanted⟩
  · cases h

theorem onSale_of_requestedSeats {flightId : Uuid} {requested : List SeatPosition} {now : Instant}
    (h : requestedSeats flightId requested now snap cur ≠ []) :
    flightOnSale flightId now cur = true := by
  unfold requestedSeats at h
  split at h
  · rename_i sale
    exact (Bool.and_eq_true _ _ ▸ sale).2
  · exact absurd rfl h

theorem nodup_requestedSeats (flightId : Uuid) (requested : List SeatPosition) (now : Instant)
    (snap cur : Db) : ((requestedSeats flightId requested now snap cur).map key).Nodup := by
  unfold requestedSeats
  split
  · refine (((List.perm_insertionSort FlightSeat.before _).map key).nodup_iff).mpr ?_
    exact Table.nodup_recheck ..
  · exact List.nodup_nil

theorem holdChosen_ok {flightId id : Uuid} {requested : List SeatPosition} {now : Instant} {out}
    (h : holdChosen flightId id requested now skip snap cur = .ok out) :
    (out.reply.2 = false ∧ (out.writes = {} ∨ requested = [])) ∨
    ∃ free : List FlightSeat, (free.map key).Nodup ∧ free.length = requested.length ∧
      (∀ s ∈ free, s ∈ cur.seats ∧ s.flightId = flightId ∧ s.position ∈ requested ∧
        s.status = .available) ∧
      (free ≠ [] → flightOnSale flightId now cur = true) ∧
      out.reply = (free.map (priceSeat cur), true) ∧
      out.writes = { seats := free.map (holdSeat id) } := by
  unfold holdChosen at h
  extract_lets locked locks verdict at h
  split at h
  · rename_i held
    cases h
    cases empty : locked.isEmpty with
    | true =>
        have none : locked.length = 0 := by simp [List.isEmpty_iff.mp empty]
        exact .inl ⟨rfl, .inr (List.length_eq_zero_iff.mp (held.1 ▸ none))⟩
    | false =>
        refine .inr ⟨locked, nodup_requestedSeats .., held.1, fun s mem => ?_,
          onSale_of_requestedSeats, rfl, rfl⟩
        obtain ⟨memCur, here, wanted⟩ := mem_requestedSeats mem
        exact ⟨memCur, here, wanted, held.2 s mem⟩
  · cases h
    exact .inl ⟨rfl, .inl rfl⟩

/-! ### Create -/

theorem insertBookingRow_ok {b : BookingRow} {out}
    (h : insertBookingRow b skip snap cur = .ok out) :
    (out.reply = false ∧ out.writes = {}) ∨
      (out.reply = true ∧ out.writes = { bookings := [b] } ∧ cur.bookings.find? b.id = none ∧
        ∀ o ∈ cur.bookings, o.reference ≠ b.reference) := by
  unfold insertBookingRow at h
  extract_lets locks at h
  split at h
  · cases h
    exact .inl ⟨rfl, rfl⟩
  · rename_i freeReference
    split at h
    · cases h
    · rename_i freeId
      split at h
      · cases h
      · cases h
        refine .inr ⟨rfl, rfl, by simpa using freeId, fun o mem same => freeReference ?_⟩
        exact List.any_eq_true.mpr ⟨o, mem, by simpa using same⟩

theorem checkPassengers_none {rows : List PassengerRow} (h : checkPassengers rows cur = none) :
    (∀ p ∈ rows, cur.passengers.find? (key p) = none) ∧ (rows.filterMap (·.seat)).Nodup ∧
      ∀ p ∈ rows, ∀ price, p.price = some price → price.amount ≠ 0 := by
  unfold checkPassengers at h
  split at h
  · cases h
  · rename_i fresh
    split at h
    · cases h
    · rename_i distinct
      split at h
      · cases h
      · split at h
        · cases h
        · rename_i positive
          push Not at fresh positive
          refine ⟨fun p mem => by simpa using fresh p mem, not_not.mp distinct,
            fun p mem price some => ?_⟩
          have := positive p mem
          simpa [some] using this

theorem insertPassengers_ok {rows : List PassengerRow} {out}
    (h : insertPassengers rows skip snap cur = .ok out) :
    out.writes = { passengers := rows } ∧ checkPassengers rows cur = none := by
  unfold insertPassengers at h
  split at h
  · cases h
  · rename_i ok
    cases h
    exact ⟨rfl, ok⟩

/-! ### Records -/

theorem recordAudit_ok {input : AuditRecordInput} {out}
    (h : recordAudit input skip snap cur = .ok out) :
    out.writes = { audit := [input] } ∧ cur.audit.find? input.id = none := by
  unfold recordAudit at h
  split at h
  · cases h
  · rename_i fresh
    cases h
    exact ⟨rfl, by simpa using fresh⟩

theorem enqueue_ok {entry : OutboxEntry} {out} (h : enqueue entry skip snap cur = .ok out) :
    out.writes = { outbox := [⟨entry, none⟩] } ∧ cur.outbox.find? entry.id = none := by
  unfold enqueue at h
  split at h
  · cases h
  · rename_i fresh
    cases h
    exact ⟨rfl, by simpa using fresh⟩

end FlightBooking
