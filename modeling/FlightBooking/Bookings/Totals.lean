import FlightBooking.Bookings.Reads
import FlightBooking.Bookings.Seated

/-!
A booking's total, as it is read, is the one it was created with.

The total is not stored: every read sums the passengers' prices again, and a sum that
is no safe integer throws. The prices are written once, with the booking, by a
transaction that has summed them; a change of seat rewrites a passenger and leaves the
price.
-/

namespace FlightBooking

open Relational ReadCommitted

/-- The prices a read of the booking sums, in passenger order. -/
def Db.prices (db : Db) (id : Uuid) : List Money := (passengersOf db id).filterMap (·.price)

theorem bookingTotal_passengersOf (db : Db) (id : Uuid) :
    bookingTotal ((passengersOf db id).map mapPassenger) = sumMoney (db.prices id) := by
  rw [bookingTotal, List.filterMap_map]
  rfl

/-! ### What stays when a seat changes -/

/-- A passenger's row but for the seat. -/
def PassengerRow.ticket (p : PassengerRow) : PassengerRow := { p with seat := none }

theorem map_passengersOf (db : Db) (id : Uuid) : (passengersOf db id).map PassengerRow.ticket =
    ((db.passengers.rows.map PassengerRow.ticket).filter fun p => p.bookingId = id).insertionSort
      fun p q => p.position ≤ q.position := by
  have sorted : (passengersOf db id).map PassengerRow.ticket =
      ((db.passengers.rows.filter fun p => p.bookingId = id).map PassengerRow.ticket).insertionSort
        fun p q : PassengerRow => p.position ≤ q.position :=
    List.map_insertionSort _ _ _ _ fun p _ q _ => Iff.rfl
  rw [sorted, List.filter_map]
  rfl

section Same

variable {a b : Db} (same : a.passengers.rows.map PassengerRow.ticket =
  b.passengers.rows.map PassengerRow.ticket)

include same

theorem tickets_congr (id : Uuid) : (passengersOf a id).map PassengerRow.ticket =
    (passengersOf b id).map PassengerRow.ticket := by
  rw [map_passengersOf, map_passengersOf, same]

theorem prices_congr (id : Uuid) : a.prices id = b.prices id := by
  have prices : ∀ db : Db, db.prices id =
      ((passengersOf db id).map PassengerRow.ticket).filterMap (·.price) := by
    intro db
    rw [List.filterMap_map]
    rfl
  rw [prices, prices, tickets_congr same]

end Same

/-! ### A new booking's passengers -/

theorem passengerRows_sorted (id : Uuid) (passengers : List BookingPassenger) :
    (passengerRows id passengers).Pairwise fun p q => p.position ≤ q.position := by
  rw [List.pairwise_iff_getElem]
  intro i j lt lt' before
  simp only [passengerRows, List.getElem_mapIdx]
  omega

theorem map_passengerRows (id : Uuid) (passengers : List BookingPassenger) :
    (passengerRows id passengers).map mapPassenger = passengers := by
  refine List.ext_getElem (by simp [passengerRows]) fun j h h' => ?_
  simp [passengerRows, mapPassenger]

section New

variable {db : Db} {id : Uuid} {rows : List PassengerRow}

/-- Passengers of a booking that had none. -/
theorem passengersOf_new (empty : ∀ p ∈ db.passengers, p.bookingId ≠ id)
    (distinct : (rows.map key).Nodup) (fresh : ∀ p ∈ rows, db.passengers.find? (key p) = none)
    (own : ∀ p ∈ rows, p.bookingId = id)
    (sorted : rows.Pairwise fun p q => p.position ≤ q.position) {db' : Db}
    (next : db'.passengers = db.passengers.putAll rows) : passengersOf db' id = rows := by
  have mine : (rows.filter fun p => p.bookingId = id) = rows := by
    rw [List.filter_eq_self]
    intro p mem
    exact decide_eq_true (own p mem)
  have others : (db.passengers.rows.filter fun p => p.bookingId = id) = [] := by
    rw [List.filter_eq_nil_iff]
    intro p mem
    simpa using empty p (Table.mem_rows.mp mem)
  rw [passengersOf, next, Table.rows_putAll_new distinct fresh, List.filter_append, mine, others,
    List.nil_append]
  exact List.Pairwise.insertionSort_eq sorted

/-- Passengers of another booking. -/
theorem passengersOf_other (distinct : (rows.map key).Nodup)
    (fresh : ∀ p ∈ rows, db.passengers.find? (key p) = none)
    (other : ∀ p ∈ rows, p.bookingId ≠ id) {db' : Db}
    (next : db'.passengers = db.passengers.putAll rows) :
    passengersOf db' id = passengersOf db id := by
  have none : (rows.filter fun p => p.bookingId = id) = [] := by
    rw [List.filter_eq_nil_iff]
    intro p mem
    simpa using other p mem
  rw [passengersOf, passengersOf, next, Table.rows_putAll_new distinct fresh, List.filter_append,
    none, List.append_nil]

end New

/-! ### Commits -/

variable {T : Timeline postgres} {n i : Nat} {x : Transaction} {now : Instant} {r : x.Result}
  {c' : Cursor postgres} {id : Uuid}

/-- A commit creates the booking and its prices, or leaves the prices. -/
theorem Committed.prices (h : Committed T n i x now r c') (framed : T.Framed)
    (ran : Commits T n (x.body now) (.start i) r c') (inv : Seated (T.state n)) (id : Uuid) :
    (T.state (n + 1)).prices id = (T.state n).prices id ∨
    ∃ booking : Booking, booking.id = id ∧ (T.state n).bookings.find? id = none ∧
      passengersOf (T.state (n + 1)) id = passengerRows id booking.passengers ∧
      bookingTotal booking.passengers = .ok booking.total := by
  have kept : c'.log.passengers = [] → (T.state (n + 1)).prices id = (T.state n).prices id := by
    intro none
    refine prices_congr ?_ id
    rw [h.next, Changes.apply_passengers, none, Table.putAll_nil]
  cases h.effect with
  | nothing _ log => exact .inl (kept (by rw [log]))
  | laidOut _ on => exact .inl (kept on.quiet.passengers)
  | @created _ _ _ _ _ _ booking free _ _ _ on _ log =>
      have next : (T.state (n + 1)).passengers =
          (T.state n).passengers.putAll (passengerRows booking.id booking.passengers) := by
        rw [h.next, Changes.apply_passengers, log]
      have distinct := passengerRows_nodup booking.id booking.passengers
      have ids := passengerRows_ids booking.id booking.passengers
      by_cases here : booking.id = id
      · subst here
        refine .inr ⟨booking, rfl, on.new.booking, ?_, on.total⟩
        refine passengersOf_new (fun p mem own => ?_) distinct on.new.passengers ids
          (passengerRows_sorted _ _) next
        obtain ⟨b, memB, same⟩ := inv.travels p mem
        exact Table.find?_eq_none.mp on.new.booking b memB (same.trans own)
      · refine .inl ?_
        rw [Db.prices, Db.prices, passengersOf_other distinct on.new.passengers
          (fun p mem same => here ((ids p mem).symm.trans same)) next]
  | cancelled _ _ _ _ _ _ _ _ _ log => exact .inl (kept (by rw [log]))
  | expired _ _ _ _ log => exact .inl (kept (by rw [log]))
  | declined _ _ _ log => exact .inl (kept (by rw [log]))
  | chargedTooLate _ _ _ log => exact .inl (kept (by rw [log]))
  | confirmed _ _ _ _ _ _ _ log => exact .inl (kept (by rw [log]))
  | claimed _ _ log => exact .inl (kept (by rw [log]))
  | refundRecorded _ _ log => exact .inl (kept (by rw [log]))
  | rescheduled _ _ log => exact .inl (kept (by rw [log]))
  | cleaned _ log => exact .inl (kept (by rw [log]))
  | published _ _ log => exact .inl (kept (by rw [log]))
  | paid _ _ on =>
      cases on with
      | answered _ log => exact .inl (kept (by rw [log]))
      | released _ log => exact .inl (kept (by rw [log]))
      | started _ _ log => exact .inl (kept (by rw [log]))
  | reseated =>
      rcases changeSeat_commits framed ran with log | ⟨booking, passenger, own, wanted, lock, read,
        at', moved, audit, -, -, -, -, -, -, current, log, -⟩
      · exact .inl (kept (by rw [log]))
      · refine .inl (prices_congr ?_ id)
        rw [h.next, Changes.apply_passengers, log]
        refine Table.map_rows_putAll_old fun p mem => ?_
        obtain ⟨q, memQ, rfl⟩ := List.mem_map.mp mem
        exact ⟨q, current q memQ, rfl, rfl⟩

/-- Every total that a read may sum is one. -/
def Db.Totalled (db : Db) : Prop := ∀ id, ∃ total, sumMoney (db.prices id) = .ok total

theorem Committed.totalled (h : Committed T n i x now r c') (framed : T.Framed)
    (ran : Commits T n (x.body now) (.start i) r c') (inv : Seated (T.state n))
    (totalled : (T.state n).Totalled) : (T.state (n + 1)).Totalled := by
  intro id
  rcases h.prices framed ran inv id with same | ⟨booking, -, -, passengers, total⟩
  · rw [same]
    exact totalled id
  · refine ⟨booking.total, ?_⟩
    rw [← bookingTotal_passengersOf, passengers, map_passengerRows, total]

/-- In every version of every run, no read of a booking fails over its total. -/
theorem totalled_of_reachable {α : Type} {airports : Table Airport} {env : Env}
    {threads : Nat → App.Thread app α} {p : Pool app α}
    (h : (Pool.initial { airports } env threads : Pool app α).Reachable p) {m : Nat}
    (le : m ≤ p.world.commits.length) : (p.world.state m).Totalled := by
  have good := (Pool.initial_good _ env threads).reachable h
  have ran := ran_of_sound good.sound
  have start : p.world.timeline.state 0 = { airports } := by
    refine (World.state_zero p.world).trans ?_
    rw [h.initial_eq]
    rfl
  have totalled : (p.world.timeline.state m).Totalled := by
    induction m with
    | zero =>
        intro id
        rw [start]
        exact ⟨_, rfl⟩
    | succ m ih =>
        obtain ⟨i, x, now, r, c', committed, done⟩ := ran m le
        exact committed.totalled good.sound.framed done (seated_of_reachable h (by omega))
          (ih (by omega))
  exact totalled

end FlightBooking
