import FlightBooking.Bookings.HoldSeats

/-!
The read side of bookings: one booking by id or by reference, and a page of the
list. A read is one to three statements outside a transaction; what they answer at a
moment when nothing commits between them is `execute`.

A read depends on what its scope sees of a version and on nothing else
(`SeenAlike`): the visible bookings, with the status derived at the instant of the
read, and their passengers.
-/

namespace FlightBooking

open Relational ReadCommitted Ordering

/-! ### By id and by reference -/

/-- The booking as reads return it: stored fields, effective status. -/
def withEffectiveStatus (booking : Booking) (now : Instant) : Booking :=
  { booking with status := effectiveBookingStatus booking.status booking.holdExpiresAt now }

inductive GetBookingResult where
  | found (booking : Booking)
  | notFound
  deriving DecidableEq, Repr

/-- What the use cases make of a looked-up booking. -/
def toGetBookingResult (booking : Option Booking) (now : Instant) : GetBookingResult :=
  match booking with
  | none => .notFound
  | some booking => .found (withEffectiveStatus booking now)

/-- GetBooking; a path id that is no UUID is `none`. -/
def getBooking (bookingId : Option Uuid) (scope : BookingAccessScope) (now : Instant) :
    Prog postgres GetBookingResult :=
  match bookingId with
  | none => pure .notFound
  | some bookingId => do
      let booking ← findById bookingId scope
      pure (toGetBookingResult booking now)

def BOOKING_REFERENCE_LENGTH : Nat := 6

/-- `[A-HJ-NP-Z2-9]`. -/
def isReferenceCharacter (c : Char) : Bool :=
  ('A' ≤ c && c ≤ 'H') || ('J' ≤ c && c ≤ 'N') || ('P' ≤ c && c ≤ 'Z') || ('2' ≤ c && c ≤ '9')

/-- For the lookup route: anything else cannot be a reference. -/
def isBookingReference (value : String) : Bool :=
  value.length = BOOKING_REFERENCE_LENGTH && value.toList.all isReferenceCharacter

/-- `findOneBy({ reference, ...scopeFilter(scope) })`. -/
def findBookingByReference (reference : String) (scope : BookingAccessScope) :
    Statement postgres (Option BookingRow) :=
  fun _ snap _ => .ok
    { reply := snap.bookings.rows.find? fun b =>
        b.reference = reference && scope.admits b.ownerAccountId }

def findByReference (reference : String) (scope : BookingAccessScope) :
    Prog postgres (Option Booking) := do
  match ← query (findBookingByReference reference scope) with
  | none => pure none
  | some row =>
      let passengers ← query (findPassengers row.id)
      let booking ← orThrow (mapBooking row (passengers.map mapPassenger))
      pure (some booking)

def getBookingByReference (reference : String) (scope : BookingAccessScope) (now : Instant) :
    Prog postgres GetBookingResult :=
  if isBookingReference reference then do
    let booking ← findByReference reference scope
    pure (toGetBookingResult booking now)
  else pure .notFound

/-! ### The list -/

/-- A page request as validated. -/
structure PageQuery where
  page : Nat
  pageSize : Nat
  positive : 1 ≤ page
  size : 1 ≤ pageSize ∧ pageSize ≤ 100

def PageQuery.limit (q : PageQuery) : Nat := q.pageSize

def PageQuery.offset (q : PageQuery) : Nat := (q.page - 1) * q.pageSize

structure Pagination where
  page : Nat
  pageSize : Nat
  totalItems : Nat
  totalPages : Nat
  deriving DecidableEq, Repr

/-- `totalPages` is rounded up. -/
def toPagination (q : PageQuery) (totalItems : Nat) : Pagination where
  page := q.page
  pageSize := q.pageSize
  totalItems := totalItems
  totalPages := (totalItems + (q.pageSize - 1)) / q.pageSize

/-- `ORDER BY created_at DESC, id DESC`. -/
def BookingRow.newerThan (a b : BookingRow) : Prop :=
  b.createdAt < a.createdAt ∨ (a.createdAt = b.createdAt ∧ b.id ≤ a.id)

instance : DecidableRel BookingRow.newerThan := fun _ _ => inferInstanceAs (Decidable (_ ∨ _))

/-- The rows a scope sees. -/
def visibleRows (db : Db) (scope : BookingAccessScope) : List BookingRow :=
  db.bookings.rows.filter fun b => scope.admits b.ownerAccountId

def findBookingPage (scope : BookingAccessScope) (limit offset : Nat) :
    Statement postgres (List BookingRow) :=
  fun _ snap _ => .ok
    { reply := (((visibleRows snap scope).insertionSort BookingRow.newerThan).drop offset).take
        limit }

def countBookings (scope : BookingAccessScope) : Statement postgres Nat :=
  fun _ snap _ => .ok { reply := (visibleRows snap scope).length }

/-- `ORDER BY booking_id, position`. -/
def PassengerRow.before (p q : PassengerRow) : Prop :=
  p.bookingId < q.bookingId ∨ (p.bookingId = q.bookingId ∧ p.position ≤ q.position)

instance : DecidableRel PassengerRow.before := fun _ _ => inferInstanceAs (Decidable (_ ∨ _))

/-- The passengers of every booking on a page. -/
def findPassengersOf (ids : List Uuid) : Statement postgres (List PassengerRow) :=
  fun _ snap _ => .ok
    { reply := (snap.passengers.rows.filter fun p => p.bookingId ∈ ids).insertionSort
        PassengerRow.before }

/-- The page's bookings, each with its own of the passengers read. -/
def groupPassengers (rows : List BookingRow) (passengers : List PassengerRow) :
    Except Failure (List Booking) :=
  rows.mapM fun row =>
    mapBooking row ((passengers.filter fun p => p.bookingId = row.id).map mapPassenger)

def mapBookings (rows : List BookingRow) : Prog postgres (List Booking) :=
  if rows.isEmpty then pure []
  else do
    let passengers ← query (findPassengersOf (rows.map (·.id)))
    orThrow (groupPassengers rows passengers)

structure BookingList where
  items : List Booking
  pagination : Pagination
  deriving DecidableEq, Repr

def listBookings (scope : BookingAccessScope) (q : PageQuery) (now : Instant) :
    Prog postgres BookingList := do
  let rows ← query (findBookingPage scope q.limit q.offset)
  let totalItems ← query (countBookings scope)
  let items ← mapBookings rows
  pure ⟨items.map fun b => withEffectiveStatus b now, toPagination q totalItems⟩

/-! ### What a read sees -/

variable {db a b : Db} {scope : BookingAccessScope} {now : Instant} {id : Uuid} {log : Changes}

/-- Booking `id`, if the scope sees it. -/
def visible (db : Db) (scope : BookingAccessScope) (id : Uuid) : Option BookingRow :=
  (db.bookings.find? id).filter fun b => scope.admits b.ownerAccountId

/-- The row with the status it reads as. -/
def BookingRow.shown (row : BookingRow) (now : Instant) : BookingRow :=
  { row with status := effectiveBookingStatus row.status row.holdExpiresAt now }

/-- A row that two versions show alike is the same but for its status. -/
theorem BookingRow.eq_of_shown {row row' : BookingRow} (same : row.shown now = row'.shown now) :
    row' = { row with status := row'.status } := by
  cases row
  cases row'
  simp_all [BookingRow.shown]

theorem BookingRow.same_of_shown {row row' : BookingRow} (same : row.shown now = row'.shown now) :
    row.id = row'.id ∧ row.reference = row'.reference := by
  have id := congrArg BookingRow.id same
  have reference := congrArg BookingRow.reference same
  exact ⟨id, reference⟩

theorem visible_eq_some {row : BookingRow} : visible db scope id = some row ↔
    row ∈ db.bookings ∧ row.id = id ∧ scope.admits row.ownerAccountId = true := by
  rw [visible, Option.filter_eq_some_iff, Table.find?_eq_some]
  exact and_assoc

theorem mem_visibleRows {row : BookingRow} :
    row ∈ visibleRows db scope ↔ visible db scope row.id = some row := by
  rw [visible_eq_some, visibleRows, List.mem_filter]
  simp

/-- Two versions a reader in this scope cannot tell apart at `now`: the visible
bookings read the same and have the same passengers. -/
structure SeenAlike (scope : BookingAccessScope) (now : Instant) (a b : Db) : Prop where
  bookings : ∀ id, (visible a scope id).map (·.shown now) = (visible b scope id).map (·.shown now)
  passengers : ∀ id, visible a scope id ≠ none → ∀ position,
    a.passengers.find? (id, position) = b.passengers.find? (id, position)

instance : Std.Total fun p q : PassengerRow => p.position ≤ q.position where
  total p q := Nat.le_total p.position q.position

instance : IsTrans PassengerRow fun p q => p.position ≤ q.position where
  trans _ _ _ := Nat.le_trans

theorem passengersOf_eq
    (same : ∀ position, a.passengers.find? (id, position) = b.passengers.find? (id, position)) :
    passengersOf a id = passengersOf b id := by
  refine insertionSort_eq ((List.Nodup.of_map _ a.passengers.nodup).filter _)
    ((List.Nodup.of_map _ b.passengers.nodup).filter _) (fun p => ?_) (fun p memP q memQ le le' => ?_)
  · simp only [List.mem_filter, Table.mem_rows, decide_eq_true_eq]
    refine and_congr_left fun own => ?_
    have found := same p.position
    rw [← own] at found
    exact ⟨Table.mem_of_find?_eq found, Table.mem_of_find?_eq found.symm⟩
  · simp only [List.mem_filter, decide_eq_true_eq] at memP memQ
    exact Table.eq_of_key memP.1 memQ.1
      (Prod.ext (memP.2.trans memQ.2.symm) (Nat.le_antisymm le le'))

/-- The two versions' rows of one booking: none in both, or the same but for the
status, with the same passengers. -/
theorem SeenAlike.cases (alike : SeenAlike scope now a b) (id : Uuid) :
    (visible a scope id = none ∧ visible b scope id = none) ∨
    ∃ row row', visible a scope id = some row ∧ visible b scope id = some row' ∧
      row.shown now = row'.shown now ∧ passengersOf a id = passengersOf b id := by
  have same := alike.bookings id
  cases here : visible a scope id with
  | none =>
      rw [here, Option.map_none] at same
      exact .inl ⟨rfl, Option.map_eq_none_iff.mp same.symm⟩
  | some row =>
      rw [here, Option.map_some] at same
      obtain ⟨row', there, shown⟩ := Option.map_eq_some_iff.mp same.symm
      exact .inr ⟨row, row', rfl, there, shown.symm,
        passengersOf_eq (alike.passengers id (by simp [here]))⟩

/-! ### One booking -/

/-- What a read makes of a row it found. -/
def showBooking (db : Db) (now : Instant) (row : BookingRow) : Except Failure GetBookingResult :=
  (mapBooking (row.shown now) ((passengersOf db row.id).map mapPassenger)).map .found

/-- The status is derived from the row or from what was read of it, all the same. -/
theorem map_withEffectiveStatus (row : BookingRow) (passengers : List BookingPassenger) :
    (mapBooking row passengers).map (fun b => withEffectiveStatus b now) =
      mapBooking (row.shown now) passengers := by
  simp only [mapBooking]
  cases bookingTotal passengers <;> rfl

theorem execute_findById (log : Changes) : execute (S := postgres) [] db (findById id scope) log =
    match visible (log.apply db) scope id with
    | none => .ok (none, log)
    | some row => (mapBooking row ((passengersOf (log.apply db) id).map mapPassenger)).map
        fun b => (some b, log) := by
  have found : findBooking id scope [] (log.apply db) (log.apply db) =
      .ok { reply := visible (log.apply db) scope id } := rfl
  rw [findById, execute_read_bind found]
  cases visible (log.apply db) scope id with
  | none => rfl
  | some row =>
      have read : findPassengers id [] (log.apply db) (log.apply db) =
          .ok { reply := passengersOf (log.apply db) id } := rfl
      dsimp only
      rw [execute_read_bind read, execute_orThrow_bind]
      cases mapBooking row ((passengersOf (log.apply db) id).map mapPassenger) <;> rfl

/-- Changes to other tables do not change what a booking reads like. -/
theorem execute_findById_unwritten {log : Changes} {found : Option Booking}
    (bookings : (log.apply db).bookings = db.bookings)
    (passengers : (log.apply db).passengers = db.passengers)
    (h : execute (S := postgres) [] db (findById id scope) {} = .ok (found, {})) :
    execute (S := postgres) [] db (findById id scope) log = .ok (found, log) := by
  rw [execute_findById] at h ⊢
  have seen : visible (log.apply db) scope id = visible db scope id := by
    rw [visible, visible, bookings]
  have read : passengersOf (log.apply db) id = passengersOf db id := by
    rw [passengersOf, passengersOf, passengers]
  rw [seen, read]
  change (match visible db scope id with | none => _ | some row => _) = _ at h
  cases here : visible db scope id with
  | none =>
      rw [here] at h
      cases h
      rfl
  | some row =>
      rw [here] at h
      dsimp only at h ⊢
      change (mapBooking row ((passengersOf db id).map mapPassenger)).map _ = _ at h
      cases mapped : mapBooking row ((passengersOf db id).map mapPassenger) with
      | error e =>
          rw [mapped] at h
          cases h
      | ok b =>
          rw [mapped] at h
          cases h
          rfl

theorem execute_getBooking (id : Uuid) :
    execute (S := postgres) [] db (getBooking (some id) scope now) {} =
      match visible db scope id with
      | none => .ok (.notFound, {})
      | some row => (showBooking db now row).map fun r => (r, {}) := by
  rw [getBooking, execute_bind, execute_findById]
  change Except.bind (match visible db scope id with | none => _ | some row => _) _ = _
  cases here : visible db scope id with
  | none => rfl
  | some row =>
      obtain ⟨-, rfl, -⟩ := visible_eq_some.mp here
      change _ = (showBooking db now row).map _
      rw [showBooking, ← map_withEffectiveStatus]
      change ((mapBooking row ((passengersOf db row.id).map mapPassenger)).map _).bind _ = _
      cases mapBooking row ((passengersOf db row.id).map mapPassenger) <;> rfl

/-- The visible booking of a reference. -/
def visibleByReference (db : Db) (scope : BookingAccessScope) (reference : String) :
    Option BookingRow :=
  db.bookings.rows.find? fun b => b.reference = reference && scope.admits b.ownerAccountId

theorem execute_getBookingByReference (reference : String) :
    execute (S := postgres) [] db (getBookingByReference reference scope now) {} =
      if isBookingReference reference then
        match visibleByReference db scope reference with
        | none => .ok (.notFound, {})
        | some row => (showBooking db now row).map fun r => (r, {})
      else .ok (.notFound, {}) := by
  rw [getBookingByReference]
  split
  · have found : findBookingByReference reference scope [] db db =
        .ok { reply := visibleByReference db scope reference } := rfl
    rw [execute_bind, findByReference, execute_read_bind found]
    cases visibleByReference db scope reference with
    | none => rfl
    | some row =>
        have read : findPassengers row.id [] db db = .ok { reply := passengersOf db row.id } := rfl
        dsimp only
        rw [execute_read_bind read, execute_orThrow_bind, showBooking, ← map_withEffectiveStatus]
        cases mapBooking row ((passengersOf db row.id).map mapPassenger) <;> rfl
  · rfl

/-! ### A page -/

instance : Std.Total BookingRow.newerThan where
  total a b := by
    unfold BookingRow.newerThan Uuid Instant
    omega

instance : IsTrans BookingRow BookingRow.newerThan where
  trans a b c := by
    unfold BookingRow.newerThan Uuid Instant
    omega

instance : Std.Total PassengerRow.before where
  total p q := by
    unfold PassengerRow.before Uuid
    omega

instance : IsTrans PassengerRow PassengerRow.before where
  trans p q r := by
    unfold PassengerRow.before Uuid
    omega

/-- The page as its scope is shown it. -/
def shownPage (db : Db) (scope : BookingAccessScope) (q : PageQuery) (now : Instant) :
    List BookingRow :=
  ((((visibleRows db scope).map (·.shown now)).insertionSort BookingRow.newerThan).drop
    q.offset).take q.limit

/-- Reading the passengers of a page's bookings together is reading each booking's. -/
theorem filter_passengersOf {ids : List Uuid} (mem : id ∈ ids) :
    ((db.passengers.rows.filter fun p => p.bookingId ∈ ids).insertionSort
      PassengerRow.before).filter (fun p => p.bookingId = id) = passengersOf db id := by
  have own : ∀ p ∈ ((db.passengers.rows.filter fun p => p.bookingId ∈ ids).insertionSort
      PassengerRow.before).filter (fun p => p.bookingId = id), p.bookingId = id := fun p memP => by
    simpa using (List.mem_filter.mp memP).2
  have perm : (((db.passengers.rows.filter fun p => p.bookingId ∈ ids).insertionSort
      PassengerRow.before).filter (fun p => p.bookingId = id)).Perm (passengersOf db id) := by
    refine ((List.perm_insertionSort _ _).filter _).trans (.trans ?_ (List.perm_insertionSort ..).symm)
    rw [List.filter_filter]
    refine List.Perm.of_eq (List.filter_congr fun p _ => ?_)
    by_cases here : p.bookingId = id <;> simp [here, mem]
  refine perm.eq_of_pairwise (fun p r memP memR le le' => ?_)
    (((List.pairwise_insertionSort ..).filter _).imp_of_mem fun memP memR before => ?_)
    (List.pairwise_insertionSort ..)
  · obtain ⟨memR, ownR⟩ := mem_passengersOf.mp memR
    obtain ⟨memP, ownP⟩ := mem_passengersOf.mp (perm.mem_iff.mp memP)
    exact Table.eq_of_key memP memR (Prod.ext (ownP.trans ownR.symm) (Nat.le_antisymm le le'))
  · have same := (own _ memP).trans (own _ memR).symm
    rcases before with less | ⟨-, le⟩
    · exact absurd same (Nat.ne_of_lt less)
    · exact le

/-- The bookings of a page, shown. -/
def showPage (db : Db) (rows : List BookingRow) : Except Failure (List Booking) :=
  rows.mapM fun row => mapBooking row ((passengersOf db row.id).map mapPassenger)

theorem mapM_congr {α β ε : Type} {f g : α → Except ε β} {xs : List α}
    (same : ∀ x ∈ xs, f x = g x) : xs.mapM f = xs.mapM g := by
  induction xs with
  | nil => rfl
  | cons x xs ih =>
      rw [List.mapM_cons, List.mapM_cons, same x List.mem_cons_self,
        ih fun y mem => same y (List.mem_cons_of_mem x mem)]

theorem mem_of_mapM {α β : Type} {f : α → Except Failure β} {xs : List α} {ys : List β}
    (h : xs.mapM f = .ok ys) {y : β} (mem : y ∈ ys) : ∃ x ∈ xs, f x = .ok y := by
  have all := forall₂_of_mapM h
  clear h
  induction all with
  | nil => exact absurd mem List.not_mem_nil
  | @cons x y' xs ys first rest ih =>
      rcases List.mem_cons.mp mem with rfl | later
      · exact ⟨x, List.mem_cons_self, first⟩
      · obtain ⟨x', memX, mapped⟩ := ih later
        exact ⟨x', List.mem_cons_of_mem x memX, mapped⟩

theorem mapM_withEffectiveStatus (rows : List BookingRow) :
    (rows.mapM fun row => mapBooking row ((passengersOf db row.id).map mapPassenger)).map
      (List.map fun b => withEffectiveStatus b now) = showPage db (rows.map (·.shown now)) := by
  induction rows with
  | nil => rfl
  | cons row rows ih =>
      rw [showPage, List.map_cons, List.mapM_cons, List.mapM_cons]
      change _ = (mapBooking (row.shown now) ((passengersOf db row.id).map mapPassenger)).bind fun b =>
        (showPage db (rows.map (·.shown now))).bind fun bs => .ok (b :: bs)
      rw [← ih, ← map_withEffectiveStatus]
      cases mapBooking row ((passengersOf db row.id).map mapPassenger) with
      | error e => rfl
      | ok b =>
          cases rows.mapM fun row => mapBooking row ((passengersOf db row.id).map mapPassenger) <;> rfl

theorem execute_mapBookings (rows : List BookingRow) :
    execute (S := postgres) [] db (mapBookings rows) {} =
      (rows.mapM fun row => mapBooking row ((passengersOf db row.id).map mapPassenger)).map
        fun items => (items, {}) := by
  rw [mapBookings]
  split
  · rename_i empty
    rw [List.isEmpty_iff.mp empty]
    rfl
  · have read : findPassengersOf (rows.map (·.id)) [] db db = .ok
        { reply := (db.passengers.rows.filter fun p => p.bookingId ∈ rows.map (·.id)).insertionSort
            PassengerRow.before } := rfl
    have grouped : groupPassengers rows ((db.passengers.rows.filter fun p =>
        p.bookingId ∈ rows.map (·.id)).insertionSort PassengerRow.before) =
        rows.mapM fun row => mapBooking row ((passengersOf db row.id).map mapPassenger) := by
      refine mapM_congr fun row mem => ?_
      rw [filter_passengersOf (List.mem_map_of_mem mem)]
    rw [execute_read_bind read, grouped]
    cases rows.mapM fun row => mapBooking row ((passengersOf db row.id).map mapPassenger) <;> rfl

theorem execute_listBookings (q : PageQuery) :
    execute (S := postgres) [] db (listBookings scope q now) {} =
      (showPage db (shownPage db scope q now)).map fun items =>
        (⟨items, toPagination q (visibleRows db scope).length⟩, {}) := by
  have page : findBookingPage scope q.limit q.offset [] db db = .ok
      { reply := (((visibleRows db scope).insertionSort BookingRow.newerThan).drop q.offset).take
          q.limit } := rfl
  have total : countBookings scope [] db db = .ok { reply := (visibleRows db scope).length } := rfl
  have shown : shownPage db scope q now =
      ((((visibleRows db scope).insertionSort BookingRow.newerThan).drop q.offset).take
        q.limit).map (·.shown now) := by
    rw [List.map_take, List.map_drop, List.map_insertionSort (r := BookingRow.newerThan) (s := BookingRow.newerThan)]
    · rfl
    · exact fun _ _ _ _ => Iff.rfl
  rw [listBookings, execute_read_bind page, execute_read_bind total, execute_bind,
    execute_mapBookings, shown, ← mapM_withEffectiveStatus]
  cases ((((visibleRows db scope).insertionSort BookingRow.newerThan).drop q.offset).take
    q.limit).mapM fun row => mapBooking row ((passengersOf db row.id).map mapPassenger) <;> rfl

/-! ### Reads of versions seen alike -/

/-- `UQ_bookings_reference`. -/
def Db.UniqueReferences (db : Db) : Prop :=
  ∀ b ∈ db.bookings, ∀ b' ∈ db.bookings, b.reference = b'.reference → b = b'

theorem SeenAlike.showBooking_eq (alike : SeenAlike scope now a b) {row row' : BookingRow}
    (here : visible a scope row.id = some row) (shown : row.shown now = row'.shown now) :
    showBooking a now row = showBooking b now row' := by
  have same := (BookingRow.same_of_shown shown).1
  rw [showBooking, showBooking, shown, ← same,
    passengersOf_eq (alike.passengers row.id (by simp [here]))]

theorem SeenAlike.getBooking (alike : SeenAlike scope now a b) (id : Option Uuid) :
    execute (S := postgres) [] a (FlightBooking.getBooking id scope now) {} =
      execute (S := postgres) [] b (FlightBooking.getBooking id scope now) {} := by
  cases id with
  | none => rfl
  | some id =>
      rw [execute_getBooking, execute_getBooking]
      rcases alike.cases id with ⟨here, there⟩ | ⟨row, row', here, there, shown, -⟩
      · rw [here, there]
      · rw [here, there]
        obtain ⟨-, rfl, -⟩ := visible_eq_some.mp here
        exact congrArg (Except.map _) (alike.showBooking_eq here shown)

theorem visibleByReference_mem {reference : String} {row : BookingRow}
    (found : visibleByReference db scope reference = some row) :
    visible db scope row.id = some row ∧ row.reference = reference := by
  have mem := List.mem_of_find?_eq_some found
  have selected := List.find?_some found
  simp only [Bool.and_eq_true, decide_eq_true_eq] at selected
  exact ⟨visible_eq_some.mpr ⟨mem, rfl, selected.2⟩, selected.1⟩

theorem visibleByReference_none {reference : String}
    (none : visibleByReference db scope reference = none) {id : Uuid} {row : BookingRow}
    (here : visible db scope id = some row) : row.reference ≠ reference := by
  obtain ⟨mem, -, admitted⟩ := visible_eq_some.mp here
  have out := List.find?_eq_none.mp none row mem
  intro same
  simp [same, admitted] at out

theorem SeenAlike.getBookingByReference (alike : SeenAlike scope now a b)
    (unique : a.UniqueReferences) (reference : String) :
    execute (S := postgres) [] a (FlightBooking.getBookingByReference reference scope now) {} =
      execute (S := postgres) [] b (FlightBooking.getBookingByReference reference scope now) {} := by
  rw [execute_getBookingByReference, execute_getBookingByReference]
  split
  · cases here : visibleByReference a scope reference with
    | none =>
        cases there : visibleByReference b scope reference with
        | none => rfl
        | some row' =>
            obtain ⟨seen, named⟩ := visibleByReference_mem there
            rcases alike.cases row'.id with ⟨-, unseen⟩ | ⟨row, row'', seen', seen'', shown, -⟩
            · cases seen.symm.trans unseen
            · cases seen.symm.trans seen''
              exact absurd ((BookingRow.same_of_shown shown).2.trans named)
                (visibleByReference_none here seen')
    | some row =>
        obtain ⟨seen, named⟩ := visibleByReference_mem here
        rcases alike.cases row.id with ⟨unseen, -⟩ | ⟨row₁, row', seen₁, seen', shown, -⟩
        · cases seen.symm.trans unseen
        · cases seen.symm.trans seen₁
          cases there : visibleByReference b scope reference with
          | none =>
              exact absurd ((BookingRow.same_of_shown shown).2.symm.trans named)
                (visibleByReference_none there seen')
          | some other =>
              obtain ⟨seenO, namedO⟩ := visibleByReference_mem there
              rcases alike.cases other.id with ⟨-, unseen⟩ | ⟨row₂, other', seen₂, seenO', shown₂, -⟩
              · cases seenO.symm.trans unseen
              · cases seenO.symm.trans seenO'
                -- Both come from one row of `a`, the only one with the reference.
                have one : row₂ = row := unique _ (visible_eq_some.mp seen₂).1 _
                  (visible_eq_some.mp seen).1
                  ((BookingRow.same_of_shown shown₂).2.trans (namedO.trans named.symm))
                subst one
                exact congrArg (Except.map _) (alike.showBooking_eq seen shown₂)
  · rfl

theorem mem_shown {x : BookingRow} : x ∈ (visibleRows db scope).map (·.shown now) ↔
    (visible db scope x.id).map (·.shown now) = some x := by
  rw [List.mem_map, Option.map_eq_some_iff]
  constructor
  · rintro ⟨row, mem, rfl⟩
    exact ⟨row, mem_visibleRows.mp mem, rfl⟩
  · rintro ⟨row, here, rfl⟩
    exact ⟨row, mem_visibleRows.mpr here, rfl⟩

theorem nodup_shown : (((visibleRows db scope).map (·.shown now)).map key).Nodup := by
  rw [List.map_map]
  exact db.bookings.nodup.sublist (List.filter_sublist.map _)

theorem SeenAlike.mem_shown_iff (alike : SeenAlike scope now a b) (x : BookingRow) :
    x ∈ (visibleRows a scope).map (·.shown now) ↔ x ∈ (visibleRows b scope).map (·.shown now) := by
  rw [mem_shown, mem_shown, alike.bookings]

theorem SeenAlike.shownPage_eq (alike : SeenAlike scope now a b) (q : PageQuery) :
    shownPage a scope q now = shownPage b scope q now := by
  have sorted : ((visibleRows a scope).map (·.shown now)).insertionSort BookingRow.newerThan =
      ((visibleRows b scope).map (·.shown now)).insertionSort BookingRow.newerThan := by
    refine insertionSort_eq (List.Nodup.of_map _ nodup_shown) (List.Nodup.of_map _ nodup_shown)
      alike.mem_shown_iff fun x memX y memY newer older => ?_
    refine List.inj_on_of_nodup_map nodup_shown memX memY ?_
    change x.id = y.id
    unfold BookingRow.newerThan Uuid Instant at *
    omega
  rw [shownPage, shownPage, sorted]

/-- A page shows visible bookings only. -/
theorem visible_of_shownPage {q : PageQuery} {row : BookingRow}
    (mem : row ∈ shownPage db scope q now) : visible db scope row.id ≠ none := by
  have shown : row ∈ (visibleRows db scope).map (·.shown now) :=
    (List.mem_insertionSort _).mp (List.mem_of_mem_drop (List.mem_of_mem_take mem))
  intro unseen
  rw [mem_shown, unseen] at shown
  cases shown

theorem SeenAlike.listBookings (alike : SeenAlike scope now a b) (q : PageQuery) :
    execute (S := postgres) [] a (FlightBooking.listBookings scope q now) {} =
      execute (S := postgres) [] b (FlightBooking.listBookings scope q now) {} := by
  have total : (visibleRows a scope).length = (visibleRows b scope).length := by
    have perm := (List.perm_ext_iff_of_nodup (List.Nodup.of_map _ nodup_shown)
      (List.Nodup.of_map _ nodup_shown)).mpr alike.mem_shown_iff
    simpa using perm.length_eq
  have shown : showPage a (shownPage a scope q now) = showPage b (shownPage a scope q now) := by
    refine mapM_congr fun row mem => ?_
    rw [passengersOf_eq (alike.passengers row.id (visible_of_shownPage mem))]
  rw [execute_listBookings, execute_listBookings, total, shown, alike.shownPage_eq]

end FlightBooking
