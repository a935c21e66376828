import FlightBooking.Domain.Records
import FlightBooking.Library.Table
import FlightBooking.Library.History

/-!
The database: its tables, the changes statements make to them, and the rows they
lock.

A row type has the columns the modelled code reads or writes. Seats of an
aircraft are kept with it, a passenger is identified by booking and position
(`UQ_booking_passengers_position`), and a key's operation, which is always
`pay-booking`, is left out. Besides rows, the unique indexes that are not primary
keys have lockable entries: an insert waits on the entry of a twin that is not
committed yet.
-/

namespace FlightBooking

open Relational

/-! ### Rows -/

/-- `timeZone` is an IANA name. -/
structure Airport where
  id : Uuid
  code : String
  timeZone : String
  deriving DecidableEq, Repr

structure LayoutSeat where
  position : SeatPosition
  fareClass : FareClass
  deriving DecidableEq, Repr

/-- An aircraft with its layout; no position twice (`PK_seats`). -/
structure Aircraft where
  id : Uuid
  registration : String
  seats : List LayoutSeat
  distinct : (seats.map (·.position)).Nodup
  createdAt : Instant
  deriving DecidableEq, Repr

structure FlightRow where
  id : Uuid
  flightNumber : String
  originAirportId : Uuid
  destinationAirportId : Uuid
  aircraftId : Uuid
  departureAt : Instant
  arrivalAt : Instant
  status : StoredFlightStatus
  deriving DecidableEq, Repr

inductive FlightSeatStatus where
  | available
  | held
  | booked
  deriving DecidableEq, Repr

structure FlightSeat where
  flightId : Uuid
  position : SeatPosition
  fareClass : FareClass
  status : FlightSeatStatus
  bookingId : Option Uuid
  deriving DecidableEq, Repr

structure FlightFare where
  flightId : Uuid
  fareClass : FareClass
  amount : Money
  deriving DecidableEq, Repr

structure BookingRow where
  id : Uuid
  reference : String
  flightId : Uuid
  ownerAccountId : Uuid
  status : BookingStatus
  createdAt : Instant
  holdExpiresAt : Option Instant
  deriving DecidableEq, Repr

structure PassengerRow where
  bookingId : Uuid
  position : Nat
  name : String
  seat : Option SeatPosition
  fareClass : Option FareClass
  price : Option Money
  deriving DecidableEq, Repr

inductive KeyStatus where
  | inProgress
  | completed
  deriving DecidableEq, Repr

structure IdempotencyKey where
  accountId : Uuid
  key : String
  requestFingerprint : String
  status : KeyStatus
  response : Option StoredResponse
  paymentId : Option Uuid
  createdAt : Instant
  completedAt : Option Instant
  deriving DecidableEq, Repr

structure OutboxRow where
  entry : OutboxEntry
  publishedAt : Option Instant
  deriving DecidableEq, Repr

instance : Keyed Airport Uuid := ⟨(·.id)⟩
instance : Keyed Aircraft Uuid := ⟨(·.id)⟩
instance : Keyed FlightRow Uuid := ⟨(·.id)⟩
instance : Keyed FlightSeat (Uuid × SeatPosition) := ⟨fun s => (s.flightId, s.position)⟩
instance : Keyed FlightFare (Uuid × FareClass) := ⟨fun f => (f.flightId, f.fareClass)⟩
instance : Keyed BookingRow Uuid := ⟨(·.id)⟩
instance : Keyed PassengerRow (Uuid × Nat) := ⟨fun p => (p.bookingId, p.position)⟩
instance : Keyed Payment Uuid := ⟨(·.id)⟩
instance : Keyed IdempotencyKey (Uuid × String) := ⟨fun k => (k.accountId, k.key)⟩
instance : Keyed AuditRecordInput Uuid := ⟨(·.id)⟩
instance : Keyed OutboxRow Uuid := ⟨(·.entry.id)⟩

/-! ### The database and its changes -/

structure Db where
  airports : Table Airport := ∅
  aircraft : Table Aircraft := ∅
  flights : Table FlightRow := ∅
  seats : Table FlightSeat := ∅
  fares : Table FlightFare := ∅
  bookings : Table BookingRow := ∅
  passengers : Table PassengerRow := ∅
  payments : Table Payment := ∅
  keys : Table IdempotencyKey := ∅
  audit : Table AuditRecordInput := ∅
  outbox : Table OutboxRow := ∅

/-- Keys are the only rows the modelled code deletes. -/
inductive KeyChange where
  | put (k : IdempotencyKey)
  | delete (id : Uuid × String)

def KeyChange.id : KeyChange → Uuid × String
  | .put k => key k
  | .delete id => id

def KeyChange.apply (t : Table IdempotencyKey) : KeyChange → Table IdempotencyKey
  | .put k => t.put k
  | .delete id => t.erase id

/-- The rows written, by table and in order. -/
structure Changes where
  aircraft : List Aircraft := []
  flights : List FlightRow := []
  seats : List FlightSeat := []
  fares : List FlightFare := []
  bookings : List BookingRow := []
  passengers : List PassengerRow := []
  payments : List Payment := []
  keys : List KeyChange := []
  audit : List AuditRecordInput := []
  outbox : List OutboxRow := []

namespace Changes

def append (c d : Changes) : Changes where
  aircraft := c.aircraft ++ d.aircraft
  flights := c.flights ++ d.flights
  seats := c.seats ++ d.seats
  fares := c.fares ++ d.fares
  bookings := c.bookings ++ d.bookings
  passengers := c.passengers ++ d.passengers
  payments := c.payments ++ d.payments
  keys := c.keys ++ d.keys
  audit := c.audit ++ d.audit
  outbox := c.outbox ++ d.outbox

def apply (c : Changes) (db : Db) : Db where
  airports := db.airports
  aircraft := db.aircraft.putAll c.aircraft
  flights := db.flights.putAll c.flights
  seats := db.seats.putAll c.seats
  fares := db.fares.putAll c.fares
  bookings := db.bookings.putAll c.bookings
  passengers := db.passengers.putAll c.passengers
  payments := db.payments.putAll c.payments
  keys := c.keys.foldl KeyChange.apply db.keys
  audit := db.audit.putAll c.audit
  outbox := db.outbox.putAll c.outbox

variable (c : Changes) (db : Db)

theorem apply_aircraft : (c.apply db).aircraft = db.aircraft.putAll c.aircraft := rfl

theorem apply_fares : (c.apply db).fares = db.fares.putAll c.fares := rfl

theorem apply_flights : (c.apply db).flights = db.flights.putAll c.flights := rfl

theorem apply_seats : (c.apply db).seats = db.seats.putAll c.seats := rfl

theorem apply_bookings : (c.apply db).bookings = db.bookings.putAll c.bookings := rfl

theorem apply_passengers : (c.apply db).passengers = db.passengers.putAll c.passengers := rfl

theorem apply_payments : (c.apply db).payments = db.payments.putAll c.payments := rfl

theorem apply_keys : (c.apply db).keys = c.keys.foldl KeyChange.apply db.keys := rfl

theorem apply_audit : (c.apply db).audit = db.audit.putAll c.audit := rfl

theorem apply_outbox : (c.apply db).outbox = db.outbox.putAll c.outbox := rfl

end Changes

/-! ### Locks -/

/-- What a transaction can lock: a row, or an entry of a unique index. -/
inductive Row where
  | aircraft (id : Uuid)
  | flight (id : Uuid)
  | seat (id : Uuid × SeatPosition)
  | fare (id : Uuid × FareClass)
  | booking (id : Uuid)
  | passenger (id : Uuid × Nat)
  | payment (id : Uuid)
  | key (id : Uuid × String)
  | audit (id : Uuid)
  | outbox (id : Uuid)
  | registration (registration : String)
  | flightNumber (flightNumber : String) (departureAt : Instant)
  | aircraftSchedule (aircraftId : Uuid)
  | reference (reference : String)
  | processingPayment (bookingId : Uuid)
  | succeededPayment (bookingId : Uuid)
  | paymentKey (paymentId : Uuid)
  deriving DecidableEq, Repr

/-- The rows that changes write. -/
def Changes.touched (c : Changes) : List Row :=
  c.aircraft.map (fun v => .aircraft (key v)) ++ c.flights.map (fun v => .flight (key v)) ++
  c.seats.map (fun v => .seat (key v)) ++ c.fares.map (fun v => .fare (key v)) ++
  c.bookings.map (fun v => .booking (key v)) ++ c.passengers.map (fun v => .passenger (key v)) ++
  c.payments.map (fun v => .payment (key v)) ++ c.keys.map (fun v => .key v.id) ++
  c.audit.map (fun v => .audit (key v)) ++ c.outbox.map (fun v => .outbox (key v))

section Touched

variable {c : Changes}

theorem Changes.aircraft_touched {a : Aircraft} (h : a ∈ c.aircraft) :
    Row.aircraft (key a) ∈ c.touched := by
  have row : ∃ x ∈ c.aircraft, key x = key a := ⟨a, h, rfl⟩
  simpa [touched] using row

theorem Changes.seat_touched {s : FlightSeat} (h : s ∈ c.seats) :
    Row.seat (key s) ∈ c.touched := by
  have row : ∃ x ∈ c.seats, key x = key s := ⟨s, h, rfl⟩
  simpa [touched] using row

theorem Changes.flight_touched {f : FlightRow} (h : f ∈ c.flights) :
    Row.flight (key f) ∈ c.touched := by
  have row : ∃ x ∈ c.flights, key x = key f := ⟨f, h, rfl⟩
  simpa [touched] using row

theorem Changes.booking_touched {b : BookingRow} (h : b ∈ c.bookings) :
    Row.booking (key b) ∈ c.touched := by
  have row : ∃ x ∈ c.bookings, key x = key b := ⟨b, h, rfl⟩
  simpa [touched] using row

theorem Changes.passenger_touched {p : PassengerRow} (h : p ∈ c.passengers) :
    Row.passenger (key p) ∈ c.touched := by
  have row : ∃ x ∈ c.passengers, key x = key p := ⟨p, h, rfl⟩
  simpa [touched] using row

theorem Changes.payment_touched {p : Payment} (h : p ∈ c.payments) :
    Row.payment (key p) ∈ c.touched := by
  have row : ∃ x ∈ c.payments, key x = key p := ⟨p, h, rfl⟩
  simpa [touched] using row

theorem Changes.key_touched {k : KeyChange} (h : k ∈ c.keys) :
    Row.key k.id ∈ c.touched := by
  have row : ∃ x ∈ c.keys, x.id = k.id := ⟨k, h, rfl⟩
  simpa [touched] using row

theorem Changes.audit_touched {a : AuditRecordInput} (h : a ∈ c.audit) :
    Row.audit (key a) ∈ c.touched := by
  have row : ∃ x ∈ c.audit, key x = key a := ⟨a, h, rfl⟩
  simpa [touched] using row

theorem Changes.outbox_touched {o : OutboxRow} (h : o ∈ c.outbox) :
    Row.outbox (key o) ∈ c.touched := by
  have row : ∃ x ∈ c.outbox, key x = key o := ⟨o, h, rfl⟩
  simpa [touched] using row

end Touched

/-- Two versions hold the same row `r`. An index entry is no row of its own. -/
def Db.Agree : Row → Db → Db → Prop
  | .aircraft id, a, b => a.aircraft.find? id = b.aircraft.find? id
  | .flight id, a, b => a.flights.find? id = b.flights.find? id
  | .seat id, a, b => a.seats.find? id = b.seats.find? id
  | .fare id, a, b => a.fares.find? id = b.fares.find? id
  | .booking id, a, b => a.bookings.find? id = b.bookings.find? id
  | .passenger id, a, b => a.passengers.find? id = b.passengers.find? id
  | .payment id, a, b => a.payments.find? id = b.payments.find? id
  | .key id, a, b => a.keys.find? id = b.keys.find? id
  | .audit id, a, b => a.audit.find? id = b.audit.find? id
  | .outbox id, a, b => a.outbox.find? id = b.outbox.find? id
  | _, _, _ => True

/-- Deleting or writing other keys does not change a key. -/
theorem find?_keyChanges {changes : List KeyChange} {t : Table IdempotencyKey}
    {k : Uuid × String} (out : k ∉ changes.map KeyChange.id) :
    (changes.foldl KeyChange.apply t).find? k = t.find? k := by
  induction changes generalizing t with
  | nil => rfl
  | cons change changes ih =>
      simp only [List.map_cons, List.mem_cons, not_or] at out
      rw [List.foldl_cons, ih out.2]
      cases change with
      | put v => exact (Table.find?_put ..).trans (if_neg out.1)
      | delete id => exact (Table.find?_erase ..).trans (if_neg out.1)

theorem Db.agree_apply (r : Row) (c : Changes) (db : Db) (out : r ∉ c.touched) :
    Db.Agree r db (c.apply db) := by
  simp only [Changes.touched, List.mem_append, not_or] at out
  obtain ⟨⟨⟨⟨⟨⟨⟨⟨⟨aircraft, flights⟩, seats⟩, fares⟩, bookings⟩, passengers⟩, payments⟩,
    keys⟩, audit⟩, outbox⟩ := out
  cases r with
  | aircraft id =>
      exact (Table.find?_putAll_of_notMem (by simpa using aircraft)).symm
  | flight id => exact (Table.find?_putAll_of_notMem (by simpa using flights)).symm
  | seat id => exact (Table.find?_putAll_of_notMem (by simpa using seats)).symm
  | fare id => exact (Table.find?_putAll_of_notMem (by simpa using fares)).symm
  | booking id => exact (Table.find?_putAll_of_notMem (by simpa using bookings)).symm
  | passenger id => exact (Table.find?_putAll_of_notMem (by simpa using passengers)).symm
  | payment id => exact (Table.find?_putAll_of_notMem (by simpa using payments)).symm
  | key id => exact (find?_keyChanges (by simpa using keys)).symm
  | audit id => exact (Table.find?_putAll_of_notMem (by simpa using audit)).symm
  | outbox id => exact (Table.find?_putAll_of_notMem (by simpa using outbox)).symm
  | _ => trivial

theorem find?_keyChanges_congr {t u : Table IdempotencyKey} {k : Uuid × String}
    (same : t.find? k = u.find? k) (changes : List KeyChange) :
    (changes.foldl KeyChange.apply t).find? k = (changes.foldl KeyChange.apply u).find? k := by
  induction changes generalizing t u with
  | nil => exact same
  | cons change changes ih =>
      refine ih ?_
      cases change with
      | put v => simp only [KeyChange.apply, Table.find?_put, same]
      | delete id => simp only [KeyChange.apply, Table.find?_erase, same]

theorem Db.agree_congr (r : Row) (c : Changes) (a b : Db) (h : Db.Agree r a b) :
    Db.Agree r (c.apply a) (c.apply b) := by
  cases r with
  | key id => exact find?_keyChanges_congr h _
  | aircraft | flight | seat | fare | booking | passenger | payment | audit | outbox =>
      exact Table.find?_putAll_congr h _
  | _ => trivial

/-- The database as a store of transactions. -/
abbrev postgres : ReadCommitted.Store where
  Db := Db
  Row := Row
  Changes := Changes
  Err := Failure
  none := {}
  append := Changes.append
  apply := Changes.apply
  touched := Changes.touched
  Agree := Db.Agree
  append_none c := by simp [Changes.append]
  none_append c := by simp [Changes.append]
  apply_none db := rfl
  apply_append c d db := by simp [Changes.append, Changes.apply]
  touched_none := rfl
  mem_touched_append r c d := by
    simp only [Changes.touched, Changes.append, List.map_append, List.mem_append]
    grind
  agree_refl r db := by cases r <;> first | rfl | trivial
  agree_trans r a b c h h' := by cases r <;> first | exact Eq.trans h h' | trivial
  agree_apply := Db.agree_apply
  agree_congr := Db.agree_congr

end FlightBooking
