import FlightBooking.Bookings.ExpireHolds
import FlightBooking.Bookings.Totals

/-!
Creating a booking, as one atomic step, from the request to what a read returns.

The seats are held first, for a booking that does not exist yet; the reference is drawn
until one is free; the passengers are paired with the held seats by index. Whatever
goes wrong on the way leaves every table as it was.
-/

namespace FlightBooking

open Relational ReadCommitted

variable {db : Db} {flightId : Uuid} {request : CreateBookingInput} {actor : Uuid}
  {ids : CreateBookingIds} {requestId : Option Uuid} {now : Instant}

/-! ### The steps -/

theorem insertBookingRow_taken {b : BookingRow} {skip : List Row} {snap cur : Db} {out}
    (h : insertBookingRow b skip snap cur = .ok out) (taken : out.reply = false) :
    ∃ o ∈ cur.bookings, o.reference = b.reference := by
  unfold insertBookingRow at h
  extract_lets locks at h
  split at h
  · rename_i any
    obtain ⟨o, mem, same⟩ := List.any_eq_true.mp any
    exact ⟨o, mem, of_decide_eq_true same⟩
  · split at h
    · cases h
    · split at h
      · cases h
      · cases h
        cases taken

/-- Inserting a booking over held seats: its reference is taken, or its rows are new. -/
theorem execute_insertBooking {booking : Booking} {taken : List FlightSeat} {r : Bool}
    {log : Changes} (ran : execute (S := postgres) [] db (insertBooking booking) { seats := taken } =
      .ok (r, log)) :
    (r = false ∧ log = { seats := taken } ∧ ∃ b ∈ db.bookings, b.reference = booking.reference) ∨
    (r = true ∧ booking.New db ∧ (∀ b ∈ db.bookings, b.reference ≠ booking.reference) ∧
      log = { seats := taken, bookings := [booking.row],
              passengers := passengerRows booking.id booking.passengers }) := by
  obtain ⟨inserted, mid, first, rest⟩ := execute_bind_ok ran
  obtain ⟨out, done, rfl, rfl⟩ := execute_query_ok first
  rcases insertBookingRow_ok done with ⟨reply, writes⟩ | ⟨reply, writes, fresh, apart⟩
  · rw [reply] at rest
    cases rest
    refine .inl ⟨rfl, ?_, insertBookingRow_taken done reply⟩
    rw [writes]
    exact postgres.append_none _
  · rw [reply] at rest
    obtain ⟨_, mid', second, last⟩ := execute_bind_ok rest
    obtain ⟨out', done', -, rfl⟩ := execute_query_ok second
    obtain ⟨writes', valid⟩ := insertPassengers_ok done'
    cases last
    refine .inr ⟨rfl, ⟨fresh, fun p mem => ?_⟩, apart, ?_⟩
    · have new := (checkPassengers_none valid).1 p mem
      rw [writes] at new
      exact new
    · rw [writes, writes']
      simp [Changes.append, Booking.row]

/-- The draws: every reference before the one that was used is somebody's. -/
theorem execute_createWithFreeReference {held r : Booking} {references : Nat → String}
    {left attempt : Nat} {taken : List FlightSeat} {log : Changes}
    (ran : execute (S := postgres) [] db (createWithFreeReference held references left attempt)
      { seats := taken } = .ok (r, log)) :
    ∃ k < left, r = { held with reference := references (attempt + k) } ∧
      (∀ j < k, ∃ b ∈ db.bookings, b.reference = references (attempt + j)) ∧
      (∀ b ∈ db.bookings, b.reference ≠ r.reference) ∧ r.New db ∧
      log = { seats := taken, bookings := [r.row], passengers := passengerRows r.id r.passengers } := by
  induction left generalizing attempt with
  | zero => cases ran
  | succ left ih =>
      obtain ⟨inserted, mid, first, rest⟩ := execute_bind_ok ran
      rcases execute_insertBooking first with ⟨rfl, rfl, b, mem, same⟩ | ⟨rfl, new, apart, rfl⟩
      · obtain ⟨k, lt, is, before, apart, new, done⟩ := ih rest
        refine ⟨k + 1, Nat.succ_lt_succ lt, ?_, ?_, apart, new, done⟩
        · rw [is, Nat.add_assoc, Nat.add_comm 1 k]
        · intro j lt'
          cases j with
          | zero => exact ⟨b, mem, same⟩
          | succ j =>
              obtain ⟨b', mem', same'⟩ := before j (Nat.lt_of_succ_lt_succ lt')
              exact ⟨b', mem', by rw [same', Nat.add_assoc, Nat.add_comm 1 j]⟩
      · cases rest
        exact ⟨0, Nat.succ_pos _, rfl, fun j lt => absurd lt (Nat.not_lt_zero j), apart, new, rfl⟩

/-! ### The hold -/

/-- A hold that took seats: which, at what price, and what it wrote. -/
theorem holdAlone_held {bookingId : Uuid} {held : List HeldSeat} {log : Changes}
    (done : holdAlone db flightId bookingId (toHoldRequest request) now = .ok (.ok held, log)) :
    flightOnSale flightId now db = true ∧ ∃ picked taken,
      (toHoldRequest request).Picks db flightId picked ∧ HeldAs db picked held ∧
      taken.Perm (picked.map (holdSeat bookingId)) ∧ log = { seats := taken } := by
  have sensible := toHoldRequest_sensible request
  by_cases met : flightOnSale flightId now db = true ∧ (toHoldRequest request).Available db flightId
  · obtain ⟨picked, picks, ⟨held', taken, as, all, done'⟩ | ⟨s, -, -, failed⟩⟩ :=
      holdSeats_held bookingId sensible met.1 met.2
    · rw [done'] at done
      cases done
      exact ⟨met.1, picked, taken, picks, as, all, rfl⟩
    · rw [failed] at done
      cases done
  · rw [holdSeats_refused sensible met] at done
    cases done

theorem HeldAs.length_eq {picked : List FlightSeat} {held : List HeldSeat}
    (as : HeldAs db picked held) : picked.length = held.length := List.Forall₂.length_eq as

/-- As many seats as passengers. -/
theorem picks_length {picked : List FlightSeat}
    (picks : (toHoldRequest request).Picks db flightId picked) :
    picked.length = request.names.length := by
  cases request with
  | auto fareClass names count => exact picks.length
  | chosen passengers count distinct =>
      have same := congrArg List.length picks.1
      simpa [CreateBookingInput.names] using same

theorem picks_nodup {picked : List FlightSeat}
    (picks : (toHoldRequest request).Picks db flightId picked) : (picked.map key).Nodup := by
  have rows : picked.Nodup := by
    cases request with
    | auto fareClass names count =>
        exact List.Pairwise.imp And.right picks.ordered
    | chosen passengers count distinct =>
        refine List.Nodup.of_map (·.position) ?_
        rw [picks.1]
        exact distinct
  refine rows.map_on fun s mem u mem' same => ?_
  exact Table.eq_of_key (picks.seat mem).1 (picks.seat mem').1 same

/-- The passengers, each with the seat in their place. -/
def paired (request : CreateBookingInput) (held : List HeldSeat) : List EventPassenger :=
  List.zipWith (fun name s => ⟨name, s.seat, s.fareClass, s.price⟩) request.names held

theorem seatPassengers_paired {held : List HeldSeat} (length : held.length = request.names.length) :
    seatPassengers request held = .ok (paired request held) := by
  rw [seatPassengers, if_neg (not_not.mpr length)]
  rfl

/-- What is read off a pair's seat is read off the held seat. -/
theorem map_paired {β : Type} {held : List HeldSeat} (length : held.length = request.names.length)
    {f : EventPassenger → β} {g : HeldSeat → β}
    (reads : ∀ name s, f ⟨name, s.seat, s.fareClass, s.price⟩ = g s) :
    (paired request held).map f = held.map g := by
  rw [paired, ← List.map_uncurry_zip_eq_zipWith, List.map_map]
  conv_rhs => rw [← List.map_snd_zip (by omega : held.length ≤ request.names.length), List.map_map]
  exact List.map_congr_left fun pair _ => reads pair.1 pair.2

theorem prices_paired {held : List HeldSeat} (length : held.length = request.names.length) :
    ((paired request held).map (·.toBookingPassenger)).filterMap (·.price) = held.map (·.price) := by
  rw [List.filterMap_map, ← map_paired length (f := (·.price)) fun _ _ => rfl,
    ← List.filterMap_eq_map]
  rfl

theorem seats_paired {held : List HeldSeat} (length : held.length = request.names.length) :
    ((paired request held).map (·.toBookingPassenger)).filterMap (·.seat) = held.map (·.seat) := by
  rw [List.filterMap_map, ← map_paired length (f := (·.seat)) fun _ _ => rfl,
    ← List.filterMap_eq_map]
  rfl

/-- What the total of held seats comes to. -/
theorem bookingTotal_paired {held : List HeldSeat} (length : held.length = request.names.length) :
    bookingTotal ((paired request held).map (·.toBookingPassenger)) =
      sumMoney (held.map (·.price)) := by
  rw [bookingTotal, prices_paired length]

/-! ### What a created booking leaves -/

def createdAudit (actor : Uuid) (ids : CreateBookingIds) (requestId : Option Uuid) (now : Instant)
    (booking : Booking) (passengers : List EventPassenger) : AuditRecordInput where
  id := ids.auditId
  action := .bookingCreated
  actor := .account actor
  target := .booking booking.id
  requestId
  occurredAt := now
  metadata :=
    [("flightId", .id booking.flightId), ("reference", .text booking.reference),
      ("passengerCount", .number passengers.length),
      ("seats", .text (joinSeats (passengers.map (·.seat)))),
      ("totalVnd", .number booking.total.amount),
      ("holdExpiresAt", .instant (now + HOLD_DURATION_MS)),
      ("correlationId", .id (resolveCorrelationId requestId ids.eventId))]

def createdEvent (ids : CreateBookingIds) (requestId : Option Uuid) (now : Instant)
    (booking : Booking) (passengers : List EventPassenger) : OutboxRow where
  entry :=
    { id := ids.eventId
      eventType := .bookingHeld
      payload := ⟨ids.eventId, resolveCorrelationId requestId ids.eventId, now,
        .bookingHeld booking.id booking.reference booking.flightId booking.createdAt
          (now + HOLD_DURATION_MS) passengers booking.total⟩
      createdAt := now }
  publishedAt := none

/-- The booking that a request becomes. -/
structure BookedAs (db : Db) (flightId : Uuid) (request : CreateBookingInput) (actor : Uuid)
    (ids : CreateBookingIds) (now : Instant) (picked : List FlightSeat) (held : List HeldSeat)
    (booking : Booking) : Prop where
  onSale : flightOnSale flightId now db = true
  picks : (toHoldRequest request).Picks db flightId picked
  as : HeldAs db picked held
  length : held.length = request.names.length
  passengers : booking.passengers = (paired request held).map (·.toBookingPassenger)
  total : sumMoney (held.map (·.price)) = .ok booking.total
  fields : booking = { booking with
    id := ids.bookingId, flightId := flightId, ownerAccountId := actor, createdAt := now,
    status := .held, holdExpiresAt := some (now + HOLD_DURATION_MS) }
  drawn : ∃ k < MAX_REFERENCE_ATTEMPTS, booking.reference = ids.references k ∧
    ∀ j < k, ∃ b ∈ db.bookings, b.reference = ids.references j
  unshared : ∀ b ∈ db.bookings, b.reference ≠ booking.reference
  new : booking.New db

theorem BookedAs.id {picked : List FlightSeat} {held : List HeldSeat} {booking : Booking}
    (booked : BookedAs db flightId request actor ids now picked held booking) :
    booking.id = ids.bookingId := congrArg Booking.id booked.fields

theorem execute_createBooking {answer : Except HoldRefusal Booking} {log : Changes}
    (ran : execute (S := postgres) [] db
      (createBookingTransaction flightId request actor ids requestId now) {} = .ok (answer, log)) :
    ((∃ refusal, answer = .error refusal) ∧ log = {}) ∨
    ∃ booking picked held taken, answer = .ok booking ∧
      holdAlone db flightId ids.bookingId (toHoldRequest request) now =
        .ok (.ok held, { seats := taken }) ∧
      BookedAs db flightId request actor ids now picked held booking ∧
      taken.Perm (picked.map (holdSeat ids.bookingId)) ∧
      db.audit.find? ids.auditId = none ∧ db.outbox.find? ids.eventId = none ∧
      log = { seats := taken
              bookings := [booking.row]
              passengers := passengerRows booking.id booking.passengers
              audit := [createdAudit actor ids requestId now booking (paired request held)]
              outbox := [createdEvent ids requestId now booking (paired request held)] } := by
  obtain ⟨result, mid, hold, rest⟩ := execute_bind_ok ran
  have hold : holdAlone db flightId ids.bookingId (toHoldRequest request) now = .ok (result, mid) :=
    hold
  cases result with
  | error refusal =>
      have unmet : ¬ (flightOnSale flightId now db = true ∧
          (toHoldRequest request).Available db flightId) := by
        rintro ⟨sale, available⟩
        obtain ⟨_, -, ⟨_, _, -, -, done⟩ | ⟨_, -, -, failed⟩⟩ :=
          holdSeats_held ids.bookingId (toHoldRequest_sensible request) sale available
        · rw [done] at hold
          cases hold
        · rw [failed] at hold
          cases hold
      rw [holdSeats_refused (toHoldRequest_sensible request) unmet] at hold
      cases hold
      cases rest
      exact .inl ⟨⟨_, rfl⟩, rfl⟩
  | ok held =>
      obtain ⟨sale, picked, taken, picks, as, all, rfl⟩ := holdAlone_held hold
      have length : held.length = request.names.length :=
        as.length_eq.symm.trans (picks_length picks)
      obtain ⟨passengers, _, seated, rest⟩ := execute_bind_ok rest
      rw [seatPassengers_paired length] at seated
      cases seated
      obtain ⟨total, _, summed, rest⟩ := execute_bind_ok rest
      rw [bookingTotal_paired length] at summed
      cases sum : sumMoney (held.map (·.price)) with
      | error e =>
          rw [sum] at summed
          cases summed
      | ok money =>
          rw [sum] at summed
          cases summed
          obtain ⟨booking, _, create, rest⟩ := execute_bind_ok rest
          obtain ⟨k, lt, is, before, apart, new, rfl⟩ := execute_createWithFreeReference create
          obtain ⟨_, _, audit, rest⟩ := execute_bind_ok rest
          obtain ⟨_, _, event, last⟩ := execute_bind_ok rest
          have auditNew := execute_recordAudit_fresh audit
          have eventNew := execute_enqueue_fresh event
          have done := execute_enqueue event
          rw [execute_recordAudit audit] at done eventNew
          cases last
          refine .inr ⟨booking, picked, held, taken, rfl, hold, ?_, all, auditNew, eventNew, ?_⟩
          · simp only [Nat.zero_add] at is before
            refine ⟨sale, picks, as, length, by rw [is], by rw [is]; exact sum, ?_, ⟨k, lt, ?_, before⟩,
              apart, new⟩
            · rw [is]
            · rw [is]
          · rw [done]
            simp only [Changes.append, List.append_nil, List.nil_append]
            rfl

end FlightBooking
