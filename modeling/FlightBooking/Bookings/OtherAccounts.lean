import FlightBooking.Bookings.References
import FlightBooking.Payments.StartAlone
import FlightBooking.System.UseCases

/-!
Another account's booking does not exist for you.

Six entry points take a booking's id or reference. In the scope of an account they
answer about another account's booking what they answer where there is no such
booking, and they write nothing: the owner condition is part of the first statement
that looks for the booking, before its status, its seats or its price is looked at.
-/

namespace FlightBooking

open Relational ReadCommitted

variable {db a b : Db} {account id : Uuid} {scope : BookingAccessScope} {now : Instant}

/-! ### The calls -/

/-- A call of an account, in its own scope, about one booking. Of a payment this is
phase 1: unless it answers `started`, its answer is the request's. -/
inductive OwnCall where
  | getBooking
  | getBookingByReference
  | listBookings (q : PageQuery)
  | cancelBooking (ids : CancelIds) (requestId : Option Uuid)
  | changeSeat (position : Nat) (seat : SeatPosition) (auditId : Uuid) (requestId : Option Uuid)
  | payForBooking (request : PaymentRequest) (paymentId : Uuid) (reconcileAfterMs : Int)

abbrev OwnCall.Answer : OwnCall → Type
  | .getBooking | .getBookingByReference => GetBookingResult
  | .listBookings _ => BookingList
  | .cancelBooking .. => Except NotCancelled CancelledBooking
  | .changeSeat .. => Except SeatChangeRefusal SeatSet
  | .payForBooking .. => Started

/-- What the call runs about the booking `id` of reference `reference`. -/
def OwnCall.body (account id : Uuid) (reference : String) (now : Instant) :
    (call : OwnCall) → Prog postgres call.Answer
  | .getBooking => FlightBooking.getBooking (some id) (.owner account) now
  | .getBookingByReference => FlightBooking.getBookingByReference reference (.owner account) now
  | .listBookings q => FlightBooking.listBookings (.owner account) q now
  | .cancelBooking ids requestId =>
      cancelBookingTransaction id (.owner account) account ids requestId now
  | .changeSeat position seat auditId requestId =>
      changeSeatTransaction id position seat (.owner account) account auditId requestId now
  | .payForBooking request paymentId reconcileAfterMs =>
      startPayment (some id) (.owner account) account request paymentId reconcileAfterMs now

/-- The answer of the call when there is no booking `id`. A key that was used before
answers for itself. -/
def OwnCall.SaysMissing (db : Db) (account id : Uuid) : (call : OwnCall) → call.Answer → Prop
  | .getBooking, r | .getBookingByReference, r => r = .notFound
  | .listBookings _, r => ∀ item ∈ r.items, item.id ≠ id
  | .cancelBooking .., r => r = .error .notFound
  | .changeSeat .., r => r = .error .notFound
  | .payForBooking request _ _, r => db.keys.find? (account, request.idempotencyKey) = none →
      r = .result (.answered (toStoredResponse .notFound) false)

/-- What the call may write: a payment its own key with the 404 answer, if the key
was free; the others nothing. -/
def OwnCall.MayWrite (db : Db) (account : Uuid) (now : Instant) : OwnCall → Changes → Prop
  | .payForBooking request _ _, log => log = {} ∨
      (db.keys.find? (account, request.idempotencyKey) = none ∧
        log = { keys := [.put (claimedKey account request.idempotencyKey request.fingerprint now),
          .put ((claimedKey account request.idempotencyKey request.fingerprint now).answered
            (toStoredResponse .notFound) now)] })
  | _, log => log = {}

/-! ### Calls about a booking their scope does not see -/

theorem isCancellable_admits {booking : BookingRow} {flight : FlightRow}
    (h : isCancellable booking flight scope now = true) :
    scope.admits booking.ownerAccountId = true := by
  simp only [isCancellable, Bool.and_eq_true] at h
  exact h.2

theorem cancelTarget_unseen (unseen : visible db scope id = none) :
    cancelTarget id scope now db db = none := by
  rw [cancelTarget, Option.bind_eq_none_iff]
  intro booking found
  rw [Option.bind_eq_none_iff]
  intro flight _
  rw [if_neg]
  intro cancellable
  have seen : visible db scope id = some booking :=
    Option.filter_eq_some_iff.mpr ⟨found, isCancellable_admits cancellable⟩
  cases seen.symm.trans unseen

theorem execute_cancelBooking_unseen (unseen : visible db scope id = none) {actor : Uuid}
    {ids : CancelIds} {requestId : Option Uuid} :
    execute (S := postgres) [] db (cancelBookingTransaction id scope actor ids requestId now) {} =
      .ok (.error .notFound, {}) := by
  have target : cancelTarget id scope now db db = none := cancelTarget_unseen unseen
  have lock : lockCancellable id scope now [] db db = .ok { reply := () } := by
    rw [lockCancellable, target]
  have cancel : cancelBookingRow id scope now [] db db = .ok { reply := none } := by
    rw [cancelBookingRow, target]
  have read : readForCancel id scope [] db db = .ok { reply := none } := by
    have none : ((db.bookings.find? id).filter fun b => scope.admits b.ownerAccountId) = none :=
      unseen
    simp only [readForCancel, none, Option.bind_none]
  rw [cancelBookingTransaction, execute_bind, cancelInTransaction, execute_read_bind lock,
    execute_read_bind cancel]
  dsimp only
  rw [execute_read_bind read]
  rfl

theorem execute_changeSeat_unseen (unseen : visible db scope id = none) {position : Nat}
    {seat : SeatPosition} {actor auditId : Uuid} {requestId : Option Uuid} :
    execute (S := postgres) [] db
      (changeSeatTransaction id position seat scope actor auditId requestId now) {} =
      .ok (.error .notFound, {}) := by
  have lock : lockBookingAndFlight id scope [] db db = .ok { reply := none } := by
    have none : ((db.bookings.find? id).filter fun b => scope.admits b.ownerAccountId) = none :=
      unseen
    simp only [lockBookingAndFlight, none, Option.bind_none]
  rw [changeSeatTransaction, execute_bind, changeSeatInTransaction, execute_read_bind lock]
  rfl

theorem execute_startPayment_unseen (unseen : visible db scope id = none) {request : PaymentRequest}
    {paymentId : Uuid} {reconcileAfterMs : Int}
    (free : db.keys.find? (account, request.idempotencyKey) = none) :
    execute (S := postgres) [] db
      (startPayment (some id) scope account request paymentId reconcileAfterMs now) {} =
      .ok (.result (.answered (toStoredResponse .notFound) false),
        { keys := [.put (claimedKey account request.idempotencyKey request.fingerprint now),
          .put ((claimedKey account request.idempotencyKey request.fingerprint now).answered
            (toStoredResponse .notFound) now)] }) := by
  rw [startPayment, execute_bind, execute_claim_free free]
  change execute (S := postgres) [] db (startClaimed (some id) scope account request paymentId
    reconcileAfterMs now) _ = _
  rw [startClaimed, execute_bind, findRequested, execute_findById]
  have unseen' : visible (({ keys := [.put (claimedKey account request.idempotencyKey
      request.fingerprint now)] } : Changes).apply db) scope id = none := unseen
  rw [unseen']
  exact execute_answerKey

/-! ### The main result -/

/-- `a` has the booking `b` of another account, which `a'` has not; the bookings besides
`b`, their passengers and the account's own keys are the same. Of seats, payments and
records nothing is asked. -/
structure DifferOnlyIn (account : Uuid) (b : BookingRow) (a a' : Db) : Prop where
  there : a.bookings.find? b.id = some b
  foreign : b.ownerAccountId ≠ account
  gone : a'.bookings.find? b.id = none
  bookings : ∀ id ≠ b.id, a.bookings.find? id = a'.bookings.find? id
  passengers : ∀ id ≠ b.id, ∀ position,
    a.passengers.find? (id, position) = a'.passengers.find? (id, position)
  keys : ∀ text, a.keys.find? (account, text) = a'.keys.find? (account, text)

section Unseen

variable {a' : Db} {b : BookingRow}

theorem DifferOnlyIn.unseen (differ : DifferOnlyIn account b a a') :
    visible a (.owner account) b.id = none := by
  rw [visible, differ.there]
  simp [Option.filter, BookingAccessScope.admits, differ.foreign]

theorem DifferOnlyIn.unseen' (differ : DifferOnlyIn account b a a') :
    visible a' (.owner account) b.id = none := by
  rw [visible, differ.gone]
  rfl

theorem DifferOnlyIn.alike (differ : DifferOnlyIn account b a a') :
    SeenAlike (.owner account) now a a' := by
  constructor
  · intro id
    by_cases own : id = b.id
    · rw [own, differ.unseen, differ.unseen']
    · rw [visible, visible, differ.bookings id own]
  · intro id seen position
    refine differ.passengers id ?_ position
    rintro rfl
    exact seen differ.unseen

/-- No visible booking has the reference of one that is not visible. -/
theorem visibleByReference_unseen (unique : a.UniqueReferences) (mem : b ∈ a.bookings)
    (unseen : visible a scope b.id = none) : visibleByReference a scope b.reference = none := by
  cases found : visibleByReference a scope b.reference with
  | none => rfl
  | some row =>
      obtain ⟨seen, named⟩ := visibleByReference_mem found
      obtain rfl := unique row (visible_eq_some.mp seen).1 b mem named
      cases seen.symm.trans unseen

theorem visible_of_showPage {q : PageQuery} {items : List Booking}
    (shown : showPage db (shownPage db scope q now) = .ok items) {item : Booking}
    (mem : item ∈ items) : visible db scope item.id ≠ none := by
  obtain ⟨row, onPage, mapped⟩ := mem_of_mapM shown mem
  have same : item.id = row.id := by
    rw [mapBooking] at mapped
    cases total : bookingTotal ((passengersOf db row.id).map mapPassenger) with
    | error e =>
        rw [total] at mapped
        cases mapped
    | ok sum =>
        rw [total] at mapped
        cases mapped
        rfl
  rw [same]
  exact visible_of_shownPage onPage

/-- The call answers the same on both versions. -/
theorem DifferOnlyIn.same (differ : DifferOnlyIn account b a a') (unique : a.UniqueReferences)
    (call : OwnCall) :
    execute (S := postgres) [] a (call.body account b.id b.reference now) {} =
      execute (S := postgres) [] a' (call.body account b.id b.reference now) {} := by
  have alike : SeenAlike (.owner account) now a a' := differ.alike
  cases call with
  | getBooking => exact alike.getBooking (some b.id)
  | getBookingByReference => exact alike.getBookingByReference unique b.reference
  | listBookings q => exact alike.listBookings q
  | cancelBooking ids requestId =>
      exact (execute_cancelBooking_unseen differ.unseen).trans
        (execute_cancelBooking_unseen differ.unseen').symm
  | changeSeat position seat auditId requestId =>
      exact (execute_changeSeat_unseen differ.unseen).trans
        (execute_changeSeat_unseen differ.unseen').symm
  | payForBooking request paymentId reconcileAfterMs =>
      have key := differ.keys request.idempotencyKey
      cases found : a.keys.find? (account, request.idempotencyKey) with
      | none =>
          exact (execute_startPayment_unseen differ.unseen found).trans
            (execute_startPayment_unseen differ.unseen' (key.symm.trans found)).symm
      | some row =>
          exact (execute_startPayment_repeat found).trans
            (execute_startPayment_repeat (key.symm.trans found)).symm

/-- About a booking its scope does not see a call answers that there is none, and
writes at most the 404 answer of a payment's key. -/
theorem OwnCall.unseen (call : OwnCall) (unseen : visible a (.owner account) b.id = none)
    (unnamed : visibleByReference a (.owner account) b.reference = none)
    {r : call.Answer} {log : Changes}
    (done : execute (S := postgres) [] a (call.body account b.id b.reference now) {} = .ok (r, log)) :
    call.SaysMissing a account b.id r ∧ call.MayWrite a account now log := by
  cases call with
  | getBooking =>
      have missing : execute (S := postgres) [] a
          (FlightBooking.getBooking (some b.id) (.owner account) now) {} = .ok (.notFound, {}) := by
        rw [execute_getBooking, unseen]
      cases missing.symm.trans done
      exact ⟨rfl, rfl⟩
  | getBookingByReference =>
      have missing : execute (S := postgres) [] a
          (FlightBooking.getBookingByReference b.reference (.owner account) now) {} =
          .ok (.notFound, {}) := by
        rw [execute_getBookingByReference, unnamed, ite_self]
      cases missing.symm.trans done
      exact ⟨rfl, rfl⟩
  | listBookings q =>
      have list : (showPage a (shownPage a (.owner account) q now)).map (fun items =>
          (⟨items, toPagination q (visibleRows a (.owner account)).length⟩, {})) = .ok (r, log) :=
        (execute_listBookings q).symm.trans done
      cases shown : showPage a (shownPage a (.owner account) q now) with
      | error e =>
          rw [shown] at list
          cases list
      | ok items =>
          rw [shown] at list
          cases list
          refine ⟨fun item mem own => ?_, rfl⟩
          exact visible_of_showPage shown mem (own ▸ unseen)
  | cancelBooking ids requestId =>
      cases (execute_cancelBooking_unseen unseen).symm.trans done
      exact ⟨rfl, rfl⟩
  | changeSeat position seat auditId requestId =>
      cases (execute_changeSeat_unseen unseen).symm.trans done
      exact ⟨rfl, rfl⟩
  | payForBooking request paymentId reconcileAfterMs =>
      cases found : a.keys.find? (account, request.idempotencyKey) with
      | none =>
          cases (execute_startPayment_unseen unseen found).symm.trans done
          exact ⟨fun _ => rfl, .inr ⟨found, rfl⟩⟩
      | some row =>
          have answered := (execute_startPayment_repeat found).symm.trans done
          cases known : keyAnswer row request with
          | error e =>
              rw [known] at answered
              cases answered
          | ok r =>
              rw [known] at answered
              cases answered
              refine ⟨fun free => ?_, .inl rfl⟩
              cases found.symm.trans free

end Unseen

/-- Another account's booking does not exist for an account: in its own scope, each of
the six calls answers the same whether the booking is there or not, it answers that
there is none, and it writes nothing but the 404 answer of a payment's own key. -/
theorem other_account_unseen {α : Type} {airports : Table Airport} {env : Env}
    {threads : Nat → App.Thread app α} {p : Pool app α}
    (h : (Pool.initial { airports } env threads : Pool app α).Reachable p) {account : Uuid}
    {b : BookingRow} {without : Db} (differ : DifferOnlyIn account b p.world.db without)
    (call : OwnCall) (now : Instant) :
    execute (S := postgres) [] p.world.db (call.body account b.id b.reference now) {} =
      execute (S := postgres) [] without (call.body account b.id b.reference now) {} ∧
    ∀ r log, execute (S := postgres) [] p.world.db (call.body account b.id b.reference now) {} =
        .ok (r, log) →
      call.SaysMissing p.world.db account b.id r ∧ call.MayWrite p.world.db account now log := by
  have unique := references_unique h
  refine ⟨differ.same unique call, fun r log done => ?_⟩
  have mem : b ∈ p.world.db.bookings := Table.mem_of_find? differ.there
  exact call.unseen differ.unseen (visibleByReference_unseen unique mem differ.unseen) done

/-- Account 7's booking in the small world. -/
def sampleBookingRow : BookingRow := ⟨5, "ABC234", 1, 7, .held, 0, some HOLD_DURATION_MS⟩

/-- Account 8 looks up account 7's reference, and there is nothing. -/
theorem other_account_unseen_sample : ∃ p, (sampleStart {} fun _ => sampleBooking).Reachable p ∧
    p.world.db.bookings.rows = [sampleBookingRow] ∧
    execute (S := postgres) [] p.world.db
        (OwnCall.body 8 5 "ABC234" 60000 .getBookingByReference) {} =
      execute (S := postgres) [] {} (OwnCall.body 8 5 "ABC234" 60000 .getBookingByReference) {} := by
  have ends : (Pool.run sampleMoves (sampleStart {} fun _ => sampleBooking)).map (fun p =>
      (p.world.db.bookings.rows, p.world.db.passengers.rows.map (·.bookingId),
        p.world.db.keys.rows)) = some ([sampleBookingRow], [5], []) := by
    decide +kernel
  obtain ⟨p, ran, ends⟩ := Option.map_eq_some_iff.mp ends
  simp only [Prod.mk.injEq] at ends
  obtain ⟨bookings, passengers, keys⟩ := ends
  have differ : DifferOnlyIn 8 sampleBookingRow p.world.db {} := by
    constructor
    · rw [Table.find?, bookings]
      rfl
    · decide
    · rfl
    · intro id other
      have none : ∀ b ∈ p.world.db.bookings, key b ≠ id := fun b mem => by
        rw [← Table.mem_rows, bookings, List.mem_singleton] at mem
        rw [mem]
        exact other.symm
      rw [Table.find?_eq_none.mpr none]
      rfl
    · intro id other position
      have none : ∀ q ∈ p.world.db.passengers, key q ≠ (id, position) := fun q mem same => by
        have own : q.bookingId ∈ [5] := passengers ▸ List.mem_map_of_mem mem
        exact other ((congrArg Prod.fst same).symm.trans (List.mem_singleton.mp own))
      rw [Table.find?_eq_none.mpr none]
      rfl
    · intro text
      rw [Table.find?, keys]
      rfl
  have reachable := Pool.run_reachable ran
  exact ⟨p, reachable, bookings,
    (other_account_unseen reachable differ .getBookingByReference 60000).1⟩

end FlightBooking
