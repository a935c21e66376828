import FlightBooking.Bookings.Reads
import FlightBooking.Payments.Outcomes

/-!
Phase 1 of a payment when nobody comes between its statements: a key that is free is
claimed, one that was used before answers for itself.
-/

namespace FlightBooking

open Relational ReadCommitted

variable {db : Db} {account : Uuid} {scope : BookingAccessScope} {now : Instant}

/-- Whoever has the key, as a claim that repeats it finds out. -/
def claimAnswer (row : IdempotencyKey) : Except Failure ClaimResult :=
  match row.status, row.response with
  | .inProgress, _ => .ok (.inProgress row.requestFingerprint)
  | .completed, none => .error (.keyWithoutResponse row.key)
  | .completed, some response => .ok (.completed row.requestFingerprint response)

theorem execute_claim_repeat {fingerprint keyText : String} {row : IdempotencyKey}
    (found : db.keys.find? (account, keyText) = some row) :
    execute (S := postgres) [] db (claim account keyText fingerprint now) {} =
      (claimAnswer row).map fun r => (r, {}) := by
  have insert : insertKey account keyText fingerprint now [] db db = .ok { reply := false } := by
    rw [insertKey, found]
    rfl
  have select : selectKey account keyText [] db db = .ok { reply := some row } := by
    rw [selectKey, found]
  have text : row.key = keyText := congrArg Prod.snd (Table.key_of_find? found)
  rw [claim, MAX_CLAIM_ATTEMPTS, claimWithin, execute_read_bind insert]
  simp only [Bool.false_eq_true, if_false]
  rw [execute_read_bind select, claimAnswer, text]
  dsimp only
  cases row.status with
  | inProgress => rfl
  | completed => cases row.response <;> rfl

theorem execute_claim_free {fingerprint keyText : String}
    (free : db.keys.find? (account, keyText) = none) :
    execute (S := postgres) [] db (claim account keyText fingerprint now) {} =
      .ok (.claimed, { keys := [.put (claimedKey account keyText fingerprint now)] }) := by
  have insert : insertKey account keyText fingerprint now [] db db = .ok
      { reply := true
        writes := { keys := [.put (claimedKey account keyText fingerprint now)] } } := by
    rw [insertKey, free]
    rfl
  rw [claim, MAX_CLAIM_ATTEMPTS, claimWithin, execute_query_bind insert]
  rfl

/-- Storing an answer with a key this transaction has claimed. -/
theorem execute_answerKey {fingerprint keyText : String} {decision : PaymentDecision} :
    execute (S := postgres) [] db (answerKey account keyText decision now)
        { keys := [.put (claimedKey account keyText fingerprint now)] } =
      .ok (.result (.answered (toStoredResponse decision) false),
        { keys := [.put (claimedKey account keyText fingerprint now),
          .put ((claimedKey account keyText fingerprint now).answered (toStoredResponse decision)
            now)] }) := by
  set claimed := claimedKey account keyText fingerprint now with isClaimed
  set view := ({ keys := [.put claimed] } : Changes).apply db with isView
  have found : view.keys.find? (account, keyText) = some claimed := by
    have put := Table.find?_put db.keys claimed (account, keyText)
    rwa [if_pos (show (account, keyText) = key claimed from rfl)] at put
  have update : updateKey account keyText (fun k => k.answered (toStoredResponse decision) now) []
      view view = .ok
        { reply := true
          writes := { keys := [.put (claimed.answered (toStoredResponse decision) now)] }
          locks := [(.key (account, keyText), .noKeyUpdate)] } := by
    have open' : (some claimed).filter (fun k => decide (k.status = .inProgress)) = some claimed := rfl
    simp only [updateKey, found, open']
    rfl
  rw [answerKey, complete, updateKeyOrThrow, execute_bind, execute_query_bind update]
  rfl

/-- Giving a key up in the transaction that claimed it: no key is left. -/
theorem execute_release {fingerprint keyText : String} :
    ∃ log, execute (S := postgres) [] db (query (release account keyText))
        { keys := [.put (claimedKey account keyText fingerprint now)] } = .ok ((), log) ∧
      log.payments = [] ∧ (log.apply db).keys.find? (account, keyText) = none := by
  set claimed := claimedKey account keyText fingerprint now
  set view := ({ keys := [.put claimed] } : Changes).apply db with isView
  have found : view.keys.find? (account, keyText) = some claimed := by
    have put := Table.find?_put db.keys claimed (account, keyText)
    rwa [if_pos (show (account, keyText) = key claimed from rfl)] at put
  have given : release account keyText [] view view = .ok
      { reply := (), writes := { keys := [.delete (account, keyText)] }
        locks := [(.key (account, keyText), .update)] } := by
    have open' : (some claimed).filter (fun k => decide (k.status = .inProgress)) = some claimed := rfl
    simp only [release, found, open']
  refine ⟨{ keys := [.put claimed, .delete (account, keyText)] }, ?_, rfl, ?_⟩
  · rw [execute_query]
    exact congrArg (Except.map _) given
  · exact (Table.find?_erase ..).trans (if_pos rfl)

/-- Phase 1 for a booking that has a payment in progress: it is answered so, the payments are
as they were and the key is free again. -/
theorem execute_startPayment_conflict {id : Uuid} {booking : Booking} {request : PaymentRequest}
    {paymentId : Uuid} {reconcileAfterMs : Int}
    (free : db.keys.find? (account, request.idempotencyKey) = none)
    (reads : execute (S := postgres) [] db (findById id scope) {} = .ok (some booking, {}))
    (can : canStartPayment booking now = true) (amount : request.amount = booking.total)
    (busy : ∃ q ∈ db.payments, q.bookingId = booking.id ∧ q.status = .processing) :
    ∃ log, execute (S := postgres) [] db
        (startPayment (some id) scope account request paymentId reconcileAfterMs now) {} =
        .ok (.result .paymentInProgress, log) ∧ (log.apply db).payments = db.payments ∧
      (log.apply db).keys.find? (account, request.idempotencyKey) = none := by
  obtain ⟨log, released, unwritten, gone⟩ := @execute_release db account now request.fingerprint
    request.idempotencyKey
  refine ⟨log, ?_, ?_, gone⟩
  · set claimed : Changes :=
      { keys := [.put (claimedKey account request.idempotencyKey request.fingerprint now)] }
    have taken : ((claimed.apply db).payments.rows.any fun p =>
        p.bookingId = booking.id && p.status = .processing) = true := by
      obtain ⟨q, mem, own, processing⟩ := busy
      exact List.any_eq_true.mpr ⟨q, mem, by simp [own, processing]⟩
    rw [startPayment, execute_bind, execute_claim_free free]
    change execute (S := postgres) [] db (startClaimed (some id) scope account request paymentId
      reconcileAfterMs now) claimed = _
    have read : execute (S := postgres) [] db (findById id scope) claimed =
        .ok (some booking, claimed) :=
      execute_findById_unwritten rfl rfl reads
    rw [startClaimed, findRequested, execute_bind, read]
    dsimp only [Except.bind]
    rw [if_neg (not_not.mpr can), if_neg (not_not.mpr amount)]
    have refused : ∀ payment : NewPayment, payment.bookingId = booking.id →
        insertPayment payment [] (claimed.apply db) (claimed.apply db) = .ok { reply := false } := by
      intro payment own
      rw [insertPayment, own]
      exact if_pos taken
    rw [execute_read_bind (refused _ rfl)]
    simp only [Bool.false_eq_true, if_false]
    rw [execute_bind, released]
    rfl
  · rw [Changes.apply_payments, unwritten]
    rfl

/-- The answer to a request whose key was used before. -/
def keyAnswer (row : IdempotencyKey) (request : PaymentRequest) : Except Failure Started :=
  match row.status, row.response with
  | .inProgress, _ => .ok (.result (if row.requestFingerprint ≠ request.fingerprint then
      .idempotencyKeyReused else .idempotencyKeyInProgress))
  | .completed, none => .error (.keyWithoutResponse row.key)
  | .completed, some response => .ok (.result (if row.requestFingerprint ≠ request.fingerprint then
      .idempotencyKeyReused else .answered response true))

theorem execute_startPayment_repeat {bookingId : Option Uuid} {request : PaymentRequest}
    {paymentId : Uuid} {reconcileAfterMs : Int} {row : IdempotencyKey}
    (found : db.keys.find? (account, request.idempotencyKey) = some row) :
    execute (S := postgres) [] db
      (startPayment bookingId scope account request paymentId reconcileAfterMs now) {} =
      (keyAnswer row request).map fun r => (r, {}) := by
  have branch : ∀ x y : PayForBookingResult, execute (S := postgres) [] db
      (if row.requestFingerprint ≠ request.fingerprint then pure (.result x)
        else pure (.result y)) {} =
      (.ok (.result (if row.requestFingerprint ≠ request.fingerprint then x else y), {}) :
        Except Failure (Started × Changes)) := fun x y => by split <;> rfl
  rw [startPayment, execute_bind, execute_claim_repeat found, claimAnswer, keyAnswer]
  cases row.status with
  | inProgress => exact branch .idempotencyKeyReused .idempotencyKeyInProgress
  | completed =>
      cases row.response with
      | none => rfl
      | some response => exact branch .idempotencyKeyReused (.answered response true)

end FlightBooking
