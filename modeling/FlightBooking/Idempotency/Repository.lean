import FlightBooking.Bookings.Repository

/-!
The Idempotency-Key repository. A key is identified by its account and its text.
-/

namespace FlightBooking

open Relational ReadCommitted

/-- A claim races a release at most this many times before it is a bug. -/
def MAX_CLAIM_ATTEMPTS : Nat := 3

inductive ClaimResult where
  | claimed
  | inProgress (fingerprint : String)
  | completed (fingerprint : String) (response : StoredResponse)
  deriving DecidableEq, Repr

/-- `INSERT … ON CONFLICT DO NOTHING RETURNING 1`. -/
def insertKey (accountId : Uuid) (keyText fingerprint : String) (now : Instant) :
    Statement postgres Bool :=
  fun _ _ cur =>
    if (cur.keys.find? (accountId, keyText)).isSome then .ok { reply := false }
    else .ok
      { reply := true
        writes := { keys := [.put ⟨accountId, keyText, fingerprint, .inProgress, none, none, now,
          none⟩] } }

def selectKey (accountId : Uuid) (keyText : String) : Statement postgres (Option IdempotencyKey) :=
  fun _ snap _ => .ok { reply := snap.keys.find? (accountId, keyText) }

/-- Try `attempts` times to take the key, or report who has it. -/
def claimWithin (attempts : Nat) (accountId : Uuid) (keyText fingerprint : String) (now : Instant) :
    Prog postgres ClaimResult :=
  match attempts with
  | 0 => raise (.keyNotClaimed keyText MAX_CLAIM_ATTEMPTS)
  | attempts + 1 => do
      if ← query (insertKey accountId keyText fingerprint now) then pure .claimed
      else
        match ← query (selectKey accountId keyText) with
        -- Released between our INSERT and SELECT: the key is free again.
        | none => claimWithin attempts accountId keyText fingerprint now
        | some row =>
            match row.status, row.response with
            | .inProgress, _ => pure (.inProgress row.requestFingerprint)
            | .completed, none => raise (.keyWithoutResponse keyText)
            | .completed, some response => pure (.completed row.requestFingerprint response)

def claim (accountId : Uuid) (keyText fingerprint : String) (now : Instant) :
    Prog postgres ClaimResult :=
  claimWithin MAX_CLAIM_ATTEMPTS accountId keyText fingerprint now

/-- `UPDATE idempotency_keys … WHERE` primary key `AND status = 'IN_PROGRESS'`. -/
def updateKey (accountId : Uuid) (keyText : String) (assign : IdempotencyKey → IdempotencyKey) :
    Statement postgres Bool :=
  fun _ snap cur =>
    match (snap.keys.find? (accountId, keyText)).filter (·.status = .inProgress) with
    | none => .ok { reply := false }
    | some _ =>
        let locks := [(.key (accountId, keyText), .noKeyUpdate)]
        match (cur.keys.find? (accountId, keyText)).filter (·.status = .inProgress) with
        | none => .ok { reply := false, locks }
        | some row =>
            let new := assign row
            -- UQ_idempotency_keys_payment_id
            if new.paymentId.isSome ∧ (cur.keys.rows.any fun k =>
                k.paymentId = new.paymentId && key k ≠ key row) then
              .error (.uniqueViolation "UQ_idempotency_keys_payment_id")
            else .ok
              { reply := true
                writes := { keys := [.put new] }
                locks := locks ++ new.paymentId.toList.map fun id => (.paymentKey id, .update) }

/-- An UPDATE that must find its row. -/
def updateKeyOrThrow (accountId : Uuid) (keyText : String)
    (assign : IdempotencyKey → IdempotencyKey) : Prog postgres Unit := do
  if ← query (updateKey accountId keyText assign) then pure ()
  else raise (.keyNotInProgress keyText)

def attachPayment (accountId : Uuid) (keyText : String) (paymentId : Uuid) : Prog postgres Unit :=
  updateKeyOrThrow accountId keyText fun k => { k with paymentId := some paymentId }

/-- The key with its final response. -/
def IdempotencyKey.answered (k : IdempotencyKey) (response : StoredResponse) (now : Instant) :
    IdempotencyKey :=
  { k with status := .completed, response := some response, completedAt := some now }

def complete (accountId : Uuid) (keyText : String) (response : StoredResponse) (now : Instant) :
    Prog postgres Unit :=
  updateKeyOrThrow accountId keyText fun k => k.answered response now

/-- complete(), found by the payment the key started. -/
def completeKeyOfPayment (paymentId : Uuid) (response : StoredResponse) (now : Instant) :
    Statement postgres Nat :=
  fun _ snap cur =>
    let open' (k : IdempotencyKey) : Bool := k.paymentId = some paymentId && k.status = .inProgress
    let found := snap.keys.recheck cur.keys open'
    .ok
      { reply := found.length
        writes := { keys := found.map fun k => .put (k.answered response now) }
        locks := (snap.keys.rows.filter open').map fun k => (.key (key k), .noKeyUpdate) }

def completeForPayment (paymentId : Uuid) (response : StoredResponse) (now : Instant) :
    Prog postgres Unit := do
  let updated ← query (completeKeyOfPayment paymentId response now)
  if updated ≠ 1 then raise (.keyOfPaymentNotInProgress paymentId)

def IdempotencyKey.createdBefore (a b : IdempotencyKey) : Prop := a.createdAt ≤ b.createdAt

instance : DecidableRel IdempotencyKey.createdBefore := fun _ _ => inferInstanceAs (Decidable (_ ≤ _))

def isExpiredKey (cutoff : Instant) (k : IdempotencyKey) : Bool :=
  k.status = .completed && k.createdAt < cutoff

def expiredKeys (cutoff : Instant) (limit : Nat) (skip : List Row) (snap cur : Db) :
    List IdempotencyKey :=
  (((snap.keys.recheck cur.keys (isExpiredKey cutoff)).filter fun k =>
    Row.key (key k) ∉ skip).insertionSort IdempotencyKey.createdBefore).take limit

/-- Delete up to `limit` COMPLETED keys created before `cutoff`, oldest first. -/
def deleteCompletedBefore (cutoff : Instant) (limit : Nat) : Statement postgres Nat :=
  fun skip snap cur =>
    let old := expiredKeys cutoff limit skip snap cur
    .ok
      { reply := old.length
        writes := { keys := old.map fun k => .delete (key k) }
        locks := old.map fun k => (.key (key k), .update) }

/-- Give the key up; a completed key is left untouched. -/
def release (accountId : Uuid) (keyText : String) : Statement postgres Unit :=
  fun _ snap cur =>
    match (snap.keys.find? (accountId, keyText)).filter (·.status = .inProgress) with
    | none => .ok { reply := () }
    | some _ =>
        let locks := [(.key (accountId, keyText), .update)]
        match (cur.keys.find? (accountId, keyText)).filter (·.status = .inProgress) with
        | none => .ok { reply := (), locks }
        | some _ => .ok { reply := (), writes := { keys := [.delete (accountId, keyText)] }, locks }

end FlightBooking
