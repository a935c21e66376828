import FlightBooking.Bookings.Outcomes

/-!
What a committed payment transaction did: phase 1 of a request, a settlement, a
recording, a claim of the job.
-/

namespace FlightBooking

open Relational ReadCommitted

variable {T : Timeline postgres} {n i : Nat} {c c' : Cursor postgres} {now : Instant}

/-! ### Payments -/

/-- A transition moved the payment as version `n` has it, locked from version
`cur` on. -/
theorem transition_commits (framed : T.Framed) {id : Uuid} {before after : PaymentStatus}
    {reference reason : Option String} {r : Unit} (unwritten : c.log.payments = [])
    (h : Commits T n (transition id before after now reference reason) c r c') :
    ∃ p cur, (T.state n).payments.find? id = some p ∧ p.status = before ∧
      c'.log = c.log.append { payments := [p.moved after now reference reason] } ∧
      .payment id ∈ exclusiveRows c'.held ∧
      c.pos ≤ cur ∧ cur ≤ n ∧ c'.pos = cur ∧ T.Keeps (.payment id) cur n := by
  obtain ⟨won, c₁, main, rest⟩ := commits_bind.mp h
  obtain ⟨skip, snap, cur, out, le₁, le₂, le₃, done, rfl, rfl, kept, agree⟩ :=
    (commits_query.mp main).outcome framed
  rcases movePayment_ok done with ⟨reply, -⟩ | ⟨p, found, status, reply, writes, -⟩
  · rw [reply] at rest
    exact (commits_raise rest).elim
  · rw [reply] at rest
    obtain ⟨-, rfl⟩ := rest
    have id' : p.id = id := Table.key_of_find? found
    have written : p.moved after now reference reason ∈ out.writes.payments := by
      rw [writes]
      exact List.mem_singleton_self _
    have exclusive := out.touched_held (Changes.payment_touched written)
    rw [show key (p.moved after now reference reason) = id from id'] at exclusive
    have same := agree _ exclusive
    rw [view_payments unwritten] at found
    refine ⟨p, cur, ?_, status, by rw [Cursor.next_log, writes],
      Cursor.mem_held_next (.inr exclusive), Nat.le_trans le₁ le₂, le₃, rfl, kept _ exclusive⟩
    rw [← view_payments (c := c) unwritten n]
    refine (Eq.symm same).trans ?_
    rw [view_payments unwritten]
    exact found

theorem reschedule_commits (framed : T.Framed) {id : Uuid} {status : PaymentStatus} {at' : Instant}
    {r : Unit} (h : Commits T n (reschedule id status at') (.start i) r c') :
    ∃ p, (T.state n).payments.find? id = some p ∧ p.status = status ∧
      c'.log = { payments := [{ p with nextAttemptAt := some at' }] } := by
  obtain ⟨won, c₁, main, rest⟩ := commits_bind.mp h
  obtain ⟨skip, snap, cur, out, le₁, le₂, le₃, done, rfl, rfl, kept, agree⟩ :=
    (commits_query.mp main).outcome framed
  simp only [Cursor.start_view] at done agree
  rcases postponePayment_ok done with ⟨reply, -⟩ | ⟨p, found, same, reply, writes⟩
  · rw [reply] at rest
    exact (commits_raise rest).elim
  · rw [reply] at rest
    obtain ⟨-, rfl⟩ := rest
    have id' : p.id = id := Table.key_of_find? found
    have rows : out.writes.payments = [p].map fun p => { p with nextAttemptAt := some at' } := by
      rw [writes]
      rfl
    have current := payments_current (fun p => { p with nextAttemptAt := some at' }) agree
      (fun _ => rfl) rows (List.mem_singleton_self p) (Table.mem_of_find? found)
    refine ⟨p, id' ▸ Table.find?_of_mem current, same, ?_⟩
    rw [Cursor.next_log, Cursor.start_log, writes]
    simp only [Changes.append, List.append_nil, List.nil_append]

/-- A claim leased payments that were due, and answers them leased. -/
theorem claimDue_commits (framed : T.Framed) {leaseMs : Int} {limit : Nat} {r : List Payment}
    (h : Commits T n (query (claimDue now leaseMs limit)) (.start i) r c') :
    ∃ due : List Payment, (due.map key).Nodup ∧
      (∀ p ∈ due, p ∈ (T.state n).payments ∧ isPaymentDue now p = true) ∧
      c'.log = { payments := due.map (·.claimed now leaseMs) } ∧
      r.Perm (due.map (·.claimed now leaseMs)) := by
  obtain ⟨skip, snap, cur, out, le₁, le₂, le₃, done, rfl, rfl, kept, agree⟩ :=
    (commits_query.mp h).outcome framed
  simp only [Cursor.start_view] at done agree
  obtain ⟨due, distinct, isDue, writes, reply⟩ := claimDue_ok done
  refine ⟨due, distinct, fun p mem => ⟨?_, (isDue p mem).2⟩, ?_, reply⟩
  · exact payments_current (·.claimed now leaseMs) agree (fun _ => rfl) (by rw [writes]) mem
      (isDue p mem).1
  · rw [Cursor.next_log, Cursor.start_log, writes]
    simp only [Changes.append, List.append_nil, List.nil_append]

/-! ### Keys -/

/-- The row a claim inserts. -/
def claimedKey (accountId : Uuid) (keyText fingerprint : String) (now : Instant) :
    IdempotencyKey :=
  ⟨accountId, keyText, fingerprint, .inProgress, none, none, now, none⟩

theorem keys_current {a b : Db} {α : Type} {out : Outcome postgres α} {k : IdempotencyKey}
    (agree : ∀ r ∈ exclusiveRows out.held, postgres.Agree r a b) {change : KeyChange}
    (same : change.id = key k) (written : change ∈ out.writes.keys) (here : k ∈ a.keys) :
    k ∈ b.keys := by
  have kept := agree _ (out.touched_held (Changes.key_touched written))
  rw [same] at kept
  exact Table.mem_of_find?_eq kept here

/-- A claim took the key, new to version `n`, or reports the row that has it. -/
theorem claimWithin_commits (framed : T.Framed) {attempts : Nat} {accountId : Uuid}
    {keyText fingerprint : String} {r : ClaimResult} (clean : c.log = {})
    (h : Commits T n (claimWithin attempts accountId keyText fingerprint now) c r c') :
    (r = .claimed ∧ (T.state n).keys.find? (accountId, keyText) = none ∧
      .key (accountId, keyText) ∈ exclusiveRows c'.held ∧
      c'.log = { keys := [.put (claimedKey accountId keyText fingerprint now)] }) ∨
    (c'.log = {} ∧ ∃ s row, c.pos ≤ s ∧ s ≤ n ∧
      (T.state s).keys.find? (accountId, keyText) = some row ∧
      ((row.status = .inProgress ∧ r = .inProgress row.requestFingerprint) ∨
        ∃ response, row.status = .completed ∧ row.response = some response ∧
          r = .completed row.requestFingerprint response)) := by
  induction attempts generalizing c with
  | zero => exact (commits_raise h).elim
  | succ attempts ih =>
      obtain ⟨inserted, c₁, first, rest⟩ := commits_bind.mp h
      obtain ⟨skip, snap, cur, out, le₁, le₂, le₃, done, rfl, rfl, kept, agree⟩ :=
        (commits_query.mp first).outcome framed
      rcases insertKey_ok done with ⟨reply, writes⟩ | ⟨reply, fresh, writes⟩
      · rw [reply] at rest
        obtain ⟨found, c₂, second, rest⟩ := commits_bind.mp rest
        obtain ⟨skip₂, snap₂, cur₂, out₂, le₄, le₅, le₆, done₂, rfl, rfl, -⟩ :=
          commits_query.mp second
        cases done₂
        have log : (c.next snap cur out).log = {} := by simp [clean, writes, Changes.append]
        have log₂ : ((c.next snap cur out).next snap₂ cur₂
            { reply := ((c.next snap cur out).view T snap₂).keys.find? (accountId, keyText) } :
            Cursor postgres).log = {} := by
          simp [clean, writes, Changes.append]
        have le : c.pos ≤ snap₂ := Nat.le_trans (Nat.le_trans le₁ le₂) le₄
        simp only [view_keys (show (c.next snap cur out).log.keys = [] by rw [log])] at rest
        cases row? : (T.state snap₂).keys.find? (accountId, keyText) with
        | none =>
            simp only [row?] at rest
            rcases ih (by simp [clean, writes, Changes.append]) rest with claimed |
              ⟨done', s, row, le', reads⟩
            · exact .inl claimed
            · exact .inr ⟨done', s, row, Nat.le_trans (Nat.le_trans le le₅) le', reads⟩
        | some row =>
            simp only [row?] at rest
            cases status : row.status with
            | inProgress =>
                simp only [status] at rest
                obtain ⟨rfl, rfl⟩ := rest
                exact .inr ⟨by simp [clean, writes, Changes.append], snap₂, row, le,
                  Nat.le_trans le₅ le₆, row?, .inl ⟨status, rfl⟩⟩
            | completed =>
                simp only [status] at rest
                cases response? : row.response with
                | none =>
                    rw [response?] at rest
                    exact (commits_raise rest).elim
                | some response =>
                    rw [response?] at rest
                    obtain ⟨rfl, rfl⟩ := rest
                    exact .inr ⟨by simp [clean, writes, Changes.append], snap₂, row, le,
                      Nat.le_trans le₅ le₆, row?, .inr ⟨response, status, response?, rfl⟩⟩
      · rw [reply] at rest
        obtain ⟨rfl, rfl⟩ := rest
        have written : KeyChange.put (claimedKey accountId keyText fingerprint now) ∈
            out.writes.keys := by
          rw [writes]
          exact List.mem_singleton_self _
        have exclusive := out.touched_held (Changes.key_touched written)
        have unwritten : c.log.keys = [] := by rw [clean]
        have same : (c.view T cur).keys.find? (accountId, keyText) =
            (c.view T n).keys.find? (accountId, keyText) := agree _ exclusive
        rw [view_keys unwritten, view_keys unwritten] at same
        rw [view_keys unwritten] at fresh
        exact .inl ⟨rfl, same.symm.trans fresh, Cursor.mem_held_next (.inr exclusive), by
          rw [Cursor.next_log, clean, writes]; rfl⟩

/-- The payment's one open key is answered. -/
theorem completeForPayment_commits (framed : T.Framed) {paymentId : Uuid}
    {response : StoredResponse} {r : Unit} (unwritten : c.log.keys = [])
    (h : Commits T n (completeForPayment paymentId response now) c r c') :
    ∃ k, k ∈ (T.state n).keys ∧ k.paymentId = some paymentId ∧ k.status = .inProgress ∧
      c'.log = c.log.append { keys := [.put (k.answered response now)] } := by
  obtain ⟨updated, c₁, main, rest⟩ := commits_bind.mp h
  obtain ⟨skip, snap, cur, out, le₁, le₂, le₃, done, rfl, rfl, kept, agree⟩ :=
    (commits_query.mp main).outcome framed
  obtain ⟨found, reply, -, writes, isOpen, -⟩ := completeKeyOfPayment_ok done
  by_cases one : out.reply = 1
  · rw [if_neg (not_not.mpr one)] at rest
    obtain ⟨-, rfl⟩ := rest
    obtain ⟨k, rfl⟩ := List.length_eq_one_iff.mp (reply.symm.trans one)
    obtain ⟨mem, link, status⟩ := isOpen k (List.mem_singleton_self k)
    have written : KeyChange.put (k.answered response now) ∈ out.writes.keys := by
      rw [writes]
      exact List.mem_singleton_self _
    have current := keys_current agree (show KeyChange.id _ = key k from rfl) written mem
    rw [view_keys unwritten] at current
    exact ⟨k, current, link, status, by rw [Cursor.next_log, writes]; rfl⟩
  · rw [if_pos one] at rest
    exact (commits_raise rest).elim

/-- An UPDATE of the key the transaction wrote itself. -/
theorem updateKeyOrThrow_commits {accountId : Uuid} {keyText : String}
    {assign : IdempotencyKey → IdempotencyKey} {k : IdempotencyKey} {r : Unit}
    (own : ∀ m, (c.view T m).keys.find? (accountId, keyText) = some k)
    (h : Commits T n (updateKeyOrThrow accountId keyText assign) c r c') :
    c'.log = c.log.append { keys := [.put (assign k)] } := by
  obtain ⟨won, c₁, main, rest⟩ := commits_bind.mp h
  obtain ⟨skip, snap, cur, out, -, -, -, done, rfl, rfl, -⟩ := commits_query.mp main
  rcases updateKey_ok done with ⟨reply, -⟩ | ⟨k', found, -, reply, writes, -⟩
  · rw [reply] at rest
    exact (commits_raise rest).elim
  · rw [reply] at rest
    obtain ⟨-, rfl⟩ := rest
    obtain rfl := Option.some.inj ((own cur).symm.trans found)
    rw [Cursor.next_log, writes]

/-- Giving up the key the transaction took itself. -/
theorem release_commits {accountId : Uuid} {keyText : String} {k : IdempotencyKey} {r : Unit}
    (own : ∀ m, (c.view T m).keys.find? (accountId, keyText) = some k)
    (open' : k.status = .inProgress)
    (h : Commits T n (query (release accountId keyText)) c r c') :
    c'.log = c.log.append { keys := [.delete (accountId, keyText)] } := by
  obtain ⟨skip, snap, cur, out, -, -, -, done, -, rfl, -⟩ := commits_query.mp h
  rw [Cursor.next_log]
  unfold release at done
  simp only [own, Option.filter_some, open', decide_true, if_true] at done
  cases done
  rfl

theorem view_own_key {k : IdempotencyKey} (log : c.log.keys = [.put k]) (m : Nat) :
    (c.view T m).keys.find? (k.accountId, k.key) = some k := by
  change (c.log.keys.foldl KeyChange.apply (T.state m).keys).find? (key k) = some k
  rw [log]
  exact (Table.find?_put ..).trans (if_pos rfl)

/-! ### Phase 1 -/

theorem mapBooking_ok {row : BookingRow} {passengers : List BookingPassenger} {b : Booking}
    (h : mapBooking row passengers = .ok b) :
    b.id = row.id ∧ b.status = row.status ∧ b.holdExpiresAt = row.holdExpiresAt ∧
      b.passengers = passengers ∧ bookingTotal passengers = .ok b.total := by
  unfold mapBooking at h
  cases total : bookingTotal passengers with
  | error e =>
      rw [total] at h
      cases h
  | ok sum =>
      rw [total] at h
      cases h
      exact ⟨rfl, rfl, rfl, rfl, rfl⟩

/-- Phase 1 started payment `p` for a booking it read as held, on versions `s₁`
and `s₂`; on version `cur` the booking had no payment in progress. -/
structure StartedOn (T : Timeline postgres) (n i : Nat) (bookingId : Option Uuid) (actor : Uuid)
    (request : PaymentRequest) (paymentId : Uuid) (reconcileAfterMs : Int) (now : Instant)
    (p : Payment) (row : BookingRow) (s₁ s₂ cur : Nat) : Prop where
  begun_le : i ≤ s₁
  row_le : s₁ ≤ s₂
  passengers_le : s₂ ≤ n
  cur_le : cur ≤ n
  requested : bookingId = some row.id
  read : (T.state s₁).bookings.find? row.id = some row
  held : row.status = .held
  deadline : ∃ deadline, row.holdExpiresAt = some deadline ∧ deadline > now + PAYMENT_START_MARGIN_MS
  total : bookingTotal ((passengersOf (T.state s₂) row.id).map mapPassenger) = .ok p.amount
  payment : p = NewPayment.toPayment
    ⟨paymentId, row.id, actor, p.amount, request.paymentMethodToken, now + reconcileAfterMs, now⟩
  fresh : (T.state n).payments.find? paymentId = none
  alone : ∀ q ∈ (T.state cur).payments, q.bookingId = row.id → q.status ≠ .processing
  kept : T.Keeps (.processingPayment row.id) cur n
  positive : p.amount.amount ≠ 0

/-- What a phase 1 that claimed its key came to: an answer, a release, or a
payment. -/
inductive ClaimedOn (T : Timeline postgres) (n i : Nat) (bookingId : Option Uuid) (actor : Uuid)
    (request : PaymentRequest) (paymentId : Uuid) (reconcileAfterMs : Int) (now : Instant)
    (k : IdempotencyKey) : Started → Cursor postgres → Prop where
  | answered {c' : Cursor postgres} (decision : PaymentDecision) :
      c'.log = { keys := [.put k, .put (k.answered (toStoredResponse decision) now)] } →
      ClaimedOn T n i bookingId actor request paymentId reconcileAfterMs now k
        (.result (.answered (toStoredResponse decision) false)) c'
  | released {c' : Cursor postgres} {r : PayForBookingResult} :
      (∀ response replayed, r ≠ .answered response replayed) →
      c'.log = { keys := [.put k, .delete (key k)] } →
      ClaimedOn T n i bookingId actor request paymentId reconcileAfterMs now k (.result r) c'
  | started {c' : Cursor postgres} {p : Payment} {row : BookingRow} {s₁ s₂ cur : Nat} :
      StartedOn T n i bookingId actor request paymentId reconcileAfterMs now p row s₁ s₂ cur →
      .processingPayment row.id ∈ exclusiveRows c'.held →
      c'.log = { keys := [.put k, .put { k with paymentId := some paymentId }], payments := [p] } →
      ClaimedOn T n i bookingId actor request paymentId reconcileAfterMs now k (.started p) c'

section Claimed

variable {bookingId : Option Uuid} {scope : BookingAccessScope} {actor : Uuid}
  {request : PaymentRequest} {paymentId : Uuid} {reconcileAfterMs : Int} {k : IdempotencyKey}

/-- The booking read in phase 1. -/
theorem findRequested_commits {r : Option Booking}
    (h : Commits T n (findRequested bookingId scope) c r c') :
    c'.log = c.log ∧ ∀ b, r = some b → ∃ id s₁ s₂ row, bookingId = some id ∧ c.pos ≤ s₁ ∧ s₁ ≤ s₂ ∧
      s₂ ≤ n ∧ (c.view T s₁).bookings.find? id = some row ∧
      mapBooking row ((passengersOf (c.view T s₂) id).map mapPassenger) = .ok b := by
  cases bookingId with
  | none =>
      obtain ⟨rfl, rfl⟩ := h
      exact ⟨rfl, fun b some => by cases some⟩
  | some id =>
      obtain ⟨log, found⟩ := findById_commits h
      refine ⟨log, fun b some => ?_⟩
      obtain ⟨s₁, s₂, row, le, le', le'', row?, -, mapped⟩ := found b some
      exact ⟨id, s₁, s₂, row, rfl, le, le', le'', row?, mapped⟩

theorem answerKey_commits {decision : PaymentDecision} {r : Started} {accountId : Uuid}
    {keyText : String} (own : ∀ m, (c.view T m).keys.find? (accountId, keyText) = some k)
    (h : Commits T n (answerKey accountId keyText decision now) c r c') :
    r = .result (.answered (toStoredResponse decision) false) ∧
      c'.log = c.log.append { keys := [.put (k.answered (toStoredResponse decision) now)] } := by
  obtain ⟨_, c₁, done, rfl, rfl⟩ := commits_bind.mp h
  exact ⟨rfl, updateKeyOrThrow_commits own done⟩

theorem insertPayment_commits (framed : T.Framed) {p : NewPayment} {r : Bool}
    (unwritten : c.log.payments = []) (h : Commits T n (query (insertPayment p)) c r c') :
    (r = false ∧ c'.log = c.log) ∨
    ∃ cur, r = true ∧ c.pos ≤ cur ∧ cur ≤ n ∧ (T.state n).payments.find? p.id = none ∧
      (∀ q ∈ (T.state cur).payments, q.bookingId = p.bookingId → q.status ≠ .processing) ∧
      T.Keeps (.processingPayment p.bookingId) cur n ∧
      .processingPayment p.bookingId ∈ exclusiveRows c'.held ∧
      c'.log = c.log.append { payments := [p.toPayment] } ∧ p.amount.amount ≠ 0 := by
  obtain ⟨skip, snap, cur, out, le₁, le₂, le₃, done, rfl, rfl, kept, agree⟩ :=
    (commits_query.mp h).outcome framed
  rcases insertPayment_ok done with ⟨reply, writes⟩ | ⟨reply, writes, fresh, alone, locks, positive⟩
  · exact .inl ⟨reply, by rw [Cursor.next_log, writes]; exact postgres.append_none _⟩
  · have written : p.toPayment ∈ out.writes.payments := by
      rw [writes]
      exact List.mem_singleton_self _
    have same : (c.view T cur).payments.find? p.id = (c.view T n).payments.find? p.id :=
      agree _ (out.touched_held (Changes.payment_touched written))
    have entry : Row.processingPayment p.bookingId ∈ exclusiveRows out.held :=
      out.locks_held (m := .update) (by rw [locks]; exact List.mem_singleton_self _) rfl
    rw [view_payments unwritten, view_payments unwritten] at same
    rw [view_payments unwritten] at fresh alone
    exact .inr ⟨cur, reply, Nat.le_trans le₁ le₂, le₃, same.symm.trans fresh, alone,
      kept _ entry, Cursor.mem_held_next (.inr entry), by rw [Cursor.next_log, writes], positive⟩

theorem startClaimed_commits (framed : T.Framed) {r : Started} (log : c.log = { keys := [.put k] })
    (account : k.accountId = actor) (text : k.key = request.idempotencyKey)
    (open' : k.status = .inProgress) (begun : i ≤ c.pos)
    (h : Commits T n (startClaimed bookingId scope actor request paymentId reconcileAfterMs now)
      c r c') :
    ClaimedOn T n i bookingId actor request paymentId reconcileAfterMs now k r c' := by
  have own : ∀ {c : Cursor postgres}, c.log = { keys := [.put k] } → ∀ m,
      (c.view T m).keys.find? (actor, request.idempotencyKey) = some k := fun log m => by
    rw [← account, ← text]
    exact view_own_key (by rw [log]) m
  obtain ⟨found, c₁, read, rest⟩ := commits_bind.mp h
  obtain ⟨same, found?⟩ := findRequested_commits read
  have log₁ : c₁.log = { keys := [.put k] } := same.trans log
  have answers : ∀ decision, Commits T n (answerKey actor request.idempotencyKey decision now)
      c₁ r c' → ClaimedOn T n i bookingId actor request paymentId reconcileAfterMs now k r c' := by
    intro decision done
    obtain ⟨rfl, log'⟩ := answerKey_commits (own log₁) done
    exact .answered decision (by rw [log', log₁]; rfl)
  cases found with
  | none => exact answers _ rest
  | some booking =>
  dsimp only at rest
  by_cases can : canStartPayment booking now
  swap
  · rw [if_pos (by simpa using can)] at rest
    exact answers _ rest
  rw [if_neg (by simpa using can)] at rest
  by_cases amount : request.amount = booking.total
  swap
  · rw [if_pos amount] at rest
    obtain ⟨_, c₂, gone, rfl, rfl⟩ := commits_bind.mp rest
    have log₂ := release_commits (own log₁) open' gone
    exact .released (fun _ _ h => by cases h) (by rw [log₂, log₁, ← account, ← text]; rfl)
  rw [if_neg (not_not.mpr amount)] at rest
  obtain ⟨inserted, c₂, insert, rest⟩ := commits_bind.mp rest
  rcases insertPayment_commits framed (by rw [log₁]) insert with ⟨rfl, log₂⟩ |
    ⟨cur, rfl, le, le', fresh, alone, kept, entry, log₂, positive⟩
  · obtain ⟨_, c₃, gone, rfl, rfl⟩ := commits_bind.mp rest
    have log₂ : c₂.log = { keys := [.put k] } := log₂.trans log₁
    have log₃ := release_commits (own log₂) open' gone
    exact .released (fun _ _ h => by cases h) (by rw [log₃, log₂, ← account, ← text]; rfl)
  · obtain ⟨_, c₃, attached, rfl, rfl⟩ := commits_bind.mp rest
    obtain ⟨id, s₁, s₂, row, requested, le₁, le₂, le₃, row?, mapped⟩ := found? booking rfl
    obtain ⟨id', status, deadline, -, total⟩ := mapBooking_ok mapped
    have keys₂ : c₂.log.keys = [.put k] := by rw [log₂, log₁]; rfl
    have log₃ := updateKeyOrThrow_commits (k := k) (fun m => by
      rw [← account, ← text]
      exact view_own_key keys₂ m) attached
    have here : row.id = id := Table.key_of_find? row?
    rw [view_bookings (by rw [log])] at row?
    rw [passengersOf, view_passengers (by rw [log]), ← passengersOf] at total
    simp only [canStartPayment, Bool.and_eq_true, decide_eq_true_eq, Option.any_eq_true] at can
    obtain ⟨held, due, due?, later⟩ := can
    subst here
    refine .started (?_ : StartedOn T n i bookingId actor request paymentId reconcileAfterMs now
      _ row s₁ s₂ cur) ?_ ?_
    · exact ⟨Nat.le_trans begun le₁, le₂, le₃, le', requested, row?, status.symm.trans held,
        ⟨due, deadline.symm.trans due?, later⟩, total, by simp [NewPayment.toPayment, id'],
        fresh, id' ▸ alone, id' ▸ kept, positive⟩
    · exact id' ▸ attached.held_mono entry
    · rw [log₃, log₂, log₁]
      rfl

/-- Phase 1 reported who has the key, as some version has it, or claimed it. -/
theorem startPayment_commits (framed : T.Framed) {r : Started}
    (h : Commits T n (startPayment bookingId scope actor request paymentId reconcileAfterMs now)
      (.start i) r c') :
    (c'.log = {} ∧ ∃ s row, i ≤ s ∧ s ≤ n ∧
      (T.state s).keys.find? (actor, request.idempotencyKey) = some row ∧
      ((row.requestFingerprint ≠ request.fingerprint ∧ r = .result .idempotencyKeyReused) ∨
        (row.requestFingerprint = request.fingerprint ∧ row.status = .inProgress ∧
          r = .result .idempotencyKeyInProgress) ∨
        ∃ response, row.requestFingerprint = request.fingerprint ∧ row.status = .completed ∧
          row.response = some response ∧ r = .result (.answered response true))) ∨
    ((T.state n).keys.find? (actor, request.idempotencyKey) = none ∧
      .key (actor, request.idempotencyKey) ∈ exclusiveRows c'.held ∧
      ClaimedOn T n i bookingId actor request paymentId reconcileAfterMs now
        (claimedKey actor request.idempotencyKey request.fingerprint now) r c') := by
  obtain ⟨claim, c₁, claimed, rest⟩ := commits_bind.mp h
  rcases claimWithin_commits framed rfl claimed with ⟨rfl, fresh, held, log⟩ |
    ⟨log, s, row, le, le', row?, ⟨status, rfl⟩ | ⟨response, status, response?, rfl⟩⟩
  · exact .inr ⟨fresh, rest.held_mono held,
      startClaimed_commits framed log rfl rfl rfl claimed.pos_le rest⟩
  · refine .inl ?_
    dsimp only at rest
    by_cases same : row.requestFingerprint = request.fingerprint
    · rw [if_neg (not_not.mpr same)] at rest
      obtain ⟨rfl, rfl⟩ := rest
      exact ⟨log, s, row, le, le', row?, .inr (.inl ⟨same, status, rfl⟩)⟩
    · rw [if_pos same] at rest
      obtain ⟨rfl, rfl⟩ := rest
      exact ⟨log, s, row, le, le', row?, .inl ⟨same, rfl⟩⟩
  · refine .inl ?_
    dsimp only at rest
    by_cases same : row.requestFingerprint = request.fingerprint
    · rw [if_neg (not_not.mpr same)] at rest
      obtain ⟨rfl, rfl⟩ := rest
      exact ⟨log, s, row, le, le', row?, .inr (.inr ⟨response, same, status, response?, rfl⟩)⟩
    · rw [if_pos same] at rest
      obtain ⟨rfl, rfl⟩ := rest
      exact ⟨log, s, row, le, le', row?, .inl ⟨same, rfl⟩⟩

end Claimed

/-! ### Settlement -/

/-- Payment `p` was in progress on version `n`, and so was key `k` that started it. -/
structure OpenOn (T : Timeline postgres) (n : Nat) (id : Uuid) (p : Payment) (k : IdempotencyKey) :
    Prop where
  payment : (T.state n).payments.find? id = some p
  processing : p.status = .processing
  key : k ∈ (T.state n).keys
  link : k.paymentId = some id
  inProgress : k.status = .inProgress

section Settled

variable {payment : Payment} {reason reference : String} {actor : AuditActor} {ids : SettleIds}
  {r : StoredResponse}

theorem answerPayment_commits (framed : T.Framed) {decision : PaymentDecision}
    (unwritten : c.log.keys = [])
    (h : Commits T n (answerPayment payment decision now) c r c') :
    r = toStoredResponse decision ∧ ∃ k, k ∈ (T.state n).keys ∧ k.paymentId = some payment.id ∧
      k.status = .inProgress ∧ c'.log = c.log.append { keys := [.put (k.answered r now)] } := by
  obtain ⟨_, c₁, done, rfl, rfl⟩ := commits_bind.mp h
  exact ⟨rfl, completeForPayment_commits framed unwritten done⟩

theorem declined_commits (framed : T.Framed)
    (h : Commits T n (declined payment reason actor ids now) (.start i) r c') :
    ∃ p k audit, OpenOn T n payment.id p k ∧ .payment payment.id ∈ exclusiveRows c'.held ∧
      r.status = 402 ∧
      c'.log = { payments := [p.moved .failed now none (some reason)], audit,
                 keys := [.put (k.answered r now)] } ∧
      c'.log.records = [(.paymentFailed, .payment payment.id)] := by
  obtain ⟨_, c₁, moved, rest⟩ := commits_bind.mp h
  obtain ⟨p, cur, found, status, log₁, held, -⟩ := transition_commits framed rfl moved
  obtain ⟨_, c₂, recorded, answered⟩ := commits_bind.mp rest
  have log₂ := recordAudit_commits recorded
  obtain ⟨rfl, k, mem, link, inProgress, log₃⟩ :=
    answerPayment_commits framed (by rw [log₂, log₁]; rfl) answered
  refine ⟨p, k, c₂.log.audit, ⟨found, status, mem, link, inProgress⟩,
    answered.held_mono (recorded.held_mono held), rfl, ?_, ?_⟩
  · rw [log₃, log₂, log₁]
    rfl
  · rw [log₃, log₂, log₁]
    rfl

theorem chargedTooLate_commits (framed : T.Framed) (clean : c.log = {})
    (h : Commits T n (chargedTooLate payment reference actor ids now) c r c') :
    ∃ p k audit, OpenOn T n payment.id p k ∧ .payment payment.id ∈ exclusiveRows c'.held ∧
      r.status = 409 ∧
      c'.log = { payments := [p.moved .refundPending now (some reference) none], audit,
                 keys := [.put (k.answered r now)] } ∧
      c'.log.records = [(.paymentRefundPending, .payment payment.id)] := by
  obtain ⟨_, c₁, moved, rest⟩ := commits_bind.mp h
  obtain ⟨p, cur, found, status, log₁, held, -⟩ := transition_commits framed (by rw [clean]) moved
  obtain ⟨_, c₂, recorded, answered⟩ := commits_bind.mp rest
  have log₂ := recordAudit_commits recorded
  obtain ⟨rfl, k, mem, link, inProgress, log₃⟩ :=
    answerPayment_commits framed (by rw [log₂, log₁, clean]; rfl) answered
  refine ⟨p, k, c₂.log.audit, ⟨found, status, mem, link, inProgress⟩,
    answered.held_mono (recorded.held_mono held), rfl, ?_, ?_⟩
  · rw [log₃, log₂, log₁, clean]
    rfl
  · rw [log₃, log₂, log₁, clean]
    rfl

/-- A charge came too late and is owed back, or confirmed the booking. -/
theorem charged_commits (framed : T.Framed)
    (h : Commits T n (charged payment reference actor ids now) (.start i) r c') :
    (∃ p k audit, OpenOn T n payment.id p k ∧ .payment payment.id ∈ exclusiveRows c'.held ∧
      r.status = 409 ∧
      c'.log = { payments := [p.moved .refundPending now (some reference) none], audit,
                 keys := [.put (k.answered r now)] } ∧
      c'.log.records = [(.paymentRefundPending, .payment payment.id)]) ∨
    ∃ p k booking snap cur audit outbox, OpenOn T n payment.id p k ∧
      ConfirmedOn T n payment.bookingId (.owner payment.accountId) now booking snap cur ∧
      i ≤ snap ∧ [(snap, cur)] <+: c'.spans ∧
      .payment payment.id ∈ exclusiveRows c'.held ∧
      .booking payment.bookingId ∈ exclusiveRows c'.held ∧ r.status = 201 ∧
      c'.log = { bookings := [{ booking with status := .confirmed }],
                 seats := (lockedSeats [payment.bookingId] (T.state snap) (T.state cur)).map bookSeat,
                 payments := [p.moved .succeeded now (some reference) none], audit, outbox,
                 keys := [.put (k.answered r now)] } ∧
      c'.log.records = [(.bookingConfirmed, .booking payment.bookingId)] ∧
      c'.log.events = [(.bookingConfirmed, some payment.bookingId, now)] := by
  obtain ⟨confirmed, c₁, confirms, rest⟩ := commits_bind.mp h
  rcases confirmHold_commits framed confirms with ⟨rfl, log₁⟩ |
    ⟨booking, confirmed', snap, cur, at', on, le, spans, held, rfl, log₁, -, -, mapped⟩
  · exact .inl (chargedTooLate_commits framed log₁ rest)
  · refine .inr ?_
    obtain ⟨_, c₂, moved, rest⟩ := commits_bind.mp rest
    obtain ⟨p, cur', found, status, log₂, heldP, -⟩ := transition_commits framed (by rw [log₁]) moved
    obtain ⟨_, c₃, recorded, rest⟩ := commits_bind.mp rest
    have log₃ := recordAudit_commits recorded
    obtain ⟨passengers, -, rest⟩ := commits_orThrow_bind.mp rest
    obtain ⟨_, c₄, enqueued, answered⟩ := commits_bind.mp rest
    have log₄ := enqueue_commits enqueued
    obtain ⟨rfl, k, mem, link, inProgress, log₅⟩ :=
      answerPayment_commits framed (by rw [log₄, log₃, log₂, log₁]; rfl) answered
    have here : confirmed'.id = payment.bookingId :=
      (mapBooking_ok mapped).1.trans (Table.key_of_find? on.current)
    refine ⟨p, k, booking, snap, cur, c₃.log.audit, c₄.log.outbox, ⟨found, status, mem, link, inProgress⟩, on, le,
      (((spans.trans moved.spans_prefix).trans recorded.spans_prefix).trans
        enqueued.spans_prefix).trans answered.spans_prefix,
      answered.held_mono (enqueued.held_mono (recorded.held_mono heldP)),
      answered.held_mono (enqueued.held_mono (recorded.held_mono (moved.held_mono held))),
      rfl, ?_, ?_, ?_⟩
    · rw [log₅, log₄, log₃, log₂, log₁]
      simp only [Changes.append, List.append_nil, List.nil_append]
    · rw [log₅, log₄, log₃, log₂, log₁, ← here]
      rfl
    · rw [log₅, log₄, log₃, log₂, log₁, ← here]
      rfl

end Settled

/-! ### Recordings -/

/-- The status a recording leaves the refund in. -/
def RefundRecord.status : RefundRecord → PaymentStatus
  | .refunded => .refunded
  | .refundFailed _ => .refundFailed

/-- The action it is audited as. -/
def RefundRecord.reason : RefundRecord → Option String
  | .refunded => none
  | .refundFailed reason => some reason

def RefundRecord.action : RefundRecord → AuditAction
  | .refunded => .paymentRefunded
  | .refundFailed _ => .paymentRefundFailed

/-- A refund's outcome was recorded for a payment that was to be refunded. -/
theorem recordRefund_commits (framed : T.Framed) {payment : Payment} {record : RefundRecord}
    {auditId : Uuid} {r : Unit}
    (h : Commits T n (recordRefund payment record auditId now) (.start i) r c') :
    ∃ p audit, (T.state n).payments.find? payment.id = some p ∧ p.status = .refundPending ∧
      .payment payment.id ∈ exclusiveRows c'.held ∧
      c'.log = { payments := [p.moved record.status now none record.reason], audit } ∧
      c'.log.records = [(record.action, .payment payment.id)] := by
  obtain ⟨_, c₁, marked, recorded⟩ := commits_bind.mp h
  have moved : Commits T n
      (transition payment.id .refundPending record.status now none record.reason) (.start i) () c₁ := by
    cases record with
    | refunded => exact marked
    | refundFailed text => exact marked
  obtain ⟨p, cur, found, status, log₁, held, -⟩ := transition_commits framed rfl moved
  have log₂ := recordAudit_commits recorded
  refine ⟨p, c'.log.audit, found, status, recorded.held_mono held, ?_, ?_⟩
  · rw [log₂, log₁]
    rfl
  · rw [log₂, log₁]
    cases record <;> rfl

/-- Keys that were deleted were answered, and older than the cutoff. -/
theorem deleteCompletedBefore_commits (framed : T.Framed) {cutoff : Instant} {limit : Nat} {r : Nat}
    (h : Commits T n (query (deleteCompletedBefore cutoff limit)) (.start i) r c') :
    ∃ old : List IdempotencyKey, c'.log = { keys := old.map fun k => .delete (key k) } ∧
      ∀ k ∈ old, k ∈ (T.state n).keys ∧ k.status = .completed ∧ k.createdAt < cutoff := by
  obtain ⟨skip, snap, cur, out, le₁, le₂, le₃, done, rfl, rfl, kept, agree⟩ :=
    (commits_query.mp h).outcome framed
  simp only [Cursor.start_view] at done agree
  obtain ⟨old, -, writes, expired⟩ := deleteCompletedBefore_ok done
  refine ⟨old, by rw [Cursor.next_log, Cursor.start_log, writes]; rfl, fun k mem => ?_⟩
  have written : KeyChange.delete (key k) ∈ out.writes.keys := by
    rw [writes]
    exact List.mem_map_of_mem mem
  exact ⟨keys_current agree rfl written (expired k mem).1, (expired k mem).2⟩

end FlightBooking
