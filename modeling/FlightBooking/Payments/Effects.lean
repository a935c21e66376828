import FlightBooking.Bookings.Effects
import FlightBooking.Payments.Transactions

/-!
What each payment and key statement can do, one lemma a statement, and what the
repositories' methods come to inside a transaction that commits.
-/

namespace FlightBooking

open Relational ReadCommitted

variable {skip : List Row} {snap cur : Db} {T : Timeline postgres} {n : Nat}
  {c c' : Cursor postgres} {now : Instant}

/-! ### Payment statements -/

theorem writePayment_ok {ρ : Type} {p : Payment} {reply : ρ} {locks : List (Row × LockMode)} {out}
    (h : writePayment p reply locks = .ok out) :
    out.reply = reply ∧ out.writes = { payments := [p] } ∧ checkPayment p = none ∧
      out.locks = locks := by
  unfold writePayment at h
  split at h
  · cases h
  · rename_i valid
    cases h
    exact ⟨rfl, rfl, valid, rfl⟩

theorem checkPayment_positive {p : Payment} (h : checkPayment p = none) : p.amount.amount ≠ 0 := by
  intro zero
  simp [checkPayment, zero] at h

theorem checkPayment_eq_some {p : Payment} {e : Failure} (h : checkPayment p = some e) :
    ∃ constraint, e = .checkViolation constraint := by
  unfold checkPayment at h
  repeat' split at h
  all_goals cases h
  all_goals exact ⟨_, rfl⟩

theorem insertPayment_ok {p : NewPayment} {out} (h : insertPayment p skip snap cur = .ok out) :
    (out.reply = false ∧ out.writes = {}) ∨
      (out.reply = true ∧ out.writes = { payments := [p.toPayment] } ∧
        cur.payments.find? p.id = none ∧
        (∀ q ∈ cur.payments, q.bookingId = p.bookingId → q.status ≠ .processing) ∧
        out.locks = [(.processingPayment p.bookingId, .update)] ∧ p.amount.amount ≠ 0) := by
  unfold insertPayment at h
  split at h
  · cases h
    exact .inl ⟨rfl, rfl⟩
  · rename_i alone
    split at h
    · cases h
    · rename_i fresh
      obtain ⟨reply, writes, valid, locks⟩ := writePayment_ok h
      refine .inr ⟨reply, writes, by simpa using fresh, fun q mem same processing => alone ?_, locks,
        checkPayment_positive valid⟩
      exact List.any_eq_true.mpr ⟨q, mem, by simp [same, processing]⟩

/-- A transition moved nothing, or the payment as it is now. -/
theorem movePayment_ok {id : Uuid} {before after : PaymentStatus} {reference reason : Option String}
    {out} (h : movePayment id before after now reference reason skip snap cur = .ok out) :
    (out.reply = false ∧ out.writes = {}) ∨
    ∃ p, cur.payments.find? id = some p ∧ p.status = before ∧ out.reply = true ∧
      out.writes = { payments := [p.moved after now reference reason] } ∧
      (after = .succeeded →
        ∀ q ∈ cur.payments, q.bookingId = p.bookingId → q.status = .succeeded → q.id = p.id) := by
  unfold movePayment at h
  split at h
  · cases h
    exact .inl ⟨rfl, rfl⟩
  · extract_lets locks at h
    split at h
    · cases h
      exact .inl ⟨rfl, rfl⟩
    · rename_i p newest
      split at h
      · cases h
      · rename_i only
        obtain ⟨found, status⟩ := Option.filter_eq_some_iff.mp newest
        obtain ⟨reply, writes, -⟩ := writePayment_ok h
        refine .inr ⟨p, found, by simpa using status, reply, writes, fun to' q mem same paid => ?_⟩
        by_contra ne
        exact only ⟨to', List.any_eq_true.mpr ⟨q, mem, by simp [same, paid, ne]⟩⟩

theorem movePayment_error {id : Uuid} {before after : PaymentStatus}
    {reference reason : Option String} {e : Failure}
    (h : movePayment id before after now reference reason skip snap cur = .error e) :
    ∃ constraint, e = .uniqueViolation constraint ∨ e = .checkViolation constraint := by
  unfold movePayment at h
  split at h
  · cases h
  · extract_lets locks at h
    split at h
    · cases h
    · split at h
      · cases h
        exact ⟨_, .inl rfl⟩
      · unfold writePayment at h
        split at h
        · rename_i e' invalid
          cases h
          obtain ⟨constraint, rfl⟩ := checkPayment_eq_some invalid
          exact ⟨constraint, .inr rfl⟩
        · cases h

theorem isPaidFor_iff {bookingId : Uuid} {p : Payment} :
    isPaidFor bookingId p = true ↔ p.bookingId = bookingId ∧ p.status = .succeeded := by
  simp [isPaidFor]

theorem markRefundPendingForCancelledBooking_ok {bookingId : Uuid} {out}
    (h : markRefundPendingForCancelledBooking bookingId now skip snap cur = .ok out) :
    let paid := snap.payments.recheck cur.payments (isPaidFor bookingId)
    out.reply = (paid.map (·.refundStarted now)).head? ∧
      out.writes = { payments := paid.map (·.refundStarted now) } := by
  unfold markRefundPendingForCancelledBooking at h
  extract_lets updated at h
  split at h
  · cases h
  · cases h
    exact ⟨rfl, rfl⟩

theorem markRefundPendingForCancelledBooking_error {bookingId : Uuid} {e : Failure}
    (h : markRefundPendingForCancelledBooking bookingId now skip snap cur = .error e) :
    ∃ constraint, e = .checkViolation constraint := by
  unfold markRefundPendingForCancelledBooking at h
  extract_lets updated at h
  split at h
  · rename_i invalid
    cases h
    obtain ⟨p, -, invalid⟩ := List.exists_of_findSome?_eq_some invalid
    exact checkPayment_eq_some invalid
  · cases h

theorem isPaymentDue_status {p : Payment} (h : isPaymentDue now p = true) :
    p.status = .processing ∨ p.status = .refundPending := by
  simp only [isPaymentDue, Bool.and_eq_true, Bool.or_eq_true, decide_eq_true_eq] at h
  exact h.1

theorem again_found (now : Instant) (snap cur : Db) :
    (cur.payments.again (isPaymentDue now)
      ((snap.payments.rows.filter (isPaymentDue now)).insertionSort Payment.dueBefore)).Perm
    (snap.payments.recheck cur.payments (isPaymentDue now)) :=
  Table.again_perm (List.perm_insertionSort ..)

theorem mem_duePayments {limit : Nat} {p : Payment}
    (h : p ∈ duePayments now limit skip snap cur) : p ∈ cur.payments ∧ isPaymentDue now p = true := by
  have found := (List.mem_filter.mp (List.mem_of_mem_take h)).1
  obtain ⟨mem, due, -⟩ := Table.mem_recheck.mp ((again_found now snap cur).mem_iff.mp found)
  exact ⟨mem, due⟩

theorem nodup_duePayments (now : Instant) (limit : Nat) (skip : List Row) (snap cur : Db) :
    ((duePayments now limit skip snap cur).map key).Nodup := by
  refine List.Nodup.sublist (((List.take_sublist ..).trans List.filter_sublist).map key) ?_
  exact ((again_found now snap cur).map key).nodup_iff.mpr (Table.nodup_recheck ..)

/-- A claim leases some due payments and answers them as leased. -/
theorem claimDue_ok {leaseMs : Int} {limit : Nat} {out}
    (h : claimDue now leaseMs limit skip snap cur = .ok out) :
    ∃ due : List Payment, (due.map key).Nodup ∧
      (∀ p ∈ due, p ∈ cur.payments ∧ isPaymentDue now p = true) ∧
      out.writes = { payments := due.map (·.claimed now leaseMs) } ∧
      out.reply.Perm (due.map (·.claimed now leaseMs)) := by
  cases h
  exact ⟨_, nodup_duePayments .., fun p mem => mem_duePayments mem, rfl,
    List.perm_insertionSort ..⟩

theorem postponePayment_ok {id : Uuid} {status : PaymentStatus} {at' : Instant} {out}
    (h : postponePayment id status at' skip snap cur = .ok out) :
    (out.reply = false ∧ out.writes = {}) ∨
    ∃ p, cur.payments.find? id = some p ∧ p.status = status ∧ out.reply = true ∧
      out.writes = { payments := [{ p with nextAttemptAt := some at' }] } := by
  unfold postponePayment at h
  split at h
  · cases h
    exact .inl ⟨rfl, rfl⟩
  · extract_lets locks at h
    split at h
    · cases h
      exact .inl ⟨rfl, rfl⟩
    · rename_i p newest
      obtain ⟨found, same⟩ := Option.filter_eq_some_iff.mp newest
      obtain ⟨reply, writes, -⟩ := writePayment_ok h
      exact .inr ⟨p, found, by simpa using same, reply, writes⟩

/-! ### Key statements -/

theorem insertKey_ok {accountId : Uuid} {keyText fingerprint : String} {out}
    (h : insertKey accountId keyText fingerprint now skip snap cur = .ok out) :
    (out.reply = false ∧ out.writes = {}) ∨
      (out.reply = true ∧ cur.keys.find? (accountId, keyText) = none ∧
        out.writes = { keys := [.put ⟨accountId, keyText, fingerprint, .inProgress, none, none, now,
          none⟩] }) := by
  unfold insertKey at h
  split at h
  · cases h
    exact .inl ⟨rfl, rfl⟩
  · rename_i fresh
    cases h
    exact .inr ⟨rfl, by simpa using fresh, rfl⟩

theorem updateKey_ok {accountId : Uuid} {keyText : String} {assign : IdempotencyKey → IdempotencyKey}
    {out} (h : updateKey accountId keyText assign skip snap cur = .ok out) :
    (out.reply = false ∧ out.writes = {}) ∨
    ∃ k, cur.keys.find? (accountId, keyText) = some k ∧ k.status = .inProgress ∧
      out.reply = true ∧ out.writes = { keys := [.put (assign k)] } ∧
      ((assign k).paymentId.isSome →
        ∀ o ∈ cur.keys, o.paymentId = (assign k).paymentId → key o = key k) := by
  unfold updateKey at h
  split at h
  · cases h
    exact .inl ⟨rfl, rfl⟩
  · extract_lets locks at h
    split at h
    · cases h
      exact .inl ⟨rfl, rfl⟩
    · rename_i k newest
      extract_lets new at h
      split at h
      · cases h
      · rename_i only
        cases h
        obtain ⟨found, status⟩ := Option.filter_eq_some_iff.mp newest
        refine .inr ⟨k, found, by simpa using status, rfl, rfl, fun linked o mem same => ?_⟩
        by_contra ne
        exact only ⟨linked, List.any_eq_true.mpr ⟨o, mem, by simp [new, same, ne]⟩⟩

/-- The IN_PROGRESS keys of a payment are answered. -/
theorem completeKeyOfPayment_ok {paymentId : Uuid} {response : StoredResponse} {out}
    (h : completeKeyOfPayment paymentId response now skip snap cur = .ok out) :
    ∃ found : List IdempotencyKey, out.reply = found.length ∧ (found.map key).Nodup ∧
      out.writes = { keys := found.map fun k => .put (k.answered response now) } ∧
      (∀ k ∈ found, k ∈ cur.keys ∧ k.paymentId = some paymentId ∧ k.status = .inProgress) ∧
      ∀ k ∈ cur.keys, k ∈ snap.keys → k.paymentId = some paymentId → k.status = .inProgress →
        k ∈ found := by
  cases h
  refine ⟨_, rfl, Table.nodup_recheck .., rfl, fun k mem => ?_, fun k mem old link status => ?_⟩
  · obtain ⟨mem, isOpen, -⟩ := Table.mem_recheck.mp mem
    exact ⟨mem, by simpa using isOpen⟩
  · exact Table.mem_recheck.mpr ⟨mem, by simp [link, status], k, old, rfl, by simp [link, status]⟩

theorem deleteCompletedBefore_ok {cutoff : Instant} {limit : Nat} {out}
    (h : deleteCompletedBefore cutoff limit skip snap cur = .ok out) :
    ∃ old : List IdempotencyKey, out.reply = old.length ∧
      out.writes = { keys := old.map fun k => .delete (key k) } ∧
      ∀ k ∈ old, k ∈ cur.keys ∧ k.status = .completed ∧ k.createdAt < cutoff := by
  cases h
  refine ⟨_, rfl, rfl, fun k mem => ?_⟩
  have sorted := (List.mem_insertionSort _).mp (List.mem_of_mem_take mem)
  obtain ⟨mem, expired, -⟩ := Table.mem_recheck.mp (List.mem_filter.mp sorted).1
  exact ⟨mem, by simpa [isExpiredKey] using expired⟩

theorem release_ok {accountId : Uuid} {keyText : String} {out}
    (h : release accountId keyText skip snap cur = .ok out) :
    out.writes = {} ∨ ∃ k, cur.keys.find? (accountId, keyText) = some k ∧ k.status = .inProgress ∧
      out.writes = { keys := [.delete (accountId, keyText)] } := by
  unfold release at h
  split at h
  · cases h
    exact .inl rfl
  · extract_lets locks at h
    split at h
    · cases h
      exact .inl rfl
    · rename_i k newest
      cases h
      obtain ⟨found, status⟩ := Option.filter_eq_some_iff.mp newest
      exact .inr ⟨k, found, by simpa using status, rfl⟩

end FlightBooking
