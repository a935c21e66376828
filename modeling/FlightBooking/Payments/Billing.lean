import FlightBooking.Bookings.CancelAnswers
import FlightBooking.Bookings.Totals
import FlightBooking.Payments.Copies

/-!
What a payment pays for.

Phase 1 reads the booking and its passengers in two statements and starts a payment of
what the second one's prices add up to. The prices of a booking are written with it and
never again (`prices_stay`), so whatever was committed between the two reads and since, a
payment is for the total of its booking (`billed_of_reachable`).
-/

namespace FlightBooking

open Relational ReadCommitted

variable {α : Type} {airports : Table Airport} {env : Env} {threads : Nat → App.Thread app α}
  {p : Pool app α} {id : Uuid}

/-- Every payment is for a stored booking, and for what its passengers' seats cost. -/
def Billed (db : Db) : Prop :=
  ∀ payment ∈ db.payments, (∃ b, db.bookings.find? payment.bookingId = some b) ∧
    sumMoney (db.prices payment.bookingId) = .ok payment.amount

/-- The prices of a booking stay as they were stored with it. -/
theorem prices_stay (h : (Pool.initial { airports } env threads : Pool app α).Reachable p)
    {a m : Nat} {b : BookingRow} (found : (p.world.state a).bookings.find? id = some b) (le : a ≤ m)
    (le' : m ≤ p.world.commits.length) : (p.world.state m).prices id = (p.world.state a).prices id := by
  have good := (Pool.initial_good _ env threads).reachable h
  have ran := ran_of_sound good.sound
  induction m, le using Nat.le_induction with
  | base => rfl
  | succ m le ih =>
      obtain ⟨i, x, now, r, c', committed, done⟩ := ran m le'
      obtain ⟨status, there⟩ := ran.unfolds.booking_fixed found le (Nat.le_of_succ_le le')
      rcases committed.prices good.sound.framed done (seated_of_reachable h (Nat.le_of_succ_le le')) id
        with same | ⟨booking, -, new, -⟩
      · exact Eq.trans same (ih (Nat.le_of_succ_le le'))
      · cases new.symm.trans there

/-- In every version of every run, every payment is for the total of its booking. -/
theorem billed_of_reachable (h : (Pool.initial { airports } env threads : Pool app α).Reachable p)
    {m : Nat} (le : m ≤ p.world.commits.length) : Billed (p.world.state m) := by
  have good := (Pool.initial_good _ env threads).reachable h
  have unfolds := unfolds_of_sound good.sound
  induction m with
  | zero =>
      intro payment mem
      rw [World.state_zero, h.initial_eq] at mem
      exact absurd mem (Table.not_mem_empty payment)
  | succ m ih =>
      have le' := Nat.le_of_succ_le le
      obtain ⟨i, x, now, r, c', committed⟩ := unfolds m le
      have change := fun id => committed.effect.payment id
      rw [← committed.next] at change
      -- A booking that is stored stays, with its prices.
      have stays : ∀ {a : Nat} {bookingId : Uuid} {b : BookingRow}, a ≤ m + 1 →
          (p.world.state a).bookings.find? bookingId = some b →
          (∃ b', (p.world.state (m + 1)).bookings.find? bookingId = some b') ∧
            (p.world.state (m + 1)).prices bookingId = (p.world.state a).prices bookingId := by
        intro a bookingId b before found
        obtain ⟨status, there⟩ := unfolds.booking_fixed found before le
        exact ⟨⟨_, there⟩, prices_stay h found before le⟩
      intro payment mem
      replace change := change payment.id
      rw [show (p.world.timeline.state (m + 1)).payments.find? payment.id = some payment from
        Table.find?_of_mem mem] at change
      generalize before : (p.world.timeline.state m).payments.find? payment.id = o at change
      cases o with
      | some q =>
          obtain ⟨payment', same, bill⟩ := change.bill
          cases same
          obtain ⟨-, booking, -, amount⟩ := Payment.bill_iff.mp bill
          obtain ⟨⟨b, found⟩, total⟩ := ih le' q (Table.mem_of_find? before)
          obtain ⟨there, prices⟩ := stays (Nat.le_succ m) found
          rw [booking, amount, prices]
          exact ⟨there, total⟩
      | none =>
          cases change with
          | started on =>
              have booking := congrArg Payment.bookingId on.payment
              obtain ⟨status, found⟩ := unfolds.booking_fixed on.read on.row_le
                (on.passengers_le.trans le')
              obtain ⟨there, prices⟩ := stays (on.passengers_le.trans (Nat.le_succ m)) found
              have total := on.total
              rw [bookingTotal_passengersOf] at total
              rw [booking]
              exact ⟨there, by rw [← total]; exact congrArg _ prices⟩

end FlightBooking
