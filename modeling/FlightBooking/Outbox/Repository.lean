import FlightBooking.Database
import Mathlib.Data.List.Sort

/-!
The outbox as the relay uses it. `ORDER BY created_at` has no second key: rows
of one instant come in the order the storage happens to give, which is an
argument of the query.
-/

namespace FlightBooking

open Relational ReadCommitted

/-- `created_at`, then the storage's order. -/
def OutboxRow.before (storage : Uuid → Nat) (a b : OutboxRow) : Prop :=
  a.entry.createdAt < b.entry.createdAt ∨
    (a.entry.createdAt = b.entry.createdAt ∧ storage a.entry.id ≤ storage b.entry.id)

instance (storage : Uuid → Nat) : DecidableRel (OutboxRow.before storage) :=
  fun _ _ => inferInstanceAs (Decidable (_ ∨ _))

def unpublishedRows (storage : Uuid → Nat) (db : Db) : List OutboxRow :=
  (db.outbox.rows.filter fun r => r.publishedAt.isNone).insertionSort (OutboxRow.before storage)

def findUnpublished (limit : Nat) (storage : Uuid → Nat) : Statement postgres (List OutboxEntry) :=
  fun _ snap _ => .ok { reply := ((unpublishedRows storage snap).take limit).map (·.entry) }

/-- `UPDATE outbox SET published_at … WHERE id`. -/
def markPublished (id : Uuid) (now : Instant) : Statement postgres Unit :=
  fun _ snap cur =>
    let found := snap.outbox.recheck cur.outbox fun r => r.entry.id = id
    .ok { reply := (), writes := { outbox := found.map fun r => { r with publishedAt := some now } } }

end FlightBooking
