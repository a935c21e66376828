import Mathlib.Data.List.Basic
import Mathlib.Data.List.Nodup
import Mathlib.Logic.Relation
import Mathlib.Order.Basic

/-!
A relay: entries are written down in one order and handed on in another.

Whoever hands an entry on has looked at the entries written so far, perhaps some
time ago, and has handed on every one of those that carries an earlier time. Then
of two entries the one written first is handed on first whenever its time is the
earlier one (`Relay.in_order`); nothing is said of the others.
-/

/-- The entries written so far, in the order in which they were, and those handed
on so far. An entry may be handed on more than once. -/
structure Relay (ε : Type) where
  written : List ε := []
  handed : List ε := []

namespace Relay

variable {ε τ : Type} [LT τ] (time : ε → τ)

inductive Step : Relay ε → Relay ε → Prop where
  | write {r : Relay ε} {es : List ε} : (r.written ++ es).Nodup →
      Step r { r with written := r.written ++ es }
  | hand {r : Relay ε} {seen : List ε} {e : ε} : seen <+: r.written → e ∈ seen →
      (∀ e' ∈ seen, time e' < time e → e' ∈ r.handed) →
      Step r { r with handed := r.handed ++ [e] }

def Reachable (r : Relay ε) : Prop := Relation.ReflTransGen (Step time) {} r

/-- No entry is handed on before one that was written earlier and has an earlier time. -/
structure Ordered (r : Relay ε) : Prop where
  distinct : r.written.Nodup
  written : ∀ e ∈ r.handed, e ∈ r.written
  inOrder : ∀ a b, [a, b].Sublist r.written → time a < time b →
    ∀ before after, r.handed = before ++ b :: after → a ∈ before

variable {time}

/-- What was written before an entry one has seen, one has seen. -/
theorem sublist_seen {l seen : List ε} {a b : ε} (distinct : l.Nodup) (ahead : seen <+: l)
    (mem : b ∈ seen) (order : [a, b].Sublist l) : [a, b].Sublist seen := by
  obtain ⟨rest, rfl⟩ := ahead
  obtain ⟨left, right, both, inSeen, inRest⟩ := List.sublist_append_iff.mp order
  -- `b` is not among the rest, so nothing of the pair is.
  cases right with
  | nil =>
      rw [List.append_nil] at both
      exact both ▸ inSeen
  | cons x right =>
      have last : b ∈ x :: right := by
        have at' : ([a, b] : List ε).getLast? = (left ++ x :: right).getLast? := congrArg _ both
        rw [List.getLast?_append_cons] at at'
        exact List.mem_of_getLast? at'.symm
      exact absurd (inRest.subset last) (List.disjoint_of_nodup_append distinct mem)

theorem Ordered.step {r r' : Relay ε} (ordered : Ordered time r) (h : Step time r r') :
    Ordered time r' := by
  cases h with
  | write distinct =>
      constructor
      · exact distinct
      · exact fun e mem => List.mem_append_left _ (ordered.written e mem)
      · intro a b order earlier before after handed
        have old : b ∈ r.written := by
          refine ordered.written b ?_
          rw [show r.handed = _ from handed]
          exact List.mem_append_right _ List.mem_cons_self
        have order' := sublist_seen distinct (List.prefix_append _ _) old order
        exact ordered.inOrder a b order' earlier before after handed
  | @hand seen e ahead mem complete =>
      constructor
      · exact ordered.distinct
      · intro x handed
        rcases List.mem_append.mp handed with handed | handed
        · exact ordered.written x handed
        · obtain rfl := List.mem_singleton.mp handed
          exact ahead.subset mem
      · intro a b order earlier before after handed
        have split : r.handed ++ [e] = before ++ b :: after := handed
        rcases List.eq_nil_or_concat after with rfl | ⟨after, last, rfl⟩
        · obtain ⟨same, isLast⟩ := List.append_inj' split rfl
          obtain rfl := List.head_eq_of_cons_eq isLast
          have seenA := (sublist_seen ordered.distinct ahead mem order).subset List.mem_cons_self
          exact same ▸ complete a seenA earlier
        · rw [List.concat_eq_append, ← List.cons_append, ← List.append_assoc] at split
          obtain ⟨same, -⟩ := List.append_inj' split rfl
          exact ordered.inOrder a b order earlier before after same

theorem Reachable.ordered {r : Relay ε} (h : Reachable time r) : Ordered time r := by
  induction h with
  | refl =>
      constructor
      · exact List.nodup_nil
      · exact fun e mem => absurd mem List.not_mem_nil
      · intro a b order
        cases order
  | tail _ step ih => exact ih.step step

/-- Of two entries, the one written first is handed on first if its time is the earlier one. -/
theorem in_order {r : Relay ε} (h : Reachable time r) {a b : ε} (order : [a, b].Sublist r.written)
    (earlier : time a < time b) {before after : List ε} (handed : r.handed = before ++ b :: after) :
    a ∈ before :=
  h.ordered.inOrder a b order earlier before after handed

end Relay
