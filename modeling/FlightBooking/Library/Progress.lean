import Mathlib.Data.List.Basic
import Mathlib.Order.Monotone.Basic

/-!
Histories that only move forward.

`times P f n` counts the steps among the first `n` of a history `f` that `P`
describes. Where a rank never falls, a kind of step that carries it over one mark
happens at most once (`times_le_one`): the lifecycle of a row is such a history.
-/

namespace Progress

variable {α : Type}

/-- How many of the first `n` steps of the history satisfy `P`. -/
def times (P : α → α → Bool) (f : Nat → α) (n : Nat) : Nat :=
  (List.range n).countP fun j => P (f j) (f (j + 1))

@[simp] theorem times_zero (P : α → α → Bool) (f : Nat → α) : times P f 0 = 0 := rfl

theorem times_succ (P : α → α → Bool) (f : Nat → α) (n : Nat) :
    times P f (n + 1) = times P f n + if P (f n) (f (n + 1)) then 1 else 0 := by
  simp [times, List.range_succ, List.countP_append, List.countP_singleton]

variable {rank : α → Nat} {f : Nat → α} {n : Nat}

/-- A rank that never falls from one version to the next never falls. -/
theorem rank_mono (forward : ∀ j < n, rank (f j) ≤ rank (f (j + 1))) {i j : Nat} (le : i ≤ j)
    (le' : j ≤ n) : rank (f i) ≤ rank (f j) := by
  induction j, le using Nat.le_induction with
  | base => exact Nat.le_refl _
  | succ j le ih => exact Nat.le_trans (ih (by omega)) (forward j (by omega))

/-- A step over the mark `r` is taken at most once, and not before the mark is
passed. -/
theorem times_le_one (forward : ∀ j < n, rank (f j) ≤ rank (f (j + 1))) {P : α → α → Bool} {r : Nat}
    (crosses : ∀ j < n, P (f j) (f (j + 1)) = true → rank (f j) < r ∧ r ≤ rank (f (j + 1))) :
    times P f n ≤ 1 ∧ (times P f n = 1 → r ≤ rank (f n)) := by
  induction n with
  | zero => simp
  | succ n ih =>
      obtain ⟨le, passed⟩ := ih (fun j lt => forward j (by omega)) fun j lt => crosses j (by omega)
      rw [times_succ]
      by_cases now : P (f n) (f (n + 1)) = true
      · obtain ⟨below, above⟩ := crosses n (Nat.lt_succ_self n) now
        have before : times P f n = 0 := by
          by_contra taken
          have past := passed (by omega)
          omega
        simp [now, before, above]
      · have later := forward n (Nat.lt_succ_self n)
        simp only [now, Bool.false_eq_true, if_false, Nat.add_zero]
        exact ⟨le, fun one => Nat.le_trans (passed one) later⟩

end Progress
