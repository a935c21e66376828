import Mathlib.Data.List.Sort

/-!
Answers in order.

`Lowest r n pool picked` says that `picked` is what `ORDER BY r LIMIT n` answers on
the rows `pool`: `n` of them, in order, and none of the others before one of them.
-/

namespace Ordering

variable {α : Type} {r : α → α → Prop}

/-- `picked` are the `n` first of `pool`, in order. -/
structure Lowest (r : α → α → Prop) (n : Nat) (pool picked : List α) : Prop where
  length : picked.length = n
  mem : ∀ a ∈ picked, a ∈ pool
  ordered : picked.Pairwise fun a b => r a b ∧ a ≠ b
  rest : ∀ a ∈ pool, a ∉ picked → ∀ b ∈ picked, r b a

variable [DecidableRel r]

/-- Distinct rows sorted are strictly in order. -/
theorem strict_insertionSort [Std.Total r] [IsTrans α r] {pool : List α} (distinct : pool.Nodup) :
    (pool.insertionSort r).Pairwise fun a b => r a b ∧ a ≠ b :=
  (List.pairwise_insertionSort r pool).and
    ((List.perm_insertionSort r pool).nodup_iff.mpr distinct)

theorem lowest_take [Std.Total r] [IsTrans α r] {pool : List α} {n : Nat} (distinct : pool.Nodup)
    (enough : n ≤ pool.length) : Lowest r n pool ((pool.insertionSort r).take n) where
  length := by simpa using enough
  mem a mem := (List.mem_insertionSort r).mp (List.mem_of_mem_take mem)
  ordered := (strict_insertionSort distinct).sublist (List.take_sublist ..)
  rest a mem out b picked := by
    have sorted := List.pairwise_insertionSort r pool
    rw [← List.take_append_drop n (pool.insertionSort r), List.pairwise_append] at sorted
    have later : a ∈ (pool.insertionSort r).drop n := by
      have all : a ∈ (pool.insertionSort r).take n ++ (pool.insertionSort r).drop n := by
        rw [List.take_append_drop]
        exact (List.mem_insertionSort r).mpr mem
      exact (List.mem_append.mp all).resolve_left out
    exact sorted.2.2 b picked a later

/-- Rows that `ORDER BY` leaves no choice about are answered in one order, however they
are stored. -/
theorem insertionSort_eq [Std.Total r] [IsTrans α r] {a b : List α} (distinct : a.Nodup)
    (distinct' : b.Nodup) (same : ∀ x, x ∈ a ↔ x ∈ b)
    (strict : ∀ x ∈ a, ∀ y ∈ a, r x y → r y x → x = y) : a.insertionSort r = b.insertionSort r := by
  have perm : (a.insertionSort r).Perm (b.insertionSort r) :=
    (List.perm_insertionSort r a).trans
      (((List.perm_ext_iff_of_nodup distinct distinct').mpr same).trans
        (List.perm_insertionSort r b).symm)
  refine perm.eq_of_pairwise (fun x y memX memY => ?_) (List.pairwise_insertionSort r a)
    (List.pairwise_insertionSort r b)
  exact strict x ((List.mem_insertionSort r).mp memX) y
    ((same y).mpr ((List.mem_insertionSort r).mp memY))

end Ordering
