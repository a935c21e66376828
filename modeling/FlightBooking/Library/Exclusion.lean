import Mathlib.Data.Set.Pairwise.Basic

/-!
Exclusion constraints under concurrency.

Rows fall into groups, and two rows of one group may conflict. Whoever adds a row holds the
entry of its group, and has looked for conflicts in a version since which nobody else held
it. Then no version has two rows in conflict (`apart`), although nobody looked at the version
the row went into. A unique index is the case in which any two rows of a group conflict.
-/

namespace Exclusion

variable {ρ γ : Type} {rows : Nat → Set ρ} {group : ρ → γ} {conflict : ρ → ρ → Prop}
  {holds : Nat → γ → Prop} {n : Nat}

/-- Version `n` becomes the next: nothing is added, or one row under its group's entry. -/
inductive Grows (rows : Nat → Set ρ) (group : ρ → γ) (conflict : ρ → ρ → Prop)
    (holds : Nat → γ → Prop) (n : Nat) : Prop where
  | same : rows (n + 1) = rows n → Grows rows group conflict holds n
  | added {r : ρ} {seen : Nat} : rows (n + 1) = insert r (rows n) → seen ≤ n →
      holds n (group r) → (∀ m, seen ≤ m → m < n → ¬ holds m (group r)) →
      (∀ r' ∈ rows seen, group r' = group r → ¬ conflict r' r) →
      Grows rows group conflict holds n

/-- No two rows of one group conflict. -/
def Apart (group : ρ → γ) (conflict : ρ → ρ → Prop) (s : Set ρ) : Prop :=
  s.Pairwise fun a b => group a = group b → ¬ conflict a b

/-- While nobody holds its entry, a group gets no rows. -/
theorem group_kept (grows : ∀ m < n, Grows rows group conflict holds m) {a m : Nat} (le : a ≤ m)
    (le' : m ≤ n) {r : ρ} (free : ∀ j, a ≤ j → j < m → ¬ holds j (group r)) (mem : r ∈ rows m) :
    r ∈ rows a := by
  induction m, le using Nat.le_induction with
  | base => exact mem
  | succ m le ih =>
      have before := ih (by omega) fun j from' until' => free j from' (by omega)
      cases grows m (by omega) with
      | same unchanged => exact before (unchanged ▸ mem)
      | added grown _ held _ _ =>
          rw [grown] at mem
          rcases mem with rfl | old
          · exact absurd held (free m le (Nat.lt_succ_self m))
          · exact before old

theorem Apart.step (grows : ∀ m < n, Grows rows group conflict holds m)
    (symm : ∀ a b, conflict a b → conflict b a) {m : Nat} (lt : m < n)
    (apart : Apart group conflict (rows m)) : Apart group conflict (rows (m + 1)) := by
  cases grows m lt with
  | same unchanged => rwa [unchanged]
  | @added r seen grown le held free clear =>
      -- What is in the row's group now was there when its adder looked.
      have meets : ∀ b ∈ rows m, group b = group r → ¬ conflict b r := by
        intro b mem same
        have there := group_kept grows le (Nat.le_of_lt lt) (r := b)
          (fun j from' until' => same ▸ free j from' until') mem
        exact clear b there same
      rw [grown]
      refine apart.insert fun b mem _ => ?_
      constructor
      · intro same both
        exact meets b mem same.symm (symm _ _ both)
      · exact meets b mem

/-- No version has two rows in conflict. -/
theorem apart (grows : ∀ m < n, Grows rows group conflict holds m)
    (symm : ∀ a b, conflict a b → conflict b a) (first : Apart group conflict (rows 0)) :
    ∀ m ≤ n, Apart group conflict (rows m) := by
  intro m le
  induction m with
  | zero => exact first
  | succ m ih => exact (ih (Nat.le_of_succ_le le)).step grows symm le

end Exclusion
