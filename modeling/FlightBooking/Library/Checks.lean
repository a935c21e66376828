import Mathlib.Data.List.Forall2

/-!
Checking every item of a list: all the results, or all the issues.

The check of an item knows its index, for the texts of its issues. What it accepts is a
relation between item and result; then a list is accepted exactly for the results item
by item (`checkEach_eq_ok`).
-/

namespace Checks

variable {α β ε : Type}

/-- A computation in two parts succeeds if both do. -/
theorem bind_eq_ok {ε α β : Type} {x : Except ε α} {f : α → Except ε β} {b : β} :
    x >>= f = .ok b ↔ ∃ a, x = .ok a ∧ f a = .ok b := by
  cases x with
  | error e =>
      constructor
      · intro h
        cases h
      · rintro ⟨_, h, _⟩
        cases h
  | ok a =>
      constructor
      · intro h
        exact ⟨a, rfl, h⟩
      · rintro ⟨_, h, same⟩
        cases h
        exact same

/-- Every item from index `i` on: the results in their order, or every issue there is. -/
def checkEach (check : Nat → α → Except (List ε) β) : Nat → List α → Except (List ε) (List β)
  | _, [] => .ok []
  | i, item :: items =>
      match check i item, checkEach check (i + 1) items with
      | .ok b, .ok bs => .ok (b :: bs)
      | .ok _, .error issues => .error issues
      | .error issues, .ok _ => .error issues
      | .error issues, .error later => .error (issues ++ later)

variable {check : Nat → α → Except (List ε) β} {R : α → β → Prop} {i : Nat} {items : List α}
  {results : List β} {issues : List ε}

theorem checkEach_cons_eq_ok {item : α} : checkEach check i (item :: items) = .ok results ↔
    ∃ b bs, check i item = .ok b ∧ checkEach check (i + 1) items = .ok bs ∧ results = b :: bs := by
  rw [checkEach]
  cases check i item with
  | error e => cases checkEach check (i + 1) items <;> simp
  | ok b =>
      cases checkEach check (i + 1) items with
      | error e => simp
      | ok bs => simp [eq_comm]

/-- A list is accepted for the results its items are accepted for. -/
theorem checkEach_eq_ok (each : ∀ i item b, check i item = .ok b ↔ R item b) :
    checkEach check i items = .ok results ↔ List.Forall₂ R items results := by
  induction items generalizing i results with
  | nil =>
      rw [List.forall₂_nil_left_iff, checkEach, Except.ok.injEq]
      exact eq_comm
  | cons item items ih =>
      rw [checkEach_cons_eq_ok, List.forall₂_cons_left_iff]
      constructor
      · rintro ⟨b, bs, first, rest, rfl⟩
        exact ⟨b, bs, (each i item b).mp first, ih.mp rest, rfl⟩
      · rintro ⟨b, bs, first, rest, rfl⟩
        exact ⟨b, bs, (each i item b).mpr first, ih.mpr rest, rfl⟩

/-- A rejected list has issues, if a rejected item has. -/
theorem checkEach_issues (each : ∀ i item issues, check i item = .error issues → issues ≠ [])
    (h : checkEach check i items = .error issues) : issues ≠ [] := by
  induction items generalizing i issues with
  | nil => cases h
  | cons item items ih =>
      rw [checkEach] at h
      cases first : check i item with
      | ok b =>
          cases rest : checkEach check (i + 1) items with
          | ok bs => simp [first, rest] at h
          | error later =>
              simp only [first, rest, Except.error.injEq] at h
              exact h ▸ ih rest
      | error own =>
          have some := each i item own first
          cases rest : checkEach check (i + 1) items with
          | ok bs =>
              simp only [first, rest, Except.error.injEq] at h
              exact h ▸ some
          | error later =>
              simp only [first, rest, Except.error.injEq] at h
              rw [← h]
              exact List.append_ne_nil_of_left_ne_nil some later

theorem length_checkEach (h : checkEach check i items = .ok results) :
    results.length = items.length := by
  induction items generalizing i results with
  | nil =>
      cases h
      rfl
  | cons item items ih =>
      obtain ⟨b, bs, -, rest, rfl⟩ := checkEach_cons_eq_ok.mp h
      rw [List.length_cons, List.length_cons, ih rest]

end Checks
