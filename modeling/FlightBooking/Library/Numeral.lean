import Mathlib.Algebra.GroupWithZero.Nat
import Mathlib.Data.List.Basic

/-!
Numerals of a fixed width, in a base up to 16.

`numeral` writes a number with leading zeros, `read` reads digits, `readField` a field
of a longer text. A number that fits its width is read back (`readField_numeral`).
-/

namespace Numeral

def numeral (base : Nat) : Nat → Nat → List Char
  | 0, _ => []
  | width + 1, n => numeral base width (n / base) ++ [Nat.digitChar (n % base)]

/-- The value of a digit of the base; letters are lower case. -/
def value? (base : Nat) (c : Char) : Option Nat :=
  (List.range base).find? fun d => Nat.digitChar d = c

def read (base : Nat) (text : List Char) : Option Nat :=
  text.foldlM (fun n c => (value? base c).map fun d => n * base + d) 0

/-- The first `width` characters as a number, and what follows them. -/
def readField (base width : Nat) (text : List Char) : Option (Nat × List Char) :=
  if width ≤ text.length then (read base (text.take width)).map fun n => (n, text.drop width)
  else none

variable {base width n : Nat} {rest : List Char}

theorem value?_digitChar : ∀ base ≤ 16, ∀ d < base, value? base (Nat.digitChar d) = some d := by
  decide

@[simp] theorem length_numeral (base width n : Nat) : (numeral base width n).length = width := by
  induction width generalizing n with
  | zero => rfl
  | succ width ih => rw [numeral, List.length_append, ih, List.length_singleton]

theorem read_numeral (small : base ≤ 16) (fits : n < base ^ width) :
    read base (numeral base width n) = some n := by
  induction width generalizing n with
  | zero =>
      rw [Nat.pow_zero, Nat.lt_one_iff] at fits
      rw [fits]
      rfl
  | succ width ih =>
      have positive : 0 < base := by
        rcases Nat.eq_zero_or_pos base with rfl | positive
        · rw [Nat.zero_pow (Nat.succ_pos _)] at fits
          exact absurd fits (Nat.not_lt_zero _)
        · exact positive
      have front : n / base < base ^ width := by
        rw [Nat.div_lt_iff_lt_mul positive, ← Nat.pow_succ]
        exact fits
      have last := value?_digitChar base small (n % base) (Nat.mod_lt _ positive)
      have front' := ih front
      rw [read] at front'
      rw [numeral, read, List.foldlM_append, front']
      simp only [Option.bind_eq_bind, Option.bind_some, List.foldlM_cons, List.foldlM_nil, last,
        Option.map_some, Nat.div_add_mod', Option.pure_def]

/-- A number that fits its width is read back. -/
theorem readField_numeral (small : base ≤ 16) (fits : n < base ^ width) (rest : List Char) :
    readField base width (numeral base width n ++ rest) = some (n, rest) := by
  have enough : width ≤ (numeral base width n ++ rest).length := by
    rw [List.length_append, length_numeral]
    exact Nat.le_add_right ..
  rw [readField, if_pos enough, List.take_left' (length_numeral ..), List.drop_left' (length_numeral ..),
    read_numeral small fits, Option.map_some]

/-- A numeral has digits of its base only. -/
theorem mem_numeral {c : Char} (positive : 0 < base) (h : c ∈ numeral base width n) :
    ∃ d < base, c = Nat.digitChar d := by
  induction width generalizing n with
  | zero => cases h
  | succ width ih =>
      rw [numeral, List.mem_append, List.mem_singleton] at h
      rcases h with front | rfl
      · exact ih front
      · exact ⟨n % base, Nat.mod_lt _ positive, rfl⟩

theorem numeral_zero (base width : Nat) : numeral base width 0 = List.replicate width '0' := by
  induction width with
  | zero => rfl
  | succ width ih =>
      rw [numeral, Nat.zero_div, ih, Nat.zero_mod, List.replicate_succ']
      rfl

/-- Leading zeros fill a decimal numeral up to its width. -/
theorem numeral_eq_padded (some : 0 < width) (fits : n < 10 ^ width) :
    numeral 10 width n =
      List.replicate (width - (Nat.toDigits 10 n).length) '0' ++ Nat.toDigits 10 n := by
  induction width generalizing n with
  | zero => exact absurd some (Nat.lt_irrefl 0)
  | succ width ih =>
      rw [numeral, Nat.toDigits_eq_if (by decide)]
      split
      · rename_i digit
        rw [Nat.div_eq_of_lt digit, Nat.mod_eq_of_lt digit, numeral_zero]
        rfl
      · rename_i long
        have front : n / 10 < 10 ^ width := by
          rw [Nat.div_lt_iff_lt_mul (by decide), ← Nat.pow_succ]
          exact fits
        have more : 0 < width := by
          rcases Nat.eq_zero_or_pos width with rfl | more
          · rw [Nat.pow_zero] at front
            omega
          · exact more
        rw [ih more front, List.length_append, List.length_singleton, Nat.add_sub_add_right,
          List.append_assoc]

theorem mem_of_value? {c : Char} {d : Nat} (h : value? base c = some d) :
    d < base ∧ c = Nat.digitChar d := by
  have mem := List.mem_of_find?_eq_some h
  have own := List.find?_some h
  exact ⟨List.mem_range.mp mem, (of_decide_eq_true own).symm⟩

/-- Reading goes digit by digit, whatever was read before. -/
theorem digits_of_foldlM {text : List Char} {start : Nat}
    (h : text.foldlM (fun n c => (value? base c).map fun d => n * base + d) start = some n) :
    ∀ c ∈ text, ∃ d < base, c = Nat.digitChar d := by
  induction text generalizing start with
  | nil =>
      intro c mem
      cases mem
  | cons c text ih =>
      rw [List.foldlM_cons] at h
      obtain ⟨next, first, rest⟩ := Option.bind_eq_some_iff.mp h
      obtain ⟨d, value, rfl⟩ := Option.map_eq_some_iff.mp first
      have digit := mem_of_value? value
      intro c' mem
      rcases List.mem_cons.mp mem with rfl | later
      · exact ⟨d, digit⟩
      · exact ih rest c' later

/-- A field that was read is so many digits of the base, in front of the rest. -/
theorem readField_spec {text : List Char} (h : readField base width text = some (n, rest)) :
    ∃ digits, text = digits ++ rest ∧ digits.length = width ∧
      ∀ c ∈ digits, ∃ d < base, c = Nat.digitChar d := by
  unfold readField at h
  split at h
  · rename_i enough
    obtain ⟨m, digits, same⟩ := Option.map_eq_some_iff.mp h
    cases same
    exact ⟨text.take width, (List.take_append_drop width text).symm,
      List.length_take_of_le enough, digits_of_foldlM digits⟩
  · cases h

end Numeral
