import FlightBooking.Library.Json
import Mathlib.Order.Fin.Basic

/-!
Strings as JavaScript has them: lists of UTF-16 code units, well formed or not.

`JSON.stringify` writes a string by its code points, and escapes a surrogate that has no
partner; so what is written always can be encoded. Different strings are written
differently, and no written string begins another (`quoted_cancel`).
-/

namespace Utf16

open Json

abbrev CodeUnit := Fin 65536

/-- Half of a pair. -/
def IsSurrogate (unit : Nat) : Prop := 55296 ≤ unit ∧ unit < 57344

instance (unit : Nat) : Decidable (IsSurrogate unit) := inferInstanceAs (Decidable (_ ∧ _))

/-- A code point: a character, or a surrogate without a partner. -/
inductive Point where
  | char (c : Char)
  | surrogate (unit : CodeUnit) (alone : IsSurrogate unit)
  deriving DecidableEq

/-- A code unit that is no part of a pair. -/
def single (unit : CodeUnit) : Point :=
  if alone : IsSurrogate unit then .surrogate unit alone else .char (Char.ofNat unit)

/-- A lead surrogate followed by a trail one. -/
def IsPair (lead trail : CodeUnit) : Prop :=
  (55296 ≤ lead.val ∧ lead.val < 56320) ∧ 56320 ≤ trail.val ∧ trail.val < 57344

instance (lead trail : CodeUnit) : Decidable (IsPair lead trail) :=
  inferInstanceAs (Decidable (_ ∧ _ ∧ _))

/-- `StringToCodePoints`. -/
def codePoints : List CodeUnit → List Point
  | [] => []
  | [unit] => [single unit]
  | lead :: trail :: rest =>
      if IsPair lead trail then
        .char (Char.ofNat ((lead - 55296) * 1024 + (trail - 56320) + 65536)) :: codePoints rest
      else single lead :: codePoints (trail :: rest)

/-- The code units of a code point. -/
def Point.units : Point → List CodeUnit
  | .char c =>
      if c.toNat < 65536 then [Fin.ofNat 65536 c.toNat]
      else [Fin.ofNat 65536 ((c.toNat - 65536) / 1024 + 55296),
        Fin.ofNat 65536 ((c.toNat - 65536) % 1024 + 56320)]
  | .surrogate unit _ => [unit]

variable {s t : List CodeUnit} {p q : Point} {rest : List Char}

theorem toNat_char {n : Nat} (isScalar : n.isValidChar) : (Char.ofNat n).toNat = n := by
  rw [Char.ofNat, dif_pos isScalar]
  rfl

theorem units_single (unit : CodeUnit) : (single unit).units = [unit] := by
  rw [single]
  split
  · rfl
  · rename_i other
    have isScalar : Nat.isValidChar unit := by
      unfold IsSurrogate at other
      have := unit.isLt
      unfold Nat.isValidChar
      omega
    have same : (Char.ofNat unit).toNat = unit := toNat_char isScalar
    rw [Point.units, same, if_pos unit.isLt, Fin.ofNat_val_eq_self]

theorem units_pair {lead trail : CodeUnit} (pair : IsPair lead trail) :
    (Point.char (Char.ofNat ((lead - 55296) * 1024 + (trail - 56320) + 65536))).units =
      [lead, trail] := by
  obtain ⟨isLead, isTrail⟩ := pair
  generalize point : (lead.val - 55296) * 1024 + (trail.val - 56320) + 65536 = n
  have isScalar : Nat.isValidChar n := by
    unfold Nat.isValidChar
    omega
  have high : (n - 65536) / 1024 + 55296 = lead := by omega
  have low : (n - 65536) % 1024 + 56320 = trail := by omega
  have same : (Char.ofNat n).toNat = n := toNat_char isScalar
  rw [Point.units, same, if_neg (by omega), high, low, Fin.ofNat_val_eq_self, Fin.ofNat_val_eq_self]

/-- Code points are those of their units. -/
theorem units_codePoints (s : List CodeUnit) : (codePoints s).flatMap Point.units = s := by
  induction s using codePoints.induct with
  | case1 => rfl
  | case2 unit => rw [codePoints, List.flatMap_singleton, units_single]
  | case3 lead trail rest pair ih =>
      rw [codePoints, if_pos pair, List.flatMap_cons, ih, units_pair pair]
      rfl
  | case4 lead trail rest other ih =>
      rw [codePoints, if_neg other, List.flatMap_cons, ih, units_single]
      rfl

theorem codePoints_injective (h : codePoints s = codePoints t) : s = t := by
  rw [← units_codePoints s, h, units_codePoints]

/-! ### Writing -/

/-- A code point inside a quoted string. -/
def escapePoint : Point → List Char
  | .char c => escape c
  | .surrogate unit _ => backslash :: 'u' :: hexDigits unit

/-- `JSON.stringify` of a string. -/
def quoted (s : List CodeUnit) : List Char :=
  quote :: (codePoints s).flatMap escapePoint ++ [quote]

/-- The code of four hexadecimal digits. -/
def readCode (a b c d : Char) : Option Nat := do
  pure ((← hexValue a) * 4096 + (← hexValue b) * 256 + (← hexValue c) * 16 + (← hexValue d))

/-- The first code point of a text, and what follows it. -/
def readPoint : List Char → Option (Point × List Char)
  | [] => none
  | c :: rest =>
      if c = backslash then
        match rest with
        | [] => none
        | letter :: rest =>
            if letter = 'u' then
              match rest with
              | a :: b :: c :: d :: rest =>
                  (readCode a b c d).map fun code => (single (Fin.ofNat 65536 code), rest)
              | _ => none
            else (readShort letter).map fun c => (.char c, rest)
      else some (.char c, rest)

theorem readCode_hexDigits {n : Nat} (h : n < 65536) :
    readCode (Nat.digitChar (n / 4096 % 16)) (Nat.digitChar (n / 256 % 16))
      (Nat.digitChar (n / 16 % 16)) (Nat.digitChar (n % 16)) = some n := by
  have value : n / 4096 % 16 * 4096 + n / 256 % 16 * 256 + n / 16 % 16 * 16 + n % 16 = n := by omega
  rw [readCode, hexValue_digitChar _ (Nat.mod_lt _ (by decide)),
    hexValue_digitChar _ (Nat.mod_lt _ (by decide)), hexValue_digitChar _ (Nat.mod_lt _ (by decide)),
    hexValue_digitChar _ (Nat.mod_lt _ (by decide))]
  simp only [Option.bind_eq_bind, Option.bind_some, Option.pure_def, value]

theorem readPoint_hex {n : Nat} (h : n < 65536) (rest : List Char) :
    readPoint (backslash :: 'u' :: hexDigits n ++ rest) =
      some (single (Fin.ofNat 65536 n), rest) := by
  simp only [hexDigits, List.map_cons, List.map_nil, List.cons_append, List.nil_append, readPoint,
    if_pos, readCode_hexDigits h, Option.map_some]

/-- A written code point is read back. -/
theorem readPoint_escapePoint (p : Point) (rest : List Char) :
    readPoint (escapePoint p ++ rest) = some (p, rest) := by
  cases p with
  | surrogate unit alone =>
      rw [escapePoint, readPoint_hex unit.isLt, Fin.ofNat_val_eq_self, single, dif_pos alone]
  | char c =>
      obtain ⟨short, mem, char, escaped⟩ | ⟨control, escaped⟩ | ⟨-, other, -, escaped⟩ :=
        escape_cases c
      · obtain ⟨other, read⟩ := readShort_snd short mem
        rw [escapePoint, escaped]
        simp only [List.cons_append, List.nil_append, readPoint, if_pos, if_neg other, read,
          Option.map_some, char]
      · have isChar : single (Fin.ofNat 65536 c.toNat) = .char c := by
          have value : (Fin.ofNat 65536 c.toNat).val = c.toNat := Nat.mod_eq_of_lt (by omega)
          have other : ¬ IsSurrogate (Fin.ofNat 65536 c.toNat).val := by
            unfold IsSurrogate
            omega
          rw [single, dif_neg other, value, Char.ofNat_toNat]
        rw [escapePoint, escaped, readPoint_hex (by omega), isChar]
      · rw [escapePoint, escaped]
        simp only [List.cons_append, List.nil_append, readPoint, if_neg other]

/-- No code point is written with a quote in front. -/
theorem escapePoint_ne_quote (p : Point) (rest : List Char) (rest' : List Char) :
    escapePoint p ++ rest ≠ quote :: rest' := by
  intro h
  have read := readPoint_escapePoint p rest
  rw [h] at read
  have isQuote : p = .char quote := by
    have first : readPoint (quote :: rest') = some (.char quote, rest') := rfl
    rw [first] at read
    exact (Prod.mk.inj (Option.some.inj read)).1.symm
  rw [isQuote] at h
  cases h

/-- Two written strings that begin two equal texts are one. -/
theorem points_cancel {ps qs : List Point} {x y : List Char}
    (h : ps.flatMap escapePoint ++ quote :: x = qs.flatMap escapePoint ++ quote :: y) :
    ps = qs ∧ x = y := by
  induction ps generalizing qs with
  | nil =>
      cases qs with
      | nil => exact ⟨rfl, (List.cons.inj h).2⟩
      | cons q qs =>
          rw [List.flatMap_cons, List.append_assoc] at h
          exact absurd h.symm (escapePoint_ne_quote q _ _)
  | cons p ps ih =>
      rw [List.flatMap_cons, List.append_assoc] at h
      cases qs with
      | nil => exact absurd h (escapePoint_ne_quote p _ _)
      | cons q qs =>
          rw [List.flatMap_cons, List.append_assoc] at h
          have read := readPoint_escapePoint p (ps.flatMap escapePoint ++ quote :: x)
          rw [h, readPoint_escapePoint] at read
          obtain ⟨rfl, rest⟩ := Prod.mk.inj (Option.some.inj read)
          obtain ⟨rfl, same⟩ := ih rest.symm
          exact ⟨rfl, same⟩

theorem quoted_cancel {x y : List Char} (h : quoted s ++ x = quoted t ++ y) : s = t ∧ x = y := by
  simp only [quoted, List.cons_append, List.append_assoc, List.nil_append, List.cons.injEq,
    true_and] at h
  obtain ⟨same, rest⟩ := points_cancel h
  exact ⟨codePoints_injective same, rest⟩

end Utf16
