import Mathlib.Data.List.Basic

/-!
Base64 with the URL alphabet, without padding.

Three bytes are four digits of six bits. Decoding drops what is left over at the end
and is the inverse of encoding (`decode_encode`).
-/

namespace Base64Url

/-- The digit of a value below 64. -/
def digit (n : Nat) : Char :=
  if n < 26 then Char.ofNat (65 + n)
  else if n < 52 then Char.ofNat (71 + n)
  else if n < 62 then Char.ofNat (n - 4)
  else if n = 62 then '-' else '_'

/-- The value of a digit. -/
def value? (c : Char) : Option Nat :=
  if 65 ≤ c.toNat ∧ c.toNat ≤ 90 then some (c.toNat - 65)
  else if 97 ≤ c.toNat ∧ c.toNat ≤ 122 then some (c.toNat - 71)
  else if 48 ≤ c.toNat ∧ c.toNat ≤ 57 then some (c.toNat + 4)
  else if c = '-' then some 62
  else if c = '_' then some 63
  else none

def encode : List UInt8 → List Char
  | a :: b :: c :: rest =>
      digit (a.toNat / 4) :: digit (a.toNat % 4 * 16 + b.toNat / 16) ::
        digit (b.toNat % 16 * 4 + c.toNat / 64) :: digit (c.toNat % 64) :: encode rest
  | [a, b] =>
      [digit (a.toNat / 4), digit (a.toNat % 4 * 16 + b.toNat / 16), digit (b.toNat % 16 * 4)]
  | [a] => [digit (a.toNat / 4), digit (a.toNat % 4 * 16)]
  | [] => []

/-- The bytes of a sequence of digit values. -/
def bytesOf : List Nat → List UInt8
  | a :: b :: c :: d :: rest =>
      UInt8.ofNat (a * 4 + b / 16) :: UInt8.ofNat (b % 16 * 16 + c / 4) ::
        UInt8.ofNat (c % 4 * 64 + d) :: bytesOf rest
  | [a, b, c] => [UInt8.ofNat (a * 4 + b / 16), UInt8.ofNat (b % 16 * 16 + c / 4)]
  | [a, b] => [UInt8.ofNat (a * 4 + b / 16)]
  | [_] => []
  | [] => []

/-- Characters that are no digits are passed over. -/
def decode (text : List Char) : List UInt8 := bytesOf (text.filterMap value?)

theorem value_digit : ∀ n < 64, value? (digit n) = some n := by
  decide

/-- The digits of three bytes lie below 64. -/
theorem sextets (a b c : UInt8) :
    a.toNat / 4 < 64 ∧ a.toNat % 4 * 16 + b.toNat / 16 < 64 ∧ b.toNat % 16 * 4 + c.toNat / 64 < 64 ∧
      c.toNat % 64 < 64 ∧ b.toNat % 16 * 4 < 64 ∧ a.toNat % 4 * 16 < 64 := by
  have := a.toNat_lt
  have := b.toNat_lt
  have := c.toNat_lt
  omega

theorem ofNat_eq {a : UInt8} {n : Nat} (h : n = a.toNat) : UInt8.ofNat n = a := by
  rw [h, UInt8.ofNat_toNat]

/-- Decoding gives back what was encoded. -/
theorem decode_encode (bytes : List UInt8) : decode (encode bytes) = bytes := by
  induction bytes using encode.induct with
  | case1 a b c rest ih =>
      obtain ⟨first, second, third, fourth, -, -⟩ := sextets a b c
      have := a.toNat_lt
      have := b.toNat_lt
      have := c.toNat_lt
      simp only [decode] at ih
      simp only [encode, decode, List.filterMap_cons, value_digit _ first, value_digit _ second,
        value_digit _ third, value_digit _ fourth, bytesOf, ih]
      congr 1
      · exact ofNat_eq (by omega)
      · congr 1
        · exact ofNat_eq (by omega)
        · congr 1
          exact ofNat_eq (by omega)
  | case2 a b =>
      obtain ⟨first, second, -, -, third, -⟩ := sextets a b b
      have := a.toNat_lt
      have := b.toNat_lt
      simp only [encode, decode, List.filterMap_cons, List.filterMap_nil, value_digit _ first,
        value_digit _ second, value_digit _ third, bytesOf]
      congr 1
      · exact ofNat_eq (by omega)
      · congr 1
        exact ofNat_eq (by omega)
  | case3 a =>
      obtain ⟨first, -, -, -, -, second⟩ := sextets a a a
      have := a.toNat_lt
      simp only [encode, decode, List.filterMap_cons, List.filterMap_nil, value_digit _ first,
        value_digit _ second, bytesOf]
      congr 1
      exact ofNat_eq (by omega)
  | case4 => rfl

/-- What is encoded has only digits. -/
theorem mem_encode {bytes : List UInt8} {char : Char} (h : char ∈ encode bytes) :
    ∃ n < 64, char = digit n := by
  revert h
  induction bytes using encode.induct with
  | case1 a b c rest ih =>
      obtain ⟨first, second, third, fourth, -, -⟩ := sextets a b c
      simp only [encode, List.mem_cons]
      rintro (rfl | rfl | rfl | rfl | later)
      · exact ⟨_, first, rfl⟩
      · exact ⟨_, second, rfl⟩
      · exact ⟨_, third, rfl⟩
      · exact ⟨_, fourth, rfl⟩
      · exact ih later
  | case2 a b =>
      obtain ⟨first, second, -, -, third, -⟩ := sextets a b b
      simp only [encode, List.mem_cons, List.not_mem_nil, or_false]
      rintro (rfl | rfl | rfl)
      · exact ⟨_, first, rfl⟩
      · exact ⟨_, second, rfl⟩
      · exact ⟨_, third, rfl⟩
  | case3 a =>
      obtain ⟨first, -, -, -, -, second⟩ := sextets a a a
      simp only [encode, List.mem_cons, List.not_mem_nil, or_false]
      rintro (rfl | rfl)
      · exact ⟨_, first, rfl⟩
      · exact ⟨_, second, rfl⟩
  | case4 =>
      intro h
      cases h

theorem length_encode (bytes : List UInt8) : (encode bytes).length = (4 * bytes.length + 2) / 3 := by
  induction bytes using encode.induct with
  | case1 a b c rest ih =>
      simp only [encode, List.length_cons, ih]
      omega
  | case2 a b => simp only [encode, List.length_cons, List.length_nil]
  | case3 a => simp only [encode, List.length_cons, List.length_nil]
  | case4 => simp only [encode, List.length_nil]

end Base64Url
