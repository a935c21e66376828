import Mathlib.Data.List.Basic

/-!
UTF-8, with a replacement character for what is malformed.

The decoder reads one byte at a time and knows how many continuation bytes are still
missing and between which bounds the next one lies. It reads back what was encoded
(`decode_encode`).
-/

namespace Utf8

def encode (text : List Char) : List UInt8 := text.flatMap String.utf8EncodeChar

def replacement : Char := Char.ofNat 65533

/-- A character of which continuation bytes are missing: `later` ones behind the next,
which lies between the bounds. -/
structure Pending where
  later : Nat
  point : Nat
  lower : Nat
  upper : Nat

/-- A byte at the start of a character. -/
def start (b : Nat) : Char ⊕ Pending :=
  if b < 128 then .inl (Char.ofNat b)
  else if 194 ≤ b ∧ b < 224 then .inr ⟨0, b - 192, 128, 191⟩
  else if 224 ≤ b ∧ b < 240 then
    .inr ⟨1, b - 224, if b = 224 then 160 else 128, if b = 237 then 159 else 191⟩
  else if 240 ≤ b ∧ b < 245 then
    .inr ⟨2, b - 240, if b = 240 then 144 else 128, if b = 244 then 143 else 191⟩
  else .inl replacement

/-- A byte within a character, if it lies between the bounds. -/
def Pending.next (p : Pending) (b : Nat) : Char ⊕ Pending :=
  match p.later with
  | 0 => .inl (Char.ofNat (p.point * 64 + (b - 128)))
  | later + 1 => .inr ⟨later, p.point * 64 + (b - 128), 128, 191⟩

/-- The rest of a text. A byte out of bounds ends a malformed character and is read
again, as the start of the next. -/
def decodeFrom : Option Pending → List UInt8 → List Char
  | none, [] => []
  | some _, [] => [replacement]
  | none, b :: rest =>
      match start b.toNat with
      | .inl c => c :: decodeFrom none rest
      | .inr p => decodeFrom (some p) rest
  | some p, b :: rest =>
      if p.lower ≤ b.toNat ∧ b.toNat ≤ p.upper then
        match p.next b.toNat with
        | .inl c => c :: decodeFrom none rest
        | .inr p => decodeFrom (some p) rest
      else
        match start b.toNat with
        | .inl c => replacement :: c :: decodeFrom none rest
        | .inr p => replacement :: decodeFrom (some p) rest

def decode (bytes : List UInt8) : List Char := decodeFrom none bytes

/-! ### One character -/

variable {b n : Nat} {rest : List UInt8}

theorem toNat_ofNat (h : n < 256) : (UInt8.ofNat n).toNat = n := by
  rw [UInt8.toNat_ofNat', Nat.mod_eq_of_lt h]

theorem decodeFrom_single (h : n < 128) :
    decodeFrom none (UInt8.ofNat n :: rest) = Char.ofNat n :: decodeFrom none rest := by
  rw [decodeFrom, toNat_ofNat (by omega), start, if_pos h]

theorem decodeFrom_next {p : Pending} (h : n < 256) (inside : p.lower ≤ n ∧ n ≤ p.upper) :
    decodeFrom (some p) (UInt8.ofNat n :: rest) =
      match p.next n with
      | .inl c => c :: decodeFrom none rest
      | .inr p => decodeFrom (some p) rest := by
  rw [decodeFrom, toNat_ofNat h, if_pos inside]

theorem decodeFrom_utf8EncodeChar (c : Char) (rest : List UInt8) :
    decodeFrom none (String.utf8EncodeChar c ++ rest) = c :: decodeFrom none rest := by
  have same : Char.ofNat c.val.toNat = c := Char.ofNat_toNat c
  have valid : c.val.toNat < 55296 ∨ 57343 < c.val.toNat ∧ c.val.toNat < 1114112 := c.valid
  unfold String.utf8EncodeChar
  generalize c.val.toNat = n at same valid
  simp only []
  split
  · rw [List.singleton_append, decodeFrom_single (by omega), same]
  · split
    · rename_i _ two
      simp only [List.cons_append, List.nil_append]
      rw [decodeFrom, toNat_ofNat (by omega), start, if_neg (by omega), if_pos (by omega)]
      simp only []
      rw [decodeFrom_next (by omega) (by simp only; omega)]
      simp only [Pending.next]
      rw [show (n / 64 % 32 + 192 - 192) * 64 + (n % 64 + 128 - 128) = n by omega, same]
    · split
      · rename_i _ _ three
        simp only [List.cons_append, List.nil_append]
        rw [decodeFrom, toNat_ofNat (by omega), start, if_neg (by omega), if_neg (by omega),
          if_pos (by omega)]
        simp only []
        rw [decodeFrom_next (by omega) (by simp only; constructor <;> split <;> omega)]
        simp only [Pending.next]
        rw [decodeFrom_next (by omega) (by simp only; omega)]
        simp only [Pending.next]
        rw [show ((n / 4096 % 16 + 224 - 224) * 64 + (n / 64 % 64 + 128 - 128)) * 64 +
          (n % 64 + 128 - 128) = n by omega, same]
      · simp only [List.cons_append, List.nil_append]
        rw [decodeFrom, toNat_ofNat (by omega), start, if_neg (by omega), if_neg (by omega),
          if_neg (by omega), if_pos (by omega)]
        simp only []
        rw [decodeFrom_next (by omega) (by simp only; constructor <;> split <;> omega)]
        simp only [Pending.next]
        rw [decodeFrom_next (by omega) (by simp only; omega)]
        simp only [Pending.next]
        rw [decodeFrom_next (by omega) (by simp only; omega)]
        simp only [Pending.next]
        rw [show (((n / 262144 % 8 + 240 - 240) * 64 + (n / 4096 % 64 + 128 - 128)) * 64 +
          (n / 64 % 64 + 128 - 128)) * 64 + (n % 64 + 128 - 128) = n by omega, same]

/-- Decoding gives back what was encoded. -/
theorem decode_encode (text : List Char) : decode (encode text) = text := by
  induction text with
  | nil => rfl
  | cons c text ih =>
      rw [decode, encode, List.flatMap_cons, decodeFrom_utf8EncodeChar]
      exact congrArg (c :: ·) ih

theorem length_encode_ascii {text : List Char} (ascii : ∀ c ∈ text, c.toNat < 128) :
    (encode text).length = text.length := by
  induction text with
  | nil => rfl
  | cons c text ih =>
      have single : (String.utf8EncodeChar c).length = 1 := by
        have : c.val.toNat ≤ 127 := Nat.lt_succ_iff.mp (ascii c List.mem_cons_self)
        simp only [String.utf8EncodeChar, if_pos this, List.length_singleton]
      rw [encode, List.flatMap_cons, List.length_append, single, List.length_cons, Nat.add_comm]
      exact congrArg (· + 1) (ih fun c h => ascii c (.tail _ h))

end Utf8
