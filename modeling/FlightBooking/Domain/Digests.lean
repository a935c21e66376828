import FlightBooking.Library.Numeral

/-!
Digests, and how they are written down.
-/

namespace FlightBooking

open Numeral

/-- A function on bytes, such as SHA-256. -/
abbrev Digest := List UInt8 → List UInt8

/-- The digest tells two texts apart. -/
def Digest.Separates (sha256 : Digest) (a b : List UInt8) : Prop := sha256 a = sha256 b → a = b

/-- `digest("hex")`: two digits a byte. -/
def hex (bytes : List UInt8) : List Char := bytes.flatMap fun byte => numeral 16 2 byte.toNat

theorem hex_injective {a b : List UInt8} (h : hex a = hex b) : a = b := by
  have two (byte : UInt8) (rest : List Char) :
      readField 16 2 (numeral 16 2 byte.toNat ++ rest) = some (byte.toNat, rest) :=
    readField_numeral (Nat.le_refl 16) byte.toNat_lt rest
  induction a generalizing b with
  | nil =>
      cases b with
      | nil => rfl
      | cons byte b =>
          have length := congrArg List.length h
          simp [hex] at length
          omega
  | cons byte a ih =>
      cases b with
      | nil =>
          have length := congrArg List.length h
          simp [hex] at length
      | cons byte' b =>
          simp only [hex, List.flatMap_cons] at h
          have read := two byte (hex a)
          rw [hex, h, two] at read
          obtain ⟨same, rest⟩ := Prod.mk.inj (Option.some.inj read)
          rw [UInt8.toNat_inj.mp same, ih rest.symm]

end FlightBooking
