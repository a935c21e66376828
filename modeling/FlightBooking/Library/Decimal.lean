import FlightBooking.Library.Json
import Mathlib.Algebra.Ring.Nat
import Mathlib.Algebra.Order.Ring.Nat

/-!
Numbers as JavaScript writes them.

A finite number is named by the shortest decimal that rounds to it: digits of which the
last is no zero, and the place of the point. `Number::toString` lays them out with or
without an exponent, and no two numbers are written alike (`text_injective`); what is
written ends where no further digit, point, sign or exponent follows (`text_cancel`).
-/

namespace Decimal

open Json

/-- The number `0.digits · 10 ^ point`. -/
structure Magnitude where
  digits : Nat
  point : Int
  shortest : digits % 10 ≠ 0
  deriving DecidableEq

/-- A finite number; there is one zero. -/
inductive Number where
  | zero
  | signed (negative : Bool) (magnitude : Magnitude)
  deriving DecidableEq

/-- A number without its last zeros, at most `fuel` of them. -/
def dropZeros : Nat → Nat → Nat
  | 0, n => n
  | fuel + 1, n => if n % 10 = 0 then dropZeros fuel (n / 10) else n

theorem dropZeros_shortest {fuel n : Nat} (positive : 0 < n) (enough : n ≤ fuel) :
    dropZeros fuel n % 10 ≠ 0 := by
  induction fuel generalizing n with
  | zero => omega
  | succ fuel ih =>
      rw [dropZeros]
      split
      · exact ih (by omega) (by omega)
      · assumption

/-- A whole number that is written with its own digits. -/
def Number.ofNat (n : Nat) : Number :=
  if positive : 0 < n then
    .signed false ⟨dropZeros n n, (Nat.toDigits 10 n).length,
      dropZeros_shortest positive (Nat.le_refl n)⟩
  else .zero

/-- The digits before the point, those behind it, and the exponent. -/
structure Parts where
  whole : List Char
  fraction : List Char
  exponent : Option Int

def Parts.text (parts : Parts) : List Char :=
  parts.whole ++ ((if parts.fraction = [] then [] else '.' :: parts.fraction) ++
    match parts.exponent with
    | none => []
    | some e => 'e' :: (if e < 0 then '-' else '+') :: Nat.toDigits 10 e.natAbs)

/-- Where `Number::toString` puts the point: the digits of an integer below `10 ^ 21`
are filled up with zeros, a point within or shortly before the digits is written as
such, and anything else takes an exponent. -/
def Magnitude.parts (x : Magnitude) : Parts :=
  let s := Nat.toDigits 10 x.digits
  let k := s.length
  let n := x.point
  if k ≤ n ∧ n ≤ 21 then ⟨s ++ List.replicate (n - k).toNat '0', [], none⟩
  else if 0 < n ∧ n ≤ 21 then ⟨s.take n.toNat, s.drop n.toNat, none⟩
  else if -6 < n ∧ n ≤ 0 then ⟨['0'], List.replicate (-n).toNat '0' ++ s, none⟩
  else ⟨s.take 1, s.drop 1, some (n - 1)⟩

def Magnitude.text (x : Magnitude) : List Char := x.parts.text

/-- `Number::toString`. -/
def Number.text : Number → List Char
  | .zero => ['0']
  | .signed negative x => if negative then '-' :: x.text else x.text

/-! ### Reading -/

/-- What a text names: `mantissa · 10 ^ exponent`. -/
def read (text : List Char) : Option (Nat × Int) := do
  let whole := text.takeWhile Char.isDigit
  let (fraction, rest) ← readFraction (text.dropWhile Char.isDigit)
  let (exponent, _) ← readExponent rest
  pure (Nat.ofDigitChars 10 (whole ++ fraction) 0, exponent - fraction.length)

variable {x y : Magnitude} {a b : Number} {parts : Parts}

theorem isDigit_toDigits {n : Nat} : ∀ c ∈ Nat.toDigits 10 n, c.isDigit = true :=
  fun _ h => Nat.isDigit_of_mem_toDigits (by decide) (by decide) h

/-- Only digits stand before and behind the point. -/
structure Parts.Digits (parts : Parts) : Prop where
  some : parts.whole ≠ []
  whole : ∀ c ∈ parts.whole, c.isDigit = true
  fraction : ∀ c ∈ parts.fraction, c.isDigit = true

theorem readExponent_written (e : Int) :
    readExponent ('e' :: (if e < 0 then '-' else '+') :: Nat.toDigits 10 e.natAbs) = some (e, []) := by
  obtain ⟨taken, dropped⟩ := @takeWhile_digits [] _ (@isDigit_toDigits e.natAbs) (by simp)
  rw [List.append_nil] at taken dropped
  have nonempty : Nat.toDigits 10 e.natAbs ≠ [] := Nat.toDigits_ne_nil
  by_cases negative : e < 0
  · simp [readExponent, readSign, negative, taken, dropped, nonempty, abs_of_neg negative]
  · simp [readExponent, readSign, negative, taken, dropped, nonempty,
      abs_of_nonneg (Int.not_lt.mp negative)]

/-- The part behind the digits. -/
theorem readExponent_part (exponent : Option Int) :
    let text := match exponent with
      | none => []
      | some e => 'e' :: (if e < 0 then '-' else '+') :: Nat.toDigits 10 e.natAbs
    readExponent text = some (exponent.getD 0, []) ∧
      ∀ c ∈ text.head?, c.isDigit = false ∧ c ≠ '.' := by
  cases exponent with
  | none => exact ⟨rfl, by simp⟩
  | some e =>
      refine ⟨readExponent_written e, ?_⟩
      intro c first
      obtain rfl : 'e' = c := Option.some.inj first
      decide

/-- A written number is read back. -/
theorem read_text (digits : parts.Digits) :
    read parts.text =
      some (Nat.ofDigitChars 10 (parts.whole ++ parts.fraction) 0,
        parts.exponent.getD 0 - parts.fraction.length) := by
  obtain ⟨readRest, first⟩ := readExponent_part parts.exponent
  rw [Parts.text]
  generalize (match parts.exponent with
    | none => []
    | some e => 'e' :: (if e < 0 then '-' else '+') :: Nat.toDigits 10 e.natAbs) = rest at readRest first ⊢
  by_cases none : parts.fraction = []
  · obtain ⟨taken, dropped⟩ := takeWhile_digits digits.whole fun c h => (first c h).1
    have noFraction : readFraction rest = some ([], rest) := by
      unfold readFraction
      split
      · exact absurd rfl (first '.' rfl).2
      · rfl
    simp only [none, if_pos, List.nil_append, read, taken, dropped, noFraction, readRest,
      Option.bind_eq_bind, Option.bind_some, Option.pure_def]
  · obtain ⟨taken, dropped⟩ := @takeWhile_digits ('.' :: (parts.fraction ++ rest)) _ digits.whole
      (by simp)
    obtain ⟨taken', dropped'⟩ := takeWhile_digits digits.fraction fun c h => (first c h).1
    simp only [none, if_false, read, taken, dropped, List.cons_append, readFraction, taken',
      dropped', readRest, Option.bind_eq_bind, Option.bind_some, Option.pure_def]

/-! ### No two numbers are written alike -/

theorem digits_parts (x : Magnitude) : x.parts.Digits := by
  have nonempty : Nat.toDigits 10 x.digits ≠ [] := Nat.toDigits_ne_nil
  have zeros : ∀ n, ∀ c ∈ List.replicate n '0', c.isDigit = true := by
    intro n c mem
    obtain rfl := List.eq_of_mem_replicate mem
    rfl
  rw [Magnitude.parts]
  split_ifs
  · exact ⟨by simp [nonempty], List.forall_mem_append.mpr ⟨isDigit_toDigits, zeros _⟩, by simp⟩
  · refine ⟨?_, fun c mem => isDigit_toDigits c (List.mem_of_mem_take mem),
      fun c mem => isDigit_toDigits c (List.mem_of_mem_drop mem)⟩
    rw [ne_eq, List.take_eq_nil_iff, not_or]
    exact ⟨by omega, nonempty⟩
  · exact ⟨by simp, by simp, List.forall_mem_append.mpr ⟨zeros _, isDigit_toDigits⟩⟩
  · refine ⟨?_, fun c mem => isDigit_toDigits c (List.mem_of_mem_take mem),
      fun c mem => isDigit_toDigits c (List.mem_of_mem_drop mem)⟩
    rw [ne_eq, List.take_eq_nil_iff, not_or]
    exact ⟨by decide, nonempty⟩

/-- The text of a number names it; its digits may be followed by zeros. -/
theorem read_magnitude (x : Magnitude) :
    ∃ zeros : Nat, read x.text =
      some (x.digits * 10 ^ zeros, x.point - (Nat.toDigits 10 x.digits).length - zeros) := by
  rw [Magnitude.text, read_text (digits_parts x), Magnitude.parts]
  generalize isText : Nat.toDigits 10 x.digits = s
  have value : Nat.ofDigitChars 10 s 0 = x.digits := by rw [← isText, Nat.ofDigitChars_ten_toDigits]
  split_ifs with integer inside small
  · refine ⟨(x.point - s.length).toNat, ?_⟩
    have value' : Nat.ofDigitChars 10 (s ++ List.replicate (x.point - s.length).toNat '0') 0 =
        x.digits * 10 ^ (x.point - s.length).toNat := by
      rw [Nat.ofDigitChars_append, Nat.ofDigitChars_replicate_zero, value, Nat.mul_comm]
    simp only [List.append_nil, value', List.length_nil, Option.getD_none]
    congr 2
    omega
  · refine ⟨0, ?_⟩
    simp only [List.take_append_drop, value, List.length_drop, Option.getD_none, pow_zero, mul_one]
    congr 2
    omega
  · refine ⟨0, ?_⟩
    have value' : Nat.ofDigitChars 10 (['0'] ++ (List.replicate (-x.point).toNat '0' ++ s)) 0 =
        x.digits := by
      rw [Nat.ofDigitChars_append, Nat.ofDigitChars_append, Nat.ofDigitChars_replicate_zero]
      exact value
    simp only [value', List.length_append, List.length_replicate, Option.getD_none, pow_zero, mul_one]
    congr 2
    omega
  · refine ⟨0, ?_⟩
    have length : 0 < s.length := by
      rw [← isText]
      exact Nat.length_toDigits_pos
    simp only [List.take_append_drop, value, List.length_drop, Option.getD_some, pow_zero, mul_one]
    congr 2
    omega

/-- Digits that do not end in zero are those of their value. -/
theorem digits_eq {a b i j : Nat} (ha : a % 10 ≠ 0) (hb : b % 10 ≠ 0)
    (h : a * 10 ^ i = b * 10 ^ j) : a = b ∧ i = j := by
  induction i generalizing j with
  | zero =>
      cases j with
      | zero => exact ⟨by simpa using h, rfl⟩
      | succ j =>
          rw [pow_zero, mul_one, pow_succ, ← mul_assoc] at h
          omega
  | succ i ih =>
      cases j with
      | zero =>
          rw [pow_zero, mul_one, pow_succ, ← mul_assoc] at h
          omega
      | succ j =>
          rw [pow_succ, pow_succ, ← mul_assoc, ← mul_assoc] at h
          obtain ⟨same, rfl⟩ := ih (Nat.eq_of_mul_eq_mul_right (by decide) h)
          exact ⟨same, rfl⟩

theorem magnitude_injective (h : x.text = y.text) : x = y := by
  obtain ⟨i, readX⟩ := read_magnitude x
  obtain ⟨j, readY⟩ := read_magnitude y
  rw [h, readY] at readX
  obtain ⟨mantissa, exponent⟩ := Prod.mk.inj (Option.some.inj readX)
  obtain ⟨same, rfl⟩ := digits_eq x.shortest y.shortest mantissa.symm
  rw [same] at exponent
  have point : x.point = y.point := by omega
  cases x
  cases y
  obtain rfl : _ = _ := same
  obtain rfl : _ = _ := point
  rfl

/-- A number's text starts with a digit. -/
theorem text_head (x : Magnitude) : ∃ c rest, x.text = c :: rest ∧ c.isDigit = true := by
  have digits := digits_parts x
  rw [Magnitude.text, Parts.text]
  cases whole : x.parts.whole with
  | nil => exact absurd whole digits.some
  | cons c rest => exact ⟨c, _, rfl, digits.whole c (whole ▸ List.mem_cons_self)⟩

theorem number_head (a : Number) : ∃ c rest, a.text = c :: rest ∧ (c = '-' ∨ c.isDigit = true) := by
  cases a with
  | zero => exact ⟨_, _, rfl, .inr rfl⟩
  | signed negative x =>
      obtain ⟨c, rest, starts, digit⟩ := text_head x
      cases negative
      · exact ⟨c, rest, starts, .inr digit⟩
      · exact ⟨_, _, rfl, .inl rfl⟩

theorem text_ne_zero (x : Magnitude) : x.text ≠ ['0'] := by
  intro h
  obtain ⟨zeros, named⟩ := read_magnitude x
  have zero : read ['0'] = some (0, 0) := by decide
  rw [h, zero] at named
  have product := (Prod.mk.inj (Option.some.inj named)).1
  have digits := x.shortest
  rcases Nat.mul_eq_zero.mp product.symm with none | none
  · rw [none] at digits
    exact digits rfl
  · exact absurd none (Nat.pow_pos (by decide)).ne'

theorem text_ne_minus (x y : Magnitude) : x.text ≠ '-' :: y.text := by
  intro h
  obtain ⟨c, rest, starts, digit⟩ := text_head x
  rw [starts] at h
  rw [(List.cons.inj h).1] at digit
  exact absurd digit (by decide)

theorem text_injective (h : a.text = b.text) : a = b := by
  cases a with
  | zero =>
      cases b with
      | zero => rfl
      | signed negative y =>
          cases negative
          · exact absurd h.symm (text_ne_zero y)
          · exact absurd (List.cons.inj h).1 (by decide)
  | signed negative x =>
      cases b with
      | zero =>
          cases negative
          · exact absurd h (text_ne_zero x)
          · exact absurd (List.cons.inj h).1 (by decide)
      | signed negative' y =>
          cases negative <;> cases negative'
          · rw [magnitude_injective h]
          · exact absurd h (text_ne_minus x y)
          · exact absurd h.symm (text_ne_minus y x)
          · rw [magnitude_injective (List.cons.inj h).2]

/-! ### Where a number ends -/

/-- What a number is written with. -/
def isNumeric (c : Char) : Bool := c.isDigit || ['.', 'e', '+', '-'].contains c

theorem isNumeric_parts (digits : parts.Digits) : ∀ c ∈ parts.text, isNumeric c = true := by
  have digit : ∀ c, c.isDigit = true → isNumeric c = true := by
    intro c h
    rw [isNumeric, h, Bool.true_or]
  intro c mem
  rw [Parts.text, List.mem_append, List.mem_append] at mem
  rcases mem with whole | fraction | exponent
  · exact digit c (digits.whole c whole)
  · split at fraction
    · cases fraction
    · rcases List.mem_cons.mp fraction with rfl | fraction
      · rfl
      · exact digit c (digits.fraction c fraction)
  · split at exponent
    · cases exponent
    · rcases List.mem_cons.mp exponent with rfl | exponent
      · rfl
      · rcases List.mem_cons.mp exponent with rfl | exponent
        · split <;> rfl
        · exact digit c (isDigit_toDigits c exponent)

theorem isNumeric_text (a : Number) : ∀ c ∈ a.text, isNumeric c = true := by
  have magnitude (x : Magnitude) : ∀ c ∈ x.text, isNumeric c = true :=
    isNumeric_parts (digits_parts x)
  cases a with
  | zero => simp [Number.text, isNumeric]
  | signed negative x =>
      cases negative
      · exact magnitude x
      · exact List.forall_mem_cons.mpr ⟨rfl, magnitude x⟩

/-- Two written numbers that begin two equal texts are one, if nothing numeric follows. -/
theorem text_cancel {rest rest' : List Char} (ends : ∀ c ∈ rest.head?, isNumeric c = false)
    (ends' : ∀ c ∈ rest'.head?, isNumeric c = false) (h : a.text ++ rest = b.text ++ rest') :
    a = b ∧ rest = rest' := by
  have taken (n : Number) (rest : List Char) (ends : ∀ c ∈ rest.head?, isNumeric c = false) :
      (n.text ++ rest).takeWhile isNumeric = n.text := by
    have none : rest.takeWhile isNumeric = [] := by
      cases rest with
      | nil => rfl
      | cons c rest => exact List.takeWhile_cons_of_neg (by simp [ends c rfl])
    rw [List.takeWhile_append_of_pos (isNumeric_text n), none, List.append_nil]
  have same : a.text = b.text := by rw [← taken a rest ends, h, taken b rest' ends']
  rw [same] at h
  exact ⟨text_injective same, List.append_cancel_left h⟩

end Decimal
