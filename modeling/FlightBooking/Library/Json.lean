import Mathlib.Data.List.Basic
import Mathlib.Tactic.IntervalCases

/-!
JSON texts.

`Value.render` writes a value without spaces, `parse` reads any JSON text. What is
written is read back (`parse_render`). A text is a list of characters; a number that
is no integer is kept as it was written, and an escaped surrogate is read as the
replacement character.
-/

namespace Json

inductive Value where
  | null
  | bool (b : Bool)
  | int (n : Int)
  | fraction (text : List Char)
  | string (s : List Char)
  | array (items : List Value)
  | object (members : List (List Char × Value))

/-- A member of an object; of two with one name the later counts. -/
def Value.get? (name : List Char) : Value → Option Value
  | .object members => (members.reverse.find? (·.1 = name)).map (·.2)
  | _ => none

/-! ### Writing -/

def quote : Char := Char.ofNat 34

def backslash : Char := Char.ofNat 92

/-- The escapes of one letter, with the characters they stand for. -/
def shortEscapes : List (Char × Char) :=
  [(quote, quote), (backslash, backslash), (Char.ofNat 8, 'b'), (Char.ofNat 9, 't'),
    (Char.ofNat 10, 'n'), (Char.ofNat 12, 'f'), (Char.ofNat 13, 'r')]

def hexDigits (n : Nat) : List Char :=
  [n / 4096 % 16, n / 256 % 16, n / 16 % 16, n % 16].map Nat.digitChar

/-- One character inside a string. -/
def escape (c : Char) : List Char :=
  match shortEscapes.find? (·.1 = c) with
  | some short => [backslash, short.2]
  | none => if c.toNat < 32 then backslash :: 'u' :: hexDigits c.toNat else [c]

def renderString (s : List Char) : List Char := quote :: s.flatMap escape ++ [quote]

def renderInt (n : Int) : List Char :=
  if n < 0 then '-' :: Nat.toDigits 10 n.natAbs else Nat.toDigits 10 n.natAbs

mutual

/-- `JSON.stringify`. -/
def Value.render : Value → List Char
  | .null => ['n', 'u', 'l', 'l']
  | .bool true => ['t', 'r', 'u', 'e']
  | .bool false => ['f', 'a', 'l', 's', 'e']
  | .int n => renderInt n
  | .fraction text => text
  | .string s => renderString s
  | .array items => '[' :: renderItems items ++ [']']
  | .object members => '{' :: renderMembers members ++ ['}']

def renderItems : List Value → List Char
  | [] => []
  | [item] => item.render
  | item :: items => item.render ++ ',' :: renderItems items

def renderMembers : List (List Char × Value) → List Char
  | [] => []
  | [(name, value)] => renderString name ++ ':' :: value.render
  | (name, value) :: members =>
      renderString name ++ ':' :: (value.render ++ ',' :: renderMembers members)

end

/-! ### Reading -/

def isSpace (c : Char) : Bool := c = ' ' || c.toNat = 9 || c.toNat = 10 || c.toNat = 13

def skip (text : List Char) : List Char := text.dropWhile isSpace

def hexValue (c : Char) : Option Nat :=
  if c.isDigit then some (c.toNat - 48)
  else if 97 ≤ c.toNat ∧ c.toNat ≤ 102 then some (c.toNat - 87)
  else if 65 ≤ c.toNat ∧ c.toNat ≤ 70 then some (c.toNat - 55)
  else none

/-- The character of an escape of four hexadecimal digits. -/
def readHex (a b c d : Char) : Option Char := do
  let code := (← hexValue a) * 4096 + (← hexValue b) * 256 + (← hexValue c) * 16 + (← hexValue d)
  pure (Char.ofNat (if 55296 ≤ code ∧ code ≤ 57343 then 65533 else code))

/-- The character of an escape of one letter. -/
def readShort (letter : Char) : Option Char :=
  if letter = '/' then some '/' else (shortEscapes.find? (·.2 = letter)).map (·.1)

/-- The rest of a string, behind its opening quote, and what follows it. -/
def readString : List Char → Option (List Char × List Char)
  | [] => none
  | c :: rest =>
      if c = quote then some ([], rest)
      else if c = backslash then
        match rest with
        | [] => none
        | letter :: rest =>
            if letter = 'u' then
              match rest with
              | a :: b :: c :: d :: rest => do
                  let char ← readHex a b c d
                  (readString rest).map fun r => (char :: r.1, r.2)
              | _ => none
            else do
              let char ← readShort letter
              (readString rest).map fun r => (char :: r.1, r.2)
      else if c.toNat < 32 then none
      else (readString rest).map fun r => (c :: r.1, r.2)

/-- The digits after a point, if there is one; at least one. -/
def readFraction : List Char → Option (List Char × List Char)
  | '.' :: rest =>
      let digits := rest.takeWhile Char.isDigit
      if digits = [] then none else some (digits, rest.dropWhile Char.isDigit)
  | rest => some ([], rest)

def readSign : List Char → Int × List Char
  | [] => (1, [])
  | c :: rest => if c = '-' then (-1, rest) else if c = '+' then (1, rest) else (1, c :: rest)

/-- The exponent, if there is one; at least one digit. -/
def readExponent : List Char → Option (Int × List Char)
  | [] => some (0, [])
  | c :: rest =>
      if c = 'e' ∨ c = 'E' then
        let (sign, rest) := readSign rest
        let digits := rest.takeWhile Char.isDigit
        if digits = [] then none
        else some (sign * Nat.ofDigitChars 10 digits 0, rest.dropWhile Char.isDigit)
      else some (0, c :: rest)

/-- `mantissa · 10 ^ exponent`, if that is an integer. -/
def scaled (mantissa : Nat) (exponent : Int) : Option Nat :=
  if 0 ≤ exponent then some (mantissa * 10 ^ exponent.toNat)
  else if mantissa % 10 ^ (-exponent).toNat = 0 then some (mantissa / 10 ^ (-exponent).toNat)
  else none

/-- A number without its sign; no zero leads. -/
def readMagnitude (text : List Char) : Option (Option Nat × List Char) :=
  let whole := text.takeWhile Char.isDigit
  if whole = [] ∨ (whole.head? = some '0' ∧ 1 < whole.length) then none
  else do
    let (fraction, rest) ← readFraction (text.dropWhile Char.isDigit)
    let (exponent, rest) ← readExponent rest
    pure (scaled (Nat.ofDigitChars 10 (whole ++ fraction) 0) (exponent - fraction.length), rest)

def readNumber (text : List Char) : Option (Value × List Char) :=
  match text with
  | '-' :: magnitude => (readMagnitude magnitude).map fun r =>
      (match r.1 with
        | some n => .int (-n)
        | none => .fraction (text.take (text.length - r.2.length)), r.2)
  | _ => (readMagnitude text).map fun r =>
      (match r.1 with
        | some n => .int n
        | none => .fraction (text.take (text.length - r.2.length)), r.2)

def readWord (word : List Char) (value : Value) (text : List Char) : Option (Value × List Char) :=
  if word.isPrefixOf text then some (value, text.drop word.length) else none

/-- The text behind the sign, if that comes next. -/
def expect (sign : Char) (text : List Char) : Option (List Char) :=
  match skip text with
  | [] => none
  | c :: rest => if c = sign then some rest else none

mutual

def parseValue : Nat → List Char → Option (Value × List Char)
  | 0, _ => none
  | fuel + 1, text =>
      match skip text with
      | [] => none
      | c :: rest =>
          if c = quote then (readString rest).map fun r => (.string r.1, r.2)
          else if c = '[' then
            match expect ']' rest with
            | some rest => some (.array [], rest)
            | none => (parseItems fuel rest).map fun r => (.array r.1, r.2)
          else if c = '{' then
            match expect '}' rest with
            | some rest => some (.object [], rest)
            | none => (parseMembers fuel rest).map fun r => (.object r.1, r.2)
          else if c = 'n' then readWord ['n', 'u', 'l', 'l'] .null (c :: rest)
          else if c = 't' then readWord ['t', 'r', 'u', 'e'] (.bool true) (c :: rest)
          else if c = 'f' then readWord ['f', 'a', 'l', 's', 'e'] (.bool false) (c :: rest)
          else readNumber (c :: rest)

/-- Items up to the closing bracket. -/
def parseItems : Nat → List Char → Option (List Value × List Char)
  | 0, _ => none
  | fuel + 1, text => do
      let (item, rest) ← parseValue fuel text
      match expect ',' rest with
      | some rest => (parseItems fuel rest).map fun r => (item :: r.1, r.2)
      | none => (expect ']' rest).map fun rest => ([item], rest)

/-- Members up to the closing brace. -/
def parseMembers : Nat → List Char → Option (List (List Char × Value) × List Char)
  | 0, _ => none
  | fuel + 1, text => do
      let (name, rest) ← readString (← expect quote text)
      let (value, rest) ← parseValue fuel (← expect ':' rest)
      match expect ',' rest with
      | some rest => (parseMembers fuel rest).map fun r => ((name, value) :: r.1, r.2)
      | none => (expect '}' rest).map fun rest => ([(name, value)], rest)

end

/-- `JSON.parse`; `none` is a syntax error. -/
def parse (text : List Char) : Option Value := do
  let (value, rest) ← parseValue (2 * text.length + 1) text
  if skip rest = [] then pure value else none

/-! ### Reading what was written -/

variable {c : Char} {n : Nat} {s text rest : List Char} {v : Value}

/-- The value has no number that is kept as text. -/
inductive Value.Exact : Value → Prop where
  | null : Exact .null
  | bool (b : Bool) : Exact (.bool b)
  | int (n : Int) : Exact (.int n)
  | string (s : List Char) : Exact (.string s)
  | array {items : List Value} (all : ∀ item ∈ items, Exact item) : Exact (.array items)
  | object {members : List (List Char × Value)} (all : ∀ member ∈ members, Exact member.2) :
      Exact (.object members)

/-- What follows a value: nothing, a comma or a closing bracket. -/
def Ends (rest : List Char) : Prop := ∀ c ∈ rest.head?, c = ',' ∨ c = ']' ∨ c = '}'

theorem ends_nil : Ends [] := by
  intro c h
  cases h

theorem ends_comma : Ends (',' :: rest) := by
  intro c h
  cases h
  exact .inl rfl

theorem ends_bracket : Ends (']' :: rest) := by
  intro c h
  cases h
  exact .inr (.inl rfl)

theorem ends_brace : Ends ('}' :: rest) := by
  intro c h
  cases h
  exact .inr (.inr rfl)

theorem skip_cons (h : isSpace c = false) : skip (c :: rest) = c :: rest := by
  rw [skip, List.dropWhile_cons_of_neg (by simp [h])]

/-! #### Strings -/

theorem hexValue_digitChar : ∀ d < 16, hexValue (Nat.digitChar d) = some d := by
  decide

theorem readHex_hexDigits (h : c.toNat < 32) :
    readHex (Nat.digitChar (c.toNat / 4096 % 16)) (Nat.digitChar (c.toNat / 256 % 16))
      (Nat.digitChar (c.toNat / 16 % 16)) (Nat.digitChar (c.toNat % 16)) = some c := by
  have value : c.toNat / 4096 % 16 * 4096 + c.toNat / 256 % 16 * 256 + c.toNat / 16 % 16 * 16 +
      c.toNat % 16 = c.toNat := by omega
  have small : ¬ (55296 ≤ c.toNat ∧ c.toNat ≤ 57343) := by omega
  rw [readHex, hexValue_digitChar _ (Nat.mod_lt _ (by decide)),
    hexValue_digitChar _ (Nat.mod_lt _ (by decide)), hexValue_digitChar _ (Nat.mod_lt _ (by decide)),
    hexValue_digitChar _ (Nat.mod_lt _ (by decide))]
  simp only [Option.bind_eq_bind, Option.bind_some, Option.pure_def, value, if_neg small,
    Char.ofNat_toNat]

/-- Each escape of one letter reads back as its character; none of the letters is a
`u`, and none of the characters goes unescaped. -/
theorem readShort_snd : ∀ short ∈ shortEscapes,
    short.2 ≠ 'u' ∧ readShort short.2 = some short.1 := by
  decide

theorem readString_quote (rest : List Char) : readString (quote :: rest) = some ([], rest) := by
  rw [readString.eq_def]
  exact if_pos rfl

theorem readString_short {letter : Char} (other : letter ≠ 'u') (rest : List Char) :
    readString (backslash :: letter :: rest) =
      (readShort letter).bind fun char => (readString rest).map fun r => (char :: r.1, r.2) := by
  rw [readString.eq_def]
  exact (if_neg (by decide)).trans ((if_pos rfl).trans (if_neg other))

theorem readString_hex (a b c d : Char) (rest : List Char) :
    readString (backslash :: 'u' :: a :: b :: c :: d :: rest) =
      (readHex a b c d).bind fun char => (readString rest).map fun r => (char :: r.1, r.2) := by
  rw [readString.eq_def]
  exact (if_neg (by decide)).trans ((if_pos rfl).trans (if_pos rfl))

theorem readString_plain (notQuote : c ≠ quote) (notBackslash : c ≠ backslash)
    (printed : ¬ c.toNat < 32) (rest : List Char) :
    readString (c :: rest) = (readString rest).map fun r => (c :: r.1, r.2) := by
  rw [readString.eq_def]
  exact (if_neg notQuote).trans ((if_neg notBackslash).trans (if_neg printed))

/-- A character is escaped with a letter, with its code, or not at all. -/
theorem escape_cases (c : Char) :
    (∃ short ∈ shortEscapes, short.1 = c ∧ escape c = [backslash, short.2]) ∨
      (c.toNat < 32 ∧ escape c = backslash :: 'u' :: hexDigits c.toNat) ∨
      (c ≠ quote ∧ c ≠ backslash ∧ ¬ c.toNat < 32 ∧ escape c = [c]) := by
  rw [escape]
  cases found : shortEscapes.find? (·.1 = c) with
  | some short =>
      have char : short.1 = c := by simpa using List.find?_some found
      exact .inl ⟨short, List.mem_of_find?_eq_some found, char, rfl⟩
  | none =>
      have plain : ∀ short ∈ shortEscapes, short.1 ≠ c := by
        intro short mem same
        exact List.find?_eq_none.mp found short mem (by simpa using same)
      have notQuote : c ≠ quote := fun same => plain (quote, quote) (by decide) same.symm
      have notBackslash : c ≠ backslash := fun same =>
        plain (backslash, backslash) (by decide) same.symm
      by_cases control : c.toNat < 32
      · exact .inr (.inl ⟨control, if_pos control⟩)
      · exact .inr (.inr ⟨notQuote, notBackslash, control, if_neg control⟩)

theorem readString_escape (c : Char) (rest : List Char) :
    readString (escape c ++ rest) = (readString rest).map fun r => (c :: r.1, r.2) := by
  obtain ⟨short, mem, char, escaped⟩ | ⟨control, escaped⟩ |
    ⟨notQuote, notBackslash, printed, escaped⟩ := escape_cases c
  · obtain ⟨other, read⟩ := readShort_snd short mem
    rw [escaped, List.cons_append, List.cons_append, List.nil_append, readString_short other, read,
      Option.bind_some, char]
  · rw [escaped]
    simp only [hexDigits, List.map_cons, List.map_nil, List.cons_append, List.nil_append]
    rw [readString_hex, readHex_hexDigits control, Option.bind_some]
  · rw [escaped, List.cons_append, List.nil_append, readString_plain notQuote notBackslash printed]

/-- A written string, behind its opening quote, reads back. -/
theorem readString_escapes (s rest : List Char) :
    readString (s.flatMap escape ++ quote :: rest) = some (s, rest) := by
  induction s with
  | nil => rw [List.flatMap_nil, List.nil_append, readString_quote]
  | cons c s ih =>
      rw [List.flatMap_cons, List.append_assoc, readString_escape, ih, Option.map_some]

/-! #### Integers -/

theorem head_toDigits (positive : 0 < n) : (Nat.toDigits 10 n).head? ≠ some '0' := by
  induction n using Nat.strongRecOn with
  | _ n ih =>
      rw [Nat.toDigits_eq_if (by decide)]
      split
      · intro zero
        have : n.digitChar = '0' := by simpa using zero
        rw [Nat.digitChar_eq_zero] at this
        omega
      · rw [List.head?_append_of_ne_nil _ Nat.toDigits_ne_nil]
        exact ih (n / 10) (by omega) (by omega)

theorem takeWhile_digits {digits : List Char} (all : ∀ c ∈ digits, c.isDigit = true)
    (h : ∀ c ∈ rest.head?, c.isDigit = false) :
    (digits ++ rest).takeWhile Char.isDigit = digits ∧
      (digits ++ rest).dropWhile Char.isDigit = rest := by
  have none : rest.takeWhile Char.isDigit = [] ∧ rest.dropWhile Char.isDigit = rest := by
    cases rest with
    | nil => exact ⟨rfl, rfl⟩
    | cons c rest =>
        have : c.isDigit = false := h c rfl
        exact ⟨List.takeWhile_cons_of_neg (by simp [this]), List.dropWhile_cons_of_neg (by simp [this])⟩
  rw [List.takeWhile_append_of_pos all, List.dropWhile_append_of_pos all, none.1, none.2,
    List.append_nil]
  exact ⟨rfl, rfl⟩

theorem Ends.char (ends : Ends rest) {c : Char} (h : c ∈ rest.head?) :
    c.isDigit = false ∧ c ≠ '.' ∧ c ≠ 'e' ∧ c ≠ 'E' ∧ isSpace c = false := by
  rcases ends c h with rfl | rfl | rfl <;> decide

theorem readFraction_ends (ends : Ends rest) : readFraction rest = some ([], rest) := by
  unfold readFraction
  split
  · exact absurd rfl (ends.char (c := '.') rfl).2.1
  · rfl

theorem readExponent_ends (ends : Ends rest) : readExponent rest = some (0, rest) := by
  cases rest with
  | nil => rfl
  | cons c rest =>
      have other := ends.char (c := c) rfl
      have none : ¬ (c = 'e' ∨ c = 'E') := by
        rintro (same | same)
        · exact other.2.2.1 same
        · exact other.2.2.2.1 same
      simp only [readExponent, if_neg none]

theorem readMagnitude_toDigits (n : Nat) (ends : Ends rest) :
    readMagnitude (Nat.toDigits 10 n ++ rest) = some (some n, rest) := by
  have digits : ∀ c ∈ Nat.toDigits 10 n, c.isDigit = true :=
    fun _ h => Nat.isDigit_of_mem_toDigits (by decide) (by decide) h
  obtain ⟨taken, dropped⟩ := takeWhile_digits digits fun c h => (ends.char h).1
  have start : ¬ (Nat.toDigits 10 n = [] ∨
      ((Nat.toDigits 10 n).head? = some '0' ∧ 1 < (Nat.toDigits 10 n).length)) := by
    rintro (empty | ⟨zero, long⟩)
    · exact Nat.toDigits_ne_nil empty
    · rcases Nat.eq_zero_or_pos n with rfl | positive
      · exact absurd long (by decide)
      · exact head_toDigits positive zero
  simp only [readMagnitude, taken, dropped, if_neg start, readFraction_ends ends,
    readExponent_ends ends, Option.bind_eq_bind, Option.bind_some, Option.pure_def,
    List.append_nil, Nat.ofDigitChars_ten_toDigits, scaled, List.length_nil]
  simp

theorem readNumber_renderInt (n : Int) (ends : Ends rest) :
    readNumber (renderInt n ++ rest) = some (.int n, rest) := by
  rw [renderInt]
  split
  · rename_i negative
    have same : -(n.natAbs : Int) = n := by omega
    simp only [List.cons_append, readNumber, readMagnitude_toDigits _ ends, Option.map_some, same]
  · rename_i natural
    rw [readNumber]
    · have same : (n.natAbs : Int) = n := by omega
      simp only [readMagnitude_toDigits _ ends, Option.map_some, same]
    · intro magnitude minus
      have first : (Nat.toDigits 10 n.natAbs ++ rest).head? = some '-' := by rw [minus]; rfl
      rw [List.head?_append_of_ne_nil _ Nat.toDigits_ne_nil] at first
      have digit := Nat.isDigit_of_mem_toDigits (b := 10) (by decide) (by decide)
        (List.mem_of_mem_head? first)
      exact absurd digit (by decide)

/-! #### Values -/

theorem expect_self (printed : isSpace c = false) : expect c (c :: rest) = some rest := by
  simp only [expect, skip_cons printed, if_pos]

theorem expect_other {sign : Char} (printed : isSpace c = false) (other : c ≠ sign) :
    expect sign (c :: rest) = none := by
  simp only [expect, skip_cons printed, if_neg other]

/-- An integer starts with its sign or a digit. -/
theorem renderInt_head (n : Int) :
    ∃ c tail, renderInt n = c :: tail ∧ (c = '-' ∨ c.isDigit = true) := by
  rw [renderInt]
  split
  · exact ⟨_, _, rfl, .inl rfl⟩
  · cases digits : Nat.toDigits 10 n.natAbs with
    | nil => exact absurd digits Nat.toDigits_ne_nil
    | cons c tail =>
        refine ⟨c, tail, rfl, .inr ?_⟩
        exact Nat.isDigit_of_mem_toDigits (b := 10) (by decide) (by decide)
          (digits ▸ List.mem_cons_self)

/-- Such a start is no space and starts no other value. -/
theorem number_start (start : c = '-' ∨ c.isDigit = true) :
    isSpace c = false ∧ ∀ other ∈ [quote, '[', ']', '{', '}', 'n', 't', 'f'], c ≠ other := by
  constructor
  · rcases start with rfl | digit
    · decide
    · have bound : 48 ≤ c.toNat := by
        simp only [Char.isDigit, Bool.and_eq_true, decide_eq_true_eq] at digit
        exact UInt32.le_iff_toNat_le.mp digit.1
      have blank : c ≠ ' ' := by
        rintro rfl
        exact absurd bound (by decide)
      have later : c.toNat ≠ 9 ∧ c.toNat ≠ 10 ∧ c.toNat ≠ 13 := by omega
      simp only [isSpace, blank, later, decide_false, Bool.or_self]
  · rintro other mem rfl
    revert mem
    rcases start with rfl | digit
    · decide
    · have sign : [quote, '[', ']', '{', '}', 'n', 't', 'f'].all (fun c => !c.isDigit) = true := by
        decide
      intro mem
      have none := List.all_eq_true.mp sign c mem
      rw [digit] at none
      cases none

/-- A written value starts with a character that is no space and closes nothing. -/
theorem Value.Exact.head (exact : v.Exact) :
    ∃ c tail, v.render = c :: tail ∧ isSpace c = false ∧ c ≠ ']' := by
  cases exact with
  | null => exact ⟨_, _, rfl, by decide⟩
  | bool b => cases b <;> exact ⟨_, _, rfl, by decide⟩
  | int n =>
      obtain ⟨c, tail, written, start⟩ := renderInt_head n
      obtain ⟨printed, other⟩ := number_start start
      exact ⟨c, tail, written, printed, other _ (by decide)⟩
  | string s => exact ⟨_, _, rfl, by decide⟩
  | array => exact ⟨_, _, rfl, by decide⟩
  | object => exact ⟨_, _, rfl, by decide⟩

/-- A written value is read back, and what follows it is left. -/
def ReadsBack (v : Value) : Prop :=
  ∀ fuel rest, 2 * v.render.length + 1 ≤ fuel → Ends rest →
    parseValue fuel (v.render ++ rest) = some (v, rest)

theorem parseItems_renderItems {items : List Value} (exact : ∀ item ∈ items, item.Exact)
    (each : ∀ item ∈ items, ReadsBack item) (some : items ≠ []) :
    ∀ fuel rest, 2 * (renderItems items).length + 2 ≤ fuel →
      parseItems fuel (renderItems items ++ ']' :: rest) = .some (items, rest) := by
  induction items with
  | nil => exact absurd rfl some
  | cons item items ih =>
      intro fuel rest enough
      obtain ⟨fuel, rfl⟩ : ∃ k, fuel = k + 1 := ⟨fuel - 1, by omega⟩
      have first := each item List.mem_cons_self
      cases items with
      | nil =>
          simp only [renderItems] at enough ⊢
          rw [parseItems, first fuel _ (by omega) ends_bracket]
          simp only [Option.bind_eq_bind, Option.bind_some]
          rw [expect_other (by decide) (by decide), expect_self (by decide)]
          rfl
      | cons next items =>
          simp only [renderItems, List.length_append, List.length_cons] at enough
          simp only [renderItems, List.append_assoc, List.cons_append]
          rw [parseItems, first fuel _ (by omega) ends_comma]
          simp only [Option.bind_eq_bind, Option.bind_some]
          rw [expect_self (by decide)]
          simp only []
          rw [ih (fun _ h => exact _ (.tail _ h)) (fun _ h => each _ (.tail _ h)) (by simp) fuel rest
            (by omega)]
          rfl

theorem parseMembers_renderMembers {members : List (List Char × Value)}
    (each : ∀ member ∈ members, ReadsBack member.2) (some : members ≠ []) :
    ∀ fuel rest, 2 * (renderMembers members).length + 2 ≤ fuel →
      parseMembers fuel (renderMembers members ++ '}' :: rest) = .some (members, rest) := by
  induction members with
  | nil => exact absurd rfl some
  | cons member members ih =>
      intro fuel rest enough
      obtain ⟨name, value⟩ := member
      obtain ⟨fuel, rfl⟩ : ∃ k, fuel = k + 1 := ⟨fuel - 1, by omega⟩
      have first := each (name, value) List.mem_cons_self
      cases members with
      | nil =>
          simp only [renderMembers, renderString, List.length_append, List.length_cons] at enough
          simp only [renderMembers, renderString, List.append_assoc, List.cons_append,
            List.nil_append]
          rw [parseMembers, expect_self (by decide)]
          simp only [Option.bind_eq_bind, Option.bind_some]
          rw [readString_escapes]
          simp only [Option.bind_some]
          rw [expect_self (by decide)]
          simp only [Option.bind_some]
          rw [first fuel _ (by simp only; omega) ends_brace]
          simp only [Option.bind_some]
          rw [expect_other (by decide) (by decide), expect_self (by decide)]
          rfl
      | cons next members =>
          simp only [renderMembers, renderString, List.length_append, List.length_cons] at enough
          simp only [renderMembers, renderString, List.append_assoc, List.cons_append,
            List.nil_append]
          rw [parseMembers, expect_self (by decide)]
          simp only [Option.bind_eq_bind, Option.bind_some]
          rw [readString_escapes]
          simp only [Option.bind_some]
          rw [expect_self (by decide)]
          simp only [Option.bind_some]
          rw [first fuel _ (by simp only; omega) ends_comma]
          simp only [Option.bind_some]
          rw [expect_self (by decide)]
          simp only []
          rw [ih (fun _ h => each _ (.tail _ h)) (by simp) fuel rest (by omega)]
          rfl

theorem Value.Exact.readsBack (exact : v.Exact) : ReadsBack v := by
  induction exact with
  | null =>
      intro fuel rest enough _
      obtain ⟨fuel, rfl⟩ : ∃ k, fuel = k + 1 := ⟨fuel - 1, by omega⟩
      rw [Value.render, parseValue, List.cons_append, skip_cons (by decide)]
      rfl
  | bool b =>
      intro fuel rest enough _
      obtain ⟨fuel, rfl⟩ : ∃ k, fuel = k + 1 := ⟨fuel - 1, by omega⟩
      cases b <;>
        · rw [Value.render, parseValue, List.cons_append, skip_cons (by decide)]
          rfl
  | int n =>
      intro fuel rest enough ends
      obtain ⟨fuel, rfl⟩ : ∃ k, fuel = k + 1 := ⟨fuel - 1, by omega⟩
      obtain ⟨c, tail, written, start⟩ := renderInt_head n
      obtain ⟨printed, other⟩ := number_start start
      have read := readNumber_renderInt n ends
      rw [written, List.cons_append] at read
      rw [Value.render, written, List.cons_append, parseValue, skip_cons printed]
      simp only [if_neg (other quote (by decide)), if_neg (other '[' (by decide)),
        if_neg (other '{' (by decide)), if_neg (other 'n' (by decide)),
        if_neg (other 't' (by decide)), if_neg (other 'f' (by decide)), read]
  | string s =>
      intro fuel rest enough _
      obtain ⟨fuel, rfl⟩ : ∃ k, fuel = k + 1 := ⟨fuel - 1, by omega⟩
      simp only [Value.render, renderString, List.cons_append, List.append_assoc, List.nil_append]
      rw [parseValue, skip_cons (by decide)]
      simp only [if_pos, readString_escapes, Option.map_some]
  | @array items all ih =>
      intro fuel rest enough _
      obtain ⟨fuel, rfl⟩ : ∃ k, fuel = k + 1 := ⟨fuel - 1, by omega⟩
      simp only [Value.render, List.length_append, List.length_cons] at enough
      simp only [Value.render, List.cons_append, List.append_assoc, List.nil_append]
      rw [parseValue, skip_cons (by decide)]
      simp only [if_neg (show ¬ '[' = quote by decide), if_pos]
      cases items with
      | nil =>
        simp only [renderItems, List.nil_append]
        rw [expect_self (by decide)]
      | cons item items =>
        have none : expect ']' (renderItems (item :: items) ++ ']' :: rest) = none := by
          obtain ⟨c, tail, head, printed, other⟩ := (all item List.mem_cons_self).head
          cases items <;>
            · simp only [renderItems, head, List.cons_append]
              exact expect_other printed other
        rw [none]
        simp only []
        rw [parseItems_renderItems all ih (by simp) fuel rest (by omega)]
        rfl
  | @object members all ih =>
      intro fuel rest enough _
      obtain ⟨fuel, rfl⟩ : ∃ k, fuel = k + 1 := ⟨fuel - 1, by omega⟩
      simp only [Value.render, List.length_append, List.length_cons] at enough
      simp only [Value.render, List.cons_append, List.append_assoc, List.nil_append]
      rw [parseValue, skip_cons (by decide)]
      simp only [if_neg (show ¬ '{' = quote by decide), if_neg (show ¬ '{' = '[' by decide), if_pos]
      cases members with
      | nil =>
        simp only [renderMembers, List.nil_append]
        rw [expect_self (by decide)]
      | cons member members =>
        have none : expect '}' (renderMembers (member :: members) ++ '}' :: rest) = none := by
          cases members <;>
            · simp only [renderMembers, renderString, List.cons_append]
              exact expect_other (by decide) (by decide)
        rw [none]
        simp only []
        rw [parseMembers_renderMembers ih (by simp) fuel rest (by omega)]
        rfl

/-- What is written is read back. -/
theorem parse_render (exact : v.Exact) : parse v.render = some v := by
  have read := exact.readsBack (2 * v.render.length + 1) [] (Nat.le_refl _) ends_nil
  rw [List.append_nil] at read
  rw [parse, read]
  rfl

/-! ### Plain texts -/

/-- An ASCII character that is written as it is. -/
def Plain (c : Char) : Prop := escape c = [c] ∧ c.toNat < 128

instance (c : Char) : Decidable (Plain c) := inferInstanceAs (Decidable (_ ∧ _))

theorem renderString_plain (plain : ∀ c ∈ s, Plain c) : renderString s = quote :: (s ++ [quote]) := by
  have same : s.flatMap escape = s := by
    induction s with
    | nil => rfl
    | cons c s ih =>
        rw [List.flatMap_cons, (plain c List.mem_cons_self).1,
          ih fun c h => plain c (.tail _ h)]
        rfl
  rw [renderString, same, List.cons_append]

theorem plain_digit (digit : c.isDigit = true) : Plain c := by
  have bounds : 48 ≤ c.toNat ∧ c.toNat ≤ 57 := by
    simp only [Char.isDigit, Bool.and_eq_true, decide_eq_true_eq] at digit
    exact ⟨UInt32.le_iff_toNat_le.mp digit.1, UInt32.le_iff_toNat_le.mp digit.2⟩
  have same : c = Char.ofNat c.toNat := (Char.ofNat_toNat c).symm
  have each : ∀ n, 48 ≤ n → n ≤ 57 → Plain (Char.ofNat n) := by
    intro n first last
    interval_cases n <;> decide
  rw [same]
  exact each _ bounds.1 bounds.2

theorem plain_toDigits (n : Nat) : ∀ c ∈ Nat.toDigits 10 n, Plain c :=
  fun _ h => plain_digit (Nat.isDigit_of_mem_toDigits (by decide) (by decide) h)

end Json
