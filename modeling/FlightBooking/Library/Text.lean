import Mathlib.Algebra.GroupWithZero.Nat
import Mathlib.Data.List.TakeWhile

/-!
Texts as a JavaScript program sees them: how long they are, and what surrounds them.

A text is a list of characters; its length counts UTF-16 code units.
-/

namespace Text

/-- `length`. -/
def utf16Length (text : List Char) : Nat := (text.map fun c => if c.toNat < 65536 then 1 else 2).sum

/-- What `trim` takes off: white space and line terminators. -/
def isWhiteSpace (c : Char) : Bool :=
  [9, 10, 11, 12, 13, 32, 160, 5760, 8232, 8233, 8239, 8287, 12288, 65279].contains c.toNat ||
    (8192 ≤ c.toNat && c.toNat ≤ 8202)

def trim (text : List Char) : List Char :=
  ((text.dropWhile isWhiteSpace).reverse.dropWhile isWhiteSpace).reverse

/-- There is something else than white space. -/
def NotBlank (text : List Char) : Prop := ∃ c ∈ text, isWhiteSpace c = false

variable {text : List Char}

/-- Trimming leaves something exactly if the text is not blank. -/
theorem trim_ne_nil : trim text ≠ [] ↔ NotBlank text := by
  rw [trim, Ne, List.reverse_eq_nil_iff, List.dropWhile_eq_nil_iff, NotBlank]
  constructor
  · intro some
    by_contra blank
    have all : ∀ c ∈ text, isWhiteSpace c = true := by
      intro c mem
      by_contra other
      exact blank ⟨c, mem, by simpa using other⟩
    refine some fun c mem => all c ?_
    exact (List.dropWhile_suffix _).subset (List.mem_reverse.mp mem)
  · rintro ⟨c, mem, other⟩ all
    have rest : ∀ c ∈ text.dropWhile isWhiteSpace, isWhiteSpace c = true := fun c mem =>
      all c (List.mem_reverse.mpr mem)
    -- What is left would start with a character that is no white space.
    cases left : text.dropWhile isWhiteSpace with
    | nil =>
        have white := List.dropWhile_eq_nil_iff.mp left c mem
        rw [white] at other
        cases other
    | cons first tail =>
        have head := List.head?_dropWhile_not isWhiteSpace text
        rw [left] at head
        have white := rest first (left ▸ List.mem_cons_self)
        simp [white] at head

end Text
