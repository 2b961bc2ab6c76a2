/-
This file says what it means that a value is read back: a reader that is given what is written for
the value, and anything that may follow it, returns the value and what follows. What may follow a
value are blanks, a comma, a closing bracket, or the end of the text. Blanks in front of a value are
of no account to a reader.
-/

import Leasehold.Json.Composite

namespace Leasehold.Json

/-! ### Cutting a text -/

section Cuts

variable {isFront : Char → Bool} {front back : List Char}

theorem takeWhile_append_of_head (all : ∀ char ∈ front, isFront char = true)
    (stops : ∀ char ∈ back.head?, isFront char = false) :
    (front ++ back).takeWhile isFront = front := by
  rw [List.takeWhile_append_of_pos all]
  cases back with
  | nil => exact List.append_nil front
  | cons first back =>
    rw [List.takeWhile_cons_of_neg (ne_true_of_eq_false (stops first rfl)), List.append_nil]

theorem dropWhile_append_of_head (all : ∀ char ∈ front, isFront char = true)
    (stops : ∀ char ∈ back.head?, isFront char = false) :
    (front ++ back).dropWhile isFront = back := by
  rw [List.dropWhile_append_of_pos all]
  cases back with
  | nil => rfl
  | cons first back => rw [List.dropWhile_cons_of_neg (ne_true_of_eq_false (stops first rfl))]

end Cuts

/-! ### Blanks -/

/-- Blanks and nothing else. -/
def Blank (text : List Char) : Prop := ∀ char ∈ text, isBlank char = true

theorem blank_nil : Blank [] := nofun

theorem skipBlanks_append {gap : List Char} (blank : Blank gap) (text : List Char) :
    skipBlanks (gap ++ text) = skipBlanks text :=
  List.dropWhile_append_of_pos blank

theorem skipBlanks_cons {char : Char} (solid : isBlank char = false) (rest : List Char) :
    skipBlanks (char :: rest) = char :: rest :=
  List.dropWhile_cons_of_neg (ne_true_of_eq_false solid)

/-! ### What is read back -/

/-- The text may follow a value. -/
def Ends (rest : List Char) : Prop :=
  ∀ char ∈ rest.head?, isBlank char = true ∨ char = ',' ∨ char = ']' ∨ char = '\x7d'

theorem ends_nil : Ends [] := nofun

theorem ends_cons {char : Char}
    (closes : isBlank char = true ∨ char = ',' ∨ char = ']' ∨ char = '\x7d') (rest : List Char) :
    Ends (char :: rest) := by
  intro first begun
  obtain rfl : char = first := by simpa using begun
  exact closes

/-- Blanks may follow a value if what comes after them may. -/
theorem Ends.afterBlanks {gap rest : List Char} (blank : Blank gap) (ends : Ends rest) :
    Ends (gap ++ rest) := by
  cases gap with
  | nil => exact ends
  | cons first gap => exact ends_cons (Or.inl (blank first List.mem_cons_self)) _

section Readers

variable {Value Other : Type} {read : List Char → Except Refusal (Value × List Char)}

/-- What is written for a value is read as that value, whatever follows. -/
def Reads (read : List Char → Except Refusal (Value × List Char)) (written : List Char)
    (value : Value) : Prop :=
  ∀ rest, Ends rest → read (written ++ rest) = .ok (value, rest)

/-- A reader makes nothing of blanks in front. -/
def SkipsBlanks (read : List Char → Except Refusal (Value × List Char)) : Prop :=
  ∀ gap text, Blank gap → read (gap ++ text) = read text

theorem Reads.afterBlanks {written gap : List Char} {value : Value}
    (reads : Reads read written value) (skips : SkipsBlanks read) (blank : Blank gap) :
    Reads read (gap ++ written) value := by
  intro rest ends
  rw [List.append_assoc, skips gap _ blank]
  exact reads rest ends

/-- A reader that goes by another and changes what that one returns. -/
theorem Reads.into {other : List Char → Except Refusal (Other × List Char)}
    {written : List Char} {value : Value} (reads : Reads read written value)
    (change : Value → Other)
    (goes : ∀ text, other text = (read text).bind fun found => .ok (change found.1, found.2)) :
    Reads other written (change value) := by
  intro rest ends
  rw [goes, reads rest ends]
  rfl

end Readers

/-! ### Readers -/

theorem skipsBlanks_readText : SkipsBlanks readText := by
  intro gap text blank
  rw [readText, readText, skipBlanks_append blank]

theorem skipsBlanks_readOptionalText : SkipsBlanks readOptionalText := by
  intro gap text blank
  rw [readOptionalText, readOptionalText, skipBlanks_append blank]

theorem skipsBlanks_readFlag : SkipsBlanks readFlag := by
  intro gap text blank
  rw [readFlag, readFlag, skipBlanks_append blank]

theorem skipsBlanks_readNatural (bound : Nat) : SkipsBlanks (readNatural bound) := by
  intro gap text blank
  rw [readNatural, readNatural, skipBlanks_append blank]

theorem reads_true : Reads readFlag ['t', 'r', 'u', 'e'] true := by
  intro rest _
  rfl

theorem reads_false : Reads readFlag ['f', 'a', 'l', 's', 'e'] false := by
  intro rest _
  rfl

theorem reads_null : Reads readOptionalText ['n', 'u', 'l', 'l'] none := by
  intro rest _
  rfl

end Leasehold.Json
