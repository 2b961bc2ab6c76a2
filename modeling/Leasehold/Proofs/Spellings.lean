/-
This file proves that strings are read back however they are spelt. A character is spelt as itself,
with a letter after a backslash, by the 16-bit unit that it is, or by the two units of a surrogate
pair. What a printer writes for a character is one of these spellings.
-/

import Leasehold.Json.Printer
import Leasehold.Proofs.Readings

namespace Leasehold.Json

/-! ### Characters -/

/-- The ways to spell a character in a string. -/
inductive Spelling : Char → List Char → Prop where
  | plain {char : Char} : 0x20 ≤ char.toNat → char ≠ '\"' → char ≠ '\\' → Spelling char [char]
  | letter {char letter : Char} : escapeLetter? letter = some char →
    Spelling char ['\\', letter]
  | unit {first second third fourth : Char} {unit : Nat} :
    hexUnit? first second third fourth = some unit → isLeadingHalf unit = false →
    isTrailingHalf unit = false →
    Spelling (Char.ofNat unit) ['\\', 'u', first, second, third, fourth]
  | pair {first second third fourth fifth sixth seventh eighth : Char} {leading trailing : Nat} :
    hexUnit? first second third fourth = some leading → isLeadingHalf leading = true →
    isTrailingHalf leading = false →
    hexUnit? fifth sixth seventh eighth = some trailing → isTrailingHalf trailing = true →
    Spelling (pairedChar leading trailing)
      ['\\', 'u', first, second, third, fourth, '\\', 'u', fifth, sixth, seventh, eighth]

theorem readChars_plain {char : Char} (printable : 0x20 ≤ char.toNat) (quote : char ≠ '\"')
    (backslash : char ≠ '\\') (rest : List Char) :
    readChars (char :: rest) = consRead char (readChars rest) := by
  rw [readChars]
  · exact if_neg (by omega)
  -- the patterns before the last one ask for a quotation mark or a backslash
  all_goals simp_all

theorem Spelling.readChars {char : Char} {spelt : List Char} (spelling : Spelling char spelt)
    (rest : List Char) : readChars (spelt ++ rest) = consRead char (readChars rest) := by
  cases spelling with
  | plain printable quote backslash => exact readChars_plain printable quote backslash rest
  | @letter _ letter named =>
    have notUnit : letter ≠ 'u' := by
      rintro rfl
      cases named
    simp only [List.cons_append, List.nil_append]
    rw [Json.readChars]
    · simp only [named]
    all_goals simp_all
  | unit named lone low =>
    simp only [List.cons_append, List.nil_append, Json.readChars, named, lone, low]
    rfl
  | pair named leads low paired trails =>
    simp only [List.cons_append, List.nil_append, Json.readChars, named, leads, low, paired,
      trails]
    rfl

/-- A control character below the blank is the unit of its two digits after two zeros. -/
theorem hexUnit?_hexPair {code : Nat} (control : code < 0x20) :
    hexUnit? '0' '0' (Nat.digitChar (code / 16)) (Nat.digitChar (code % 16)) = some code := by
  revert code
  decide

theorem spelling_escapedChar (char : Char) : Spelling char (escapedChar char) := by
  unfold escapedChar
  -- seven characters have an escape of one letter
  iterate 7
    split
    next same =>
      subst same
      exact .letter rfl
  split
  next control =>
    have named := Spelling.unit (hexUnit?_hexPair control) (by simp [isLeadingHalf]; omega)
      (by simp [isTrailingHalf]; omega)
    rwa [Char.ofNat_toNat] at named
  next printable => exact .plain (by omega) ‹_› ‹_›

/-! ### Strings -/

/-- The ways to spell the characters of a string. -/
inductive Spells : List Char → List Char → Prop where
  | nil : Spells [] []
  | cons {char : Char} {chars spelt further : List Char} : Spelling char spelt →
    Spells chars further → Spells (char :: chars) (spelt ++ further)

/-- Characters are read back up to the quotation mark after them. -/
theorem Spells.readChars {chars spelt : List Char} (spells : Spells chars spelt)
    (rest : List Char) : readChars (spelt ++ '\"' :: rest) = .ok (chars, rest) := by
  induction spells with
  | nil => rfl
  | cons spelling _ inductionHypothesis =>
    rw [List.append_assoc, spelling.readChars, inductionHypothesis]
    rfl

theorem spells_escaped (chars : List Char) : Spells chars (chars.flatMap escapedChar) := by
  induction chars with
  | nil => exact .nil
  | cons char chars inductionHypothesis =>
    exact .cons (spelling_escapedChar char) inductionHypothesis

/-- The ways to write a string: its characters, each spelt in some way, in quotation marks. -/
inductive Literal (text : String) : List Char → Prop where
  | intro {spelt : List Char} : Spells text.toList spelt →
    Literal text ('\"' :: (spelt ++ ['\"']))

theorem literal_stringText (text : String) : Literal text (stringText text).toList := by
  rw [stringText, String.toList_ofList, List.cons_append]
  exact .intro (spells_escaped text.toList)

variable {text : String} {written : List Char}

theorem Literal.reads (literal : Literal text written) : Reads readText written text := by
  intro rest _
  obtain ⟨spells⟩ := literal
  rw [List.cons_append, List.append_assoc, readText]
  simp only [skipBlanks_cons (show isBlank '\"' = false from rfl), List.cons_append,
    List.nil_append, spells.readChars, bind, Except.bind, String.ofList_toList]

theorem Literal.reads_some (literal : Literal text written) :
    Reads readOptionalText written (some text) := by
  intro rest ends
  have read := literal.reads rest ends
  obtain ⟨spells⟩ := literal
  rw [List.cons_append] at read ⊢
  rw [readOptionalText, skipBlanks_cons (show isBlank '\"' = false from rfl)]
  show (readText _).bind (fun value => .ok (some value.1, value.2)) = _
  rw [read]
  rfl

end Leasehold.Json
