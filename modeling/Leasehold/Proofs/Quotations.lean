/-
This file proves that a quoted text says which text it is. A reader of quoted characters undoes what
the printer writes for each of them, whatever follows, and nothing that is written for a character
begins with a quotation mark. So two quotes are alike only if the texts are, even with more text
after them. The second half shows that a quote stays on its line: no control character and no line
break is written for any character.
-/

import Leasehold.Text.CodeTable
import Leasehold.Text.Quoted

namespace Leasehold

/-! ### Hexadecimal digits -/

/-- A digit to either base below seventeen. -/
def isHexDigit (char : Char) : Bool := (hexValue? char).isSome

theorem hexValue?_digitChar {digit : Nat} (small : digit < 16) :
    hexValue? (Nat.digitChar digit) = some digit := by
  revert digit
  decide

theorem hexNumber_append (digits : List Char) (last : Char) :
    hexNumber (digits ++ [last]) = hexNumber digits * 16 + (hexValue? last).getD 0 := by
  simp only [hexNumber, List.foldl_append, List.foldl_cons, List.foldl_nil]

/-- A number is written in digits and read back from them. -/
theorem hexNumber_toDigits (number : Nat) :
    hexNumber (Nat.toDigits 16 number) = number ∧
      ∀ char ∈ Nat.toDigits 16 number, ∃ digit < 16, char = Nat.digitChar digit := by
  induction number using Nat.strongRecOn with
  | ind number inductionHypothesis =>
    by_cases single : number < 16
    · rw [Nat.toDigits_of_lt_base single]
      have value := hexNumber_append [] (Nat.digitChar number)
      rw [hexValue?_digitChar single] at value
      exact ⟨value.trans (Nat.zero_add number),
        fun char member => ⟨number, single, List.mem_singleton.mp member⟩⟩
    · obtain ⟨read, digits⟩ := inductionHypothesis (number / 16) (by omega)
      have small : number % 16 < 16 := Nat.mod_lt number (by decide)
      rw [Nat.toDigits_of_base_le (by decide) (by omega)]
      constructor
      · rw [hexNumber_append, read, hexValue?_digitChar small, Option.getD_some]
        omega
      · intro char member
        rcases List.mem_append.mp member with front | last
        · exact digits char front
        · exact ⟨number % 16, small, List.mem_singleton.mp last⟩

theorem isHexDigit_of_mem_toDigits {number : Nat} {char : Char}
    (member : char ∈ Nat.toDigits 16 number) : isHexDigit char = true := by
  obtain ⟨digit, small, rfl⟩ := (hexNumber_toDigits number).2 char member
  rw [isHexDigit, hexValue?_digitChar small, Option.isSome_some]

/-! ### Reading a quote -/

/-- The character that a letter after a backslash stands for. -/
def namedChar? : Char → Option Char
  | '0' => some '\x00'
  | 't' => some '\t'
  | 'r' => some '\r'
  | 'n' => some '\n'
  | '\"' => some '\"'
  | '\\' => some '\\'
  | _ => none

/-- The ways in which a character is written in a quote: by its letter, by its number, or as itself
if it has neither a meaning in the quote nor is hidden. -/
inductive Quoting (char : Char) : List Char → Prop where
  | named {letter : Char} : namedChar? letter = some char → Quoting char ['\\', letter]
  | numbered : Quoting char (numbered char)
  | plain : char ≠ '\"' → char ≠ '\\' → isHidden char = false → Quoting char [char]

theorem quoting_quotedChar (char : Char) : Quoting char (quotedChar char) := by
  unfold quotedChar
  -- six characters have a letter of their own
  iterate 6
    split
    next same =>
      subst same
      exact .named rfl
  split
  · exact .numbered
  next shown =>
    rw [Bool.or_eq_true, not_or, Bool.not_eq_true, Bool.not_eq_true] at shown
    exact .plain ‹_› ‹_› shown.2

/-- Reads a character of a quoted text. -/
def readQuotedChar : List Char → Option (Char × List Char)
  | '\\' :: 'u' :: '\x7b' :: rest =>
    some (Char.ofNat (hexNumber (rest.takeWhile isHexDigit)), (rest.dropWhile isHexDigit).tail)
  | '\\' :: letter :: rest => (namedChar? letter).map (·, rest)
  | char :: rest => some (char, rest)
  | [] => none

theorem readQuotedChar_named {letter char : Char} (named : namedChar? letter = some char)
    (rest : List Char) : readQuotedChar ('\\' :: letter :: rest) = some (char, rest) := by
  have notNumber : letter ≠ 'u' := by
    rintro rfl
    cases named
  rw [readQuotedChar]
  · rw [named]
    rfl
  · intro _ number
    exact absurd number notNumber

theorem readQuotedChar_plain {char : Char} (plain : char ≠ '\\') (rest : List Char) :
    readQuotedChar (char :: rest) = some (char, rest) := by
  rw [readQuotedChar]
  all_goals simp_all

theorem readQuotedChar_numbered (char : Char) (rest : List Char) :
    readQuotedChar (numbered char ++ rest) = some (char, rest) := by
  have read := (hexNumber_toDigits char.toNat).1
  have digits (digit : Char) (member : digit ∈ Nat.toDigits 16 char.toNat) :
      isHexDigit digit = true := isHexDigit_of_mem_toDigits member
  have taken : (Nat.toDigits 16 char.toNat ++ '\x7d' :: rest).takeWhile isHexDigit =
      Nat.toDigits 16 char.toNat := by
    rw [List.takeWhile_append_of_pos digits, List.takeWhile_cons_of_neg (by decide),
      List.append_nil]
  have left : (Nat.toDigits 16 char.toNat ++ '\x7d' :: rest).dropWhile isHexDigit =
      '\x7d' :: rest := by
    rw [List.dropWhile_append_of_pos digits, List.dropWhile_cons_of_neg (by decide)]
  simp only [numbered, List.cons_append, List.nil_append, List.append_assoc, readQuotedChar, taken,
    left, read, Char.ofNat_toNat, List.tail_cons]

/-- A quoted character is read back, whatever follows. -/
theorem Quoting.read {char : Char} {written : List Char} (quoting : Quoting char written)
    (rest : List Char) : readQuotedChar (written ++ rest) = some (char, rest) := by
  cases quoting with
  | named letter => exact readQuotedChar_named letter rest
  | numbered => exact readQuotedChar_numbered char rest
  | plain _ unescaped _ => exact readQuotedChar_plain unescaped rest

/-- What is written for a character begins with something else than a quotation mark. -/
theorem Quoting.head {char : Char} {written : List Char} (quoting : Quoting char written) :
    ∃ first more, written = first :: more ∧ first ≠ '\"' := by
  cases quoting with
  | named => exact ⟨_, _, rfl, by decide⟩
  | numbered => exact ⟨_, _, rfl, by decide⟩
  | plain unquoted _ _ => exact ⟨_, _, rfl, unquoted⟩

theorem quotedChars_append_inj {chars others rest further : List Char}
    (same : chars.flatMap quotedChar ++ '\"' :: rest =
      others.flatMap quotedChar ++ '\"' :: further) : chars = others ∧ rest = further := by
  induction chars generalizing others with
  | nil =>
    cases others with
    | nil => exact ⟨rfl, (List.cons.inj same).2⟩
    | cons other others =>
      obtain ⟨first, more, written, begun⟩ := (quoting_quotedChar other).head
      rw [List.flatMap_cons, written] at same
      exact absurd (List.cons.inj same).1.symm begun
  | cons char chars inductionHypothesis =>
    cases others with
    | nil =>
      obtain ⟨first, more, written, begun⟩ := (quoting_quotedChar char).head
      rw [List.flatMap_cons, written] at same
      exact absurd (List.cons.inj same).1 begun
    | cons other others =>
      have read := congrArg readQuotedChar same
      simp only [List.flatMap_cons, List.append_assoc, (quoting_quotedChar _).read,
        Option.some.injEq, Prod.mk.injEq] at read
      obtain ⟨equal, after⟩ := inductionHypothesis read.2
      exact ⟨List.cons_eq_cons.mpr ⟨read.1, equal⟩, after⟩

/-- Two quotes with more text after them are alike only if the quoted texts are, and what
follows. -/
theorem quoted_append_inj {name other tail rest : String}
    (same : quoted name ++ tail = quoted other ++ rest) : name = other ∧ tail = rest := by
  have chars := congrArg String.toList same
  simp only [quoted, String.toList_append, String.toList_ofList, List.cons_append,
    List.append_assoc, List.nil_append, List.cons.injEq, true_and] at chars
  obtain ⟨names, tails⟩ := quotedChars_append_inj chars
  exact ⟨String.toList_inj.mp names, String.toList_inj.mp tails⟩

/-! ### Lines -/

/-- The control characters. -/
def IsControl (char : Char) : Prop := char.toNat < 0x20 ∨ 0x7F ≤ char.toNat ∧ char.toNat ≤ 0x9F

/-- The characters at which a text goes on to another line: line feed, line tabulation, form feed,
carriage return, next line, line separator and paragraph separator. -/
def IsLineBreak (char : Char) : Prop :=
  char.toNat ∈ [0x0A, 0x0B, 0x0C, 0x0D, 0x85, 0x2028, 0x2029]

/-- A character stays on its line and is none that controls a device. -/
def StaysInLine (char : Char) : Prop := ¬ IsControl char ∧ ¬ IsLineBreak char

instance (char : Char) : Decidable (IsControl char) := inferInstanceAs (Decidable (_ ∨ _))

instance (char : Char) : Decidable (IsLineBreak char) := inferInstanceAs (Decidable (_ ∈ _))

instance (char : Char) : Decidable (StaysInLine char) := inferInstanceAs (Decidable (_ ∧ _))

/-- The characters of a known text are looked at one by one. The statement itself may be decided by
a search through all the characters there are. -/
theorem staysInLine_of_all {chars : List Char}
    (all : (chars.all fun char => decide (StaysInLine char)) = true) :
    ∀ char ∈ chars, StaysInLine char := fun char member =>
  of_decide_eq_true (List.all_eq_true.mp all char member)

/-- A character that is not hidden stays on its line: the two separators are hidden, and all other
line breaks are control characters. -/
theorem staysInLine_of_shown {char : Char} (shown : isHidden char = false) :
    StaysInLine char := by
  have plain : ¬ IsControl char := by
    intro control
    rw [isHidden_of_control control] at shown
    cases shown
  refine ⟨plain, fun breaks => ?_⟩
  have separators : inRanges hiddenRanges 0x2028 = true ∧ inRanges hiddenRanges 0x2029 = true := by
    decide +kernel
  unfold isHidden at shown
  unfold IsControl at plain
  simp only [IsLineBreak, List.mem_cons, List.not_mem_nil, or_false] at breaks
  have separates : char.toNat = 0x2028 ∨ char.toNat = 0x2029 := by omega
  rcases separates with line | paragraph
  · rw [line, separators.1] at shown
    cases shown
  · rw [paragraph, separators.2] at shown
    cases shown

theorem staysInLine_digitChar {digit : Nat} (small : digit < 16) :
    StaysInLine (Nat.digitChar digit) := by
  revert digit
  decide

theorem staysInLine_numbered (char : Char) : ∀ written ∈ numbered char, StaysInLine written := by
  intro written member
  simp only [numbered, List.mem_append] at member
  rcases member with (front | digit) | back
  · exact staysInLine_of_all (by decide) written front
  · obtain ⟨value, small, rfl⟩ := (hexNumber_toDigits char.toNat).2 written digit
    exact staysInLine_digitChar small
  · exact staysInLine_of_all (by decide) written back

theorem staysInLine_of_named {letter char : Char} (named : namedChar? letter = some char) :
    StaysInLine letter := by
  unfold namedChar? at named
  split at named
  case h_7 => cases named
  all_goals decide

theorem Quoting.staysInLine {char : Char} {written : List Char} (quoting : Quoting char written) :
    ∀ part ∈ written, StaysInLine part := by
  cases quoting with
  | named letter =>
    rw [List.forall_mem_cons, List.forall_mem_singleton]
    exact ⟨by decide, staysInLine_of_named letter⟩
  | numbered => exact staysInLine_numbered char
  | plain _ _ shown => exact List.forall_mem_singleton.mpr (staysInLine_of_shown shown)

/-- A quote stays on its line, whatever is quoted. -/
theorem staysInLine_quoted (text : String) : ∀ char ∈ (quoted text).toList, StaysInLine char := by
  intro char member
  rw [quoted, String.toList_ofList, List.cons_append, List.mem_cons, List.mem_append,
    List.mem_singleton] at member
  rcases member with rfl | inner | rfl
  · decide
  · obtain ⟨original, -, written⟩ := List.mem_flatMap.mp inner
    exact (quoting_quotedChar original).staysInLine char written
  · decide

end Leasehold
