/-
This file proves that every value is skipped, of whatever kind and depth, and nothing after it. A
skipper goes on from place to place with the brackets that are still open; from the place where a
value begins it comes to the place after the value with the same brackets open. It takes fewer than
two steps for each character, which is as many as it is given.
-/

import Leasehold.Json.Skip
import Leasehold.Proofs.Grammar

namespace Leasehold.Json

/-! ### Words, strings and numbers -/

theorem skipChars_plain {char : Char} (printable : 0x20 ≤ char.toNat) (quote : char ≠ '\"')
    (backslash : char ≠ '\\') (rest : List Char) : skipChars (char :: rest) = skipChars rest := by
  rw [skipChars]
  · exact if_neg (by omega)
  -- the patterns before the last one ask for a quotation mark or a backslash
  all_goals simp_all

theorem Spelling.skipChars {char : Char} {spelt : List Char} (spelling : Spelling char spelt)
    (rest : List Char) : skipChars (spelt ++ rest) = skipChars rest := by
  cases spelling with
  | plain printable quote backslash => exact skipChars_plain printable quote backslash rest
  | @letter _ letter named =>
    have notUnit : letter ≠ 'u' := by
      rintro rfl
      cases named
    simp only [List.cons_append, List.nil_append]
    rw [Json.skipChars]
    · simp only [named, Option.isSome_some, if_true]
    all_goals simp_all
  | unit named => simp only [List.cons_append, List.nil_append, Json.skipChars, named,
      Option.isSome_some, if_true]
  | pair named _ _ paired => simp only [List.cons_append, List.nil_append, Json.skipChars, named,
      paired, Option.isSome_some, if_true]

theorem Spells.skipChars {chars spelt : List Char} (spells : Spells chars spelt)
    (rest : List Char) : skipChars (spelt ++ '\"' :: rest) = .ok rest := by
  induction spells with
  | nil => rfl
  | cons spelling _ inductionHypothesis =>
    rw [List.append_assoc, spelling.skipChars, inductionHypothesis]

theorem Literal.skipStart {text : String} {written : List Char} (literal : Literal text written)
    (rest : List Char) : skipStart (written ++ rest) = .ok (none, rest) := by
  obtain ⟨spells⟩ := literal
  simp only [List.cons_append, List.append_assoc, List.nil_append, Json.skipStart,
    spells.skipChars]
  rfl

theorem skipStart_number {first : Char} (numeric : first = '-' ∨ first.isDigit = true)
    (rest : List Char) :
    skipStart (first :: rest) = (none, ·) <$> skipNumber (first :: rest) := by
  rw [skipStart]
  · exact if_pos numeric
  -- the patterns before the last one ask for other characters
  all_goals
    rintro rfl
    rcases numeric with other | digit
    · cases other
    · cases digit

theorem NumberText.skipStart {numeral : Numeral} {written rest : List Char}
    (number : NumberText numeral written) (ends : Ends rest) :
    skipStart (written ++ rest) = .ok (none, rest) := by
  have read := number.readNumeral ends .malformed
  obtain ⟨first, more, rfl, numeric⟩ := number.exists_cons
  rw [List.cons_append] at read ⊢
  rw [skipStart_number numeric, skipNumber, read]
  rfl

/-! ### Passages -/

/-- From a place, whatever blanks are in front, what is written is passed to the place after it. -/
def Passes (place : Place) (written : List Char) : Prop :=
  ∃ used, used < 2 * written.length ∧ ∀ steps brackets gap rest, Blank gap → Ends rest →
    skipOn (steps + used) place brackets (gap ++ (written ++ rest)) =
      skipOn steps .ended brackets rest

theorem skipBlanks_begins {gap written : List Char} (blank : Blank gap) (begins : Begins written)
    (rest : List Char) : skipBlanks (gap ++ (written ++ rest)) = written ++ rest := by
  obtain ⟨first, more, rfl, solid, -⟩ := begins
  rw [skipBlanks_append blank]
  exact skipBlanks_cons solid _

/-- What is no bracket is passed in one step. -/
theorem passes_of_skipStart {written : List Char} (begins : Begins written)
    (start : ∀ rest, Ends rest → skipStart (written ++ rest) = .ok (none, rest)) :
    Passes .value written := by
  refine ⟨1, ?_, fun steps brackets gap rest blank ends => ?_⟩
  · obtain ⟨first, more, rfl, -⟩ := begins
    rw [List.length_cons]
    omega
  · rw [skipOn, skipBlanks_begins blank begins, start rest ends]

/-- The name of a member is skipped, and the blanks in front of its value are left. -/
theorem MemberText.skipName {name : String} {value written : List Char}
    (text : MemberText (name, value) written) :
    ∃ space, Blank space ∧ value.length < written.length ∧ ∀ rest,
      skipName (written ++ rest) = .ok (space ++ (value ++ rest)) := by
  obtain ⟨literal, before, after⟩ := text
  obtain ⟨spells⟩ := literal
  refine ⟨_, after, ?_, fun rest => ?_⟩
  · simp only [List.length_append, List.length_cons]
    omega
  · have colon (text : List Char) : skipBlanks (':' :: text) = ':' :: text := skipBlanks_cons rfl _
    simp only [List.cons_append, List.append_assoc, List.nil_append, Json.skipName,
      spells.skipChars, skipBlanks_append before, colon, bind, Except.bind]

theorem MemberText.passes {name : String} {value written : List Char}
    (text : MemberText (name, value) written) (passes : Passes .value value) :
    Passes .name written := by
  obtain ⟨space, clear, longer, named⟩ := text.skipName
  obtain ⟨used, few, passed⟩ := passes
  refine ⟨used + 1, by omega, fun steps brackets gap rest blank ends => ?_⟩
  rw [← Nat.add_assoc, skipOn, skipBlanks_begins blank text.begins, named]
  exact passed steps brackets space rest clear ends

section Enclosed

variable {Item : Type} {Written : Item → List Char → Prop} {first : Bool} {items : List Item}
  {written : List Char} {bracket : Bracket}

/-- The place in front of an item, or of the closing bracket. -/
def placeOf (first : Bool) : Place := if first then .opened else .ended

theorem skipOn_closing {gap : List Char} (blank : Blank gap) (first : Bool) (bracket : Bracket)
    (steps : Nat) (brackets : List Bracket) (rest : List Char) :
    skipOn (steps + 1) (placeOf first) (bracket :: brackets) (gap ++ (bracket.closing :: rest)) =
      skipOn steps .ended brackets rest := by
  have solid : skipBlanks (gap ++ (bracket.closing :: rest)) = bracket.closing :: rest := by
    rw [skipBlanks_append blank]
    exact skipBlanks_cons (by cases bracket <;> rfl) rest
  cases first <;> simp only [placeOf, Bool.false_eq_true, if_false, if_true, skipOn, solid]

/-- In front of an item a step is taken to the place where it begins. -/
theorem Separator.skipOn {separator item : List Char} (stands : Separator first separator)
    (begins : Begins item) (bracket : Bracket) :
    ∃ gap, Blank gap ∧ ∀ steps brackets rest,
      Json.skipOn (steps + 1) (placeOf first) (bracket :: brackets)
          (separator ++ (item ++ rest)) =
        Json.skipOn steps bracket.item (bracket :: brackets) (gap ++ (item ++ rest)) := by
  cases stands with
  | leading blank =>
    refine ⟨[], blank_nil, fun steps brackets rest => ?_⟩
    have left := skipBlanks_begins blank begins rest
    obtain ⟨char, more, rfl, -, list, object⟩ := begins
    have inside : char ≠ bracket.closing := by cases bracket <;> assumption
    rw [List.cons_append] at left ⊢
    simp only [placeOf, if_true, Json.skipOn, left, List.nil_append, if_neg inside]
  | @comma gap space blank clear =>
    refine ⟨space, clear, fun steps brackets rest => ?_⟩
    have left : skipBlanks (gap ++ ',' :: space ++ (item ++ rest)) =
        ',' :: (space ++ (item ++ rest)) := by
      rw [List.append_assoc, skipBlanks_append blank]
      exact skipBlanks_cons rfl _
    have inside : ',' ≠ bracket.closing := by cases bracket <;> decide
    simp only [placeOf, Bool.false_eq_true, if_false, Json.skipOn, left, if_neg inside, if_true]

/-- Items are passed to the place after the bracket that closes them, if each of them is passed. -/
theorem Enclosed.skipOn (enclosed : Enclosed bracket.closing Written first items written)
    (passes : ∀ item ∈ items, ∀ text, Written item text → Begins text ∧ Passes bracket.item text) :
    ∃ used, used ≤ 2 * written.length ∧ ∀ steps brackets rest,
      Json.skipOn (steps + used) (placeOf first) (bracket :: brackets) (written ++ rest) =
        Json.skipOn steps .ended brackets rest := by
  induction enclosed with
  | @ended first gap blank =>
    refine ⟨1, ?_, fun steps brackets rest => ?_⟩
    · rw [List.length_append, List.length_singleton]
      omega
    · rw [List.append_assoc]
      exact skipOn_closing blank first bracket steps brackets rest
  | @item first item items separator text further stands written enclosed inductionHypothesis =>
    obtain ⟨begins, used, few, passed⟩ := passes item List.mem_cons_self text written
    obtain ⟨left, less, others⟩ := inductionHypothesis fun other member =>
      passes other (List.mem_cons_of_mem item member)
    obtain ⟨gap, blank, begun⟩ := stands.skipOn begins bracket
    refine ⟨left + used + 1, ?_, fun steps brackets rest => ?_⟩
    · simp only [List.length_append]
      omega
    · have ends := enclosed.ends (by cases bracket <;> simp [Bracket.closing]) rest
      rw [List.append_assoc, List.append_assoc, ← Nat.add_assoc, begun, ← Nat.add_assoc,
        passed _ _ gap _ blank ends]
      exact others steps brackets rest

/-- What stands between brackets is passed as a value with its brackets. -/
theorem Enclosed.passes (bracket : Bracket) {opening : Char}
    (enclosed : Enclosed bracket.closing Written true items written)
    (passes : ∀ item ∈ items, ∀ text, Written item text → Begins text ∧ Passes bracket.item text)
    (solid : isBlank opening = false)
    (start : ∀ rest, skipStart (opening :: rest) = .ok (some bracket, rest)) :
    Passes .value (opening :: written) := by
  obtain ⟨used, few, passed⟩ := enclosed.skipOn passes
  refine ⟨used + 1, ?_, fun steps brackets gap rest blank ends => ?_⟩
  · rw [List.length_cons]
    omega
  · have left : skipBlanks (gap ++ (opening :: written ++ rest)) =
        opening :: (written ++ rest) := by
      rw [skipBlanks_append blank]
      exact skipBlanks_cons solid _
    rw [← Nat.add_assoc, Json.skipOn, left, start]
    exact passed steps brackets rest

end Enclosed

/-! ### Values -/

theorem ValueText.passes {written : List Char} (value : ValueText written) :
    Passes .value written := by
  induction value with
  | null => exact passes_of_skipStart ValueText.null.begins fun _ _ => rfl
  | true => exact passes_of_skipStart ValueText.true.begins fun _ _ => rfl
  | false => exact passes_of_skipStart ValueText.false.begins fun _ _ => rfl
  | number number => exact passes_of_skipStart number.begins fun _ ends => number.skipStart ends
  | string literal => exact passes_of_skipStart literal.begins fun rest _ => literal.skipStart rest
  | list laid values inductionHypothesis =>
    obtain ⟨enclosed⟩ := laid
    refine enclosed.passes .list (fun item member text same => ?_) rfl fun _ => rfl
    subst same
    exact ⟨(values item member).begins, inductionHypothesis item member⟩
  | object laid values inductionHypothesis =>
    obtain ⟨enclosed⟩ := laid
    refine enclosed.passes .object (fun member among text written => ?_) rfl
      fun _ => rfl
    exact ⟨written.begins, written.passes (inductionHypothesis member among)⟩

/-- Every value is skipped, and what follows it is left. -/
theorem ValueText.skipValue {written gap rest : List Char} (value : ValueText written)
    (blank : Blank gap) (ends : Ends rest) :
    skipValue (gap ++ (written ++ rest)) = .ok rest := by
  obtain ⟨used, few, passed⟩ := value.passes
  obtain ⟨steps, enough⟩ : ∃ steps, 2 * (gap ++ (written ++ rest)).length + 2 = steps + used := by
    refine ⟨2 * (gap ++ (written ++ rest)).length + 2 - used, ?_⟩
    simp only [List.length_append]
    omega
  rw [Json.skipValue, enough, passed steps [] gap rest blank ends]
  cases steps <;> rfl

end Leasehold.Json
