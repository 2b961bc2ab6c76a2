/-
This file says how JSON may be laid out, whatever is read from it. Lists and objects are items
between two brackets, with a comma between one item and the next and blanks around each of them. The
items of a list are values; those of an object have a name, spelt in any way, and a value. A value
may be of any kind and any depth.
-/

import Leasehold.Proofs.Numerals
import Leasehold.Proofs.Spellings

namespace Leasehold.Json

/-! ### Items between brackets -/

/-- What stands in front of an item: blanks, and for all items but the first a comma among them. -/
inductive Separator : (first : Bool) → List Char → Prop where
  | leading {gap : List Char} : Blank gap → Separator true gap
  | comma {gap space : List Char} : Blank gap → Blank space → Separator false (gap ++ ',' :: space)

section Enclosed

variable {Item : Type} {Written : Item → List Char → Prop}

/-- What is written for items after an opening bracket, and the closing one. Some items may have
been read before. -/
inductive Enclosed (closing : Char) (Written : Item → List Char → Prop) :
    (first : Bool) → List Item → List Char → Prop where
  | ended {first : Bool} {gap : List Char} : Blank gap →
    Enclosed closing Written first [] (gap ++ [closing])
  | item {first : Bool} {item : Item} {items : List Item}
    {separator written further : List Char} : Separator first separator → Written item written →
    Enclosed closing Written false items further →
    Enclosed closing Written first (item :: items) (separator ++ (written ++ further))

/-- A value may stand in front of further items and of the closing bracket. -/
theorem Enclosed.ends {closing : Char} (closes : closing = ']' ∨ closing = '\x7d')
    {items : List Item} {written : List Char}
    (enclosed : Enclosed closing Written false items written) (rest : List Char) :
    Ends (written ++ rest) := by
  cases enclosed with
  | ended blank =>
    rw [List.append_assoc]
    exact Ends.afterBlanks blank (ends_cons (Or.inr (Or.inr closes)) rest)
  | item separator =>
    cases separator with
    | comma before =>
      rw [List.append_assoc, List.append_assoc]
      exact Ends.afterBlanks before (ends_cons (by simp) _)

end Enclosed

/-! ### Values -/

/-- The ways to write a list of items, which are given as they are written. -/
inductive ListText (items : List (List Char)) : List Char → Prop where
  | intro {written : List Char} : Enclosed ']' Eq true items written →
    ListText items ('[' :: written)

/-- The ways to write a member of an object, of which the name and what is written for the value are
given. -/
inductive MemberText : String × List Char → List Char → Prop where
  | intro {name : String} {literal gap space value : List Char} : Literal name literal →
    Blank gap → Blank space → MemberText (name, value) (literal ++ (gap ++ ':' :: (space ++ value)))

/-- The ways to write an object with some members in this order. -/
inductive ObjectText (members : List (String × List Char)) : List Char → Prop where
  | intro {written : List Char} : Enclosed '\x7d' MemberText true members written →
    ObjectText members ('\x7b' :: written)

/-- The ways to write any value. -/
inductive ValueText : List Char → Prop where
  | null : ValueText ['n', 'u', 'l', 'l']
  | true : ValueText ['t', 'r', 'u', 'e']
  | false : ValueText ['f', 'a', 'l', 's', 'e']
  | number {numeral : Numeral} {written : List Char} : NumberText numeral written →
    ValueText written
  | string {text : String} {written : List Char} : Literal text written → ValueText written
  | list {items : List (List Char)} {written : List Char} : ListText items written →
    (∀ item ∈ items, ValueText item) → ValueText written
  | object {members : List (String × List Char)} {written : List Char} :
    ObjectText members written → (∀ member ∈ members, ValueText member.2) → ValueText written

/-! ### Beginnings -/

/-- A text begins with a character that is no blank and closes no bracket. -/
def Begins (written : List Char) : Prop :=
  ∃ first more, written = first :: more ∧ isBlank first = false ∧ first ≠ ']' ∧ first ≠ '\x7d'

theorem begins_of_isDigit {first : Char} (digit : first.isDigit = true) (more : List Char) :
    Begins (first :: more) := by
  refine ⟨first, more, rfl, isBlank_of_isDigit digit, ?_, ?_⟩ <;>
  · rintro rfl
    cases digit

theorem Literal.begins {text : String} {written : List Char} (literal : Literal text written) :
    Begins written := by
  obtain ⟨spells⟩ := literal
  exact ⟨_, _, rfl, rfl, by decide, by decide⟩

theorem NumberText.exists_cons {numeral : Numeral} {written : List Char}
    (number : NumberText numeral written) :
    ∃ first more, written = first :: more ∧ (first = '-' ∨ first.isDigit = true) := by
  obtain ⟨sign, valid, -, -⟩ := number
  cases sign with
  | none =>
    obtain ⟨first, more, rfl, digit⟩ := valid.exists_cons
    exact ⟨first, _, rfl, Or.inr digit⟩
  | minus => exact ⟨'-', _, rfl, Or.inl rfl⟩

theorem NumberText.begins {numeral : Numeral} {written : List Char}
    (number : NumberText numeral written) : Begins written := by
  obtain ⟨first, more, rfl, rfl | digit⟩ := number.exists_cons
  · exact ⟨_, _, rfl, rfl, by decide, by decide⟩
  · exact begins_of_isDigit digit more

theorem ValueText.begins {written : List Char} (value : ValueText written) : Begins written := by
  cases value with
  | number number => exact number.begins
  | string literal => exact literal.begins
  | list laid =>
    obtain ⟨enclosed⟩ := laid
    exact ⟨_, _, rfl, rfl, by decide, by decide⟩
  | object laid =>
    obtain ⟨enclosed⟩ := laid
    exact ⟨_, _, rfl, rfl, by decide, by decide⟩
  | null => exact ⟨_, _, rfl, rfl, by decide, by decide⟩
  | true => exact ⟨_, _, rfl, rfl, by decide, by decide⟩
  | false => exact ⟨_, _, rfl, rfl, by decide, by decide⟩

theorem MemberText.begins {member : String × List Char} {written : List Char}
    (text : MemberText member written) : Begins written := by
  obtain ⟨literal, -, -⟩ := text
  obtain ⟨first, more, rfl, solid⟩ := literal.begins
  exact ⟨first, _, rfl, solid⟩

end Leasehold.Json
