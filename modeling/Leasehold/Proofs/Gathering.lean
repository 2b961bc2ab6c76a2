/-
This file proves what is read from objects and lists, however they are laid out. What a reader
gathers from an object is what it gathers from the members one after the other, and where it refuses
a member it refuses the object, whatever comes after. The items of a list are read one by one.
-/

import Leasehold.Proofs.Grammar
import Leasehold.Proofs.Layouts

namespace Leasehold.Json

/-! ### Objects -/

section Objects

variable {Gathered : Type} {gathered next final : Gathered} {first : Bool}
  {entry : String × List Char} {entries : List (String × List Char)} {written : List Char}
  {member : String → Gathered → List Char → Except Refusal (Gathered × List Char)}

/-- A member is read from what is written for its value, with any blanks around the colon. -/
def ReadsMember (member : String → Gathered → List Char → Except Refusal (Gathered × List Char))
    (gathered : Gathered) (entry : String × List Char) (next : Gathered) : Prop :=
  ∀ gap space, Blank gap → Blank space →
    Reads (member entry.1 gathered) (gap ++ ':' :: (space ++ entry.2)) next

/-- Members are read one after the other. -/
inductive Gathers
    (member : String → Gathered → List Char → Except Refusal (Gathered × List Char)) :
    Gathered → List (String × List Char) → Gathered → Prop where
  | none {gathered : Gathered} : Gathers member gathered [] gathered
  | further {gathered next final : Gathered} {entry : String × List Char}
    {entries : List (String × List Char)} : ReadsMember member gathered entry next →
    Gathers member next entries final → Gathers member gathered (entry :: entries) final

/-- What is gathered does not depend on the layout. -/
theorem Gathers.members (gathers : Gathers member gathered entries final)
    (laid : Enclosed '\x7d' MemberText first entries written) :
    Members member first gathered written final := by
  induction gathers generalizing first written with
  | none =>
    cases laid with
    | ended blank => exact .ended blank
  | further reads _ inductionHypothesis =>
    cases laid with
    | item stands text enclosed =>
      obtain ⟨literal, before, after⟩ := text
      have others := inductionHypothesis enclosed
      cases stands with
      | leading blank =>
        rw [List.append_assoc]
        exact .leading blank literal (reads _ _ before after) others
      | comma blank clear =>
        rw [List.append_assoc, List.append_assoc]
        exact .following blank clear literal (reads _ _ before after) others

/-- A member begins with its name. -/
theorem Separator.readMemberStart {name : String} {value separator : List Char}
    (stands : Separator first separator) (text : MemberText (name, value) written) :
    ∃ gap space, Blank gap ∧ Blank space ∧ ∀ rest,
      Json.readMemberStart first (separator ++ (written ++ rest)) =
        .ok (.named name, gap ++ ':' :: (space ++ value) ++ rest) := by
  obtain ⟨literal, before, after⟩ := text
  refine ⟨_, _, before, after, fun rest => ?_⟩
  rw [List.append_assoc]
  cases stands with
  | leading blank => exact readMemberStart_leading blank literal _
  | comma blank clear =>
    rw [List.append_assoc]
    exact readMemberStart_following blank clear literal _

/-- An object is refused with the first of its members that is refused. -/
theorem Gathers.readMembers_refused {refusal : Refusal} {back : List (String × List Char)}
    (gathers : Gathers member gathered entries final)
    (refused : ∀ text, member entry.1 final text = .error refusal)
    (laid : Enclosed '\x7d' MemberText first (entries ++ entry :: back) written) {steps : Nat}
    (enough : written.length < steps) (rest : List Char) :
    readMembers member steps first gathered (written ++ rest) = .error refusal := by
  induction gathers generalizing first written steps with
  | none =>
    cases laid with
    | item stands text enclosed =>
      obtain ⟨gap, space, -, -, start⟩ := stands.readMemberStart text
      cases steps with
      | zero => omega
      | succ steps =>
        rw [List.append_assoc, List.append_assoc, readMembers]
        simp only [start, refused]
  | further reads _ inductionHypothesis =>
    cases laid with
    | item stands text enclosed =>
      obtain ⟨gap, space, before, after, start⟩ := stands.readMemberStart text
      cases steps with
      | zero => omega
      | succ steps =>
        obtain ⟨char, more, rfl, -⟩ := text.begins
        simp only [List.length_append, List.length_cons] at enough
        have found := reads gap space before after _ (enclosed.ends (Or.inr rfl) rest)
        have left := inductionHypothesis refused enclosed (show _ < steps by omega)
        rw [List.append_assoc, List.append_assoc, readMembers]
        simp only [start, found, left]

theorem Gathers.readObject_refused {refusal : Refusal} {back : List (String × List Char)}
    (gathers : Gathers member gathered entries final)
    (refused : ∀ text, member entry.1 final text = .error refusal)
    (laid : Enclosed '\x7d' MemberText true (entries ++ entry :: back) written)
    (rest : List Char) : readObject member gathered (written ++ rest) = .error refusal :=
  gathers.readMembers_refused refused laid (by simp only [List.length_append]; omega) rest

end Objects

/-! ### Lists -/

section Lists

variable {Value : Type} {read : List Char → Except Refusal (Value × List Char)} {first : Bool}
  {items : List (List Char)} {item written : List Char} {value : Value}

theorem readItemStart_first {text more : List Char} {char : Char}
    (begun : skipBlanks text = char :: more) (inside : char ≠ ']') :
    readItemStart true text = .ok (char :: more) := by
  unfold readItemStart
  rw [begun]
  split
  next nothing => cases nothing
  next closed => exact absurd (List.cons.inj closed).1 inside
  next same =>
    cases same
    rfl

theorem readItemStart_comma {text more : List Char} {char : Char}
    (begun : skipBlanks text = char :: more) (inside : char ≠ ']') :
    readItemStart false (',' :: text) = .ok (char :: more) := by
  have comma : skipBlanks (',' :: text) = ',' :: text := skipBlanks_cons rfl text
  unfold readItemStart
  rw [comma]
  split
  next nothing => cases nothing
  next closed => exact absurd (List.cons.inj closed).1 (by decide)
  next same =>
    cases same
    rw [if_neg Bool.false_ne_true, if_pos rfl, begun]
    split
    next nothing => cases nothing
    next closed => exact absurd (List.cons.inj closed).1 inside
    next => rfl

/-- The separator in front of an item is left behind. -/
theorem Separator.readItemStart {separator : List Char} (stands : Separator first separator)
    (begins : Begins item) (rest : List Char) :
    Json.readItemStart first (separator ++ (item ++ rest)) = .ok (item ++ rest) := by
  obtain ⟨char, more, rfl, solid, inside, -⟩ := begins
  have begun (gap : List Char) (blank : Blank gap) :
      skipBlanks (gap ++ (char :: more ++ rest)) = char :: (more ++ rest) := by
    rw [skipBlanks_append blank]
    exact skipBlanks_cons solid _
  cases stands with
  | leading blank => exact readItemStart_first (begun _ blank) inside
  | @comma gap space blank clear =>
    have skips (text : List Char) : Json.readItemStart false (gap ++ text) =
        Json.readItemStart false text := by
      rw [Json.readItemStart, Json.readItemStart, skipBlanks_append blank]
    rw [List.append_assoc, skips]
    exact readItemStart_comma (begun _ clear) inside

/-- The next item of a list is read, and the items after it are left. -/
theorem Enclosed.readItem (enclosed : Enclosed ']' Eq first (item :: items) written)
    (begins : Begins item) (reads : Reads read item value) :
    ∃ further, Enclosed ']' Eq false items further ∧ ∀ rest,
      Json.readItem read first (written ++ rest) = .ok (value, further ++ rest) := by
  cases enclosed with
  | @item _ _ _ separator text further stands same enclosed =>
    subst same
    refine ⟨further, enclosed, fun rest => ?_⟩
    have start := stands.readItemStart begins (further ++ rest)
    have found := reads (further ++ rest) (enclosed.ends (Or.inl rfl) rest)
    simp only [List.append_assoc, Json.readItem, start, bind, Except.bind]
    exact found

theorem Enclosed.readListEnd (enclosed : Enclosed ']' Eq false [] written) (rest : List Char) :
    Json.readListEnd (written ++ rest) = .ok rest := by
  cases enclosed with
  | ended blank =>
    rw [List.append_assoc, Json.readListEnd, skipBlanks_append blank]
    rfl

end Lists

end Leasehold.Json
