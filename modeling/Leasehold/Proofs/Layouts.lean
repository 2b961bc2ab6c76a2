/-
This file proves that objects are read back however they are laid out. The members of an object
stand between its brackets with commas between them, and blanks wherever one piece ends and another
begins. A reader of objects is given a reader of members; what it gathers is what that one gathers
from the members, one after the other.
-/

import Leasehold.Proofs.Spellings

namespace Leasehold.Json

/-! ### Members -/

section Members

variable {Value Gathered : Type} {read : List Char → Except Refusal (Value × List Char)}
  {member : String → Gathered → List Char → Except Refusal (Gathered × List Char)}

theorem readColon_append {gap : List Char} (before : Blank gap) (rest : List Char) :
    readColon (gap ++ ':' :: rest) = .ok rest := by
  rw [readColon, skipBlanks_append before]
  rfl

/-- The value of a member that is given once is read back after its colon. -/
theorem Reads.once {written gap space : List Char} {value : Value}
    (reads : Reads read written value) (skips : SkipsBlanks read) (before : Blank gap)
    (after : Blank space) :
    Reads (readOnce read none) (gap ++ ':' :: (space ++ written)) (some value) := by
  intro rest ends
  have found := reads.afterBlanks skips after rest ends
  rw [List.append_assoc, readOnce, Option.isSome_none, if_neg Bool.false_ne_true, List.cons_append,
    readColon_append before]
  simp only [bind, Except.bind, found]

/-- What is written for the members of an object after its opening bracket, and the closing one.
Some members may have been read before. -/
inductive Members
    (member : String → Gathered → List Char → Except Refusal (Gathered × List Char)) :
    (first : Bool) → Gathered → List Char → Gathered → Prop where
  | ended {first : Bool} {gathered : Gathered} {gap : List Char} : Blank gap →
    Members member first gathered (gap ++ ['\x7d']) gathered
  | leading {name : String} {gathered next final : Gathered}
    {gap literal written further : List Char} : Blank gap → Literal name literal →
    Reads (member name gathered) written next → Members member false next further final →
    Members member true gathered (gap ++ (literal ++ (written ++ further))) final
  | following {name : String} {gathered next final : Gathered}
    {gap space literal written further : List Char} : Blank gap → Blank space →
    Literal name literal → Reads (member name gathered) written next →
    Members member false next further final →
    Members member false gathered (gap ++ ',' :: (space ++ (literal ++ (written ++ further))))
      final

/-- The end of an object and a further member may follow the value of a member. -/
theorem Members.ends {gathered final : Gathered} {written : List Char}
    (members : Members member false gathered written final) (rest : List Char) :
    Ends (written ++ rest) := by
  cases members with
  | ended blank =>
    rw [List.append_assoc]
    exact Ends.afterBlanks blank (ends_cons (by simp) _)
  | following before =>
    rw [List.append_assoc]
    exact Ends.afterBlanks before (ends_cons (by simp) _)

theorem readMemberStart_ended {gap : List Char} (blank : Blank gap) (first : Bool)
    (rest : List Char) : readMemberStart first (gap ++ '\x7d' :: rest) = .ok (.ended, rest) := by
  rw [readMemberStart, skipBlanks_append blank]
  rfl

theorem Literal.readName {name : String} {literal : List Char} (written : Literal name literal)
    (rest : List Char) :
    readMemberStart.readName (literal ++ rest) = .ok (.named name, rest) := by
  obtain ⟨spells⟩ := written
  rw [List.cons_append, List.append_assoc, readMemberStart.readName]
  simp only [List.cons_append, List.nil_append, spells.readChars, bind, Except.bind,
    String.ofList_toList]

theorem readMemberStart_leading {gap literal : List Char} {name : String} (blank : Blank gap)
    (written : Literal name literal) (rest : List Char) :
    readMemberStart true (gap ++ (literal ++ rest)) = .ok (.named name, rest) := by
  have found := written.readName rest
  obtain ⟨spells⟩ := written
  rw [readMemberStart, skipBlanks_append blank, List.cons_append, skipBlanks_cons rfl]
  exact found

theorem readMemberStart_comma {text more : List Char} {char : Char}
    (next : skipBlanks text = char :: more) :
    readMemberStart false (',' :: text) = readMemberStart.readName (char :: more) := by
  have comma : skipBlanks (',' :: text) = ',' :: text := skipBlanks_cons rfl text
  simp [readMemberStart, comma, next]

theorem readMemberStart_following {gap space literal : List Char} {name : String}
    (before : Blank gap) (after : Blank space) (written : Literal name literal)
    (rest : List Char) :
    readMemberStart false (gap ++ ',' :: (space ++ (literal ++ rest))) =
      .ok (.named name, rest) := by
  have found := written.readName rest
  have skips : readMemberStart false (gap ++ ',' :: (space ++ (literal ++ rest))) =
      readMemberStart false (',' :: (space ++ (literal ++ rest))) := by
    rw [readMemberStart, readMemberStart, skipBlanks_append before]
  obtain ⟨spells⟩ := written
  rw [skips]
  exact (readMemberStart_comma ((skipBlanks_append after _).trans (skipBlanks_cons rfl _))).trans
    found

theorem Literal.length_pos {name : String} {literal : List Char}
    (written : Literal name literal) : 0 < literal.length := by
  obtain ⟨spells⟩ := written
  exact Nat.succ_pos _

/-- All members of an object are read, given a step for each character. -/
theorem Members.readMembers {first : Bool} {gathered final : Gathered} {written : List Char}
    (members : Members member first gathered written final) {steps : Nat}
    (enough : written.length < steps) (rest : List Char) :
    readMembers member steps first gathered (written ++ rest) = .ok (final, rest) := by
  induction members generalizing steps with
  | @ended first gathered gap blank =>
    cases steps with
    | zero => omega
    | succ steps =>
      rw [List.append_assoc, Json.readMembers]
      have start := readMemberStart_ended blank first rest
      simp only [List.cons_append, List.nil_append, start]
  | leading blank named reads members inductionHypothesis =>
    cases steps with
    | zero => omega
    | succ steps =>
      have some := named.length_pos
      simp only [List.length_append] at enough
      have start := readMemberStart_leading blank named
      have found := reads _ (members.ends rest)
      have left := inductionHypothesis (show _ < steps by omega)
      simp only [List.append_assoc] at found left ⊢
      rw [Json.readMembers]
      simp only [start, found, left]
  | following before after named reads members inductionHypothesis =>
    cases steps with
    | zero => omega
    | succ steps =>
      simp only [List.length_append, List.length_cons] at enough
      have start := readMemberStart_following before after named
      have found := reads _ (members.ends rest)
      have left := inductionHypothesis (show _ < steps by omega)
      simp only [List.append_assoc, List.cons_append] at found left ⊢
      rw [Json.readMembers]
      simp only [start, found, left]

/-- An object is read to what is gathered from its members. -/
theorem Members.reads {start final : Gathered} {written : List Char}
    (members : Members member true start written final) (rest : List Char) :
    readObject member start (written ++ rest) = .ok (final, rest) :=
  members.readMembers (by simp only [List.length_append]; omega) rest

end Members

end Leasehold.Json
