/-
This file proves that it does not matter how a snapshot is laid out as JSON. The members of the
object may come in any order, among any others and with any blanks; names and texts may be spelt in
any way; the holder and the payload may be left out if there are none; the remaining lease may be an
object or a list, and so may the snapshot. But no member may be given twice, and the name, the flag
and the remaining lease have to be given.
-/

import Leasehold.Proofs.Decoding
import Leasehold.Proofs.Gathering
import Leasehold.Proofs.Skipping

namespace Leasehold

open Json

variable {written : List Char}

/-! ### Numbers and texts -/

theorem begins_natural (number : Nat) : Begins (toString number).toList := by
  have text := NumberText.intro .none (digits_toDigits number) .none .none
  rw [Nat.toString_eq_ofList_toDigits, String.toList_ofList]
  simpa only [List.nil_append, List.append_nil] using text.begins

/-- The ways to write an optional text. -/
inductive OptionalLiteral : Option String → List Char → Prop where
  | none : OptionalLiteral none ['n', 'u', 'l', 'l']
  | some {text : String} {written : List Char} : Literal text written →
    OptionalLiteral (some text) written

theorem OptionalLiteral.reads {text : Option String} (literal : OptionalLiteral text written) :
    Reads readOptionalText written text := by
  cases literal with
  | none => exact reads_null
  | some literal => exact literal.reads_some

theorem OptionalLiteral.begins {text : Option String} (literal : OptionalLiteral text written) :
    Begins written := by
  cases literal with
  | none => exact ValueText.null.begins
  | some literal => exact literal.begins

/-! ### Spans -/

namespace Duration

/-- Seconds and nanoseconds that make up a span. Nanoseconds beyond a second carry over. -/
structure Parts (duration : Duration) (seconds nanos : Nat) : Prop where
  sum : seconds * nanosPerSecond + nanos = duration.nanos
  nanos_le : nanos ≤ largestNanos

/-- The ways to write a span: an object of its seconds and nanoseconds in either order, or a list of
the two. -/
inductive Written (duration : Duration) : List Char → Prop where
  | object {seconds nanos : Nat} {members : List (String × List Char)} {written : List Char} :
    duration.Parts seconds nanos →
    members = [("secs", (toString seconds).toList), ("nanos", (toString nanos).toList)] ∨
      members = [("nanos", (toString nanos).toList), ("secs", (toString seconds).toList)] →
    ObjectText members written → Written duration written
  | list {seconds nanos : Nat} {written : List Char} : duration.Parts seconds nanos →
    ListText [(toString seconds).toList, (toString nanos).toList] written →
    Written duration written

variable {duration : Duration} {seconds nanos : Nat}

theorem Parts.ofSeconds? (parts : duration.Parts seconds nanos) :
    Duration.ofSeconds? seconds nanos = some duration := by
  rw [Duration.ofSeconds?, parts.sum, ofNanos?_nanos]

theorem Parts.seconds_le (parts : duration.Parts seconds nanos) : seconds ≤ largestWord := by
  have whole : seconds ≤ duration.seconds :=
    (Nat.le_div_iff_mul_le (by decide)).mpr (by rw [← parts.sum]; exact Nat.le_add_right _ _)
  exact Nat.le_trans whole duration.seconds_le

theorem Parts.reads_seconds (parts : duration.Parts seconds nanos) :
    Reads (readNatural largestWord) (toString seconds).toList seconds :=
  reads_natural (Nat.le_refl _) parts.seconds_le

theorem Parts.reads_nanos (parts : duration.Parts seconds nanos) :
    Reads (readNatural largestNanos) (toString nanos).toList nanos :=
  reads_natural (by decide) parts.nanos_le

theorem Parts.readsMember_seconds (parts : duration.Parts seconds nanos) (other : Option Nat) :
    ReadsMember SpanMembers.read ⟨none, other⟩ ("secs", (toString seconds).toList)
      ⟨some seconds, other⟩ := fun _ _ before after =>
  SpanMembers.reads_seconds other
    (parts.reads_seconds.once (skipsBlanks_readNatural _) before after)

theorem Parts.readsMember_nanos (parts : duration.Parts seconds nanos) (other : Option Nat) :
    ReadsMember SpanMembers.read ⟨other, none⟩ ("nanos", (toString nanos).toList)
      ⟨other, some nanos⟩ := fun _ _ before after =>
  SpanMembers.reads_nanos other (parts.reads_nanos.once (skipsBlanks_readNatural _) before after)

theorem readSpan_list (text : List Char) :
    readSpan ('[' :: text) = (readItem (readNatural largestWord) true text).bind fun seconds =>
      (readItem (readNatural largestNanos) false seconds.2).bind fun nanos =>
        (spanOf seconds.1 nanos.1).bind fun span =>
          (readListEnd nanos.2).bind fun rest => .ok (span, rest) := rfl

theorem Written.reads (text : duration.Written written) : Reads readSpan written duration := by
  cases text with
  | object parts order laid =>
    obtain ⟨enclosed⟩ := laid
    rcases order with rfl | rfl
    · exact reads_span parts.ofSeconds? (Gathers.members (.further (parts.readsMember_seconds none)
        (.further (parts.readsMember_nanos _) .none)) enclosed)
    · exact reads_span parts.ofSeconds? (Gathers.members (.further (parts.readsMember_nanos none)
        (.further (parts.readsMember_seconds _) .none)) enclosed)
  | @list seconds nanos _ parts laid =>
    obtain ⟨enclosed⟩ := laid
    obtain ⟨_, enclosed, first⟩ := enclosed.readItem (begins_natural seconds) parts.reads_seconds
    obtain ⟨_, enclosed, second⟩ := enclosed.readItem (begins_natural nanos) parts.reads_nanos
    intro rest _
    rw [List.cons_append, readSpan_list, first, Except.bind, second, Except.bind,
      spanOf_some parts.ofSeconds?, Except.bind, enclosed.readListEnd]
    rfl

theorem Written.begins (text : duration.Written written) : Begins written := by
  cases text with
  | object _ _ laid =>
    obtain ⟨enclosed⟩ := laid
    exact ⟨_, _, rfl, rfl, by decide, by decide⟩
  | list _ laid =>
    obtain ⟨enclosed⟩ := laid
    exact ⟨_, _, rfl, rfl, by decide, by decide⟩

end Duration

namespace Snapshot

/-! ### Descriptions -/

/-- The members that a snapshot has. -/
inductive Field where
  | name
  | acquired
  | owner
  | ttl
  | data
  deriving DecidableEq

/-- The name of a member. -/
def Field.label : Field → String
  | name => "name"
  | acquired => "acquired"
  | owner => "owner"
  | ttl => "ttl"
  | data => "data"

/-- The members that have to be given, whatever the snapshot. -/
def Field.needed : Field → Bool
  | name | acquired | ttl => true
  | owner | data => false

/-- The ways to write the value of a member. -/
def Writes (snapshot : Snapshot) : Field → List Char → Prop
  | .name => Literal snapshot.name
  | .acquired => Eq (flagText snapshot.acquired).toList
  | .owner => OptionalLiteral snapshot.owner
  | .ttl => snapshot.ttl.Written
  | .data => OptionalLiteral snapshot.data

/-- The members that may be left out because there is nothing to say. -/
def Omits (snapshot : Snapshot) : Field → Prop
  | .owner => snapshot.owner = none
  | .data => snapshot.data = none
  | .name | .acquired | .ttl => False

/-- A member of an object fits a snapshot: it says what the snapshot is, or it is none that a
snapshot has. -/
structure Fits (snapshot : Snapshot) (entry : String × List Char) : Prop where
  own : ∀ field : Field, entry.1 = field.label → snapshot.Writes field entry.2
  foreign : (∀ field : Field, entry.1 ≠ field.label) → ValueText entry.2

/-- The members of an object say what a snapshot is. There may be others among them. -/
structure Describes (snapshot : Snapshot) (entries : List (String × List Char)) : Prop where
  fits : ∀ entry ∈ entries, snapshot.Fits entry
  once : ∀ field : Field, (entries.map Prod.fst).count field.label ≤ 1
  complete : ∀ field : Field, field.label ∈ entries.map Prod.fst ∨ snapshot.Omits field

/-- The ways to write a snapshot as a list of its five values. -/
inductive Listed (snapshot : Snapshot) : List Char → Prop where
  | intro {values : Field → List Char} {written : List Char} :
    (∀ field, snapshot.Writes field (values field)) →
    ListText [values .name, values .acquired, values .owner, values .ttl, values .data] written →
    Listed snapshot written

/-- A text of one of some forms with nothing but blanks around it. -/
inductive Document (form : List Char → Prop) (text : String) : Prop where
  | intro {before written after : List Char} : Blank before → Blank after → form written →
    text.toList = before ++ (written ++ after) → Document form text

variable {snapshot : Snapshot} {members : Members} {field : Field} {value : List Char}
  {names : List String} {entry : String × List Char} {entries : List (String × List Char)}
  {text : String}

theorem Field.label_inj {other : Field} : field.label = other.label ↔ field = other := by
  cases field <;> cases other <;> simp [label]

theorem Writes.fits (writes : snapshot.Writes field value) :
    snapshot.Fits (field.label, value) where
  own other same := by
    cases Field.label_inj.mp same
    exact writes
  foreign unknown := absurd rfl (unknown field)

theorem fits_foreign {name : String} (foreign : ∀ field : Field, name ≠ field.label)
    (text : ValueText value) : snapshot.Fits (name, value) where
  own field same := absurd same (foreign field)
  foreign _ := text

theorem Writes.begins (writes : snapshot.Writes field value) : Begins value := by
  cases field with
  | name => exact Literal.begins writes
  | acquired =>
    cases writes
    cases snapshot.acquired with
    | false => exact ValueText.false.begins
    | true => exact ValueText.true.begins
  | owner => exact OptionalLiteral.begins writes
  | ttl => exact Duration.Written.begins writes
  | data => exact OptionalLiteral.begins writes

/-! ### Members one by one -/

/-- A value of a member that has not been read is read, in each of its forms. -/
theorem readsOnce {Value : Type} {read : List Char → Except Refusal (Value × List Char)}
    {given : Option Value} (absent : given.isSome = false) {value : Value}
    (reads : Reads read written value) (skips : SkipsBlanks read) {gap space : List Char}
    (before : Blank gap) (after : Blank space) :
    Reads (readOnce read given) (gap ++ ':' :: (space ++ written)) (some value) := by
  cases given with
  | none => exact reads.once skips before after
  | some given => cases absent

/-- Whether a member has been read. -/
def Members.has (members : Members) : Field → Bool
  | .name => members.name.isSome
  | .acquired => members.acquired.isSome
  | .owner => members.owner.isSome
  | .ttl => members.ttl.isSome
  | .data => members.data.isSome

/-- The members read with one of a snapshot's added. -/
def fill (snapshot : Snapshot) (members : Members) : Field → Members
  | .name => { members with name := some snapshot.name }
  | .acquired => { members with acquired := some snapshot.acquired }
  | .owner => { members with owner := some snapshot.owner }
  | .ttl => { members with ttl := some snapshot.ttl }
  | .data => { members with data := some snapshot.data }

theorem has_fill (snapshot : Snapshot) (members : Members) (field other : Field) :
    (snapshot.fill members field).has other = (decide (other = field) || members.has other) := by
  cases field <;> cases other <;> rfl

theorem Writes.readsMember (writes : snapshot.Writes field value)
    (absent : members.has field = false) :
    ReadsMember Members.read members (field.label, value) (snapshot.fill members field) := by
  intro gap space before after
  cases field with
  | name =>
    exact Members.reads_name
      (readsOnce absent (Literal.reads writes) skipsBlanks_readText before after)
  | acquired =>
    cases writes
    exact Members.reads_acquired
      (readsOnce absent (reads_flagText _) skipsBlanks_readFlag before after)
  | owner =>
    exact Members.reads_owner
      (readsOnce absent (OptionalLiteral.reads writes) skipsBlanks_readOptionalText before after)
  | ttl =>
    exact Members.reads_ttl
      (readsOnce absent (Duration.Written.reads writes) skipsBlanks_readSpan before after)
  | data =>
    exact Members.reads_data
      (readsOnce absent (OptionalLiteral.reads writes) skipsBlanks_readOptionalText before after)

/-- A member that has been read is not read again, whatever is written for it. -/
theorem refused_of_has (has : members.has field = true) (text : List Char) :
    members.read field.label text = .error .mistyped := by
  have refuses {Value : Type} (read : List Char → Except Refusal (Value × List Char))
      (given : Option Value) (twice : given.isSome = true) :
      readOnce read given text = .error .mistyped := if_pos twice
  cases field <;> simp [Members.read, Field.label, refuses _ _ has, bind, Except.bind]

/-- Other members are skipped. -/
theorem readsMember_foreign (foreign : ∀ field : Field, entry.1 ≠ field.label)
    (text : ValueText entry.2) (members : Members) :
    ReadsMember Members.read members entry members := by
  intro gap space before after rest ends
  have skips (text : List Char) : members.read entry.1 text =
      (readColon text).bind fun rest => (skipValue rest).bind fun rest => .ok (members, rest) := by
    rw [Members.read, if_neg (show entry.1 ≠ "name" from foreign .name),
      if_neg (show entry.1 ≠ "acquired" from foreign .acquired),
      if_neg (show entry.1 ≠ "owner" from foreign .owner),
      if_neg (show entry.1 ≠ "ttl" from foreign .ttl),
      if_neg (show entry.1 ≠ "data" from foreign .data)]
    rfl
  rw [skips, List.append_assoc, List.cons_append, List.append_assoc, readColon_append before,
    Except.bind, text.skipValue after ends]
  rfl

/-! ### All members -/

/-- The members of a snapshot that are named. -/
def given (snapshot : Snapshot) (names : List String) : Members where
  name := if Field.label .name ∈ names then some snapshot.name else none
  acquired := if Field.label .acquired ∈ names then some snapshot.acquired else none
  owner := if Field.label .owner ∈ names then some snapshot.owner else none
  ttl := if Field.label .ttl ∈ names then some snapshot.ttl else none
  data := if Field.label .data ∈ names then some snapshot.data else none

theorem has_given (snapshot : Snapshot) (names : List String) (field : Field) :
    (snapshot.given names).has field = decide (field.label ∈ names) := by
  cases field <;> simp only [Members.has, given] <;> split <;> simp [*]

theorem fill_given (snapshot : Snapshot) (names : List String) (field : Field) :
    snapshot.fill (snapshot.given names) field = snapshot.given (field.label :: names) := by
  have other (other : Field) : other.label ∈ field.label :: names ↔
      other = field ∨ other.label ∈ names := by rw [List.mem_cons, Field.label_inj]
  cases field <;> simp only [fill, given, other, reduceCtorEq, true_or, false_or, if_true]

theorem given_foreign {name : String} (foreign : ∀ field : Field, name ≠ field.label)
    (snapshot : Snapshot) (names : List String) :
    snapshot.given (name :: names) = snapshot.given names := by
  have other (field : Field) : field.label ∈ name :: names ↔ field.label ∈ names := by
    rw [List.mem_cons, or_iff_right (foreign field).symm]
  simp only [given, other]

theorem Fits.readsMember (fits : snapshot.Fits entry)
    (fresh : ∀ field : Field, entry.1 = field.label → field.label ∉ names) :
    ReadsMember Members.read (snapshot.given names) entry
      (snapshot.given (entry.1 :: names)) := by
  by_cases own : ∃ field : Field, entry.1 = field.label
  · obtain ⟨field, same⟩ := own
    have absent : (snapshot.given names).has field = false := by
      rw [has_given, decide_eq_false (fresh field same)]
    have reads := (fits.own field same).readsMember absent
    rwa [fill_given, ← same] at reads
  · have foreign : ∀ field : Field, entry.1 ≠ field.label := fun field same => own ⟨field, same⟩
    rw [given_foreign foreign]
    exact readsMember_foreign foreign (fits.foreign foreign) _

/-- The members of an object are read one after the other, in any order. -/
theorem gathers_given (fits : ∀ entry ∈ entries, snapshot.Fits entry)
    (once : ∀ field : Field, (entries.map Prod.fst ++ names).count field.label ≤ 1) :
    Gathers Members.read (snapshot.given names) entries
      (snapshot.given ((entries.map Prod.fst).reverse ++ names)) := by
  induction entries generalizing names with
  | nil => exact .none
  | cons entry entries inductionHypothesis =>
    rw [List.map_cons, List.reverse_cons, List.append_assoc, List.singleton_append]
    simp only [List.map_cons, List.cons_append, List.count_cons, List.count_append] at once
    refine .further ((fits entry List.mem_cons_self).readsMember fun field same => ?_)
      (inductionHypothesis (fun other member => fits other (List.mem_cons_of_mem entry member))
        fun field => ?_)
    · have limited := once field
      rw [same, beq_self_eq_true, if_pos rfl] at limited
      exact List.count_eq_zero.mp (by omega)
    · rw [List.count_append, List.count_cons, ← Nat.add_assoc]
      exact once field

theorem given_nil (snapshot : Snapshot) : snapshot.given [] = Members.none := rfl

theorem gathers_all (fits : ∀ entry ∈ entries, snapshot.Fits entry)
    (once : ∀ field : Field, (entries.map Prod.fst).count field.label ≤ 1) :
    Gathers Members.read Members.none entries (snapshot.given (entries.map Prod.fst).reverse) := by
  have gathers := gathers_given fits fun field => by
    rw [List.append_nil]
    exact once field
  rwa [given_nil, List.append_nil] at gathers

theorem join_given {label : String} {value : Option String}
    (complete : label ∈ names ∨ value = none) :
    (if label ∈ names then some value else none).join = value := by
  rcases complete with named | rfl
  · rw [if_pos named, Option.join_some]
  · split <;> rfl

/-- If all members that may not be left out have been read, what has been read is the snapshot. -/
theorem snapshot_given (complete : ∀ field : Field, field.label ∈ names ∨ snapshot.Omits field) :
    (snapshot.given names).snapshot = .ok snapshot := by
  have name := (complete .name).resolve_right id
  have acquired := (complete .acquired).resolve_right id
  have ttl := (complete .ttl).resolve_right id
  have owner : (snapshot.given names).owner.join = snapshot.owner := join_given (complete .owner)
  have data : (snapshot.given names).data.join = snapshot.data := join_given (complete .data)
  rw [Members.snapshot, owner, data, given, if_pos name, if_pos acquired, if_pos ttl]

theorem snapshot_given_missing (needed : field.needed = true) (missing : field.label ∉ names) :
    (snapshot.given names).snapshot = .error .mistyped := by
  unfold Members.snapshot
  split
  next name acquired ttl =>
    simp only [given, Option.ite_none_right_eq_some] at name acquired ttl
    cases field with
    | name => exact absurd name.1 missing
    | acquired => exact absurd acquired.1 missing
    | ttl => exact absurd ttl.1 missing
    | owner => cases needed
    | data => cases needed
  next => rfl

/-! ### Members given twice -/

/-- A member is refused, or it is read and is then one of those that have been read. -/
theorem Fits.refused_or_reads (fits : snapshot.Fits entry) (members : Members) :
    (∀ text, members.read entry.1 text = .error .mistyped) ∨
      ∃ next, ReadsMember Members.read members entry next ∧ ∀ field : Field,
        next.has field = true ↔ field.label = entry.1 ∨ members.has field = true := by
  by_cases known : ∃ field : Field, entry.1 = field.label
  · obtain ⟨field, named⟩ := known
    rw [named]
    cases has : members.has field with
    | true => exact Or.inl (refused_of_has has)
    | false =>
      have reads := (fits.own field named).readsMember has
      rw [← named] at reads
      refine Or.inr ⟨_, reads, fun other => ?_⟩
      rw [has_fill, Bool.or_eq_true, decide_eq_true_eq, Field.label_inj]
  · have unknown : ∀ field : Field, entry.1 ≠ field.label :=
      fun field same => known ⟨field, same⟩
    refine Or.inr ⟨_, readsMember_foreign unknown (fits.foreign unknown) members, fun field => ?_⟩
    rw [or_iff_right (unknown field).symm]

/-- Of members that are given twice, the second is refused. -/
theorem exists_refused (fits : ∀ entry ∈ entries, ∃ snapshot : Snapshot, snapshot.Fits entry)
    (twice : members.has field = true ∨ field.label ∈ entries.map Prod.fst) (value : List Char)
    (back : List (String × List Char)) :
    ∃ front entry others final, entries ++ (field.label, value) :: back = front ++ entry :: others ∧
      Gathers Members.read members front final ∧
      ∀ text, final.read entry.1 text = .error .mistyped := by
  induction entries generalizing members with
  | nil =>
    have has : members.has field = true := twice.resolve_right List.not_mem_nil
    exact ⟨[], (field.label, value), back, members, rfl, .none, refused_of_has has⟩
  | cons entry entries inductionHypothesis =>
    obtain ⟨snapshot, fit⟩ := fits entry List.mem_cons_self
    obtain refused | ⟨next, reads, has⟩ := fit.refused_or_reads members
    · exact ⟨[], entry, _, members, rfl, .none, refused⟩
    · have later : next.has field = true ∨ field.label ∈ entries.map Prod.fst := by
        rw [List.map_cons, List.mem_cons] at twice
        rw [has, or_assoc, or_left_comm]
        exact twice
      obtain ⟨front, second, others, final, same, gathers, refused⟩ := inductionHypothesis
        (fun other member => fits other (List.mem_cons_of_mem entry member)) later
      exact ⟨entry :: front, second, others, final, congrArg (entry :: ·) same,
        .further reads gathers, refused⟩

/-! ### Objects, lists and documents -/

theorem readsObject (describes : snapshot.Describes entries)
    (object : ObjectText entries written) : Reads read written snapshot := by
  obtain ⟨enclosed⟩ := object
  have gathers := gathers_all describes.fits describes.once
  refine reads_object (snapshot_given fun field => ?_) (gathers.members enclosed)
  rw [List.mem_reverse]
  exact describes.complete field

theorem read_list (text : List Char) :
    read ('[' :: text) = (readItem readText true text).bind fun name =>
      (readItem readFlag false name.2).bind fun acquired =>
        (readItem readOptionalText false acquired.2).bind fun owner =>
          (readItem readSpan false owner.2).bind fun ttl =>
            (readItem readOptionalText false ttl.2).bind fun data =>
              (readListEnd data.2).bind fun rest =>
                .ok (⟨name.1, acquired.1, owner.1, ttl.1, data.1⟩, rest) := rfl

theorem Listed.reads (listed : snapshot.Listed written) : Reads read written snapshot := by
  obtain ⟨writes, laid⟩ := listed
  obtain ⟨enclosed⟩ := laid
  obtain ⟨_, enclosed, name⟩ := enclosed.readItem (writes .name).begins
    (Literal.reads (writes .name))
  obtain ⟨_, enclosed, acquired⟩ := enclosed.readItem (writes .acquired).begins
    (writes .acquired ▸ reads_flagText _)
  obtain ⟨_, enclosed, owner⟩ := enclosed.readItem (writes .owner).begins
    (OptionalLiteral.reads (writes .owner))
  obtain ⟨_, enclosed, ttl⟩ := enclosed.readItem (writes .ttl).begins
    (Duration.Written.reads (writes .ttl))
  obtain ⟨_, enclosed, data⟩ := enclosed.readItem (writes .data).begins
    (OptionalLiteral.reads (writes .data))
  intro rest _
  rw [List.cons_append, read_list, name, Except.bind, acquired, Except.bind, owner, Except.bind,
    ttl, Except.bind, data, Except.bind, enclosed.readListEnd]
  rfl

theorem Document.decodes {form : List Char → Prop} (document : Document form text)
    (reads : ∀ written, form written → Reads read written snapshot) :
    ofJsonText text = .ok snapshot := by
  obtain ⟨before, after, laid, same⟩ := document
  exact ofJsonText_of_reads (reads _ laid) before after same

theorem Document.refuses {refusal : Refusal} (document : Document (ObjectText entries) text)
    (refused : ∀ written rest, Enclosed '\x7d' MemberText true entries written →
      read ('\x7b' :: (written ++ rest)) = .error refusal) :
    ofJsonText text = .error refusal := by
  obtain ⟨before, after, ⟨enclosed⟩, same⟩ := document
  rw [ofJsonText, same, skipsBlanks_read _ _ before, List.cons_append, refused _ _ enclosed]
  rfl

/-- No member is given twice. -/
theorem Document.refuses_twice {front back : List (String × List Char)}
    (document : Document (ObjectText (front ++ (field.label, value) :: back)) text)
    (fits : ∀ entry ∈ front, ∃ snapshot : Snapshot, snapshot.Fits entry)
    (twice : field.label ∈ front.map Prod.fst) : ofJsonText text = .error .mistyped := by
  have repeated : Members.none.has field = true ∨ field.label ∈ front.map Prod.fst := Or.inr twice
  obtain ⟨entries, entry, others, final, same, gathers, refused⟩ :=
    exists_refused fits repeated value back
  rw [same] at document
  refine document.refuses fun written rest enclosed => ?_
  rw [read_object, gathers.readObject_refused refused enclosed]
  rfl

/-- A member that may not be left out is missed. -/
theorem Document.refuses_missing (document : Document (ObjectText entries) text)
    (fits : ∀ entry ∈ entries, snapshot.Fits entry)
    (once : ∀ field : Field, (entries.map Prod.fst).count field.label ≤ 1)
    (needed : field.needed = true) (missing : field.label ∉ entries.map Prod.fst) :
    ofJsonText text = .error .mistyped := by
  have gathers := gathers_all fits once
  refine document.refuses fun written rest enclosed => ?_
  rw [read_object, (gathers.members enclosed).reads, Except.bind, snapshot_given_missing needed]
  · rfl
  · rwa [List.mem_reverse]

/-- An object is refused if one of its members is given again, before or after where it was. -/
theorem Describes.refuses_twice {front back : List (String × List Char)}
    (describes : snapshot.Describes (front ++ back))
    (named : field.label ∈ (front ++ back).map Prod.fst)
    (again : field.label ∈ front.map Prod.fst ∨ ∃ other : Snapshot, other.Writes field value)
    (document : Document (ObjectText (front ++ (field.label, value) :: back)) text) :
    ofJsonText text = .error .mistyped := by
  have fits : ∀ entry ∈ front ++ back, ∃ snapshot : Snapshot, snapshot.Fits entry :=
    fun entry member => ⟨snapshot, describes.fits entry member⟩
  by_cases before : field.label ∈ front.map Prod.fst
  · exact document.refuses_twice (fun entry member => fits entry (List.mem_append_left _ member))
      before
  · obtain ⟨other, writes⟩ := again.resolve_left before
    rw [List.map_append, List.mem_append] at named
    obtain ⟨⟨_, own⟩, member, rfl⟩ := List.mem_map.mp (named.resolve_left before)
    obtain ⟨within, rest, rfl⟩ := List.append_of_mem member
    rw [← List.cons_append, ← List.append_assoc] at document
    refine document.refuses_twice (fun entry member => ?_) (by simp)
    rcases List.mem_append.mp member with earlier | inserted
    · exact fits entry (List.mem_append_left _ earlier)
    · rcases List.mem_cons.mp inserted with rfl | between
      · exact ⟨other, writes.fits⟩
      · exact fits entry (List.mem_append_right _ (List.mem_append_left _ between))

/-- An object is refused if a member is missed that may not be left out. -/
theorem Describes.refuses_missing (describes : snapshot.Describes entries)
    (needed : field.needed = true)
    (document : Document (ObjectText (entries.filter fun entry => entry.1 ≠ field.label)) text) :
    ofJsonText text = .error .mistyped := by
  have fewer : (entries.filter fun entry => entry.1 ≠ field.label).Sublist entries :=
    List.filter_sublist
  refine document.refuses_missing (fun entry member => describes.fits entry (fewer.subset member))
    (fun other => ?_) needed ?_
  · exact Nat.le_trans ((fewer.map Prod.fst).count_le other.label) (describes.once other)
  · simp

/-- A snapshot is decoded from every object that says what it is and from every list of its
values, in all layouts. An object in which one of its members is given twice is refused, and so is
one in which a member is missed that may not be left out. -/
theorem arrangements_decode (snapshot : Snapshot) :
    (∀ entries text, snapshot.Describes entries → Document (ObjectText entries) text →
      ofJsonText text = .ok snapshot) ∧
    (∀ text, Document snapshot.Listed text → ofJsonText text = .ok snapshot) ∧
    (∀ front back (field : Field) value text, snapshot.Describes (front ++ back) →
      field.label ∈ (front ++ back).map Prod.fst →
      (field.label ∈ front.map Prod.fst ∨ ∃ other : Snapshot, other.Writes field value) →
      Document (ObjectText (front ++ (field.label, value) :: back)) text →
      ofJsonText text = .error .mistyped) ∧
    ∀ entries (field : Field) text, snapshot.Describes entries → field.needed = true →
      Document (ObjectText (entries.filter fun entry => entry.1 ≠ field.label)) text →
      ofJsonText text = .error .mistyped :=
  ⟨fun _ _ describes document => document.decodes fun _ => readsObject describes,
    fun _ document => document.decodes fun _ => Listed.reads,
    fun _ _ _ _ _ describes => describes.refuses_twice,
    fun _ _ _ describes => describes.refuses_missing⟩

/-- A lock that is free, with a lease of five seconds. -/
def sample : Snapshot := ⟨"j", false, none, Duration.ofMillis 5000, none⟩

/-- What may be written for it. The name is spelt as the unit that it is; the lease is a list. -/
def sampleValue : Field → List Char
  | .name => "\"\\u006a\"".toList
  | .acquired => "false".toList
  | .owner => "null".toList
  | .ttl => "[5,0]".toList
  | .data => "null".toList

/-- Its members after another one, in another order than that of the printer. -/
def sampleEntries : List (String × List Char) :=
  [("x", "[\x7b\x7d]".toList), ("ttl", sampleValue .ttl), ("acquired", sampleValue .acquired),
    ("name", sampleValue .name)]

theorem sample_writes (field : Field) : sample.Writes field (sampleValue field) := by
  cases field with
  | name =>
    have escaped : Spelling 'j' "\\u006a".toList := .unit (by decide) rfl rfl
    have spells : Spells "j".toList "\\u006a".toList := .cons escaped .nil
    exact .intro spells
  | acquired => rfl
  | owner => exact OptionalLiteral.none
  | ttl =>
    have parts : sample.ttl.Parts 5 0 := ⟨by decide, by decide⟩
    exact .list parts ⟨.item (.leading blank_nil) rfl
      (.item (.comma blank_nil blank_nil) rfl (.ended blank_nil))⟩
  | data => exact OptionalLiteral.none

theorem sample_describes : sample.Describes sampleEntries where
  fits := by
    have other : ∀ field : Field, "x" ≠ field.label := by
      intro field
      cases field <;> decide
    have object : ValueText "\x7b\x7d".toList :=
      .object ⟨.ended blank_nil⟩ (List.forall_mem_nil _)
    have list : ValueText "[\x7b\x7d]".toList :=
      .list ⟨.item (.leading blank_nil) rfl (.ended blank_nil)⟩
        (List.forall_mem_cons.mpr ⟨object, List.forall_mem_nil _⟩)
    simp only [sampleEntries, List.forall_mem_cons]
    exact ⟨fits_foreign other list, (sample_writes .ttl).fits, (sample_writes .acquired).fits,
      (sample_writes .name).fits, List.forall_mem_nil _⟩
  once field := by cases field <;> decide
  complete field := by
    cases field with
    | owner => exact Or.inr rfl
    | data => exact Or.inr rfl
    | name => exact Or.inl (by decide)
    | acquired => exact Or.inl (by decide)
    | ttl => exact Or.inl (by decide)

/-- The lock is decoded from the object and from a list. It is not if another name is given first,
or no lease. -/
theorem arrangements_decode_sample :
    ofJsonText "\x7b\"x\":[\x7b\x7d],\"ttl\":[5,0],\"acquired\":false,\"name\":\"\\u006a\"\x7d" =
      .ok sample ∧
    ofJsonText "[\"\\u006a\",false,null,[5,0],null]" = .ok sample ∧
    ofJsonText ("\x7b\"name\":\"\",\"x\":[\x7b\x7d],\"ttl\":[5,0],\"acquired\":false," ++
      "\"name\":\"\\u006a\"\x7d") = .error .mistyped ∧
    ofJsonText "\x7b\"x\":[\x7b\x7d],\"acquired\":false,\"name\":\"\\u006a\"\x7d" =
      .error .mistyped := by
  obtain ⟨object, list, twice, missing⟩ := arrangements_decode sample
  have compact (name : String) (value : List Char) : MemberText (name, value) _ :=
    .intro (literal_stringText name) blank_nil blank_nil
  have further (name : String) (value : List Char) {entries : List (String × List Char)}
      {rest : List Char} (others : Enclosed '\x7d' MemberText false entries rest) :=
    Enclosed.item (.comma blank_nil blank_nil) (compact name value) others
  have first (name : String) (value : List Char) {entries : List (String × List Char)}
      {rest : List Char} (others : Enclosed '\x7d' MemberText false entries rest) :=
    ObjectText.intro (.item (.leading blank_nil) (compact name value) others)
  have flagged := further "acquired" (sampleValue .acquired)
    (further "name" (sampleValue .name) (.ended blank_nil))
  have leased := further "ttl" (sampleValue .ttl) flagged
  have listed : sample.Listed _ := .intro sample_writes ⟨.item (.leading blank_nil) rfl
    (.item (.comma blank_nil blank_nil) rfl (.item (.comma blank_nil blank_nil) rfl
      (.item (.comma blank_nil blank_nil) rfl (.item (.comma blank_nil blank_nil) rfl
        (.ended blank_nil)))))⟩
  have nameless : Writes { sample with name := "" } .name _ := literal_stringText ""
  refine ⟨?_, ?_, ?_, ?_⟩
  · exact object sampleEntries _ sample_describes
      ⟨blank_nil, blank_nil, first "x" _ leased, by decide⟩
  · exact list _ ⟨blank_nil, blank_nil, listed, by decide⟩
  · exact twice [] sampleEntries .name _ _ sample_describes (by decide) (Or.inr ⟨_, nameless⟩)
      ⟨blank_nil, blank_nil, first "name" _ (further "x" _ leased), by decide⟩
  · exact missing sampleEntries .ttl _ sample_describes rfl
      ⟨blank_nil, blank_nil, first "x" _ flagged, by decide⟩

end Snapshot

end Leasehold
