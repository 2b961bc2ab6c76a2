/-
This file proves that a snapshot is read back from what is written for it, in either layout. What
may stand in it does not matter: any text, with whatever characters it is made of, and any span, up
to the longest one.
-/

import Leasehold.Proofs.Layouts
import Leasehold.Proofs.Numerals
import Leasehold.Snapshot.Printer
import Leasehold.Snapshot.Reader

namespace Leasehold

namespace Json

/-! ### Layouts of a printer -/

/-- The blanks that a layout puts between a colon and a value. -/
def Layout.space : Layout → List Char
  | .compact => []
  | .indented => [' ']

theorem blank_space (layout : Layout) : Blank layout.space := by
  cases layout <;> simp [Blank, Layout.space, isBlank]

theorem blank_gap (layout : Layout) (depth : Nat) : Blank (layout.gap depth).toList := by
  cases layout <;> simp [Blank, Layout.gap, isBlank]

/-- What is written for the value of a member is read after its colon. -/
theorem Reads.laid {Value : Type} {read : List Char → Except Refusal (Value × List Char)}
    {value : Value} {written : String} (reads : Reads read written.toList value)
    (layout : Layout) (skips : SkipsBlanks read) :
    Reads (readOnce read none) (':' :: (layout.space ++ written.toList)) (some value) :=
  reads.once skips blank_nil (blank_space layout)

theorem toList_member (layout : Layout) (name value : String) :
    (layout.member name value).toList =
      (stringText name).toList ++ (':' :: (layout.space ++ value.toList)) := by
  cases layout <;> simp [Layout.member, Layout.colon, Layout.space]

/-- What a layout writes after the first member of an object: the other members, each after a
comma, and the closing bracket. -/
def Layout.remainder (layout : Layout) (depth : Nat) (members : List String) : List Char :=
  members.foldr
    (fun member rest => ',' :: ((layout.gap (depth + 1)).toList ++ (member.toList ++ rest)))
    ((layout.gap depth).toList ++ ['\x7d'])

theorem toList_intercalate_members (layout : Layout) (depth : Nat) (first : String)
    (members : List String) :
    (String.intercalate ("," ++ layout.gap (depth + 1)) (first :: members)).toList ++
        ((layout.gap depth).toList ++ ['\x7d']) =
      first.toList ++ layout.remainder depth members := by
  induction members generalizing first with
  | nil => simp [Layout.remainder]
  | cons next members inductionHypothesis =>
    rw [String.intercalate_cons_cons, String.toList_append, String.toList_append,
      List.append_assoc, inductionHypothesis]
    simp [Layout.remainder]

theorem toList_object (layout : Layout) (depth : Nat) (first : String) (members : List String) :
    (layout.object depth (first :: members)).toList =
      '\x7b' :: ((layout.gap (depth + 1)).toList ++
        (first.toList ++ layout.remainder depth members)) := by
  rw [← toList_intercalate_members, Layout.object]
  simp only [String.toList_append, List.append_assoc]
  rfl

section Members

variable {Gathered : Type} {layout : Layout} {depth : Nat} {name value : String}
  {gathered next final : Gathered} {others : List String}
  {member : String → Gathered → List Char → Except Refusal (Gathered × List Char)}

theorem Members.closed : Members member false gathered (layout.remainder depth []) gathered :=
  .ended (blank_gap layout depth)

/-- A further member is read from what a layout writes for it. -/
theorem Members.further
    (reads : Reads (member name gathered) (':' :: (layout.space ++ value.toList)) next)
    (members : Members member false next (layout.remainder depth others) final) :
    Members member false gathered
      (layout.remainder depth (layout.member name value :: others)) final := by
  have laid := Members.following blank_nil (blank_gap layout (depth + 1))
    (literal_stringText name) reads members
  rwa [List.nil_append, ← List.append_assoc (stringText name).toList, ← toList_member] at laid

/-- An object is read from what a layout writes for it. -/
theorem Members.object
    (reads : Reads (member name gathered) (':' :: (layout.space ++ value.toList)) next)
    (members : Members member false next (layout.remainder depth others) final) :
    Members member true gathered ((layout.gap (depth + 1)).toList ++
      ((layout.member name value).toList ++ layout.remainder depth others)) final := by
  rw [toList_member, List.append_assoc]
  exact .leading (blank_gap layout (depth + 1)) (literal_stringText name) reads members

end Members

end Json

namespace Duration

open Json

theorem seconds_le (duration : Duration) : duration.seconds ≤ largestWord := by
  have bounded := duration.nanos_lt
  have below : duration.seconds < secondsBound := Nat.div_lt_of_lt_mul (by
    rw [Nat.mul_comm]
    exact bounded)
  exact Nat.le_of_lt_succ below

theorem subsecondNanos_le (duration : Duration) : duration.subsecondNanos ≤ largestNanos := by
  have below : duration.subsecondNanos < nanosPerSecond := Nat.mod_lt _ (by decide)
  have fits : nanosPerSecond ≤ largestNanos := by decide
  omega

end Duration

section Readers

open Json

variable {written : List Char}

/-! ### Spans -/

theorem SpanMembers.reads_seconds {seconds : Nat} (nanos : Option Nat)
    (reads : Reads (readOnce (readNatural largestWord) none) written (some seconds)) :
    Reads (SpanMembers.read "secs" ⟨none, nanos⟩) written ⟨some seconds, nanos⟩ :=
  reads.into (fun seconds => (⟨seconds, nanos⟩ : SpanMembers)) fun _ => rfl

theorem SpanMembers.reads_nanos (seconds : Option Nat) {nanos : Nat}
    (reads : Reads (readOnce (readNatural largestNanos) none) written (some nanos)) :
    Reads (SpanMembers.read "nanos" ⟨seconds, none⟩) written ⟨seconds, some nanos⟩ :=
  reads.into (fun nanos => (⟨seconds, nanos⟩ : SpanMembers)) fun _ => rfl

theorem skipsBlanks_readSpan : SkipsBlanks readSpan := by
  intro gap text blank
  rw [readSpan, readSpan, skipBlanks_append blank]

/-- What `spanOf` is, as an equation of functions. At arguments it could not be checked: the bound
of a span is too large to be counted up to. -/
theorem spanOf_eq : spanOf = fun seconds nanos =>
    match Duration.ofSeconds? seconds nanos with
    | some duration => .ok duration
    | none => .error .mistyped := rfl

theorem spanOf_some {seconds nanos : Nat} {duration : Duration}
    (parts : Duration.ofSeconds? seconds nanos = some duration) :
    spanOf seconds nanos = .ok duration := by
  rw [spanOf_eq]
  simp only [parts]

theorem SpanMembers.span_some {seconds nanos : Nat} {duration : Duration}
    (parts : Duration.ofSeconds? seconds nanos = some duration) :
    SpanMembers.span ⟨some seconds, some nanos⟩ = .ok duration := by
  rw [SpanMembers.span]
  exact spanOf_some parts

theorem readSpan_object (text : List Char) :
    readSpan ('\x7b' :: text) = (readObject SpanMembers.read ⟨none, none⟩ text).bind
      fun found => found.1.span.bind fun span => .ok (span, found.2) := rfl

/-- A span is read from an object with both of its members. -/
theorem reads_span {seconds nanos : Nat} {duration : Duration}
    (parts : Duration.ofSeconds? seconds nanos = some duration)
    (members : Json.Members SpanMembers.read true ⟨none, none⟩ written
      ⟨some seconds, some nanos⟩) :
    Reads readSpan ('\x7b' :: written) duration := by
  intro rest _
  rw [List.cons_append, readSpan_object, members.reads, Except.bind, SpanMembers.span_some parts]
  rfl

theorem reads_duration_jsonText (duration : Duration) (layout : Layout) (depth : Nat) :
    Reads readSpan (duration.jsonText layout depth).toList duration := by
  have seconds := (reads_natural (Nat.le_refl largestWord) duration.seconds_le).laid layout
    (skipsBlanks_readNatural largestWord)
  have nanos := (reads_natural (by decide) duration.subsecondNanos_le).laid layout
    (skipsBlanks_readNatural largestNanos)
  rw [Duration.jsonText, toList_object]
  exact reads_span duration.ofSeconds?_parts (.object (SpanMembers.reads_seconds none seconds)
    (.further (SpanMembers.reads_nanos _ nanos) .closed))

/-! ### Snapshots -/

theorem reads_optionalStringText (text : Option String) :
    Reads readOptionalText (optionalStringText text).toList text := by
  cases text with
  | none => exact reads_null
  | some text => exact (literal_stringText text).reads_some

theorem reads_flagText (flag : Bool) : Reads readFlag (Snapshot.flagText flag).toList flag := by
  cases flag with
  | false => exact reads_false
  | true => exact reads_true

namespace Snapshot

variable {members : Members}

theorem Members.reads_name {value : String}
    (reads : Reads (readOnce readText members.name) written (some value)) :
    Reads (members.read "name") written { members with name := some value } :=
  reads.into (fun name => ({ members with name } : Members)) fun _ => rfl

theorem Members.reads_acquired {acquired : Bool}
    (reads : Reads (readOnce readFlag members.acquired) written (some acquired)) :
    Reads (members.read "acquired") written { members with acquired := some acquired } :=
  reads.into (fun acquired => ({ members with acquired } : Members)) fun _ => rfl

theorem Members.reads_owner {owner : Option String}
    (reads : Reads (readOnce readOptionalText members.owner) written (some owner)) :
    Reads (members.read "owner") written { members with owner := some owner } :=
  reads.into (fun owner => ({ members with owner } : Members)) fun _ => rfl

theorem Members.reads_ttl {ttl : Duration}
    (reads : Reads (readOnce readSpan members.ttl) written (some ttl)) :
    Reads (members.read "ttl") written { members with ttl := some ttl } :=
  reads.into (fun ttl => ({ members with ttl } : Members)) fun _ => rfl

theorem Members.reads_data {data : Option String}
    (reads : Reads (readOnce readOptionalText members.data) written (some data)) :
    Reads (members.read "data") written { members with data := some data } :=
  reads.into (fun data => ({ members with data } : Members)) fun _ => rfl

theorem read_object (text : List Char) :
    read ('\x7b' :: text) = (readObject Members.read Members.none text).bind
      fun found => found.1.snapshot.bind fun snapshot => .ok (snapshot, found.2) := rfl

/-- A snapshot is read from an object with all of its members. -/
theorem reads_object {snapshot : Snapshot}
    (gathered : members.snapshot = .ok snapshot)
    (laid : Json.Members Members.read true Members.none written members) :
    Reads read ('\x7b' :: written) snapshot := by
  intro rest _
  rw [List.cons_append, read_object, laid.reads, Except.bind, gathered]
  rfl

theorem reads_jsonTextIn (snapshot : Snapshot) (layout : Layout) :
    Reads read (snapshot.jsonTextIn layout).toList snapshot := by
  have name := (literal_stringText snapshot.name).reads.laid layout skipsBlanks_readText
  have acquired := (reads_flagText snapshot.acquired).laid layout skipsBlanks_readFlag
  have owner := (reads_optionalStringText snapshot.owner).laid layout
    skipsBlanks_readOptionalText
  have ttl := (reads_duration_jsonText snapshot.ttl layout 1).laid layout skipsBlanks_readSpan
  have data := (reads_optionalStringText snapshot.data).laid layout skipsBlanks_readOptionalText
  have gathered : Members.snapshot ⟨some snapshot.name, some snapshot.acquired,
      some snapshot.owner, some snapshot.ttl, some snapshot.data⟩ = .ok snapshot := rfl
  rw [jsonTextIn, toList_object]
  refine reads_object gathered (.object (Members.reads_name name) ?_)
  exact .further (Members.reads_acquired acquired) (.further (Members.reads_owner owner)
    (.further (Members.reads_ttl ttl) (.further (Members.reads_data data) .closed)))

theorem skipsBlanks_read : SkipsBlanks read := by
  intro gap text blank
  rw [read, read, skipBlanks_append blank]

/-- A text stands for a snapshot if nothing but blanks are around what is written for it. -/
theorem ofJsonText_of_reads {snapshot : Snapshot} {text : String} {before after : List Char}
    (reads : Reads read written snapshot) (leading : Blank before) (trailing : Blank after)
    (laid : text.toList = before ++ (written ++ after)) : ofJsonText text = .ok snapshot := by
  have ends : Ends after := by
    have closed := ends_nil.afterBlanks trailing
    rwa [List.append_nil] at closed
  have skipped : skipBlanks after = [] := by
    have nothing := skipBlanks_append trailing []
    rwa [List.append_nil] at nothing
  rw [ofJsonText, laid, skipsBlanks_read before _ leading, reads after ends]
  simp only [bind, Except.bind, skipped, List.isEmpty_nil, if_true]

theorem ofJsonText_jsonTextIn (snapshot : Snapshot) (layout : Layout) :
    ofJsonText (snapshot.jsonTextIn layout) = .ok snapshot :=
  ofJsonText_of_reads (reads_jsonTextIn snapshot layout) blank_nil blank_nil
    (by rw [List.nil_append, List.append_nil])

/-- A snapshot is read back from its JSON text in either form. -/
theorem jsonText_decodes (snapshot : Snapshot) :
    ofJsonText snapshot.jsonText = .ok snapshot ∧
      ofJsonText snapshot.prettyJsonText = .ok snapshot :=
  ⟨ofJsonText_jsonTextIn snapshot .compact, ofJsonText_jsonTextIn snapshot .indented⟩

end Snapshot

end Readers

end Leasehold
