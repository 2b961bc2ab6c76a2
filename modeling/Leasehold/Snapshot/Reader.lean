/-
This file reads a snapshot from JSON. The members of the object may come in any order and
among others, whose values are skipped; the holder and the payload may be left out. A list of
the five values in order is read too, and so is a remaining lease given as a list of seconds
and nanoseconds. Of several things that are wrong the leftmost is reported.
-/

import Leasehold.Json.Composite
import Leasehold.Json.Skip
import Leasehold.Snapshot

namespace Leasehold

open Json

/-! ### Spans -/

/-- The largest count of nanoseconds that may be written beside the seconds. -/
def largestNanos : Nat := 0xFFFFFFFF

/-- The members of a span that have been read. -/
structure SpanMembers where
  seconds : Option Nat
  nanos : Option Nat

/-- Reads a member of a span. It has no others than the two. -/
def SpanMembers.read (name : String) (members : SpanMembers) (text : List Char) :
    Except Refusal (SpanMembers × List Char) :=
  if name = "secs" then do
    let (seconds, rest) ← readOnce (readNatural largestWord) members.seconds text
    .ok ({ members with seconds }, rest)
  else if name = "nanos" then do
    let (nanos, rest) ← readOnce (readNatural largestNanos) members.nanos text
    .ok ({ members with nanos }, rest)
  else .error .mistyped

/-- The span of seconds and nanoseconds, which together may be too long. -/
def spanOf (seconds nanos : Nat) : Except Refusal Duration :=
  match Duration.ofSeconds? seconds nanos with
  | some duration => .ok duration
  | none => .error .mistyped

/-- The span of the members read, of which none may be missing. -/
def SpanMembers.span (members : SpanMembers) : Except Refusal Duration :=
  match members.seconds, members.nanos with
  | some seconds, some nanos => spanOf seconds nanos
  | _, _ => .error .mistyped

/-- Reads a span from an object or a list. -/
def readSpan (text : List Char) : Except Refusal (Duration × List Char) :=
  match skipBlanks text with
  | '[' :: rest => do
    let (seconds, rest) ← readItem (readNatural largestWord) true rest
    let (nanos, rest) ← readItem (readNatural largestNanos) false rest
    let span ← spanOf seconds nanos
    let rest ← readListEnd rest
    .ok (span, rest)
  | '\x7b' :: rest => do
    let (members, rest) ← readObject SpanMembers.read ⟨none, none⟩ rest
    let span ← members.span
    .ok (span, rest)
  | other => .error (otherValue other)

/-! ### Snapshots -/

namespace Snapshot

/-- The members of a snapshot that have been read. -/
structure Members where
  name : Option String
  acquired : Option Bool
  owner : Option (Option String)
  ttl : Option Duration
  data : Option (Option String)

/-- No members. -/
def Members.none : Members := ⟨.none, .none, .none, .none, .none⟩

/-- Reads a member of a snapshot, and skips any that is not one. -/
def Members.read (name : String) (members : Members) (text : List Char) :
    Except Refusal (Members × List Char) :=
  if name = "name" then do
    let (value, rest) ← readOnce readText members.name text
    .ok ({ members with name := value }, rest)
  else if name = "acquired" then do
    let (acquired, rest) ← readOnce readFlag members.acquired text
    .ok ({ members with acquired }, rest)
  else if name = "owner" then do
    let (owner, rest) ← readOnce readOptionalText members.owner text
    .ok ({ members with owner }, rest)
  else if name = "ttl" then do
    let (ttl, rest) ← readOnce readSpan members.ttl text
    .ok ({ members with ttl }, rest)
  else if name = "data" then do
    let (data, rest) ← readOnce readOptionalText members.data text
    .ok ({ members with data }, rest)
  else do
    let rest ← readColon text
    let rest ← skipValue rest
    .ok (members, rest)

/-- The snapshot of the members read. The holder and the payload may be missing. -/
def Members.snapshot (members : Members) : Except Refusal Snapshot :=
  match members.name, members.acquired, members.ttl with
  | some name, some acquired, some ttl =>
    .ok ⟨name, acquired, members.owner.join, ttl, members.data.join⟩
  | _, _, _ => .error .mistyped

/-- Reads a snapshot from an object or a list. -/
def read (text : List Char) : Except Refusal (Snapshot × List Char) :=
  match skipBlanks text with
  | '[' :: rest => do
    let (name, rest) ← readItem readText true rest
    let (acquired, rest) ← readItem readFlag false rest
    let (owner, rest) ← readItem readOptionalText false rest
    let (ttl, rest) ← readItem readSpan false rest
    let (data, rest) ← readItem readOptionalText false rest
    let rest ← readListEnd rest
    .ok (⟨name, acquired, owner, ttl, data⟩, rest)
  | '\x7b' :: rest => do
    let (members, rest) ← readObject Members.read Members.none rest
    let snapshot ← members.snapshot
    .ok (snapshot, rest)
  | other => .error (otherValue other)

/-- The snapshot that a JSON text stands for. Nothing but blanks may follow it. -/
def ofJsonText (text : String) : Except Refusal Snapshot := do
  let (snapshot, rest) ← read text.toList
  if (skipBlanks rest).isEmpty then .ok snapshot else .error .malformed

end Snapshot

end Leasehold
