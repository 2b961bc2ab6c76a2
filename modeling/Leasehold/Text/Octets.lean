/-
This file holds octet strings: reading one as UTF-8, where the first ill-formed place and its
extent are reported or each such place is marked, and writing one in quotation marks.

A sequence is well formed as Unicode's table of well-formed sequences has it: the first octet
settles how many follow and the range of the second, and all later ones lie in `80` to `BF`.
-/

import Leasehold.Text.Digits

namespace Leasehold

/-- Where a string of octets stops being UTF-8: the number of octets that are well formed
before that place, and how many octets are at fault. No extent means that the octets end
within a sequence that could still have become one. -/
structure Utf8Fault where
  position : Nat
  extent : Option Nat
  deriving DecidableEq

/-- How a multi-octet sequence goes on after its first octet: the range of the second octet
and the number of octets after that one. -/
structure Utf8Lead where
  low : Nat
  high : Nat
  further : Nat

/-- What a first octet above `7F` announces. `C0`, `C1`, stray later octets and octets above
`F4` begin nothing; the narrow ranges shut out overlong forms, surrogates and code points
beyond the last. -/
def Utf8Lead.ofOctet? (octet : Nat) : Option Utf8Lead :=
  if 0xC2 ≤ octet ∧ octet ≤ 0xDF then some ⟨0x80, 0xBF, 0⟩
  else if octet = 0xE0 then some ⟨0xA0, 0xBF, 1⟩
  else if octet = 0xED then some ⟨0x80, 0x9F, 1⟩
  else if 0xE1 ≤ octet ∧ octet ≤ 0xEF then some ⟨0x80, 0xBF, 1⟩
  else if octet = 0xF0 then some ⟨0x90, 0xBF, 2⟩
  else if 0xF1 ≤ octet ∧ octet ≤ 0xF3 then some ⟨0x80, 0xBF, 2⟩
  else if octet = 0xF4 then some ⟨0x80, 0x8F, 2⟩
  else none

/-- The part of a code point that a first octet carries. -/
def leadPayload (octet : Nat) : Nat :=
  if octet < 0xE0 then octet % 32 else if octet < 0xF0 then octet % 16 else octet % 8

/-- Where the reader stands: between sequences, or within one whose code point is so far
`code`, which has taken `taken` octets and awaits one between `low` and `high` and then
`further` more. -/
inductive Utf8State where
  | between
  | within (code taken low high further : Nat)

/-- Reads octets as characters from a state, `position` being where the current sequence
began. -/
def readUtf8 : Utf8State → (position : Nat) → List UInt8 → Except Utf8Fault (List Char)
  | .between, _, [] => .ok []
  | .within .., position, [] => .error ⟨position, none⟩
  | .between, position, octet :: rest =>
    if octet.toNat < 0x80 then
      (Char.ofNat octet.toNat :: ·) <$> readUtf8 .between (position + 1) rest
    else
      match Utf8Lead.ofOctet? octet.toNat with
      | none => .error ⟨position, some 1⟩
      | some lead =>
        readUtf8 (.within (leadPayload octet.toNat) 1 lead.low lead.high lead.further)
          position rest
  | .within code taken low high further, position, octet :: rest =>
    if low ≤ octet.toNat ∧ octet.toNat ≤ high then
      let extended := code * 64 + octet.toNat % 64
      match further with
      | 0 => (Char.ofNat extended :: ·) <$> readUtf8 .between (position + taken + 1) rest
      | further + 1 => readUtf8 (.within extended (taken + 1) 0x80 0xBF further) position rest
    else .error ⟨position, some taken⟩

/-- The text that octets stand for in UTF-8. -/
def textOfOctets (octets : List UInt8) : Except Utf8Fault String :=
  String.ofList <$> readUtf8 .between 0 octets

/-- The character that stands for octets that are not UTF-8. -/
def replacementMark : Char := '\ufffd'

/-- What an octet between sequences gives: a character, and the state after it. -/
def beginUtf8 (octet : Nat) : List Char × Utf8State :=
  if octet < 0x80 then ([Char.ofNat octet], .between)
  else
    match Utf8Lead.ofOctet? octet with
    | none => ([replacementMark], .between)
    | some lead => ([], .within (leadPayload octet) 1 lead.low lead.high lead.further)

/-- Reads octets as characters from a state whatever they are. A sequence that breaks off
becomes one mark, and the octet that breaks it begins anew. -/
def readAnyUtf8 : Utf8State → List UInt8 → List Char
  | .between, [] => []
  | .within .., [] => [replacementMark]
  | .between, octet :: rest =>
    let (chars, state) := beginUtf8 octet.toNat
    chars ++ readAnyUtf8 state rest
  | .within code taken low high further, octet :: rest =>
    if low ≤ octet.toNat ∧ octet.toNat ≤ high then
      let extended := code * 64 + octet.toNat % 64
      match further with
      | 0 => Char.ofNat extended :: readAnyUtf8 .between rest
      | further + 1 => readAnyUtf8 (.within extended (taken + 1) 0x80 0xBF further) rest
    else
      let (chars, state) := beginUtf8 octet.toNat
      replacementMark :: chars ++ readAnyUtf8 state rest

/-- The text that octets stand for in UTF-8, with marks for what is not UTF-8. -/
def textOfAnyOctets (octets : List UInt8) : List Char := readAnyUtf8 .between octets

/-- The octets of a text in UTF-8. -/
def octetsOf (text : List Char) : List UInt8 := text.flatMap String.utf8EncodeChar

/-- What is wrong with octets that are not UTF-8. -/
def Utf8Fault.message (fault : Utf8Fault) : String :=
  match fault.extent with
  | some extent =>
    s!"invalid utf-8 sequence of {extent} bytes from index {fault.position}"
  | none => s!"incomplete utf-8 byte sequence from index {fault.position}"

/-- One octet of quoted octets: printable ASCII as it is, the common controls in two
characters, all else by its two hexadecimal digits. -/
def quotedOctet (octet : UInt8) : List Char :=
  if octet = 0x00 then ['\\', '0']
  else if octet = 0x09 then ['\\', 't']
  else if octet = 0x0D then ['\\', 'r']
  else if octet = 0x0A then ['\\', 'n']
  else if octet = 0x22 then ['\\', '\"']
  else if octet = 0x5C then ['\\', '\\']
  else if 0x20 ≤ octet ∧ octet < 0x7F then [Char.ofNat octet.toNat]
  else ['\\', 'x'] ++ hexPair octet.toNat

/-- Octets in quotation marks, marked as octets. -/
def quotedOctets (octets : List UInt8) : String :=
  String.ofList (['b', '\"'] ++ octets.flatMap quotedOctet ++ ['\"'])

end Leasehold
