/-
This file holds what a server answers to a command, and how an answer is read where a text or
a number is wanted. A server is free to answer anything, so each way of reading says what it
makes of every reply.
-/

import Leasehold.Binary64
import Leasehold.Text.Octets
import Leasehold.Text.Quoted

namespace Leasehold

/-- A value that a server answers with. Octets are those that are not UTF-8; all others come
as text. -/
inductive Reply where
  | null
  | queued
  | boolean (value : Bool)
  | integer (value : Int)
  | double (value : Binary64)
  | text (value : String)
  | octets (value : List UInt8)
  | array (items : List Reply)

/-- The kinds of failure of a command. -/
inductive FailureKind where
  | inputOutput
  | authentication
  | timeout
  | protocol
  | parse
  | notFound
  | invalidCommand
  | cluster
  | unknown
  deriving DecidableEq

/-- The failure of a command: its kind and what the server or the connection says about it. -/
structure CommandFailure where
  kind : FailureKind
  details : String
  deriving DecidableEq

/-- A kind of failure in words. -/
def FailureKind.text : FailureKind → String
  | inputOutput => "IO Error"
  | authentication => "Authentication Error"
  | timeout => "Timeout Error"
  | protocol => "Protocol Error"
  | parse => "Parse Error"
  | notFound => "Not Found"
  | invalidCommand => "Invalid Command"
  | cluster => "Cluster Error"
  | unknown => "Unknown Error"

/-- A failure in words. -/
def CommandFailure.message (failure : CommandFailure) : String :=
  failure.kind.text ++ ": " ++ failure.details

namespace Reply

/-! ### Numbers and texts -/

/-- The least number a reply holds. -/
def leastInteger : Int := -0x8000000000000000

/-- The greatest number a reply holds. -/
def greatestInteger : Int := 0x7FFFFFFFFFFFFFFF

/-- The number of a text, if it is one that a reply could hold. -/
def integerOfText? (text : String) : Option Int :=
  boundedInteger? leastInteger greatestInteger text.toList

/-- A reply as a text, where it has one. -/
def text? : Reply → Option String
  | boolean value => some (if value then "true" else "false")
  | integer value => some (toString value)
  | double value => some value.text
  | text value => some value
  | queued => some "QUEUED"
  | null | octets _ | array _ => none

/-- A reply as a number, where it is one without loss. An array of one item counts as the
item. -/
def integer? : Reply → Option Int
  | integer value => some value
  | text value => integerOfText? value
  | array [item] => item.integer?
  | _ => none

/-! ### Replies as they are expected -/

/-- A reply as a text, an array of one item counting as the item however often. -/
def innerText? : Reply → Option String
  | array [item] => item.innerText?
  | reply => reply.text?

/-- A reply where a text or nothing is expected. The empty array is nothing too. -/
def expectText : Reply → Except CommandFailure (Option String)
  | null | array [] => .ok none
  | reply =>
    match reply.innerText? with
    | some found => .ok (some found)
    | none => .error ⟨.parse, "Could not convert to string."⟩

/-- The number of a text where one is expected. -/
def expectDigits (text : String) : Except CommandFailure Int :=
  match integerOfText? text with
  | some value => .ok value
  | none => .error ⟨.parse, "Invalid integer string."⟩

/-- A reply where a number is expected, an array of one item counting as the item however
often. A number with a fraction loses it. -/
def expectInteger : Reply → Except CommandFailure Int
  | integer value => .ok value
  | text value => expectDigits value
  | double value => .ok (value.truncated leastInteger greatestInteger)
  | null => .error ⟨.notFound, "Cannot convert nil to number."⟩
  | array [item] => item.expectInteger
  | array _ => .error ⟨.parse, "Cannot convert array to number."⟩
  | boolean _ | octets _ | queued => .error ⟨.parse, "Cannot convert to number."⟩

/-! ### Replies for a reader -/

mutual

/-- A reply for a reader, with its kind. -/
def shown : Reply → String
  | null => "Null"
  | queued => "Queued"
  | boolean value => "Boolean(" ++ (if value then "true" else "false") ++ ")"
  | integer value => "Integer(" ++ toString value ++ ")"
  | double value => "Double(" ++ value.shown ++ ")"
  | text value => "String(" ++ quoted value ++ ")"
  | octets value => "Bytes(" ++ quotedOctets value ++ ")"
  | array items => "Array([" ++ shownItems items ++ "])"

/-- Replies for a reader, separated by commas. -/
def shownItems : List Reply → String
  | [] => ""
  | [item] => item.shown
  | item :: rest => item.shown ++ ", " ++ shownItems rest

end

/-- The reply of octets: a text where they are UTF-8. -/
def ofOctets (value : List UInt8) : Reply :=
  match textOfOctets value with
  | .ok chars => text chars
  | .error _ => octets value

end Reply

end Leasehold
