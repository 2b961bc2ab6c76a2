/-
This file writes the pieces of JSON text: strings, and objects in one of two layouts. A
string escapes quotation marks, backslashes and control characters and nothing else. An
object is written either without any blanks or with each member on a line of its own.
-/

import Leasehold.Text.Octets

namespace Leasehold.Json

/-- One character of a string. -/
def escapedChar (char : Char) : List Char :=
  if char = '\"' then ['\\', '\"']
  else if char = '\\' then ['\\', '\\']
  else if char = '\x08' then ['\\', 'b']
  else if char = '\x0c' then ['\\', 'f']
  else if char = '\n' then ['\\', 'n']
  else if char = '\r' then ['\\', 'r']
  else if char = '\t' then ['\\', 't']
  else if char.toNat < 0x20 then ['\\', 'u', '0', '0'] ++ hexPair char.toNat
  else [char]

/-- A text as a string. -/
def stringText (text : String) : String :=
  String.ofList ('\"' :: text.toList.flatMap escapedChar ++ ['\"'])

/-- An optional text as a string or as the word for nothing. -/
def optionalStringText : Option String → String
  | none => "null"
  | some text => stringText text

/-- How objects are laid out. -/
inductive Layout where
  /-- Without blanks. -/
  | compact
  /-- A member to a line, two spaces for each object around it, and a space after its colon. -/
  | indented
  deriving DecidableEq

/-- What is written between two pieces that stand `depth` objects deep. -/
def Layout.gap (layout : Layout) (depth : Nat) : String :=
  match layout with
  | .compact => ""
  | .indented => String.ofList ('\n' :: List.replicate (2 * depth) ' ')

/-- What is written between the name of a member and its value. -/
def Layout.colon : Layout → String
  | .compact => ":"
  | .indented => ": "

/-- A member of an object, whose value is given as JSON text. -/
def Layout.member (layout : Layout) (name value : String) : String :=
  stringText name ++ layout.colon ++ value

/-- An object that stands `depth` objects deep and has at least one member. -/
def Layout.object (layout : Layout) (depth : Nat) (members : List String) : String :=
  "\x7b" ++ layout.gap (depth + 1) ++
    String.intercalate ("," ++ layout.gap (depth + 1)) members ++
    layout.gap depth ++ "\x7d"

end Leasehold.Json
