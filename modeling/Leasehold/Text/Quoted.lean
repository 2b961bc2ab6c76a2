/-
This file writes a text in quotation marks so that it stays on one line and cannot be
mistaken for anything around it. Quotation marks, backslashes and the common controls have a
two-character form, and characters that would be hidden or would attach themselves to their
neighbour are given by number. Messages quote names of locks in this way.
-/

import Leasehold.Text.Extending

namespace Leasehold

/-- The number of a character in a quoted text, in lowercase hexadecimal without leading
zeros. -/
def numbered (char : Char) : List Char :=
  ['\\', 'u', '\x7b'] ++ Nat.toDigits 16 char.toNat ++ ['\x7d']

/-- One character of a quoted text. -/
def quotedChar (char : Char) : List Char :=
  if char = '\x00' then ['\\', '0']
  else if char = '\t' then ['\\', 't']
  else if char = '\r' then ['\\', 'r']
  else if char = '\n' then ['\\', 'n']
  else if char = '\"' then ['\\', '\"']
  else if char = '\\' then ['\\', '\\']
  else if isExtending char || isHidden char then numbered char
  else [char]

/-- A text in quotation marks. -/
def quoted (text : String) : String :=
  String.ofList ('\"' :: text.toList.flatMap quotedChar ++ ['\"'])

end Leasehold
