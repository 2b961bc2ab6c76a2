/-
This file holds the escapes of URLs. An octet that may not be written as it is stands as a
percent sign and its two hexadecimal digits. What looks like an escape but is none is read as
it is.
-/

import Leasehold.Text.Octets

namespace Leasehold

/-- An octet written as an escape. -/
def escapedOctet (octet : UInt8) : List Char := '%' :: (hexPair octet.toNat).map Char.toUpper

/-- A text with its controls and the characters beyond ASCII escaped. -/
def escaped (text : List Char) : List Char :=
  text.flatMap fun char =>
    if char.toNat < 0x20 ∨ 0x7E < char.toNat then (octetsOf [char]).flatMap escapedOctet
    else [char]

/-- The octets of a text with its escapes undone. -/
def unescaped : List Char → List UInt8
  | [] => []
  | '%' :: high :: low :: rest =>
    match hexValue? high, hexValue? low with
    | some upper, some lower => UInt8.ofNat (upper * 16 + lower) :: unescaped rest
    | _, _ => octetsOf ['%'] ++ unescaped (high :: low :: rest)
  | char :: rest => octetsOf [char] ++ unescaped rest

end Leasehold
