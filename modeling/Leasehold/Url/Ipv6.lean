/-
This file reads and writes the addresses of version 6 of the protocol of the internet. Such an
address has eight numbers of 16 bits, written in hexadecimal with colons between them. Two
colons together stand for as many zeros as are missing, and the last two numbers may be written
as the four octets of an address of version 4. There is one way to write each address: the
longest run of zeros is left out, of several the first, unless it is a single zero.
-/

import Leasehold.Text.Digits
import Leasehold.Text.Parts

namespace Leasehold

/-- An address of 128 bits. -/
structure Ipv6 where
  pieces : List Nat
  eight : pieces.length = 8
  deriving DecidableEq

namespace Ipv6

/-! ### Reading -/

/-- The number of one to four hexadecimal digits. -/
def piece? (digits : List Char) : Option Nat :=
  if digits.isEmpty ∨ 4 < digits.length then none
  else do
    let values ← digits.mapM hexValue?
    some (values.foldl (fun number value => number * 16 + value) 0)

/-- The octet of decimal digits. A zero leads no other digit. -/
def octet? (digits : List Char) : Option Nat :=
  if digits.isEmpty ∨ ¬ digits.all Char.isDigit ∨ (digits.head? = some '0' ∧ digits ≠ ['0']) then
    none
  else
    let octet := digitsValue digits
    if octet < 0x100 then some octet else none

/-- The two numbers of four octets with dots between them. -/
def dottedPieces? (text : List Char) : Option (List Nat) :=
  match (partsOf (· == '.') text).mapM octet? with
  | some [first, second, third, fourth] => some [first * 0x100 + second, third * 0x100 + fourth]
  | _ => none

/-- The numbers of parts, of which the last one may be four octets if `mayEndDotted` is set. -/
def piecesOfParts? (mayEndDotted : Bool) : List (List Char) → Option (List Nat)
  | [] => some []
  | [last] =>
    if mayEndDotted && last.contains '.' then dottedPieces? last
    else ([·]) <$> piece? last
  | part :: rest => do
    let piece ← piece? part
    let pieces ← piecesOfParts? mayEndDotted rest
    some (piece :: pieces)

/-- The numbers of a text. An empty text has none. -/
def pieces? (mayEndDotted : Bool) (text : List Char) : Option (List Nat) :=
  if text.isEmpty then some [] else piecesOfParts? mayEndDotted (partsOf (· == ':') text)

/-- The text before the first two colons together, and the text after them if there are any. -/
def cutAtGap : List Char → List Char × Option (List Char)
  | [] => ([], none)
  | ':' :: ':' :: rest => ([], some rest)
  | char :: rest =>
    let (before, after) := cutAtGap rest
    (char :: before, after)

/-- The address of eight numbers. -/
def ofPieces? (pieces : List Nat) : Option Ipv6 :=
  if eight : pieces.length = 8 then some ⟨pieces, eight⟩ else none

/-- The address of a text. A gap stands for at least one zero. -/
def ofText? (text : List Char) : Option Ipv6 :=
  match cutAtGap text with
  | (text, none) => do
    let pieces ← pieces? true text
    ofPieces? pieces
  | (before, some after) => do
    let before ← pieces? false before
    let after ← pieces? true after
    let count := before.length + after.length
    if count < 8 then ofPieces? (before ++ List.replicate (8 - count) 0 ++ after) else none

/-! ### Writing -/

/-- The length of the run of zeros at the beginning. -/
def zerosAhead (pieces : List Nat) : Nat := (pieces.takeWhile (· == 0)).length

/-- The length of the longest run of zeros. -/
def longestZeros : List Nat → Nat
  | [] => 0
  | piece :: rest => max (zerosAhead (piece :: rest)) (longestZeros rest)

/-- The numbers before the first run of zeros of a length, and the numbers after it. -/
def cutAtZeros (length : Nat) : List Nat → List Nat × List Nat
  | [] => ([], [])
  | piece :: rest =>
    if zerosAhead (piece :: rest) = length then ([], (piece :: rest).drop length)
    else
      let (before, after) := cutAtZeros length rest
      (piece :: before, after)

/-- Numbers in lowercase hexadecimal with colons between them. -/
def colonText (pieces : List Nat) : String :=
  ":".intercalate (pieces.map fun piece => String.ofList (Nat.toDigits 16 piece))

/-- An address as it is written. -/
def text (address : Ipv6) : String :=
  let zeros := longestZeros address.pieces
  if zeros < 2 then colonText address.pieces
  else
    let (before, after) := cutAtZeros zeros address.pieces
    colonText before ++ "::" ++ colonText after

end Ipv6

end Leasehold
