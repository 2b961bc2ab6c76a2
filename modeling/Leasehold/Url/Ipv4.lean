/-
This file reads the addresses of version 4 of the protocol of the internet from the places of
names. Up to four numbers stand between dots, each decimal, octal or hexadecimal; all but the
last are octets, and the last one fills the octets that remain. A name of which the last part
is a number is an address or nothing.
-/

import Leasehold.Text.Digits
import Leasehold.Text.Parts

namespace Leasehold

/-- An address of 32 bits. -/
structure Ipv4 where
  bits : Nat
  bits_lt : bits < 0x100000000
  deriving DecidableEq

namespace Ipv4

/-- The four octets of an address, the most significant first. -/
def octets (address : Ipv4) : List Nat :=
  [address.bits / 0x1000000, address.bits / 0x10000 % 0x100, address.bits / 0x100 % 0x100,
    address.bits % 0x100]

/-- An address as its octets in decimal. -/
def text (address : Ipv4) : String := ".".intercalate (address.octets.map Nat.repr)

/-- The number of digits in a base, if all of them are digits in it. -/
def numberInBase? (base : Nat) (digits : List Char) : Option Nat := do
  let values ← digits.mapM hexValue?
  if values.all (· < base) then some (values.foldl (fun number value => number * base + value) 0)
  else none

/-- The number that a part of a name is: hexadecimal after `0x`, octal after another `0`,
otherwise decimal. -/
def number? : List Char → Option Nat
  | [] => none
  | '0' :: 'x' :: digits | '0' :: 'X' :: digits => numberInBase? 16 digits
  | '0' :: digit :: digits => numberInBase? 8 (digit :: digits)
  | digits => numberInBase? 10 digits

/-- The parts of a name between its dots. One dot at its end does not count. -/
def partsOfName (name : List Char) : List (List Char) :=
  let parts := partsOf (· == '.') name
  if parts.getLast? = some [] then parts.dropLast else parts

/-- Whether a name ends with a part that has digits alone or is a number. -/
def endsName (name : List Char) : Bool :=
  (partsOfName name).getLast?.any fun part =>
    (!part.isEmpty && part.all Char.isDigit) || (number? part).isSome

/-- The bits that numbers stand for in as many octets as there are `places`. Each number but the
last takes one of them, and the last one takes those that remain. -/
def bitsOf? : (places : Nat) → List Nat → Option Nat
  | 0, _ | _, [] => none
  | places + 1, [last] => if last < Nat.pow 0x100 (places + 1) then some last else none
  | places + 1, octet :: rest =>
    if octet < 0x100 then (octet * Nat.pow 0x100 places + ·) <$> bitsOf? places rest else none

/-- The address that a name is. -/
def ofName? (name : List Char) : Option Ipv4 := do
  let numbers ← (partsOfName name).mapM number?
  let bits ← bitsOf? 4 numbers
  if bits_lt : bits < 0x100000000 then some ⟨bits, bits_lt⟩ else none

end Ipv4

end Leasehold
