/-
This file reads and writes digits: numbers in decimal, octets in hexadecimal, and the sign in
front of a number.
-/

namespace Leasehold

/-- The number that decimal digits stand for. -/
def digitsValue (digits : List Char) : Nat :=
  digits.foldl (fun value digit => value * 10 + (digit.toNat - '0'.toNat)) 0

/-- The sign in front of a number, if it has one, and what follows it. -/
def splitSign : List Char → Bool × List Char
  | '-' :: rest => (true, rest)
  | '+' :: rest => (false, rest)
  | rest => (false, rest)

/-- The value of a hexadecimal digit of either case. -/
def hexValue? (char : Char) : Option Nat :=
  if '0' ≤ char ∧ char ≤ '9' then some (char.toNat - '0'.toNat)
  else if 'a' ≤ char ∧ char ≤ 'f' then some (char.toNat - 'a'.toNat + 10)
  else if 'A' ≤ char ∧ char ≤ 'F' then some (char.toNat - 'A'.toNat + 10)
  else none

/-- The two lowercase hexadecimal digits of an octet. -/
def hexPair (octet : Nat) : List Char :=
  [Nat.digitChar (octet / 16), Nat.digitChar (octet % 16)]

/-- The whole number of a text with an optional sign and at least one digit, if it lies within
the bounds given. -/
def boundedInteger? (least greatest : Int) (text : List Char) : Option Int :=
  let (negative, digits) := splitSign text
  let size := Int.ofNat (digitsValue digits)
  let value := if negative then -size else size
  if digits ≠ [] ∧ digits.all Char.isDigit ∧ least ≤ value ∧ value ≤ greatest then some value
  else none

end Leasehold
