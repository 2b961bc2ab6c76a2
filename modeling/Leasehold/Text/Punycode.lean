/-
This file writes texts with letters, digits and hyphens of ASCII alone. The characters of ASCII
come first, as they are. The others follow as insertions into these, in the order of their code
points and, among equal ones, of their places. An insertion is given by its distance from the
one before: the count of insertions that could have come between the two. Distances are written
with digits of base 36 such that each shows by itself where it ends, and in fewer digits the
nearer they are to those before.
-/

import Leasehold.Text.Digits
import Leasehold.Text.Parts

namespace Leasehold

namespace Punycode

/-! ### Digits -/

/-- The count of digits: the letters come first, the decimal digits last. -/
def base : Nat := 36

/-- The character of a digit. -/
def charOfDigit (digit : Nat) : Char :=
  if digit < 26 then Char.ofNat ('a'.toNat + digit) else Char.ofNat ('0'.toNat + (digit - 26))

/-- The digit of a character. Case does not matter. -/
def digitOfChar? (char : Char) : Option Nat :=
  if 'a' ≤ char ∧ char ≤ 'z' then some (char.toNat - 'a'.toNat)
  else if 'A' ≤ char ∧ char ≤ 'Z' then some (char.toNat - 'A'.toNat)
  else if '0' ≤ char ∧ char ≤ '9' then some (char.toNat - '0'.toNat + 26)
  else none

/-- The least digit that does not end a distance. `position` is 36 for its first digit and
grows by 36 from one digit to the next. -/
def threshold (bias position : Nat) : Nat :=
  if position ≤ bias then 1 else if bias + 26 ≤ position then 26 else position - bias

/-- A threshold is one of the digits and leaves room for others. -/
theorem threshold_bounds (bias position : Nat) :
    1 ≤ threshold bias position ∧ threshold bias position ≤ 26 := by
  unfold threshold
  split
  · omega
  · split <;> omega

/-! ### Bias -/

/-- The bias of a scaled distance: 36 for each digit that it takes, and a share of the rest. -/
def biasOf (distance : Nat) : Nat :=
  if 455 < distance then base + biasOf (distance / 35) else base * distance / (distance + 38)
termination_by distance
decreasing_by omega

/-- The bias after a distance. `count` is how many characters there are then. The first
distance is scaled down, since it leads into another script. -/
def biasAfter (distance count : Nat) (isFirst : Bool) : Nat :=
  let scaled := if isFirst then distance / 700 else distance / 2
  biasOf (scaled + scaled / count)

/-- The bias of the first distance. -/
def firstBias : Nat := 72

/-- The first code point that is inserted. -/
def firstCode : Nat := 0x80

/-! ### Writing -/

/-- The digits of a distance from a position on. -/
def digitsOf (bias position distance : Nat) : List Char :=
  let limit := threshold bias position
  if distance < limit then [charOfDigit distance]
  else
    charOfDigit (limit + (distance - limit) % (base - limit)) ::
      digitsOf bias (position + base) ((distance - limit) / (base - limit))
termination_by distance
decreasing_by
  have bounds := threshold_bounds bias position
  have := Nat.div_le_self (distance - threshold bias position) (base - threshold bias position)
  omega

/-- A character that is inserted: its code point and how many of the characters there are at
that time come before it. -/
structure Insertion where
  code : Nat
  place : Nat

/-- Puts an insertion before those with its own code point and with greater ones. -/
def Insertion.inOrder (insertion : Insertion) : List Insertion → List Insertion
  | [] => [insertion]
  | next :: rest =>
    if next.code < insertion.code then next :: insertion.inOrder rest
    else insertion :: next :: rest

/-- Whether a character is one of ASCII. -/
def isBasic (char : Char) : Bool := char.toNat < firstCode

/-- The insertions that give a text, in order. `before` holds the code points that come before
it. -/
def insertionsAfter (before : List Nat) : List Char → List Insertion
  | [] => []
  | char :: rest =>
    let code := char.toNat
    let later := insertionsAfter (code :: before) rest
    if isBasic char then later
    else Insertion.inOrder ⟨code, before.countP (· ≤ code)⟩ later

/-- The digits of insertions. `code` and `place` are those at which the next insertion would
have no distance, and `count` is how many characters there are. -/
def digitsOfInsertions (code place count bias : Nat) (isFirst : Bool) :
    List Insertion → List Char
  | [] => []
  | insertion :: rest =>
    let distance := (insertion.code - code) * (count + 1) + insertion.place - place
    digitsOf bias base distance ++
      digitsOfInsertions insertion.code (insertion.place + 1) (count + 1)
        (biasAfter distance (count + 1) isFirst) false rest

/-- A text in characters of ASCII. A hyphen follows its own characters of ASCII if it has
any. -/
def encode (text : List Char) : List Char :=
  let basic := text.filter isBasic
  (if basic.isEmpty then [] else basic ++ ['-']) ++
    digitsOfInsertions firstCode 0 basic.length firstBias true (insertionsAfter [] text)

/-! ### Reading -/

/-- The greatest weight that a digit may have. -/
def greatestWeight : Nat := 0xFFFFFFFF

/-- The text that insertions make of another one. `code`, `place` and `bias` are as in writing;
of the distance that is being read, `distance` is what its digits gave so far, and the next
digit has a `weight` and a `position`. -/
def insertedFrom? (text : List Char) (code place bias : Nat) (isFirst : Bool)
    (distance weight position : Nat) : List Char → Option (List Char)
  | [] => if position = base then some text else none
  | char :: rest => do
    let digit ← digitOfChar? char
    let distance := distance + digit * weight
    let limit := threshold bias position
    if digit < limit then
      let count := text.length + 1
      let code := code + (place + distance) / count
      let place := (place + distance) % count
      if code.isValidChar then
        insertedFrom? (text.take place ++ Char.ofNat code :: text.drop place) code (place + 1)
          (biasAfter distance count isFirst) false 0 1 base rest
      else none
    else if weight * (base - limit) ≤ greatestWeight then
      insertedFrom? text code place bias isFirst distance (weight * (base - limit))
        (position + base) rest
    else none

/-- The text that was written as these characters, of which the last hyphen ends those that
stand for themselves. -/
def decode? (written : List Char) : Option (List Char) :=
  let (digits, basic) := cutAtFirst (· == '-') written.reverse
  match basic with
  | none => insertedFrom? [] firstCode 0 firstBias true 0 1 base written
  | some [] => none
  | some basic => insertedFrom? basic.reverse firstCode 0 firstBias true 0 1 base digits.reverse

end Punycode

end Leasehold
