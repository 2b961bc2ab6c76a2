/-
This file holds the numbers of the 64-bit binary format: rounding a ratio to the nearest of
them, reading a decimal numeral, the fewest decimal digits that read back, and the two ways in
which these digits are laid out. Everything is exact arithmetic on natural numbers.

A finite number other than zero is `significand * 2 ^ exponent` with `2 ^ 52 ≤ significand`,
except at the least exponent, where smaller significands stand for the subnormal numbers.
-/

import Leasehold.Text.Digits

namespace Leasehold

/-- A number of the 64-bit binary format. -/
inductive Binary64 where
  | notANumber
  | infinite (negative : Bool)
  | finite (negative : Bool) (significand : Nat) (exponent : Int)
  deriving DecidableEq, Repr

namespace Binary64

/-- Significands are below this bound. -/
def significandBound : Nat := 0x20000000000000

/-- Significands of full length are from here on. -/
def fullSignificand : Nat := 0x10000000000000

/-- The exponent of the subnormal numbers. -/
def leastExponent : Int := -1074

/-- The exponent of the largest numbers. -/
def greatestExponent : Int := 971

/-- Zero with either sign. -/
def zero (negative : Bool) : Binary64 := finite negative 0 leastExponent

/-- The natural number nearest to a ratio, of two equally near ones the even one. -/
def roundedRatio (numerator denominator : Nat) : Nat :=
  let quotient := numerator / denominator
  let twice := 2 * (numerator % denominator)
  if twice < denominator ∨ (twice = denominator ∧ quotient % 2 = 0) then quotient
  else quotient + 1

/-- A ratio over a power of two, as a ratio of natural numbers. -/
def unscaled (numerator denominator : Nat) (exponent : Int) : Nat × Nat :=
  if 0 ≤ exponent then (numerator, denominator <<< exponent.toNat)
  else (numerator <<< (-exponent).toNat, denominator)

/-- The exponent at which a ratio has a significand of full length, or the least exponent. The
lengths of numerator and denominator in bits settle it up to one. -/
def exponentOf (numerator denominator : Nat) : Int :=
  let guess : Int := Int.ofNat numerator.log2 - Int.ofNat denominator.log2 - 53
  let reach := unscaled numerator denominator guess
  max leastExponent (if reach.1 < significandBound * reach.2 then guess else guess + 1)

/-- The number nearest to a ratio with a given sign. Beyond the range it is infinite. -/
def ofRatio (negative : Bool) (numerator denominator : Nat) : Binary64 :=
  if numerator = 0 then zero negative
  else
    let exponent := exponentOf numerator denominator
    let reach := unscaled numerator denominator exponent
    let rounded := roundedRatio reach.1 reach.2
    let (significand, exponent) :=
      if rounded = significandBound then (fullSignificand, exponent + 1) else (rounded, exponent)
    if greatestExponent < exponent then infinite negative
    else finite negative significand exponent

/-- The number nearest to `digits * 10 ^ scale`. A scale far outside the range is settled by
the count of digits alone. -/
def ofDecimal (negative : Bool) (digits : Nat) (scale : Int) : Binary64 :=
  let magnitude : Int := Int.ofNat (Nat.toDigits 10 digits).length + scale
  if digits = 0 ∨ magnitude < -400 then zero negative
  else if 400 < magnitude then infinite negative
  else if 0 ≤ scale then ofRatio negative (digits * Nat.pow 10 scale.toNat) 1
  else ofRatio negative digits (Nat.pow 10 (-scale).toNat)

/-- The magnitude of a number as a ratio. What is not finite counts as zero. -/
def ratio : Binary64 → Nat × Nat
  | finite _ significand exponent =>
    if 0 ≤ exponent then (significand <<< exponent.toNat, 1)
    else (significand, 1 <<< (-exponent).toNat)
  | _ => (0, 1)

/-- The number nearest to the product of two finite magnitudes. -/
def product (first second : Binary64) : Binary64 :=
  ofRatio false (first.ratio.1 * second.ratio.1) (first.ratio.2 * second.ratio.2)

/-! ### Reading -/

/-- The exponent part at the end of a numeral: nothing, or a letter, an optional sign and at
least one digit. -/
def exponentPart? : List Char → Option Int
  | [] => some 0
  | letter :: rest =>
    let (negative, digits) := splitSign rest
    if (letter = 'e' ∨ letter = 'E') ∧ digits ≠ [] ∧ digits.all Char.isDigit then
      some (if negative then -Int.ofNat (digitsValue digits) else Int.ofNat (digitsValue digits))
    else none

/-- A numeral with an optional sign: digits with an optional point and exponent, or one of
the words for infinity and for what is no number, in any case. -/
def ofText? (text : String) : Option Binary64 :=
  let (negative, body) := splitSign text.toList
  let word := body.map Char.toLower
  if word = "inf".toList ∨ word = "infinity".toList then some (infinite negative)
  else if word = "nan".toList then some notANumber
  else
    let whole := body.takeWhile Char.isDigit
    let afterWhole := body.dropWhile Char.isDigit
    let (fraction, rest) :=
      match afterWhole with
      | '.' :: tail => (tail.takeWhile Char.isDigit, tail.dropWhile Char.isDigit)
      | _ => ([], afterWhole)
    if whole.isEmpty && fraction.isEmpty then none
    else
      (exponentPart? rest).map fun exponent =>
        ofDecimal negative (digitsValue (whole ++ fraction))
          (exponent - Int.ofNat fraction.length)

/-! ### Writing -/

/-- The positive reals that round to a positive finite number: the number itself and the two
ends in a common unit, and whether the ends belong. Below a power of two the neighbour is
half as far away. -/
structure Interval where
  value : Nat
  low : Nat
  high : Nat
  unit : Nat × Nat
  closed : Bool

/-- The interval of a significand and an exponent. The unit is a quarter of the last place. -/
def interval (significand : Nat) (exponent : Int) : Interval where
  value := 4 * significand
  low :=
    if significand = fullSignificand ∧ leastExponent < exponent then 4 * significand - 1
    else 4 * significand - 2
  high := 4 * significand + 2
  unit := ratio (finite false 1 (exponent - 2))
  closed := significand % 2 = 0

/-- Whether the ratio `numerator / denominator`, in the interval's unit, lies in it. -/
def Interval.holds (interval : Interval) (numerator denominator : Nat) : Bool :=
  if interval.closed then
    interval.low * denominator ≤ numerator && numerator ≤ interval.high * denominator
  else interval.low * denominator < numerator && numerator < interval.high * denominator

/-- The multiple of `10 ^ scale` in an interval that is nearest to its value, the larger one of
two equally near. Only the two neighbours of the value need a look. -/
def Interval.multiple? (interval : Interval) (scale : Int) : Option Nat :=
  -- a multiple `count * 10 ^ scale` is `count * numerator / denominator` units
  let (numerator, denominator) :=
    if 0 ≤ scale then (Nat.pow 10 scale.toNat * interval.unit.2, interval.unit.1)
    else (interval.unit.2, Nat.pow 10 (-scale).toNat * interval.unit.1)
  let below := interval.value * denominator / numerator
  let nearest := (2 * interval.value * denominator + numerator) / (2 * numerator)
  let other := if nearest = below then below + 1 else below
  if interval.holds (nearest * numerator) denominator then some nearest
  else if interval.holds (other * numerator) denominator then some other
  else none

/-- The multiple of the largest power of ten, from `10 ^ (start + steps)` down to
`10 ^ start`, that lies in an interval. -/
def Interval.shortestFrom (interval : Interval) (start : Int) : Nat → Nat × Int
  | 0 => ((interval.multiple? start).getD 0, start)
  | steps + 1 =>
    match interval.multiple? (start + Int.ofNat (steps + 1)) with
    | some count => (count, start + Int.ofNat (steps + 1))
    | none => interval.shortestFrom start steps

/-- The fewest digits, with their scale, that read back as a positive finite number. Every
such number has at most 17 digits and lies between `10 ^ -324` and `10 ^ 309`. -/
def shortest (significand : Nat) (exponent : Int) : Nat × Int :=
  (interval significand exponent).shortestFrom (-345) 655

/-- The digits of a finite number and the place of its point, counted from the first digit. -/
def digitsAndPoint (significand : Nat) (exponent : Int) : List Char × Int :=
  if significand = 0 then (['0'], 1)
  else
    let (count, scale) := shortest significand exponent
    let digits := Nat.toDigits 10 count
    (digits, Int.ofNat digits.length + scale)

/-- Digits with the point put among them and no exponent. `tail` is what a whole number ends
with. -/
def positional (digits : List Char) (point : Int) (tail : List Char) : List Char :=
  if point ≤ 0 then ['0', '.'] ++ List.replicate (-point).toNat '0' ++ digits
  else if digits.length ≤ point.toNat then
    digits ++ List.replicate (point.toNat - digits.length) '0' ++ tail
  else digits.take point.toNat ++ '.' :: digits.drop point.toNat

/-- Digits with the point after the first and an exponent. -/
def exponential (digits : List Char) (point : Int) : List Char :=
  let fraction := digits.drop 1
  digits.take 1 ++ (if fraction.isEmpty then [] else '.' :: fraction) ++
    'e' :: (toString (point - 1)).toList

/-- Puts a minus sign in front. -/
def signed (negative : Bool) (digits : List Char) : String :=
  String.ofList (if negative then '-' :: digits else digits)

/-- The number as it is handed on as a text: never with an exponent, and a whole number
without a point. -/
def text : Binary64 → String
  | notANumber => "NaN"
  | infinite negative => signed negative "inf".toList
  | finite negative significand exponent =>
    let (digits, point) := digitsAndPoint significand exponent
    signed negative (positional digits point [])

/-- Whether a finite number is shown with an exponent: below `10 ^ -4` and from `10 ^ 16`. -/
def wantsExponent (significand : Nat) (exponent : Int) : Bool :=
  let (numerator, denominator) := ratio (finite false significand exponent)
  significand ≠ 0 &&
    (numerator * 10000 < denominator || denominator * 10000000000000000 ≤ numerator)

/-- The number as it is shown: a whole number has the digit zero after its point, and very
small and very large numbers have an exponent. -/
def shown : Binary64 → String
  | notANumber => "NaN"
  | infinite negative => signed negative "inf".toList
  | finite negative significand exponent =>
    let (digits, point) := digitsAndPoint significand exponent
    signed negative
      (if wantsExponent significand exponent then exponential digits point
      else positional digits point ['.', '0'])

/-- The whole part of a number, kept within the bounds given. What is no number has none and
counts as zero. -/
def truncated (least greatest : Int) : Binary64 → Int
  | notANumber => 0
  | infinite negative => if negative then least else greatest
  | finite negative significand exponent =>
    let (numerator, denominator) := ratio (finite false significand exponent)
    let whole := Int.ofNat (numerator / denominator)
    max least (min greatest (if negative then -whole else whole))

end Binary64

end Leasehold
