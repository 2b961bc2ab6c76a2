/-
This file writes a span of time for a reader. The unit is the largest of seconds,
milliseconds, microseconds and nanoseconds of which the span holds at least one, and the
number before it is exact: a whole part and, after a point, the rest without its trailing
zeros. No two spans have one text.
-/

import Leasehold.Duration

namespace Leasehold

/-- Drops every trailing occurrence of `'0'`. -/
def dropTrailingZeros (digits : List Char) : List Char :=
  (digits.reverse.dropWhile (· == '0')).reverse

/-- The last `places` decimal digits of a number, leading zeros kept. -/
def lastDigits : (places : Nat) → Nat → List Char
  | 0, _ => []
  | places + 1, number => lastDigits places (number / 10) ++ [Nat.digitChar (number % 10)]

/-- A number of units given in parts of which a unit has `10 ^ places`: the whole units, and
a point and the rest if there is a rest. -/
def unitsText (places parts : Nat) : List Char :=
  let fraction := dropTrailingZeros (lastDigits places parts)
  Nat.toDigits 10 (parts / Nat.pow 10 places) ++ if fraction.isEmpty then [] else '.' :: fraction

namespace Duration

/-- A unit in which spans are written: its name and the decimal exponent of its length in
nanoseconds. -/
structure Scale where
  name : String
  places : Nat

/-- The units, the longest first. -/
def scales : List Scale := [⟨"s", 9⟩, ⟨"ms", 6⟩, ⟨"µs", 3⟩]

/-- The unit a span is written in: the first of which it holds one, nanoseconds otherwise. -/
def scale (duration : Duration) : Scale :=
  (scales.find? fun scale => Nat.pow 10 scale.places ≤ duration.nanos).getD ⟨"ns", 0⟩

/-- The span for a reader, as in `1.5ms`. -/
def text (duration : Duration) : String :=
  String.ofList (unitsText duration.scale.places duration.nanos) ++ duration.scale.name

end Duration

end Leasehold
