/-
This file reads tables of code points. Large tables are written as rows of text, in which the
code points are hexadecimal numbers and blanks separate one item from the next.
-/

import Leasehold.Text.Digits
import Leasehold.Text.Parts

namespace Leasehold

/-- The number that hexadecimal digits stand for. What is no such digit counts as zero. -/
def hexNumber (digits : List Char) : Nat :=
  digits.foldl (fun value digit => value * 16 + (hexValue? digit).getD 0) 0

/-- Code points that follow each other. -/
structure CodeSpan where
  first : Nat
  last : Nat

namespace CodeSpan

/-- Whether a code point is one of a span. -/
def covers (span : CodeSpan) (code : Nat) : Bool := span.first ≤ code && code ≤ span.last

/-- A span as it is written in a row: its first code point, a hyphen and its last one, or the
one code point that it has. -/
def ofWord (word : List Char) : CodeSpan :=
  let first := hexNumber (word.takeWhile (· != '-'))
  match word.dropWhile (· != '-') with
  | _ :: last => ⟨first, hexNumber last⟩
  | [] => ⟨first, first⟩

/-- The spans of a row. -/
def ofRow (row : String) : List CodeSpan := (partsOf (· == ' ') row.toList).map ofWord

end CodeSpan

end Leasehold
