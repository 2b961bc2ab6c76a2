/-
This file reads the smallest pieces of JSON text: blanks, the three words, numbers and
strings. A reader takes the text that is left and returns what it read with the text after
it, or the first thing that is wrong. Three kinds of wrong are told apart: the text ends too
early, it is no JSON, or it is JSON of another type than the one asked for.
-/

import Leasehold.Binary64
import Leasehold.Text.Octets

namespace Leasehold.Json

/-- What can be wrong with JSON text. -/
inductive Refusal where
  /-- The text ends where more has to follow. -/
  | truncated
  /-- The text is not JSON. -/
  | malformed
  /-- The text is JSON but not of the form asked for. -/
  | mistyped
  deriving DecidableEq, Repr

/-! ### Blanks and words -/

/-- Whether a character may stand between the pieces of JSON. -/
def isBlank (char : Char) : Bool := char == ' ' || char == '\n' || char == '\t' || char == '\r'

/-- The text without the blanks in front. -/
def skipBlanks (text : List Char) : List Char := text.dropWhile isBlank

/-- Reads the characters of a word one by one. -/
def readWord : (word : List Char) → List Char → Except Refusal (List Char)
  | [], text => .ok text
  | _ :: _, [] => .error .truncated
  | expected :: word, char :: rest =>
    if char = expected then readWord word rest else .error .malformed

/-! ### Strings -/

/-- The 16-bit unit of four hexadecimal digits. -/
def hexUnit? (first second third fourth : Char) : Option Nat := do
  let high ← hexValue? first
  let next ← hexValue? second
  let later ← hexValue? third
  let low ← hexValue? fourth
  some (((high * 16 + next) * 16 + later) * 16 + low)

/-- Whether a unit is the first half of a surrogate pair. -/
def isLeadingHalf (unit : Nat) : Bool := 0xD800 ≤ unit && unit ≤ 0xDBFF

/-- Whether a unit is the second half of a surrogate pair. -/
def isTrailingHalf (unit : Nat) : Bool := 0xDC00 ≤ unit && unit ≤ 0xDFFF

/-- The character of a surrogate pair. -/
def pairedChar (leading trailing : Nat) : Char :=
  Char.ofNat ((leading - 0xD800) * 0x400 + (trailing - 0xDC00) + 0x10000)

/-- The character of an escape of one letter. -/
def escapeLetter? : Char → Option Char
  | '\"' => some '\"'
  | '\\' => some '\\'
  | '/' => some '/'
  | 'b' => some '\x08'
  | 'f' => some '\x0c'
  | 'n' => some '\n'
  | 'r' => some '\r'
  | 't' => some '\t'
  | _ => none

/-- The length of a text in octets, as UTF-8. -/
def octetCount : List Char → Nat
  | [] => 0
  | char :: rest => char.utf8Size + octetCount rest

/-- What is wrong where four hexadecimal digits are expected and not found. They are looked
for in the next four octets. -/
def unitRefusal (text : List Char) : Refusal :=
  if octetCount text < 4 then .truncated else .malformed

/-- What is wrong where the escape of a second half is expected and not found. -/
def pairRefusal : List Char → Refusal
  | [] | ['\\'] => .truncated
  | '\\' :: 'u' :: rest => unitRefusal rest
  | _ => .malformed

/-- Adds a character in front of what was read. -/
def consRead (char : Char) (read : Except Refusal (List Char × List Char)) :
    Except Refusal (List Char × List Char) :=
  match read with
  | .ok (chars, rest) => .ok (char :: chars, rest)
  | .error refusal => .error refusal

/-- Reads a string after its opening quotation mark. Control characters have to be escaped,
and surrogates have to come in pairs. -/
def readChars : List Char → Except Refusal (List Char × List Char)
  | [] => .error .truncated
  | '\"' :: rest => .ok ([], rest)
  | '\\' :: 'u' :: first :: second :: third :: fourth :: rest =>
    match hexUnit? first second third fourth with
    | none => .error .malformed
    | some unit =>
      if isTrailingHalf unit then .error .malformed
      else if isLeadingHalf unit then
        match rest with
        | '\\' :: 'u' :: first :: second :: third :: fourth :: after =>
          match hexUnit? first second third fourth with
          | none => .error .malformed
          | some trailing =>
            if isTrailingHalf trailing then consRead (pairedChar unit trailing) (readChars after)
            else .error .malformed
        | rest => .error (pairRefusal rest)
      else consRead (Char.ofNat unit) (readChars rest)
  | '\\' :: 'u' :: rest => .error (unitRefusal rest)
  | '\\' :: letter :: rest =>
    match escapeLetter? letter with
    | some char => consRead char (readChars rest)
    | none => .error .malformed
  | ['\\'] => .error .truncated
  | char :: rest =>
    if char.toNat < 0x20 then .error .malformed else consRead char (readChars rest)

/-- Reads a string after its opening quotation mark and forgets it. Surrogates need no
partner here. -/
def skipChars : List Char → Except Refusal (List Char)
  | [] => .error .truncated
  | '\"' :: rest => .ok rest
  | '\\' :: 'u' :: first :: second :: third :: fourth :: rest =>
    if (hexUnit? first second third fourth).isSome then skipChars rest else .error .malformed
  | '\\' :: 'u' :: rest => .error (unitRefusal rest)
  | '\\' :: letter :: rest =>
    if (escapeLetter? letter).isSome then skipChars rest else .error .malformed
  | ['\\'] => .error .truncated
  | char :: rest => if char.toNat < 0x20 then .error .malformed else skipChars rest

/-! ### Numbers -/

/-- A number as it is written: its sign, the digits of its whole part, those after its point
if it has one, and its exponent if it has one. -/
structure Numeral where
  negative : Bool
  whole : List Char
  fraction : Option (List Char)
  exponent : Option Int

/-- Reads digits of which there has to be one. `atEnd` is what is wrong if the text ends
before it. -/
def readDigits (atEnd : Refusal) (text : List Char) :
    Except Refusal (List Char × List Char) :=
  match text with
  | [] => .error atEnd
  | first :: _ =>
    if first.isDigit then .ok (text.takeWhile Char.isDigit, text.dropWhile Char.isDigit)
    else .error .malformed

/-- Reads the whole part of a number: a zero alone, or digits that do not begin with zero. -/
def readWhole (atEnd : Refusal) (text : List Char) :
    Except Refusal (List Char × List Char) := do
  let (digits, rest) ← readDigits atEnd text
  match digits with
  | '0' :: _ :: _ => .error .malformed
  | _ => .ok (digits, rest)

/-- Reads the part of a number after its point, if there is a point. -/
def readFraction (atEnd : Refusal) :
    List Char → Except Refusal (Option (List Char) × List Char)
  | '.' :: rest => do
    let (digits, rest) ← readDigits atEnd rest
    .ok (some digits, rest)
  | text => .ok (none, text)

/-- Reads the exponent of a number, if there is one. -/
def readExponent (atEnd : Refusal) : List Char → Except Refusal (Option Int × List Char)
  | letter :: rest =>
    if letter = 'e' ∨ letter = 'E' then do
      let (negative, rest) := splitSign rest
      let (digits, rest) ← readDigits atEnd rest
      let size := Int.ofNat (digitsValue digits)
      .ok (some (if negative then -size else size), rest)
    else .ok (none, letter :: rest)
  | [] => .ok (none, [])

/-- Reads a number. `atEnd` is what is wrong if the text ends where a digit has to be. -/
def readNumeral (atEnd : Refusal) (text : List Char) :
    Except Refusal (Numeral × List Char) := do
  let (negative, rest) : Bool × List Char :=
    match text with
    | '-' :: rest => (true, rest)
    | rest => (false, rest)
  let (whole, rest) ← readWhole atEnd rest
  let (fraction, rest) ← readFraction atEnd rest
  let (exponent, rest) ← readExponent atEnd rest
  .ok (⟨negative, whole, fraction, exponent⟩, rest)

/-- The largest number of 64 bits. -/
def largestWord : Nat := 0xFFFFFFFFFFFFFFFF

/-- The leading digits of a number that fit in 64 bits together, after those already taken,
and the digits left over. -/
def leadingDigits (value : Nat) : List Char → Nat × List Char
  | [] => (value, [])
  | digit :: rest =>
    let next := value * 10 + (digit.toNat - '0'.toNat)
    if next ≤ largestWord then leadingDigits next rest else (value, digit :: rest)

/-- Whether a number written with a point, an exponent or too many digits is too large. Its
leading digits are taken, then the power of ten, and both and their product are rounded; the
number is too large where the product is infinite. -/
def Numeral.isTooLarge (numeral : Numeral) : Bool :=
  let (head, left) := leadingDigits 0 numeral.whole
  let (significand, scale) : Nat × Int :=
    if left.isEmpty then
      let fraction := numeral.fraction.getD []
      let (significand, unread) := leadingDigits head fraction
      (significand, -Int.ofNat (fraction.length - unread.length))
    else (head, Int.ofNat left.length)
  let scale := scale + numeral.exponent.getD 0
  if significand = 0 ∨ scale < 0 then false
  else if 308 < scale then true
  else
    match Binary64.product (Binary64.ofRatio false significand 1)
        (Binary64.ofRatio false (Nat.pow 10 scale.toNat) 1) with
    | .infinite _ => true
    | _ => false

/-- The natural number of 64 bits that a number is written as, if it is written as one: digits
alone, without sign, point or exponent. -/
def Numeral.word? (numeral : Numeral) : Option Nat :=
  if numeral.negative || numeral.fraction.isSome || numeral.exponent.isSome then none
  else
    let value := digitsValue numeral.whole
    if value ≤ largestWord then some value else none

/-- Reads a number where its value matters. One that is too large is no number. -/
def readNumber (text : List Char) : Except Refusal (Numeral × List Char) := do
  let (numeral, rest) ← readNumeral .truncated text
  if numeral.isTooLarge then .error .malformed else .ok (numeral, rest)

/-- Reads a number and forgets it. It may be as large as it likes, and a number cut short is
taken for no number. -/
def skipNumber (text : List Char) : Except Refusal (List Char) :=
  (·.2) <$> readNumeral .malformed text

end Leasehold.Json
