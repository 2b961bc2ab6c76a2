/-
This file skips a JSON value of any kind and any depth. The brackets still open are kept in a
list, so that depth costs no more than length.
-/

import Leasehold.Json.Lexeme

namespace Leasehold.Json

/-- The two kinds of brackets. -/
inductive Bracket where
  | list
  | object
  deriving DecidableEq

/-- The character that closes a bracket. -/
def Bracket.closing : Bracket → Char
  | .list => ']'
  | .object => '\x7d'

/-- What comes next within a value. -/
inductive Place where
  /-- A value. -/
  | value
  /-- The end of the bracket that was just opened, or its first item. -/
  | opened
  /-- The name of a member. -/
  | name
  /-- A comma, or the end of the innermost bracket. -/
  | ended

/-- The place of an item in a bracket. -/
def Bracket.item : Bracket → Place
  | .list => .value
  | .object => .name

/-- Skips a word, a number or a string, or opens a bracket. -/
def skipStart : List Char → Except Refusal (Option Bracket × List Char)
  | [] => .error .truncated
  | 'n' :: rest => (none, ·) <$> readWord ['u', 'l', 'l'] rest
  | 't' :: rest => (none, ·) <$> readWord ['r', 'u', 'e'] rest
  | 'f' :: rest => (none, ·) <$> readWord ['a', 'l', 's', 'e'] rest
  | '\"' :: rest => (none, ·) <$> skipChars rest
  | '[' :: rest => .ok (some .list, rest)
  | '\x7b' :: rest => .ok (some .object, rest)
  | first :: rest =>
    if first = '-' ∨ first.isDigit then (none, ·) <$> skipNumber (first :: rest)
    else .error .malformed

/-- Skips the name of a member and the colon after it. -/
def skipName (text : List Char) : Except Refusal (List Char) :=
  match text with
  | [] => .error .truncated
  | '\"' :: rest => do
    let rest ← skipChars rest
    match skipBlanks rest with
    | [] => .error .truncated
    | ':' :: rest => .ok rest
    | _ => .error .malformed
  | _ => .error .malformed

/-- Goes on with a value in some brackets until the outermost is closed. Every two steps take
a character, so twice the length of the text and two more are enough. -/
def skipOn : (steps : Nat) → Place → List Bracket → List Char → Except Refusal (List Char)
  | _, .ended, [], text => .ok text
  | 0, _, _, _ => .error .malformed
  | steps + 1, .value, brackets, text =>
    match skipStart (skipBlanks text) with
    | .error refusal => .error refusal
    | .ok (none, rest) => skipOn steps .ended brackets rest
    | .ok (some bracket, rest) => skipOn steps .opened (bracket :: brackets) rest
  | steps + 1, .name, brackets, text =>
    match skipName (skipBlanks text) with
    | .error refusal => .error refusal
    | .ok rest => skipOn steps .value brackets rest
  | _ + 1, .opened, [], _ => .error .malformed
  | steps + 1, .opened, bracket :: brackets, text =>
    match skipBlanks text with
    | [] => .error .truncated
    | char :: rest =>
      if char = bracket.closing then skipOn steps .ended brackets rest
      else skipOn steps bracket.item (bracket :: brackets) (char :: rest)
  | steps + 1, .ended, bracket :: brackets, text =>
    match skipBlanks text with
    | [] => .error .truncated
    | char :: rest =>
      if char = bracket.closing then skipOn steps .ended brackets rest
      else if char = ',' then skipOn steps bracket.item (bracket :: brackets) rest
      else .error .malformed

/-- Skips one value. -/
def skipValue (text : List Char) : Except Refusal (List Char) :=
  skipOn (2 * text.length + 2) .value [] text

end Leasehold.Json
