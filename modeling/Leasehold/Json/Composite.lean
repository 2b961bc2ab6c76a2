/-
This file reads JSON values of a type that is asked for: strings, truth values, natural
numbers, and the frame of objects and lists. A value of another type is refused as such, but
only once it has turned out to be a value: what it begins with is read first.
-/

import Leasehold.Json.Lexeme

namespace Leasehold.Json

/-- What is wrong with a text that begins with something else than was asked for. Words,
numbers and strings are read to their end before they are called mistyped; an object or a
list is called so by its bracket. -/
def otherValue : List Char → Refusal
  | [] => .truncated
  | 'n' :: rest => refusalOf (readWord ['u', 'l', 'l'] rest)
  | 't' :: rest => refusalOf (readWord ['r', 'u', 'e'] rest)
  | 'f' :: rest => refusalOf (readWord ['a', 'l', 's', 'e'] rest)
  | '\"' :: rest => refusalOf (readChars rest)
  | '[' :: _ => .mistyped
  | '\x7b' :: _ => .mistyped
  | first :: rest =>
    if first = '-' ∨ first.isDigit then refusalOf (readNumber (first :: rest)) else .malformed
where
  refusalOf {Value : Type} (read : Except Refusal Value) : Refusal :=
    match read with
    | .error refusal => refusal
    | .ok _ => .mistyped

/-- Reads a string. -/
def readText (text : List Char) : Except Refusal (String × List Char) :=
  match skipBlanks text with
  | '\"' :: rest => do
    let (chars, rest) ← readChars rest
    .ok (String.ofList chars, rest)
  | other => .error (otherValue other)

/-- Reads a string or the word for nothing. -/
def readOptionalText (text : List Char) : Except Refusal (Option String × List Char) :=
  match skipBlanks text with
  | 'n' :: rest => do
    let rest ← readWord ['u', 'l', 'l'] rest
    .ok (none, rest)
  | other => do
    let (value, rest) ← readText other
    .ok (some value, rest)

/-- Reads a truth value. -/
def readFlag (text : List Char) : Except Refusal (Bool × List Char) :=
  match skipBlanks text with
  | 't' :: rest => do
    let rest ← readWord ['r', 'u', 'e'] rest
    .ok (true, rest)
  | 'f' :: rest => do
    let rest ← readWord ['a', 'l', 's', 'e'] rest
    .ok (false, rest)
  | other => .error (otherValue other)

/-- Reads a natural number up to a bound that is itself no larger than 64 bits. -/
def readNatural (bound : Nat) (text : List Char) : Except Refusal (Nat × List Char) :=
  match skipBlanks text with
  | first :: rest =>
    if first = '-' ∨ first.isDigit then do
      let (numeral, rest) ← readNumber (first :: rest)
      match numeral.word? with
      | some value => if value ≤ bound then .ok (value, rest) else .error .mistyped
      | none => .error .mistyped
    else .error (otherValue (first :: rest))
  | [] => .error .truncated

/-! ### Objects -/

/-- Reads the colon between the name of a member and its value. -/
def readColon (text : List Char) : Except Refusal (List Char) :=
  match skipBlanks text with
  | [] => .error .truncated
  | ':' :: rest => .ok rest
  | _ => .error .malformed

/-- What stands at a place where a member may begin. -/
inductive MemberStart where
  /-- The object ends. -/
  | ended
  /-- A member begins; this is its name. -/
  | named (name : String)

/-- Reads the end of an object or the name of its next member. The first member has no comma
before it, and every other has one. -/
def readMemberStart (first : Bool) (text : List Char) :
    Except Refusal (MemberStart × List Char) :=
  match skipBlanks text with
  | [] => .error .truncated
  | '\x7d' :: rest => .ok (.ended, rest)
  | char :: rest =>
    if first then readName (char :: rest)
    else if char = ',' then
      match skipBlanks rest with
      | [] => .error .truncated
      | text => readName text
    else .error .malformed
where
  readName (text : List Char) : Except Refusal (MemberStart × List Char) :=
    match text with
    | '\"' :: rest => do
      let (chars, rest) ← readChars rest
      .ok (.named (String.ofList chars), rest)
    | _ => .error .malformed

/-- Reads an object after its opening bracket. `member` reads what follows the name of a
member and says what has been gathered then. Each member takes a character, so the length of
the text is enough members. -/
def readMembers {Gathered : Type}
    (member : String → Gathered → List Char → Except Refusal (Gathered × List Char)) :
    (members : Nat) → (first : Bool) → Gathered → List Char →
      Except Refusal (Gathered × List Char)
  | 0, _, _, _ => .error .malformed
  | members + 1, first, gathered, text =>
    match readMemberStart first text with
    | .error refusal => .error refusal
    | .ok (.ended, rest) => .ok (gathered, rest)
    | .ok (.named name, rest) =>
      match member name gathered rest with
      | .error refusal => .error refusal
      | .ok (gathered, rest) => readMembers member members false gathered rest

/-- Reads an object after its opening bracket, nothing being gathered yet but `start`. -/
def readObject {Gathered : Type}
    (member : String → Gathered → List Char → Except Refusal (Gathered × List Char))
    (start : Gathered) (text : List Char) : Except Refusal (Gathered × List Char) :=
  readMembers member (text.length + 1) true start text

/-- Reads the value of a member that may be given once. -/
def readOnce {Value : Type} (read : List Char → Except Refusal (Value × List Char))
    (given : Option Value) (text : List Char) : Except Refusal (Option Value × List Char) :=
  if given.isSome then .error .mistyped
  else do
    let rest ← readColon text
    let (value, rest) ← read rest
    .ok (some value, rest)

/-! ### Lists -/

/-- Goes to an item of a list. A list that ends before it is too short. -/
def readItemStart (first : Bool) (text : List Char) : Except Refusal (List Char) :=
  match skipBlanks text with
  | [] => .error .truncated
  | ']' :: _ => .error .mistyped
  | char :: rest =>
    if first then .ok (char :: rest)
    else if char = ',' then
      match skipBlanks rest with
      | [] => .error .truncated
      | ']' :: _ => .error .malformed
      | text => .ok text
    else .error .malformed

/-- Reads an item of a list. -/
def readItem {Value : Type} (read : List Char → Except Refusal (Value × List Char))
    (first : Bool) (text : List Char) : Except Refusal (Value × List Char) := do
  let text ← readItemStart first text
  read text

/-- Reads the end of a list that has all its items. -/
def readListEnd (text : List Char) : Except Refusal (List Char) :=
  match skipBlanks text with
  | [] => .error .truncated
  | ']' :: rest => .ok rest
  | _ => .error .malformed

end Leasehold.Json
