/-
This file follows the path of a URL. A part of one dot stands for the place it is in, and one
of two dots for the place above; each dot may be written as an escape. The name of a drive, a
letter and a colon, has no place above, and where it is the first part it is a root of its own.
Tabs and line breaks are dropped, but one after the name of a drive that is the first part cuts
it off from what follows.
-/

import Leasehold.Text.Parts

namespace Leasehold

/-- A place in a tree of names. -/
structure Place where
  /-- The names that lead to the place, the last first. -/
  names : List (List Char)
  /-- Whether the first of them was met as the name of a drive. -/
  onDrive : Bool

namespace Path

/-! ### Blanks -/

/-- Whether a character is dropped from a URL wherever it stands. -/
def isBlank (char : Char) : Bool := char == '\t' || char == '\n' || char == '\r'

/-- A text without its blanks. -/
def withoutBlanks (text : List Char) : List Char := text.filter (!isBlank ·)

/-! ### Parts -/

/-- Whether a part of a path stands for the place it is in. -/
def isHere (part : List Char) : Bool := part == ['.'] || part.map Char.toLower == "%2e".toList

/-- Whether a part of a path stands for the place above. -/
def isAbove (part : List Char) : Bool :=
  ["..", ".%2e", "%2e.", "%2e%2e"].any fun dots => part.map Char.toLower == dots.toList

/-- Whether a part of a path names a drive. -/
def isDrive : List Char → Bool
  | [letter, mark] => letter.isAlpha && (mark == ':' || mark == '|')
  | _ => false

/-- Whether a part of a path names a drive alone or in front of a backslash. -/
def beginsWithDrive (part : List Char) : Bool := isDrive (part.takeWhile (· != '\\'))

/-- The name of a drive and what a blank cuts off after it. -/
def cutOffDrive? (part : List Char) : Option (List Char × List Char) :=
  match part.dropWhile isBlank with
  | letter :: rest =>
    match rest.dropWhile isBlank with
    | ':' :: blank :: rest =>
      let rest := withoutBlanks rest
      if letter.isAlpha ∧ isBlank blank ∧ rest ≠ [] then some ([letter, ':'], rest) else none
    | _ => none
  | [] => none

/-! ### Places -/

/-- The place where a path begins. -/
def root : Place := ⟨[], false⟩

/-- The place above one. -/
def above (place : Place) : Place :=
  if place.names.head?.any beginsWithDrive then place
  else { place with names := place.names.drop 1 }

/-- The place of a name within another one. -/
def within (name : List Char) (place : Place) : Place :=
  ⟨name :: place.names, place.onDrive || (place.names.isEmpty && isDrive name)⟩

/-- The place that a part of a path leads to. -/
def step (place : Place) (part : List Char) : Place :=
  match if place.names.isEmpty then cutOffDrive? part else none with
  | some (drive, rest) => { place with names := [rest, drive] }
  | none =>
    let name := withoutBlanks part
    if isAbove name then above place else if isHere name then place else within name place

/-- Whether a part of a path is no name, so that an empty one comes after it at the end. -/
def isDots (part : List Char) : Bool :=
  let name := withoutBlanks part
  isAbove name || isHere name

/-- The place that the parts of a path lead to. -/
def followed (parts : List (List Char)) : Place :=
  let place := parts.foldl step root
  if parts.getLast?.any isDots then within [] place else place

end Path

end Leasehold
