/-
This file cuts texts at separators: at the first one, or at all of them. Nothing but the
separators is lost.
-/

namespace Leasehold

/-- The text before the first separator, and the text after it if there is one. -/
def cutAtFirst (isSeparator : Char → Bool) : List Char → List Char × Option (List Char)
  | [] => ([], none)
  | char :: rest =>
    if isSeparator char then ([], some rest)
    else
      let (before, after) := cutAtFirst isSeparator rest
      (char :: before, after)

/-- The parts of a text between separators. There is one more part than separators. -/
def partsOf (isSeparator : Char → Bool) : List Char → List (List Char)
  | [] => [[]]
  | char :: rest =>
    if isSeparator char then [] :: partsOf isSeparator rest
    else
      match partsOf isSeparator rest with
      | part :: parts => (char :: part) :: parts
      | [] => [[char]]

end Leasehold
