/-
This file reads the names of hosts as the web does, so that names which are read alike are one
name. A name is folded character by character and written with as few characters as can be.
Each of its parts between dots is checked; a part beyond ASCII is written in ASCII after the
mark `xn--`, and a part that bears the mark has to be what would be written so.
-/

import Leasehold.Text.Composition
import Leasehold.Text.Direction
import Leasehold.Text.Escaped
import Leasehold.Text.Folding
import Leasehold.Text.Joining
import Leasehold.Text.Punycode

namespace Leasehold

namespace Domain

/-- Whether a character is one that no name has. -/
def isForbidden (char : Char) : Bool :=
  char.toNat ≤ 0x20 || char.toNat == 0x7F || "%#/:<>?@[\\]^|".toList.contains char

/-- A name with each character folded, unless one of them is refused. -/
def folded? (name : List Char) : Option (List Char) := do
  let texts ← name.mapM Folding.text?
  some (composed texts.flatten)

/-! ### Parts in ASCII -/

/-- The mark of a part that is written in ASCII though it has other characters. -/
def asciiMark : List Char := "xn--".toList

/-- How many characters beyond the mark a part may have to be read. -/
def greatestWritten : Nat := 2000

/-- How many characters a part may stand for if not all of them are of ASCII. -/
def greatestSpelled : Nat := 1000

/-- Whether a text has characters of ASCII alone. -/
def isAscii (text : List Char) : Bool := text.all Punycode.isBasic

/-- Whether folding leaves a part as it is. -/
def isFolded (part : List Char) : Bool := folded? part == some part

/-- The characters that a part stands for. A part without the mark stands for itself. -/
def spelled? (part : List Char) : Option (List Char) :=
  if ¬ asciiMark.isPrefixOf part then some part
  else
    let written := part.drop asciiMark.length
    if written.isEmpty ∨ written.getLast? = some '-' ∨ ¬ isAscii written ∨
        greatestWritten < written.length then
      none
    else do
      let spelled ← Punycode.decode? written
      if isFolded spelled then some spelled else none

/-- A part in ASCII, given the characters that it stands for. -/
def written (part spelled : List Char) : List Char :=
  if isAscii part then part else asciiMark ++ Punycode.encode spelled

/-! ### Names -/

/-- Whether the characters of a part may stand together. -/
def isPart (spelled : List Char) : Bool :=
  (isAscii spelled || spelled.length ≤ greatestSpelled) && !spelled.head?.any isMark &&
    hasJoinersPlaced spelled

/-- Whether the parts of a name are read in one order each, if any of them is written from right
to left. -/
def areOrdered (parts : List (List Char)) : Bool :=
  let directions := parts.map (·.map Direction.ofChar)
  !directions.any (·.any Direction.isFromRight) || directions.all Direction.isOrdered

/-- A name with dots between its parts. -/
def joined (parts : List (List Char)) : List Char := ['.'].intercalate parts

/-- The name in ASCII of a name that has no escapes. -/
def ascii? (name : List Char) : Option (List Char) := do
  let name ← folded? name
  if name.any isForbidden then none
  else
    let parts := partsOf (· == '.') name
    let spelled ← parts.mapM spelled?
    if ¬ spelled.all isPart ∨ ¬ areOrdered spelled then none
    else some (joined ((parts.zip spelled).map fun (part, spelled) => written part spelled))

/-- The name in ASCII of a name as it stands in a URL. -/
def ofEscaped? (name : List Char) : Option (List Char) :=
  match textOfOctets (unescaped name) with
  | .ok name => ascii? name.toList
  | .error _ => none

end Domain

end Leasehold
