/-
This file reads URLs: a scheme, and then a name and a password to log in with, a host, a port,
a path and a query, of which any may be missing. The schemes of the web are read by the rules
of the web: slashes of either kind and in any number lead to the host, which may not be
missing, and a port that is the scheme's own counts as none. A URL of a file has no port and
nobody to log in, and its host is missing if it is the machine at hand or a drive.
-/

import Leasehold.Url.Host
import Leasehold.Url.Path

namespace Leasehold

/-- A URL. The name and the password stand as they are written, escapes included, and so do the
parts of the path and the query. A path without parts is missing; each other one has a slash
before each part. -/
structure Url where
  scheme : String
  username : List Char
  password : List Char
  host : Option Host
  port : Option Nat
  path : List (List Char)
  query : List Char
  deriving DecidableEq

/-- A kind of schemes that are read alike. -/
inductive SchemeKind where
  | web (port : Nat)
  | file
  | opaqueHost
  deriving DecidableEq

namespace SchemeKind

/-- The kind of a scheme. -/
def ofScheme (scheme : String) : SchemeKind :=
  if scheme = "http" ∨ scheme = "ws" then .web 80
  else if scheme = "https" ∨ scheme = "wss" then .web 443
  else if scheme = "ftp" then .web 21
  else if scheme = "file" then .file
  else .opaqueHost

/-- The port that a kind of schemes implies. -/
def port? : SchemeKind → Option Nat
  | web port => some port
  | _ => none

/-- Whether a character separates the parts of a path. -/
def isSlash (kind : SchemeKind) (char : Char) : Bool :=
  char == '/' || (char == '\\' && kind != .opaqueHost)

end SchemeKind

namespace Url

/-! ### Schemes -/

/-- The text of a URL without the controls and spaces around it. -/
def trimmed (text : List Char) : List Char :=
  let isOuter (char : Char) : Bool := char.toNat ≤ 0x20
  ((text.dropWhile isOuter).reverse.dropWhile isOuter).reverse

/-- Whether a character may follow the first letter of a scheme. -/
def isSchemeChar (char : Char) : Bool :=
  char.isAlphanum || char == '+' || char == '-' || char == '.'

/-- The scheme in lower case and the text after its colon. -/
def splitScheme? (text : List Char) : Option (String × List Char) :=
  match text.takeWhile isSchemeChar, text.dropWhile isSchemeChar with
  | first :: scheme, ':' :: rest =>
    if first.isAlpha then some (String.ofList ((first :: scheme).map Char.toLower), rest) else none
  | _, _ => none

/-! ### The end of a URL -/

/-- The path and the query of what follows the host. The slash in front of the first part may be
missing. If nothing comes before the query, a URL of the web or of a file has a path of one empty
part, and any other URL has none. -/
def pathAndQuery (kind : SchemeKind) (text : List Char) : Place × List Char :=
  let (text, _) := cutAtFirst (· == '#') text
  let (path, query) := cutAtFirst (· == '?') text
  let place :=
    match path with
    | [] => if kind = .opaqueHost then Path.root else Path.followed [[]]
    | first :: rest =>
      Path.followed (partsOf kind.isSlash (if kind.isSlash first then rest else path))
  (place, Path.withoutBlanks (query.getD []))

/-! ### Credentials -/

/-- The credentials before the last `@` and the text after it. -/
def splitCredentials (authority : List Char) : Option (List Char) × List Char :=
  match cutAtFirst (· == '@') authority.reverse with
  | (host, some credentials) => (some credentials.reverse, host.reverse)
  | (_, none) => (none, authority)

/-- Whether credentials say who logs in. Nothing and a lone colon do not. -/
def namesSomebody (credentials : List Char) : Bool := credentials != [] && credentials != [':']

/-! ### Hosts and ports -/

/-- Cuts a text at the first colon outside brackets, which stays with the second text. -/
def splitPort (inBrackets : Bool) : List Char → List Char × List Char
  | [] => ([], [])
  | char :: rest =>
    if char = ':' ∧ inBrackets = false then ([], char :: rest)
    else
      let inside := if char = '[' then true else if char = ']' then false else inBrackets
      let (host, port) := splitPort inside rest
      (char :: host, port)

/-- The port of digits. No digits and the port that the scheme implies count as none. -/
def portOf (implied : Option Nat) (digits : List Char) : Except UrlFault (Option Nat) :=
  if ¬ digits.all Char.isDigit ∨ 0xFFFF < digitsValue digits then .error .port
  else
    let port := digitsValue digits
    .ok (if digits.isEmpty ∨ implied = some port then none else some port)

/-- The host and the port of a text, none of either if it is not there, and what follows the
port. A backslash ends a port under any scheme. -/
def hostAndPort (kind : SchemeKind) (text : List Char) :
    Except UrlFault (Option Host × Option Nat × List Char) := do
  let (name, rest) := splitPort false text
  let host ←
    if kind = .opaqueHost then Host.ofOpaqueText name
    else if name.isEmpty then .error .emptyHost
    else Host.ofWebText name
  match rest with
  | ':' :: rest =>
    if name.isEmpty then .error .emptyHost
    let port ← portOf kind.port? (rest.takeWhile (· != '\\'))
    .ok (some host, port, rest.dropWhile (· != '\\'))
  | _ => .ok (if name.isEmpty then none else some host, none, [])

/-! ### URLs -/

/-- The URL of a scheme and of what follows the slashes that lead to the host. -/
def ofAuthority (scheme : String) (kind : SchemeKind) (text : List Char) :
    Except UrlFault Url := do
  let endsAuthority (char : Char) : Bool := kind.isSlash char || char == '?' || char == '#'
  let rest := text.dropWhile (!endsAuthority ·)
  let (credentials, name) := splitCredentials (text.takeWhile (!endsAuthority ·))
  if credentials = some [] ∧ name = [] ∧ rest ≠ [] then .error .emptyHost
  let credentials := credentials.getD []
  let (host, port, afterPort) ← hostAndPort kind name
  if host = none ∧ namesSomebody credentials then .error .emptyHost
  let (username, password) := cutAtFirst (· == ':') credentials
  let (place, query) := pathAndQuery kind (afterPort ++ rest)
  .ok ⟨scheme, username, password.getD [], host, port, place.names.reverse, query⟩

/-- The URL of a scheme that names no host. -/
def withoutHost (scheme : String) (kind : SchemeKind) (text : List Char) : Url :=
  let (place, query) := pathAndQuery kind text
  ⟨scheme, [], [], none, none, place.names.reverse, query⟩

/-- The host of a file, none if it is the machine at hand. -/
def fileHost? (name : List Char) : Except UrlFault (Option Host) :=
  if name.isEmpty ∨ Path.isDrive name then .ok none
  else
    match Host.ofWebText name with
    | .ok host => .ok (if host = .named "localhost" then none else some host)
    | .error fault => .error fault

/-- The URL of a file, given what follows the two slashes, blanks included. A path that begins
with a drive needs no host, and slashes in front of the first part of a path count once. -/
def ofFile (text : List Char) : Except UrlFault Url := do
  let kind := SchemeKind.file
  let endsHost (char : Char) : Bool := kind.isSlash char || char == '?' || char == '#'
  let name := Path.withoutBlanks (text.takeWhile (!endsHost ·))
  let host ← fileHost? name
  let (place, query) :=
    pathAndQuery kind (if Path.isDrive name then text else text.dropWhile (!endsHost ·))
  let path :=
    match place.names.reverse.dropWhile List.isEmpty with
    | [] => [[]]
    | path => path
  .ok ⟨"file", [], [], if place.onDrive then none else host, none, path, query⟩

/-- The text after a slash of either kind, if it begins with one, blanks aside. -/
def afterSlash? (text : List Char) : Option (List Char) :=
  match text.dropWhile Path.isBlank with
  | first :: rest => if SchemeKind.file.isSlash first then some rest else none
  | [] => none

/-- The URL of a text. -/
def ofText (text : String) : Except UrlFault Url := do
  let text := trimmed text.toList
  let some (scheme, rest) := splitScheme? (Path.withoutBlanks text) | .error .relative
  match SchemeKind.ofScheme scheme, rest with
  | .web port, rest =>
    let kind := SchemeKind.web port
    ofAuthority scheme kind (rest.dropWhile kind.isSlash)
  | .opaqueHost, '/' :: '/' :: rest => ofAuthority scheme .opaqueHost rest
  | .opaqueHost, rest => .ok (withoutHost scheme .opaqueHost rest)
  | .file, rest =>
    match ((cutAtFirst (· == ':') text).2.bind afterSlash?).bind afterSlash? with
    | some rest => ofFile rest
    | none => .ok (withoutHost scheme .file rest)

/-! ### Queries -/

/-- A text of a query as it is meant: plus signs are spaces, and escapes are undone. -/
def queryText (text : List Char) : List Char :=
  textOfAnyOctets (unescaped (text.map fun char => if char = '+' then ' ' else char))

/-- The names and values of a query. Pairs stand between ampersands; a pair has its value after
the first equals sign. -/
def queryPairs (url : Url) : List (String × String) :=
  ((partsOf (· == '&') url.query).filter (!·.isEmpty)).map fun pair =>
    let (name, value) := cutAtFirst (· == '=') pair
    (String.ofList (queryText name), String.ofList (queryText (value.getD [])))

end Url

end Leasehold
