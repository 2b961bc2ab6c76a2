/-
This file reads the host of a URL. A host in brackets is an address of version 6. The schemes
of the web read any other host as a name, which may turn out to be an address of version 4;
other schemes take it as it is.
-/

import Leasehold.Url.Domain
import Leasehold.Url.Ipv4
import Leasehold.Url.Ipv6

namespace Leasehold

/-- What can be wrong with the form of a URL. -/
inductive UrlFault where
  /-- The text has no scheme. -/
  | relative
  /-- The port is not a number of 16 bits. -/
  | port
  /-- The host is empty where one has to be. -/
  | emptyHost
  /-- The host has a character that no host has. -/
  | hostCharacter
  /-- The host in brackets is no address. -/
  | ipv6
  /-- The host ends like an address of version 4 but is none. -/
  | ipv4
  /-- The host is no name. -/
  | domain
  deriving DecidableEq

/-- The name of what is wrong with the form of a URL. -/
def UrlFault.name : UrlFault → String
  | relative => "RelativeUrlWithoutBase"
  | port => "InvalidPort"
  | emptyHost => "EmptyHost"
  | hostCharacter => "InvalidDomainCharacter"
  | ipv6 => "InvalidIpv6Address"
  | ipv4 => "InvalidIpv4Address"
  | domain => "IdnaError"

/-- The host of a URL. -/
inductive Host where
  | named (name : String)
  | ipv4 (address : Ipv4)
  | ipv6 (address : Ipv6)
  deriving DecidableEq

namespace Host

/-- A host as it is written. -/
def text : Host → String
  | named name => name
  | ipv4 address => address.text
  | ipv6 address => "[" ++ address.text ++ "]"

/-- Whether a character is one that no host has. -/
def isForbidden (char : Char) : Bool := "\x00\t\n\r #/:<>?@[\\]^|".toList.contains char

/-- The host in brackets of which the first is left out here. -/
def ofBracketed (text : List Char) : Except UrlFault Host :=
  if text.getLast? = some ']' then
    match Ipv6.ofText? text.dropLast with
    | some address => .ok (.ipv6 address)
    | none => .error .ipv6
  else .error .ipv6

/-- The host of a scheme of the web. -/
def ofWebText : List Char → Except UrlFault Host
  | '[' :: text => ofBracketed text
  | text =>
    match Domain.ofEscaped? text with
    | none => .error .domain
    | some [] => .error .emptyHost
    | some name =>
      if Ipv4.endsName name then
        match Ipv4.ofName? name with
        | some address => .ok (.ipv4 address)
        | none => .error .ipv4
      else .ok (.named (String.ofList name))

/-- The host of another scheme, which may be empty. -/
def ofOpaqueText : List Char → Except UrlFault Host
  | '[' :: text => ofBracketed text
  | text =>
    if text.any isForbidden then .error .hostCharacter
    else .ok (.named (String.ofList (escaped text)))

end Host

end Leasehold
