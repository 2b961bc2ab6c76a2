/-
This file holds clients and locks as the calling side has them. A client has an identity that
is written into the store as the sign of ownership, and it may be connected or not. A lock
belongs to the client it was made by; it holds no ownership itself, since the store decides
who holds it.
-/

import Leasehold.Duration
import Leasehold.Keys

namespace Leasehold

/-- A client. Its serial number tells it apart from every other client there ever was. What it
connects to is of a type that depends on the kind of store. -/
structure Client (Endpoint : Type) where
  serial : Nat
  id : String
  space : String
  connected : Bool
  endpoint : Endpoint

/-- A lock. The lease is the one that the next refresh applies, the payload the one that the
next acquiring or refreshing call writes. -/
structure Lock where
  name : String
  keys : KeyPair
  lease : Duration
  payload : String
  client : Nat
  deriving DecidableEq

/-- A new lock of a client. -/
def Client.newLock {Endpoint : Type} (client : Client Endpoint) (name : String) : Lock where
  name := name
  keys := KeyPair.ofName client.space name
  lease := .zero
  payload := ""
  client := client.serial

/-- A client with the same identity, endpoint and namespace but no connection. -/
def Client.disconnectedCopy {Endpoint : Type} (client : Client Endpoint) (serial : Nat) :
    Client Endpoint :=
  { client with serial, connected := false }

end Leasehold
