/-
This file makes a server a service: what a client is told about the server and how that
becomes an endpoint. An address is read only by a client that is not given one in readable
form, and one that cannot be read is reported before anything is sent.
-/

import Leasehold.Server
import Leasehold.Server.Dialect
import Leasehold.Session

namespace Leasehold.Server

/-- What a client is told about its server: the URL, or else the address in readable form; the
limits of time; and whether connections are opened by a function of the caller's. -/
structure Settings where
  url : Option String
  address : Option Address
  commandTimeout : Option Duration
  connectionTimeout : Option Duration
  custom : Bool

/-- The endpoint of settings. An address given takes precedence over a URL, and for neither
there is a default. -/
def Settings.endpoint (settings : Settings) : Except LockError Endpoint :=
  let address : Except LockError Address :=
    match settings.address with
    | some address => .ok address
    | none =>
      let url := settings.url.getD Address.defaultUrl
      (Address.ofUrl url).mapError fun fault => LockError.connection (.address url fault)
  address.map fun address =>
    ⟨address, settings.commandTimeout, settings.connectionTimeout, settings.custom⟩

/-- What the environment of a program says about its clients. -/
structure Environment where
  url : Option String
  identity : Identity

/-- What a client is told where it is told something, and the environment's word elsewhere. -/
def Environment.override (environment told : Environment) : Environment where
  url := told.url <|> environment.url
  identity :=
    ⟨told.identity.id <|> environment.identity.id,
      told.identity.space <|> environment.identity.space⟩

instance : Inhabited Endpoint := ⟨⟨Address.loopback, none, none, false⟩⟩

/-- A server as a service. -/
def backend : Backend Settings Endpoint Server Action Request Request.Answer where
  dialect := dialect
  prepare settings server := (settings.endpoint, server)
  perform := perform
  interfere := interfere

/-- A client for a reader, on one line. -/
def clientText (client : Client Endpoint) : String :=
  "RedisLockClient \x7b id: " ++ quoted client.id ++ ", namespace: " ++ quoted client.space ++
    ", connected: " ++ Snapshot.flagText client.connected ++ " \x7d"

end Leasehold.Server
