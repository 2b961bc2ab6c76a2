/-
This file holds the operations on clients and locks, as programs. What an operation checks
before it contacts its store is the same for every kind of store: the lease first, then the
connection. The requests made after that are the store's dialect.
-/

import Leasehold.Lock
import Leasehold.LockError
import Leasehold.Program
import Leasehold.Snapshot

namespace Leasehold

/-- How the operations are said to one kind of store. Each program is made for a client that
is connected, under the ID that the client has when the operation begins. -/
structure Dialect (Request : Type) (Answer : Request → Type) where
  /-- The name of the kind of store in the journal. -/
  label : String
  /-- Gives up the connection. -/
  disconnect : Program Request Answer Unit
  /-- Opens a connection and makes sure that the store answers. -/
  connect : Program Request Answer (Except LockError Unit)
  /-- Takes a lock for a lease, which is also given in whole milliseconds. -/
  acquire : Lock → (id : String) → (lease : Duration) → (millis : Nat) →
    Program Request Answer (Except LockError Unit)
  /-- Gives a lock back. -/
  release : Lock → (id : String) → Program Request Answer (Except LockError Unit)
  /-- Gives a lock its lease anew, which is also given in whole milliseconds. -/
  refresh : Lock → (id : String) → (millis : Nat) →
    Program Request Answer (Except LockError Unit)
  /-- Looks at a lock. -/
  inspect : Lock → Program Request Answer (Except LockError Snapshot)

namespace Dialect

variable {Request : Type} {Answer : Request → Type} {Endpoint : Type}

/-! ### Clients -/

/-- The event of an operation on a client. -/
def clientEvent (dialect : Dialect Request Answer) (operation : String)
    (client : Client Endpoint) : Event :=
  .entered operation [("backend", dialect.label), ("client.namespace", client.space)]

/-- Closes a client. Without a connection there is nothing to do. -/
def close (dialect : Dialect Request Answer) (client : Client Endpoint) :
    Program Request Answer (Client Endpoint) :=
  .note (dialect.clientEvent "close" client) <|
    if client.connected then
      dialect.disconnect.map fun _ => { client with connected := false }
    else .done client

/-- Closes a client and connects it anew. If that fails it stays closed. -/
def reconnect (dialect : Dialect Request Answer) (client : Client Endpoint) :
    Program Request Answer (Except LockError Unit × Client Endpoint) :=
  .note (dialect.clientEvent "reconnect" client) <|
    (dialect.close client).andThen fun client =>
      dialect.connect.map fun result => (result, { client with connected := result.isOk })

/-! ### Locks -/

/-- The event of an operation on a lock. -/
def lockEvent (dialect : Dialect Request Answer) (operation : String) (lock : Lock)
    (further : List (String × String)) : Event :=
  .entered operation
    ([("backend", dialect.label), ("lock.key", lock.keys.owner), ("lock.name", lock.name)] ++
      further)

/-- The ID under which an operation is made: that of the lock's client, if the client still
exists and is connected. -/
def session (client : Option (Client Endpoint)) : Except LockError String :=
  match client with
  | some client => if client.connected then .ok client.id else .error .notConnected
  | none => .error .notConnected

/-- Takes a lock for a lease. The lease becomes that of later refreshes once the lease is
valid and the client connected, whatever the store says. -/
def acquireLock (dialect : Dialect Request Answer) (client : Option (Client Endpoint))
    (lock : Lock) (lease : Duration) : Program Request Answer (Except LockError Unit × Lock) :=
  .note (dialect.lockEvent "acquire" lock [("ttl", lease.text)]) <|
    match lease.leaseMillis, session client with
    | .error error, _ => .done (.error error, lock)
    | .ok _, .error error => .done (.error error, lock)
    | .ok millis, .ok id =>
      let leased := { lock with lease }
      (dialect.acquire leased id lease millis).map fun result => (result, leased)

/-- Gives a lock back. -/
def releaseLock (dialect : Dialect Request Answer) (client : Option (Client Endpoint))
    (lock : Lock) : Program Request Answer (Except LockError Unit) :=
  .note (dialect.lockEvent "release" lock []) <|
    match session client with
    | .error error => .done (.error error)
    | .ok id => dialect.release lock id

/-- Gives a lock its lease anew and writes its payload. -/
def refreshLock (dialect : Dialect Request Answer) (client : Option (Client Endpoint))
    (lock : Lock) : Program Request Answer (Except LockError Unit) :=
  .note (dialect.lockEvent "refresh" lock []) <|
    match lock.lease.leaseMillis, session client with
    | .error error, _ => .done (.error error)
    | .ok _, .error error => .done (.error error)
    | .ok millis, .ok id => dialect.refresh lock id millis

/-- Sets the lease of a lock and then refreshes the lock. The lease stays set. -/
def refreshLockFor (dialect : Dialect Request Answer) (client : Option (Client Endpoint))
    (lock : Lock) (lease : Duration) : Program Request Answer (Except LockError Unit × Lock) :=
  .note (dialect.lockEvent "refresh_ttl" lock [("ttl", lease.text)]) <|
    let leased := { lock with lease }
    (dialect.refreshLock client leased).map fun result => (result, leased)

/-- Looks at a lock. -/
def inspectLock (dialect : Dialect Request Answer) (client : Option (Client Endpoint))
    (lock : Lock) : Program Request Answer (Except LockError Snapshot) :=
  .note (dialect.lockEvent "info" lock []) <|
    match session client with
    | .error error => .done (.error error)
    | .ok _ => dialect.inspect lock

end Dialect

end Leasehold
