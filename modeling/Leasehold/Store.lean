/-
This file holds the store that lives within the process. It counts every request, fails them
all while it is unreachable, and can be told to fail plain writes. Expired entries are dropped
at each request it lets through, before the request is looked at.
-/

import Leasehold.Entries
import Leasehold.LockError

namespace Leasehold

/-- A store within the process. -/
structure Store where
  entries : Entries
  available : Bool
  failingWrites : Bool
  /-- The requests counted so far. The count begins anew after the largest of 64 bits. -/
  operations : UInt64

namespace Store

/-- A store as it is made: empty and reachable. -/
def empty : Store := ⟨.empty, true, false, 0⟩

/-- What can be asked of a store. Each request is one step. -/
inductive Request where
  /-- Whether the store answers. -/
  | ping
  /-- Puts a value with a lease where there is none. -/
  | setIfAbsent (key value : String) (lease : Duration)
  /-- Puts a value that does not expire. -/
  | set (key value : String)
  /-- Removes both values of a lock that an ID holds. -/
  | releaseIfOwner (keys : KeyPair) (id : String)
  /-- Gives a lock that an ID holds a new lease and a new payload. -/
  | refreshIfOwner (keys : KeyPair) (id : String) (lease : Duration) (payload : String)
  /-- Reads both values of a lock. -/
  | read (keys : KeyPair)
  deriving DecidableEq

/-- What a request is answered with, unless it fails. -/
abbrev Request.Value : Request → Type
  | ping | set _ _ => Unit
  | setIfAbsent .. | releaseIfOwner .. | refreshIfOwner .. => Bool
  | read _ => Reading

/-- What a request is answered with. -/
abbrev Request.Answer (request : Request) : Type := Except StoreFault request.Value

/-- The moment at which a lease that begins now runs out. Leases beyond the longest are cut
down to it. -/
def deadline (now : Nat) (lease : Duration) : Nat :=
  now + (lease.shorter Duration.longestLease).nanos

/-- What a request does to entries that are all live. -/
def act (now : Nat) (failingWrites : Bool) :
    (request : Request) → Entries → request.Answer × Entries
  | .ping, entries => (.ok (), entries)
  | .setIfAbsent key value lease, entries =>
    let (taken, entries) := entries.takeIfAbsent key ⟨value, some (deadline now lease)⟩
    (.ok taken, entries)
  | .set key value, entries =>
    if failingWrites then (.error .writeRejected, entries)
    else (.ok (), entries.insert key ⟨value, none⟩)
  | .releaseIfOwner keys id, entries =>
    let (released, entries) := entries.releaseIfHeld keys id
    (.ok released, entries)
  | .refreshIfOwner keys id lease payload, entries =>
    let (refreshed, entries) := entries.rearmIfHeld keys id (deadline now lease) payload
    (.ok refreshed, entries)
  | .read keys, entries => (.ok (entries.read now keys), entries)

/-- Performs a request at a moment. -/
def perform (now : Nat) (request : Request) (store : Store) : request.Answer × Store :=
  let counted := { store with operations := store.operations + 1 }
  if store.available then
    let (answer, entries) := act now store.failingWrites request (store.entries.live now)
    (answer, { counted with entries })
  else (.error .unavailable, counted)

/-- The number of live entries. The others are dropped, and this counts as no request. -/
def count (now : Nat) (store : Store) : Nat × Store :=
  let entries := store.entries.live now
  (entries.size, { store with entries })

/-- Whether there are no live entries. The others are dropped here too. -/
def isEmpty (now : Nat) (store : Store) : Bool × Store :=
  let (count, store) := store.count now
  (count == 0, store)

/-- Makes a store reachable or unreachable. -/
def setAvailable (available : Bool) (store : Store) : Store := { store with available }

/-- Makes plain writes fail or succeed. -/
def setWriteFailures (failingWrites : Bool) (store : Store) : Store := { store with failingWrites }

end Store

end Leasehold
