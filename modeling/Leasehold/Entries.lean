/-
This file holds the entries of a store and what is done to them. An entry is live until the
clock reaches its deadline. Everything that is done to the entries of a lock besides writing
its payload is one step that first looks who holds the lock, so that nothing can come in
between.
-/

import Leasehold.Snapshot
import Leasehold.Keys
import Leasehold.Table

namespace Leasehold

/-- What a store keeps for a key: a value, and the moment from which it no longer counts, if
there is one. Moments are nanoseconds since the store was made. -/
structure Entry where
  value : String
  deadline : Option Nat
  deriving DecidableEq

/-- Whether an entry still counts. -/
def Entry.isLive (now : Nat) (entry : Entry) : Bool :=
  match entry.deadline with
  | none => true
  | some deadline => now < deadline

/-- The remaining lease of an entry in whole milliseconds. -/
def Entry.remaining (now : Nat) (entry : Entry) : Int :=
  match entry.deadline with
  | none => neverExpires
  | some deadline => Int.ofNat (min ((deadline - now) / nanosPerMilli) Duration.largestMillis)

/-- The entries of a store. -/
abbrev Entries := Table Entry

namespace Entries

/-- The entries that still count. -/
def live (now : Nat) (entries : Entries) : Entries := entries.filter (·.isLive now)

/-- The entries without that of a key, if it no longer counts. -/
def expire (now : Nat) (key : String) (entries : Entries) : Entries :=
  match entries.get? key with
  | none => entries
  | some entry => if entry.isLive now then entries else entries.erase key

/-- Whether the owner key of a lock holds an ID. -/
def isHeldBy (entries : Entries) (ownerKey id : String) : Bool :=
  match entries.get? ownerKey with
  | none => false
  | some entry => entry.value = id

/-- Puts an entry where there is none, and says whether it did. -/
def takeIfAbsent (key : String) (entry : Entry) (entries : Entries) : Bool × Entries :=
  if (entries.get? key).isSome then (false, entries) else (true, entries.insert key entry)

/-- Removes both entries of a lock that an ID holds, and says whether it did. -/
def releaseIfHeld (keys : KeyPair) (id : String) (entries : Entries) : Bool × Entries :=
  if entries.isHeldBy keys.owner id then (true, (entries.erase keys.owner).erase keys.data)
  else (false, entries)

/-- Gives a lock that an ID holds a new deadline and a new payload, and says whether it
did. -/
def rearmIfHeld (keys : KeyPair) (id : String) (deadline : Nat) (payload : String)
    (entries : Entries) : Bool × Entries :=
  if entries.isHeldBy keys.owner id then
    (true, (entries.insert keys.owner ⟨id, some deadline⟩).insert keys.data ⟨payload, none⟩)
  else (false, entries)

/-- Reads both entries of a lock. -/
def read (now : Nat) (keys : KeyPair) (entries : Entries) : Reading :=
  let owner := entries.get? keys.owner
  { owner := owner.map (·.value)
    remaining := (owner.map (·.remaining now)).getD missingKey
    data := (entries.get? keys.data).map (·.value) }

end Entries

end Leasehold
