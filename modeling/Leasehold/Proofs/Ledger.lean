/-
This file holds what locks are to those who use them. Every lock has a lease, which says who
holds it until when, and the payload that was last written. Each operation is one step on one
lease; there are no keys, and nothing comes between the parts of a step. A ledger keeps the
leases of all locks. How often its errands fail is a matter of the weather, and the keeper of a
ledger knows the weather of its kind of store.
-/

import Leasehold.Proofs.Resource
import Mathlib.Logic.Function.Basic

namespace Leasehold

/-- Who holds a lock, and the moment from which it no longer does. -/
structure Holder where
  id : String
  deadline : Nat
  deriving DecidableEq

/-- The state of a lock. A holder whose deadline has come is still on record, and so is the
payload. -/
structure Lease where
  holder : Option Holder
  payload : Option String
  deriving DecidableEq

/-- What an operation has its store do. Any of these errands may fail. -/
inductive Errand where
  /-- Takes the lock if nobody holds it. -/
  | take
  /-- Writes the payload of a lock that was taken. -/
  | write (payload : String)
  /-- Gives the lock back. -/
  | release
  /-- Gives the lock a new deadline and payload. -/
  | refresh
  /-- Looks at the lock. -/
  | inspect
  deriving DecidableEq

/-- Why an errand fails, if it does, and the weather after it. -/
abbrev Fate (Weather : Type) := Errand → Weather → Option Cause × Weather

/-- What an operation on a lease comes to. -/
structure Turn (Weather Result : Type) where
  result : Except LockError Result
  lease : Lease
  weather : Weather

namespace Lease

/-- Nobody holds the lock, and nothing was written. -/
def free : Lease := ⟨none, none⟩

/-- Who holds a lock at a moment. -/
def holderAt (now : Nat) (lease : Lease) : Option Holder := lease.holder.filter (now < ·.deadline)

/-- Whether an ID holds a lock at a moment. -/
def isHeldBy (now : Nat) (id : String) (lease : Lease) : Bool :=
  (lease.holderAt now).any (·.id = id)

/-- A lock at a moment. What remains of its lease is counted in whole milliseconds, and the lock
counts as acquired while there is one. -/
def snapshot (now : Nat) (name : String) (lease : Lease) : Snapshot :=
  match lease.holderAt now with
  | none => ⟨name, false, none, .zero, lease.payload⟩
  | some holder =>
    let millis := (holder.deadline - now) / nanosPerMilli
    ⟨name, millis ≠ 0, some holder.id, .ofMillis millis, lease.payload⟩

variable {Weather : Type}

/-- Takes a lock for a new holder. If the payload cannot be written the lock is given back, and
if it cannot be given back either it stays taken, with the payload it had. -/
def acquire (fate : Fate Weather) (now : Nat) (name : String) (holder : Holder)
    (payload : String) (lease : Lease) (weather : Weather) : Turn Weather Unit :=
  match fate .take weather with
  | (some cause, weather) => ⟨.error (.store cause), lease, weather⟩
  | (none, weather) =>
    if (lease.holderAt now).isSome then ⟨.error (.heldByOtherClient name), lease, weather⟩
    else
      match fate (.write payload) weather with
      | (none, weather) => ⟨.ok (), ⟨some holder, some payload⟩, weather⟩
      | (some cause, weather) =>
        match fate .release weather with
        | (none, weather) => ⟨.error (.store cause), free, weather⟩
        | (some _, weather) => ⟨.error (.store cause), ⟨some holder, lease.payload⟩, weather⟩

/-- Gives a lock back that an ID holds. -/
def release (fate : Fate Weather) (now : Nat) (name id : String) (lease : Lease)
    (weather : Weather) : Turn Weather Unit :=
  match fate .release weather with
  | (some cause, weather) => ⟨.error (.store cause), lease, weather⟩
  | (none, weather) =>
    if lease.isHeldBy now id then ⟨.ok (), free, weather⟩
    else ⟨.error (.notOwned name), lease, weather⟩

/-- Gives a lock a new deadline and payload if it is held by the ID that is to hold it. -/
def refresh (fate : Fate Weather) (now : Nat) (name : String) (holder : Holder)
    (payload : String) (lease : Lease) (weather : Weather) : Turn Weather Unit :=
  match fate .refresh weather with
  | (some cause, weather) => ⟨.error (.store cause), lease, weather⟩
  | (none, weather) =>
    if lease.isHeldBy now holder.id then ⟨.ok (), ⟨some holder, some payload⟩, weather⟩
    else ⟨.error (.notOwned name), lease, weather⟩

/-- Looks at a lock. -/
def inspect (fate : Fate Weather) (now : Nat) (name : String) (lease : Lease)
    (weather : Weather) : Turn Weather Snapshot :=
  match fate .inspect weather with
  | (some cause, weather) => ⟨.error (.store cause), lease, weather⟩
  | (none, weather) => ⟨.ok (lease.snapshot now name), lease, weather⟩

end Lease

/-! ### Ledgers -/

/-- The leases of all locks, at each place where there are locks, and the weather. -/
structure Ledger (Place Weather : Type) where
  leases : Place → Resource → Lease
  weather : Weather

/-- How one kind of store treats those who use it: where a client gets to, what the weather
makes fail, how it changes, and when a lease that begins now runs out. -/
structure Keeper (Settings Place Weather Action : Type) where
  reach : Settings → Except LockError Place
  change : Weather → Action → Weather
  connect : Place → Weather → Option Cause × Weather
  disconnect : Place → Weather → Weather
  fate : Place → Fate Weather
  deadline : (now : Nat) → (lease : Duration) → Nat

namespace Ledger

variable {Settings Place Weather Action : Type} [DecidableEq Place]

/-- A ledger in which nothing is written yet. -/
def blank (weather : Weather) : Ledger Place Weather := ⟨fun _ _ => .free, weather⟩

/-- Connects a client if the weather allows. -/
def connect (keeper : Keeper Settings Place Weather Action) (place : Place)
    (ledger : Ledger Place Weather) : Except LockError Unit × Ledger Place Weather :=
  let met := keeper.connect place ledger.weather
  ((match met.1 with
    | some cause => .error (.connection cause)
    | none => .ok ()), { ledger with weather := met.2 })

/-- Gives up the connection of a client, if it has one. -/
def leave (keeper : Keeper Settings Place Weather Action) (client : Client Place)
    (ledger : Ledger Place Weather) : Ledger Place Weather :=
  if client.connected then
    { ledger with weather := keeper.disconnect client.endpoint ledger.weather }
  else ledger

/-- Enters what an operation on a lease came to. -/
def enter {Result : Type} (ledger : Ledger Place Weather) (place : Place) (resource : Resource)
    (operation : Lease → Weather → Turn Weather Result) :
    Except LockError Result × Ledger Place Weather :=
  let turn := operation (ledger.leases place resource) ledger.weather
  (turn.result,
    ⟨Function.update ledger.leases place
      (Function.update (ledger.leases place) resource turn.lease), turn.weather⟩)

end Ledger

end Leasehold
