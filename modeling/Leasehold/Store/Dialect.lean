/-
This file says the operations on locks to a store within the process. Taking a lock needs two
steps, the owner key and then the payload, and a third if the payload is refused: the owner
key is given back. Every other operation is one step.
-/

import Leasehold.Dialect
import Leasehold.Store

namespace Leasehold.Store

/-- A program that asks an in-process store. -/
abbrev Steps (Result : Type) := Program Request Request.Answer Result

/-- Something of little weight happened. -/
def said {Result : Type} (message : String) (next : Steps Result) : Steps Result :=
  .note (.happened .debug message []) next

/-- The error of a request that the store failed. -/
def failed (fault : StoreFault) : LockError := .store (.fault fault)

/-- Makes sure that the store answers. -/
def connecting : Steps (Except LockError Unit) :=
  .ask .ping fun
    | .error fault => .done (.error (.connection (.fault fault)))
    | .ok () => said "connected to memory store" (.done (.ok ()))

/-- Gives the owner key back after the payload was refused. If that fails too, the entry is
left to its deadline. -/
def rollingBack (lock : Lock) (id : String) (fault : StoreFault) :
    Steps (Except LockError Unit) :=
  .ask (.releaseIfOwner lock.keys id) fun
    | .error rollback =>
      .note (.happened .warn "failed to roll back owner key; it will expire"
          [("error", rollback.message)])
        (.done (.error (failed fault)))
    | .ok _ => .done (.error (failed fault))

/-- Takes the owner key of a lock, then writes the payload. -/
def acquiring (lock : Lock) (id : String) (lease : Duration) : Steps (Except LockError Unit) :=
  .ask (.setIfAbsent lock.keys.owner id lease) fun
    | .error fault => .done (.error (failed fault))
    | .ok false =>
      said "lock held by another client" (.done (.error (.heldByOtherClient lock.name)))
    | .ok true =>
      .ask (.set lock.keys.data lock.payload) fun
        | .error fault => rollingBack lock id fault
        | .ok () => said "lock acquired" (.done (.ok ()))

/-- Removes both keys of a lock if the ID holds it. -/
def releasing (lock : Lock) (id : String) : Steps (Except LockError Unit) :=
  .ask (.releaseIfOwner lock.keys id) fun
    | .error fault => .done (.error (failed fault))
    | .ok false => .done (.error (.notOwned lock.name))
    | .ok true => said "lock released" (.done (.ok ()))

/-- Gives a lock its lease anew and writes its payload if the ID holds it. -/
def refreshing (lock : Lock) (id : String) : Steps (Except LockError Unit) :=
  .ask (.refreshIfOwner lock.keys id lock.lease lock.payload) fun
    | .error fault => .done (.error (failed fault))
    | .ok false => .done (.error (.notOwned lock.name))
    | .ok true => said "lock refreshed" (.done (.ok ()))

/-- The snapshot of a reading. A lock without holder may still have a payload. -/
def snapshotOf (name : String) (reading : Reading) : Snapshot :=
  if reading.owner.isNone then { Snapshot.unacquired name with data := reading.data }
  else Snapshot.ofReading name reading

/-- Reads a lock. -/
def inspecting (lock : Lock) : Steps (Except LockError Snapshot) :=
  .ask (.read lock.keys) fun
    | .error fault => .done (.error (failed fault))
    | .ok reading => .done (.ok (snapshotOf lock.name reading))

/-- The operations on locks as a store within the process understands them. -/
def dialect : Dialect Request Request.Answer where
  label := "memory"
  disconnect := said "connection closed" (.done ())
  connect := connecting
  acquire lock id lease _ := acquiring lock id lease
  release := releasing
  refresh lock id _ := refreshing lock id
  inspect := inspecting

end Leasehold.Store
