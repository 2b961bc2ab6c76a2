/-
This file says the operations on locks to a server. Taking a lock needs two commands, the
conditional write of the owner key and then the plain write of the payload, and a third if the
payload is refused: the owner key is given back. Every other operation is one command. No
command is ever sent twice.
-/

import Leasehold.Dialect
import Leasehold.Server.Command

namespace Leasehold.Server

/-- A program that asks a server. -/
abbrev Steps (Result : Type) := Program Request Request.Answer Result

/-- Something of little weight happened. -/
def said {Result : Type} (message : String) (fields : List (String × String))
    (next : Steps Result) : Steps Result :=
  .note (.happened .debug message fields) next

/-- The error of a command that failed on an open connection. -/
def failed (failure : CommandFailure) : LockError := .store (.failure failure)

/-! ### Connections -/

/-- Gives up the connection. A server that fails to say good-bye is left all the same. -/
def disconnecting : Steps Unit :=
  .ask (.send .quit) fun
    | .error failure =>
      .note (.happened .warn "error while closing Redis connection"
          [("error", failure.message)])
        (said "connection closed" [] (.done ()))
    | .ok _ => said "connection closed" [] (.done ())

/-- Opens a connection and makes sure that the server answers on it. A connection on which it
does not is given up at once. -/
def connecting : Steps (Except LockError Unit) :=
  .ask .dial fun
    | .error failure => .done (.error (.connection (.failure failure)))
    | .ok () =>
      .ask (.send .ping) fun
        | .error failure =>
          .ask (.send .quit) fun _ => .done (.error (.connection (.failure failure)))
        | .ok _ => said "connected to Redis" [] (.done (.ok ()))

/-! ### Locks -/

/-- Whether an answer to a script of two outcomes says that it did its work. -/
def succeeded (answer : Except CommandFailure Reply) : Except CommandFailure Bool :=
  match answer.bind Reply.expectInteger with
  | .error failure => .error failure
  | .ok count => .ok (count = 1)

/-- Gives the owner key back after the payload was refused. If that fails too, the key is
left to its lease. -/
def rollingBack (lock : Lock) (id : String) (failure : CommandFailure) :
    Steps (Except LockError Unit) :=
  .ask (.send (.release lock.keys id)) fun answer =>
    match succeeded answer with
    | .error rollback =>
      .note (.happened .warn "failed to roll back owner key; it will expire"
          [("error", rollback.message)])
        (.done (.error (failed failure)))
    | .ok _ => .done (.error (failed failure))

/-- Takes the owner key of a lock, then writes the payload. Any text in answer to the first
write says that it took effect. -/
def acquiring (lock : Lock) (id : String) (millis : Nat) : Steps (Except LockError Unit) :=
  .ask (.send (.setIfAbsent lock.keys.owner id millis)) fun answer =>
    match answer.bind Reply.expectText with
    | .error failure => .done (.error (failed failure))
    | .ok none =>
      said "lock held by another client" [] (.done (.error (.heldByOtherClient lock.name)))
    | .ok (some _) =>
      .ask (.send (.set lock.keys.data lock.payload)) fun
        | .error failure => rollingBack lock id failure
        | .ok _ => said "lock acquired" [("ttl_ms", toString millis)] (.done (.ok ()))

/-- Removes both keys of a lock if the ID holds it. -/
def releasing (lock : Lock) (id : String) : Steps (Except LockError Unit) :=
  .ask (.send (.release lock.keys id)) fun answer =>
    match succeeded answer with
    | .error failure => .done (.error (failed failure))
    | .ok false =>
      said "release rejected: not the owner" [] (.done (.error (.notOwned lock.name)))
    | .ok true => said "lock released" [] (.done (.ok ()))

/-- Gives a lock its lease anew and writes its payload if the ID holds it. -/
def refreshing (lock : Lock) (id : String) (millis : Nat) : Steps (Except LockError Unit) :=
  .ask (.send (.refresh lock.keys id millis lock.payload)) fun answer =>
    match succeeded answer with
    | .error failure => .done (.error (failed failure))
    | .ok false =>
      said "refresh rejected: not the owner" [] (.done (.error (.notOwned lock.name)))
    | .ok true => said "lock refreshed" [("ttl_ms", toString millis)] (.done (.ok ()))

/-! ### Snapshots -/

/-- A part of a reply that is a text or nothing. -/
def textOfPart (part : String) : Reply → Except ReplyFault (Option String)
  | .null => .ok none
  | .octets value =>
    match textOfOctets value with
    | .ok text => .ok (some text)
    | .error fault => .error (.notText part fault)
  | reply =>
    match reply.text? with
    | some text => .ok (some text)
    | none => .error (.unexpected part reply)

/-- The reading of a lock in the parts of a reply. The parts are looked at in order. -/
def readingOfParts (owner remaining data : Reply) : Except ReplyFault Reading := do
  let owner ← textOfPart "owner" owner
  let some count := remaining.integer? | .error (.unexpected "PTTL" remaining)
  let data ← textOfPart "data" data
  .ok ⟨owner, count, data⟩

/-- The snapshot in a reply. A lock without owner key may still have a payload. -/
def snapshotOfReply (name : String) : Reply → Except ReplyFault Snapshot
  | .array [owner, remaining, data] => do
    let reading ← readingOfParts owner remaining data
    if reading.remaining = missingKey then
      .ok { Snapshot.unacquired name with data := reading.data }
    else .ok (Snapshot.ofReading name reading)
  | .null => .ok (Snapshot.unacquired name)
  | reply => .error (.unexpected "info" reply)

/-- Reads a lock. -/
def inspecting (lock : Lock) : Steps (Except LockError Snapshot) :=
  .ask (.send (.inspect lock.keys)) fun
    | .error failure => .done (.error (failed failure))
    | .ok reply =>
      match snapshotOfReply lock.name reply with
      | .error fault => .done (.error (.store (.reply fault)))
      | .ok snapshot => .done (.ok snapshot)

/-- The operations on locks as a server understands them. -/
def dialect : Dialect Request Request.Answer where
  label := "redis"
  disconnect := disconnecting
  connect := connecting
  acquire lock id _ millis := acquiring lock id millis
  release := releasing
  refresh := refreshing
  inspect := inspecting

end Leasehold.Server
