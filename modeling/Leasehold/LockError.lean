/-
This file holds the errors of the operations on locks and clients. Two of them say who holds
the lock, two say that the call could not be made, and two carry the cause for which the
store failed. Causes come from either kind of store, from an address that cannot be read, or
from the caller; a cause may be an error of a lock again.
-/

import Leasehold.Duration.Text
import Leasehold.Server.Address
import Leasehold.Server.Reply

namespace Leasehold

/-- Why an in-process store fails. -/
inductive StoreFault where
  /-- The store has been made unreachable. -/
  | unavailable
  /-- Plain writes have been made to fail. -/
  | writeRejected
  deriving DecidableEq

/-- Why a fault of an in-process store arose, in words. -/
def StoreFault.message : StoreFault → String
  | unavailable => "memory store is unavailable"
  | writeRejected => "memory store rejected the write"

/-- A fault of an in-process store as one word. -/
def StoreFault.shown : StoreFault → String
  | unavailable => "Unavailable"
  | writeRejected => "WriteRejected"

/-- Why a reply cannot be read as the state of a lock. -/
inductive ReplyFault where
  /-- A part of the reply, or all of it, is of another form than expected. -/
  | unexpected (part : String) (reply : Reply)
  /-- A part of the reply is no text. -/
  | notText (part : String) (fault : Utf8Fault)

/-- Why a reply cannot be read, in words. -/
def ReplyFault.message : ReplyFault → String
  | unexpected part reply => "unexpected " ++ part ++ " reply: " ++ reply.shown
  | notText part fault => part ++ " is not valid UTF-8: " ++ fault.message

mutual

/-- The errors of operations on locks and clients. -/
inductive LockError where
  /-- The lease asked for is shorter than the shortest there is. -/
  | invalidTtl (lease : Duration)
  /-- Another client holds the lock of this name. -/
  | heldByOtherClient (name : String)
  /-- The client does not hold the lock of this name: it never did, or no longer does. -/
  | notOwned (name : String)
  /-- The store could not be connected to. -/
  | connection (cause : Cause)
  /-- The client has no connection. -/
  | notConnected
  /-- The store failed at a request. -/
  | store (cause : Cause)

/-- Why a store failed or could not be connected to. -/
inductive Cause where
  | words (text : String)
  | fault (fault : StoreFault)
  | failure (failure : CommandFailure)
  | reply (fault : ReplyFault)
  | address (url : String) (fault : AddressFault)
  | lock (error : LockError)

end

mutual

/-- An error in words. -/
def LockError.message : LockError → String
  | .invalidTtl lease => "invalid ttl " ++ lease.text ++ ": must be at least 1ms"
  | .heldByOtherClient name => "lock " ++ quoted name ++ " is held by another client"
  | .notOwned name => "lock " ++ quoted name ++ " is not owned by this client"
  | .connection cause => "connection error: " ++ cause.message
  | .notConnected => "client is not connected"
  | .store cause => "store error: " ++ cause.message

/-- A cause in words. -/
def Cause.message : Cause → String
  | .words text => text
  | .fault fault => fault.message
  | .failure failure => failure.message
  | .reply fault => fault.message
  | .address url fault => "invalid Redis URL " ++ quoted url ++ ": " ++ fault.message
  | .lock error => error.message

end

mutual

/-- An error for a reader who knows the kinds of errors. -/
def LockError.shown : LockError → String
  | .invalidTtl lease => "InvalidTtl(" ++ lease.text ++ ")"
  | .heldByOtherClient name => "HeldByOtherClient(" ++ quoted name ++ ")"
  | .notOwned name => "NotOwned(" ++ quoted name ++ ")"
  | .connection cause => "Connection(" ++ cause.shown ++ ")"
  | .notConnected => "NotConnected"
  | .store cause => "Store(" ++ cause.shown ++ ")"

/-- A cause for the same reader. One that is made of words is quoted. -/
def Cause.shown : Cause → String
  | .fault fault => fault.shown
  | .lock error => error.shown
  | .words text => quoted text
  | .failure failure => quoted failure.message
  | .reply fault => quoted fault.message
  | .address url fault => quoted (Cause.address url fault).message

end

namespace LockError

/-- Whether an error says who holds a lock, and not that the store could not be asked. -/
def isContention : LockError → Bool
  | heldByOtherClient _ | notOwned _ => true
  | _ => false

/-- The cause of an error that has one. -/
def cause? : LockError → Option Cause
  | connection cause | store cause => some cause
  | _ => none

end LockError

/-- A lease as whole milliseconds, refused if it is too short. -/
def Duration.leaseMillis (lease : Duration) : Except LockError Nat :=
  match lease.leaseMillis? with
  | some millis => .ok millis
  | none => .error (.invalidTtl lease)

end Leasehold
