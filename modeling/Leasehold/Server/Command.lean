/-
This file holds what is sent to a server: the commands in their words, and the opening of a
connection. Whatever the server makes of a command, it answers with a reply or a failure.
-/

import Leasehold.Keys
import Leasehold.Server.Address
import Leasehold.Server.Reply
import Leasehold.Server.Script
import Leasehold.Duration

namespace Leasehold.Server

/-- The commands that are sent to a server. -/
inductive Command where
  | ping
  | quit
  /-- Puts a value where there is none, for so many milliseconds. -/
  | setIfAbsent (key value : String) (millis : Nat)
  /-- Puts a value that does not expire. -/
  | set (key value : String)
  /-- Runs the script that gives a lock back. -/
  | release (keys : KeyPair) (id : String)
  /-- Runs the script that gives a lock its lease anew. -/
  | refresh (keys : KeyPair) (id : String) (millis : Nat) (payload : String)
  /-- Runs the script that reads a lock. -/
  | inspect (keys : KeyPair)
  deriving DecidableEq

/-- The word that a command begins with. -/
def Command.name : Command → String
  | ping => "PING"
  | quit => "QUIT"
  | setIfAbsent .. | set .. => "SET"
  | release .. | refresh .. | inspect _ => "EVAL"

/-- The words of a command that follow the first. `scriptText` says what stands for a
script. -/
def Command.arguments (scriptText : Script → String) : Command → List String
  | ping | quit => []
  | setIfAbsent key value millis => [key, value, "PX", toString millis, "NX"]
  | set key value => [key, value]
  | release keys id => [scriptText .release, "2", keys.owner, keys.data, id]
  | refresh keys id millis payload =>
    [scriptText .refresh, "2", keys.owner, keys.data, id, toString millis, payload]
  | inspect keys => [scriptText .inspect, "2", keys.owner, keys.data]

/-- The words of a command. -/
def Command.words (scriptText : Script → String) (command : Command) : List String :=
  command.name :: command.arguments scriptText

/-- Whether a command counts as a plain write. A server that looks for the condition `NX` among
all words of a `SET` takes a key or a value that reads so for the condition. -/
def Command.isPlain : Command → Bool
  | set key value => [key, value].all (· != "NX")
  | _ => false

/-- How a client connects: the address, the limits of time it was given, and whether the
connection is opened by a function of the caller's. -/
structure Endpoint where
  address : Address
  commandTimeout : Option Duration
  connectionTimeout : Option Duration
  custom : Bool
  deriving DecidableEq

/-- What a client asks for. -/
inductive Request where
  /-- Opens a connection. -/
  | dial
  /-- Sends a command on the open connection. -/
  | send (command : Command)
  deriving DecidableEq

/-- What a client's request is answered with. -/
abbrev Request.Answer : Request → Type
  | dial => Except CommandFailure Unit
  | send _ => Except CommandFailure Reply

end Leasehold.Server
