/-
This file holds a server that keeps keys in memory. It understands the commands that locks
need, records what it receives, and can be made to fail: a list of commands always fails, the
plain writes fail while they are made to, and answers laid in beforehand are given in place of
its own. An expired entry stays until a command looks at its key.
-/

import Leasehold.Entries
import Leasehold.Server.Command

namespace Leasehold

/-- An answer laid in beforehand. -/
inductive PreparedAnswer where
  /-- The server answers by itself. -/
  | own
  /-- The server gives this answer and does nothing. -/
  | fixed (answer : Except CommandFailure Reply)

/-- A server that keeps keys in memory. -/
structure Server where
  entries : Entries
  failing : List String
  failingWrites : Bool
  prepared : List PreparedAnswer
  /-- The commands received, the oldest first. -/
  received : List Server.Command
  /-- The connections opened, the oldest first. -/
  dialled : List Server.Endpoint

namespace Server

/-- A server as it is made: empty, and without faults. -/
def empty : Server := ⟨.empty, [], false, [], [], []⟩

/-- The moment at which a lease of so many milliseconds that begins now runs out. -/
def deadline (now millis : Nat) : Nat := now + millis * nanosPerMilli

/-- The answer of a script of two outcomes. -/
def verdict (done : Bool) : Reply := .integer (if done then 1 else 0)

/-- An optional text as a reply. -/
def optionalText : Option String → Reply
  | none => .null
  | some text => .text text

/-- The reply to a reading of a lock. -/
def readingReply (reading : Reading) : Reply :=
  .array [optionalText reading.owner, .integer reading.remaining, optionalText reading.data]

/-- What a command does to the entries. A key that is looked at is dropped first if it has
expired; no other key is. -/
def act (now : Nat) (failingWrites : Bool) :
    Command → Entries → Except CommandFailure Reply × Entries
  | .ping, entries => (.ok (.text "PONG"), entries)
  | .quit, entries => (.ok (.text "OK"), entries)
  | .setIfAbsent key value millis, entries =>
    let (taken, entries) :=
      (entries.expire now key).takeIfAbsent key ⟨value, some (deadline now millis)⟩
    (.ok (if taken then .text "OK" else .null), entries)
  | .set key value, entries =>
    if (Command.set key value).isPlain && failingWrites then
      (.error ⟨.inputOutput, "injected data write failure"⟩, entries)
    else (.ok (.text "OK"), entries.insert key ⟨value, none⟩)
  | .release keys id, entries =>
    let (released, entries) := (entries.expire now keys.owner).releaseIfHeld keys id
    (.ok (verdict released), entries)
  | .refresh keys id millis payload, entries =>
    let (refreshed, entries) :=
      (entries.expire now keys.owner).rearmIfHeld keys id (deadline now millis) payload
    (.ok (verdict refreshed), entries)
  | .inspect keys, entries =>
    let entries := (entries.expire now keys.owner).expire now keys.data
    (.ok (readingReply (entries.read now keys)), entries)

/-- Answers a command without looking at the answers laid in. -/
def answerOwn (now : Nat) (command : Command) (server : Server) :
    Except CommandFailure Reply × Server :=
  if server.failing.contains command.name then
    (.error ⟨.inputOutput, "injected failure"⟩, server)
  else
    let (answer, entries) := act now server.failingWrites command server.entries
    (answer, { server with entries })

/-- Answers a command: with the next of the answers laid in, if there is one that is not the
server's own. -/
def answer (now : Nat) (command : Command) (server : Server) :
    Except CommandFailure Reply × Server :=
  let server := { server with received := server.received ++ [command] }
  match server.prepared with
  | [] => server.answerOwn now command
  | .own :: rest => { server with prepared := rest }.answerOwn now command
  | .fixed reply :: rest => (reply, { server with prepared := rest })

/-- Performs the request of a client that connects as its endpoint says. Every connection can
be opened. -/
def perform (now : Nat) (endpoint : Endpoint) :
    (request : Request) → Server → request.Answer × Server
  | .dial, server => (.ok (), { server with dialled := server.dialled ++ [endpoint] })
  | .send command, server => server.answer now command

/-! ### Faults and keys from outside -/

/-- Ways to interfere with a server. -/
inductive Action where
  /-- Makes the commands of these names fail, and no others. -/
  | fail (names : List String)
  /-- Makes plain writes fail or succeed. -/
  | failWrites (failing : Bool)
  /-- Lays in answers in place of those there were. -/
  | prepare (answers : List PreparedAnswer)
  /-- Puts a value for so many milliseconds, or for ever. -/
  | put (key value : String) (millis : Option Nat)

/-- Interferes with a server. -/
def interfere (now : Nat) (server : Server) : Action → Server
  | .fail failing => { server with failing }
  | .failWrites failingWrites => { server with failingWrites }
  | .prepare prepared => { server with prepared }
  | .put key value millis =>
    let entry : Entry := ⟨value, millis.map (deadline now)⟩
    { server with entries := server.entries.insert key entry }

/-- The live keys in order, each with its value and its remaining lease in milliseconds. -/
def contents (now : Nat) (server : Server) : List (String × String × Option Nat) :=
  let rows := (server.entries.live now).rows.map fun row =>
    (row.1, row.2.value, row.2.deadline.map fun deadline => (deadline - now) / nanosPerMilli)
  rows.mergeSort fun first second => decide (first.1 ≤ second.1)

end Server

end Leasehold
