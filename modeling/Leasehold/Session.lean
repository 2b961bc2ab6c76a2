/-
This file holds sessions: clients and locks under the names their user gave them, together
with the service they use and a clock. A session goes on by steps. A client that is replaced
or dropped is gone, and its locks find no client any more; nothing is said to the service
about it.
-/

import Leasehold.Dialect
import Leasehold.Table

namespace Leasehold

/-- A kind of service: how the operations are said to it, how a client comes by what it
connects to, how a request is performed, and how the service is interfered with. -/
structure Backend (Settings Endpoint Service Action Request : Type)
    (Answer : Request → Type) where
  dialect : Dialect Request Answer
  /-- What a client with some settings connects to. -/
  prepare : Settings → Service → Except LockError Endpoint × Service
  /-- Performs a request of a client at a moment. -/
  perform : (now : Nat) → Endpoint → (request : Request) → Service → Answer request × Service
  /-- Interferes with the service at a moment. -/
  interfere : (now : Nat) → Service → Action → Service

/-- Clients and locks in use, each under its name, and the service they use. -/
structure Session (Endpoint Service : Type) where
  now : Nat
  service : Service
  clients : Table (Client Endpoint)
  locks : Table Lock
  /-- The clients made so far, dropped ones included. -/
  made : Nat
  /-- The IDs for clients that are given none, and how many of them are used up. -/
  supply : Nat → String
  drawn : Nat

/-- What a client is told when it is built: its ID and its namespace, if any. -/
structure Identity where
  id : Option String
  space : Option String

/-- A step of a session. Clients and locks are called by their names. -/
inductive Step (Settings Action : Type) where
  /-- Builds a client and connects it. -/
  | build (client : String) (identity : Identity) (settings : Settings)
  /-- Makes a disconnected copy of a client. -/
  | copy (client copied : String)
  | close (client : String)
  | reconnect (client : String)
  | drop (client : String)
  | setId (client id : String)
  | newLock (client lock name : String)
  /-- Makes a lock and takes it. A lock that could not be taken is forgotten. -/
  | acquireNew (client lock name : String) (lease : Duration)
  | setPayload (lock payload : String)
  | acquire (lock : String) (lease : Duration)
  | release (lock : String)
  | refresh (lock : String)
  | refreshFor (lock : String) (lease : Duration)
  | inspect (lock : String)
  /-- Lets time pass, in nanoseconds. -/
  | advance (nanos : Nat)
  | interfere (action : Action)

/-- What a step comes to. -/
inductive StepResult (Endpoint : Type) where
  /-- A name in the step is that of nothing. -/
  | unknown
  | failed (error : LockError)
  | finished
  | client (client : Client Endpoint)
  | lock (lock : Lock)
  | snapshot (snapshot : Snapshot)

namespace Session

variable {Settings Endpoint Service Action Request : Type} {Answer : Request → Type}

/-- A session as it begins. -/
def start (service : Service) (supply : Nat → String) : Session Endpoint Service :=
  ⟨0, service, .empty, .empty, 0, supply, 0⟩

/-- The client of a serial number, if it still exists. -/
def clientOf? (session : Session Endpoint Service) (serial : Nat) : Option (Client Endpoint) :=
  (session.clients.rows.find? fun row => row.2.serial = serial).map Prod.snd

/-- Puts a client under a name. The client that had the name is gone. -/
def putClient (session : Session Endpoint Service) (name : String) (client : Client Endpoint) :
    Session Endpoint Service :=
  { session with clients := session.clients.insert name client }

/-- Puts a lock under a name. -/
def putLock (session : Session Endpoint Service) (name : String) (lock : Lock) :
    Session Endpoint Service :=
  { session with locks := session.locks.insert name lock }

/-- Runs a program against the service, for somebody who connects to an endpoint. -/
def run {Result : Type} (session : Session Endpoint Service)
    (backend : Backend Settings Endpoint Service Action Request Answer) (endpoint : Endpoint)
    (program : Program Request Answer Result) :
    Outcome (Session Endpoint Service) Result :=
  let outcome := program.run (backend.perform session.now endpoint) session.service
  ⟨outcome.result, outcome.events, { session with service := outcome.service }⟩

/-- Runs a program of a lock. The program is told the lock's client if that still exists; it
asks for nothing otherwise, so that it does not matter what it would connect to. -/
def runFor [Inhabited Endpoint] {Result : Type} (session : Session Endpoint Service)
    (backend : Backend Settings Endpoint Service Action Request Answer) (lock : Lock)
    (program : Option (Client Endpoint) → Program Request Answer Result) :
    Outcome (Session Endpoint Service) Result :=
  let client := session.clientOf? lock.client
  session.run backend ((client.map (·.endpoint)).getD default) (program client)

/-! ### Clients -/

/-- The ID of a new client: the one it is given unless that is empty, or else the next of the
supply. -/
def identify (session : Session Endpoint Service) (given : Option String) :
    String × Session Endpoint Service :=
  match given.filter (!·.isEmpty) with
  | some id => (id, session)
  | none => (session.supply session.drawn, { session with drawn := session.drawn + 1 })

/-- Builds a client and connects it. An ID of the supply is used up only by a client that comes
into being, since nobody has seen it otherwise. -/
def connectClient (session : Session Endpoint Service)
    (backend : Backend Settings Endpoint Service Action Request Answer) (identity : Identity)
    (settings : Settings) :
    Outcome (Session Endpoint Service) (Except LockError (Client Endpoint)) :=
  match backend.prepare settings session.service with
  | (.error error, service) => ⟨.error error, [], { session with service }⟩
  | (.ok endpoint, service) =>
    let unused := session.drawn
    let (id, session) := { session with service }.identify identity.id
    let client : Client Endpoint :=
      ⟨session.made, id, namespaceOrDefault identity.space, false, endpoint⟩
    let outcome := { session with made := session.made + 1 }.run backend endpoint
      (backend.dialect.reconnect client)
    match outcome.result with
    | (.ok (), client) => ⟨.ok client, outcome.events, outcome.service⟩
    | (.error error, _) =>
      ⟨.error error, outcome.events, { outcome.service with drawn := unused }⟩

/-! ### Steps -/

/-- What a step comes to, the events of it, and the session after it. -/
abbrev Stepped (Endpoint Service : Type) := Outcome (Session Endpoint Service) (StepResult Endpoint)

/-- A step that notes no events. -/
def quietly (result : StepResult Endpoint) (session : Session Endpoint Service) :
    Stepped Endpoint Service :=
  ⟨result, [], session⟩

/-- The result of an operation that either succeeds or fails. -/
def resultOf : Except LockError Unit → StepResult Endpoint
  | .ok () => .finished
  | .error error => .failed error

/-- A step on the client of a name. -/
def onClient (session : Session Endpoint Service) (name : String)
    (step : Client Endpoint → Stepped Endpoint Service) : Stepped Endpoint Service :=
  match session.clients.get? name with
  | some client => step client
  | none => session.quietly .unknown

/-- A step on the lock of a name. -/
def onLock (session : Session Endpoint Service) (name : String)
    (step : Lock → Stepped Endpoint Service) : Stepped Endpoint Service :=
  match session.locks.get? name with
  | some lock => step lock
  | none => session.quietly .unknown

/-- Goes on by one step. -/
def step [Inhabited Endpoint]
    (backend : Backend Settings Endpoint Service Action Request Answer)
    (session : Session Endpoint Service) : Step Settings Action → Stepped Endpoint Service
  | .build name identity settings =>
    let outcome := session.connectClient backend identity settings
    match outcome.result with
    | .error error => ⟨.failed error, outcome.events, outcome.service⟩
    | .ok client => ⟨.client client, outcome.events, outcome.service.putClient name client⟩
  | .copy name copied =>
    session.onClient name fun client =>
      let copy := client.disconnectedCopy session.made
      quietly (.client copy) ({ session with made := session.made + 1 }.putClient copied copy)
  | .close name =>
    session.onClient name fun client =>
      let outcome := session.run backend client.endpoint (backend.dialect.close client)
      ⟨.finished, outcome.events, outcome.service.putClient name outcome.result⟩
  | .reconnect name =>
    session.onClient name fun client =>
      let outcome := session.run backend client.endpoint (backend.dialect.reconnect client)
      ⟨resultOf outcome.result.1, outcome.events,
        outcome.service.putClient name outcome.result.2⟩
  | .drop name =>
    session.onClient name fun _ =>
      quietly .finished { session with clients := session.clients.erase name }
  | .setId name id =>
    session.onClient name fun client =>
      let renamed := { client with id }
      quietly (.client renamed) (session.putClient name renamed)
  | .newLock name lockName resource =>
    session.onClient name fun client =>
      let lock := client.newLock resource
      quietly (.lock lock) (session.putLock lockName lock)
  | .acquireNew name lockName resource lease =>
    session.onClient name fun client =>
      let outcome := session.run backend client.endpoint
        (backend.dialect.acquireLock (some client) (client.newLock resource) lease)
      match outcome.result with
      | (.error error, _) => ⟨.failed error, outcome.events, outcome.service⟩
      | (.ok (), lock) => ⟨.lock lock, outcome.events, outcome.service.putLock lockName lock⟩
  | .setPayload name payload =>
    session.onLock name fun lock =>
      quietly .finished (session.putLock name { lock with payload })
  | .acquire name lease =>
    session.onLock name fun lock =>
      let outcome := session.runFor backend lock fun client =>
        backend.dialect.acquireLock client lock lease
      ⟨resultOf outcome.result.1, outcome.events, outcome.service.putLock name outcome.result.2⟩
  | .release name =>
    session.onLock name fun lock =>
      let outcome := session.runFor backend lock fun client =>
        backend.dialect.releaseLock client lock
      ⟨resultOf outcome.result, outcome.events, outcome.service⟩
  | .refresh name =>
    session.onLock name fun lock =>
      let outcome := session.runFor backend lock fun client =>
        backend.dialect.refreshLock client lock
      ⟨resultOf outcome.result, outcome.events, outcome.service⟩
  | .refreshFor name lease =>
    session.onLock name fun lock =>
      let outcome := session.runFor backend lock fun client =>
        backend.dialect.refreshLockFor client lock lease
      ⟨resultOf outcome.result.1, outcome.events, outcome.service.putLock name outcome.result.2⟩
  | .inspect name =>
    session.onLock name fun lock =>
      let outcome := session.runFor backend lock fun client =>
        backend.dialect.inspectLock client lock
      match outcome.result with
      | .error error => ⟨.failed error, outcome.events, outcome.service⟩
      | .ok snapshot => ⟨.snapshot snapshot, outcome.events, outcome.service⟩
  | .advance nanos => quietly .finished { session with now := session.now + nanos }
  | .interfere action =>
    quietly .finished
      { session with service := backend.interfere session.now session.service action }

/-! ### Contests -/

/-- One client of a contest: it is built under an ID, tries to take the lock and is gone. The
result says whether it took it. -/
def contend (backend : Backend Settings Endpoint Service Action Request Answer)
    (settings : Settings) (resource : String) (lease : Duration) (id : String)
    (session : Session Endpoint Service) : Outcome (Session Endpoint Service) Bool :=
  let built := session.connectClient backend ⟨some id, none⟩ settings
  match built.result with
  | .error _ => ⟨false, built.events, built.service⟩
  | .ok client =>
    let taken := built.service.run backend client.endpoint
      (backend.dialect.acquireLock (some client) (client.newLock resource) lease)
    ⟨taken.result.1.isOk, built.events ++ taken.events, taken.service⟩

/-- A contest for a lock among clients that come one after the other. The result is how many
of them took it. -/
def contest (backend : Backend Settings Endpoint Service Action Request Answer)
    (settings : Settings) (resource : String) (lease : Duration) :
    (ids : List String) → Session Endpoint Service → Outcome (Session Endpoint Service) Nat
  | [], session => ⟨0, [], session⟩
  | id :: ids, session =>
    let first := contend backend settings resource lease id session
    let others := contest backend settings resource lease ids first.service
    ⟨(if first.result then 1 else 0) + others.result, first.events ++ others.events,
      others.service⟩

end Session

end Leasehold
