/-
This file says what it is to use locks, with leases alone in mind. An office keeps a ledger, and it
knows clients and locks by the names that their user gave them. Each step of a run is one step of
the office: which client acts and under which ID, whether it is let in, what is done to which lease
until when, and what is answered. There are no programs here, no requests and no keys of a store,
so that what the kinds of store come to can be held against what is said here.
-/

import Leasehold.Proofs.Ledger
import Leasehold.Session

namespace Leasehold

/-- A lock as an office knows it: what it is for, the lease that the next refresh applies, the
payload that the next acquiring or refreshing call writes, and the serial number of the client it
belongs to. -/
structure Title where
  resource : Resource
  lease : Duration
  payload : String
  client : Nat

/-- A title as it is shown to the user. -/
def Title.lock (title : Title) : Lock where
  name := title.resource.name
  keys := title.resource.keys
  lease := title.lease
  payload := title.payload
  client := title.client

/-- A ledger, a clock, and the clients and locks of a user. A client has a serial number, which is
what its locks know it by. -/
structure Office (Place Weather : Type) where
  now : Nat
  ledger : Ledger Place Weather
  serials : (name : String) → Option Nat
  clients : (serial : Nat) → Option (Client Place)
  titles : (name : String) → Option Title
  /-- The serial numbers used up so far. -/
  made : Nat
  /-- The IDs for clients that are given none, and how many of them are used up. -/
  supply : Nat → String
  drawn : Nat

/-- What a step comes to, and the office after it. -/
structure Dealing (Place Weather : Type) where
  result : StepResult Place
  office : Office Place Weather

namespace Office

variable {Settings Place Weather Action : Type}

/-- An office as it opens: nobody is known and nothing is written in the ledger. -/
def opening (weather : Weather) (supply : Nat → String) : Office Place Weather where
  now := 0
  ledger := .blank weather
  serials _ := none
  clients _ := none
  titles _ := none
  made := 0
  supply := supply
  drawn := 0

/-! ### Clients -/

/-- The client of a name. -/
def client? (office : Office Place Weather) (name : String) : Option (Client Place) :=
  (office.serials name).bind office.clients

/-- The client of a name is gone, for its locks too. -/
def forget (office : Office Place Weather) (name : String) : Office Place Weather :=
  { office with
    serials := Function.update office.serials name none
    clients := fun serial =>
      if office.serials name = some serial then none else office.clients serial }

/-- A new client comes under a name. The client that had the name is gone. -/
def welcome (office : Office Place Weather) (name : String) (client : Client Place) :
    Office Place Weather :=
  let others := office.forget name
  { others with
    serials := Function.update others.serials name (some client.serial)
    clients := Function.update others.clients client.serial (some client) }

/-- A client has changed. -/
def amend (office : Office Place Weather) (client : Client Place) : Office Place Weather :=
  { office with clients := Function.update office.clients client.serial (some client) }

variable [DecidableEq Place]

/-- Builds a client at a place. Its serial number is used up whether or not the client gets a
connection, an ID of the supply only if it does. -/
def build (keeper : Keeper Settings Place Weather Action) (office : Office Place Weather)
    (name : String) (identity : Identity) (place : Place) : Dealing Place Weather :=
  let opened := office.ledger.connect keeper place
  let tried := { office with ledger := opened.2, made := office.made + 1 }
  match opened.1 with
  | .error error => ⟨.failed error, tried⟩
  | .ok () =>
    let given := identity.id.filter (!·.isEmpty)
    let client : Client Place :=
      ⟨office.made, given.getD (office.supply office.drawn), namespaceOrDefault identity.space,
        true, place⟩
    let drawn := if given.isSome then office.drawn else office.drawn + 1
    ⟨.client client, { tried with drawn }.welcome name client⟩

/-! ### Locks -/

/-- A lock comes, or has changed, under a name. -/
def entitle (office : Office Place Weather) (name : String) (title : Title) :
    Office Place Weather :=
  { office with titles := Function.update office.titles name (some title) }

/-- The client that an operation on a lock is made for: the one whose lock it is, if that is still
there and connected. -/
def user (office : Office Place Weather) (title : Title) : Except LockError (Client Place) :=
  match office.clients title.client with
  | some client => if client.connected then .ok client else .error .notConnected
  | none => .error .notConnected

/-- The client that an operation under a lease is made for. A lease that is too short is refused
before anything is said of the client. -/
def lessee (office : Office Place Weather) (title : Title) (lease : Duration) :
    Except LockError (Client Place) :=
  if lease.nanos < Duration.shortestLease.nanos then .error (.invalidTtl lease)
  else office.user title

/-- A lock after an attempt to take it for a lease. It keeps the lease, whatever becomes of the
attempt, unless the attempt was refused before the ledger was opened. -/
def leased (office : Office Place Weather) (title : Title) (lease : Duration) : Title :=
  match office.lessee title lease with
  | .error _ => title
  | .ok _ => { title with lease }

/-- Takes a lock for a lease, under the ID that its client has by now. -/
def acquire (keeper : Keeper Settings Place Weather Action) (office : Office Place Weather)
    (title : Title) (lease : Duration) : Except LockError Unit × Ledger Place Weather :=
  match office.lessee title lease with
  | .error error => (.error error, office.ledger)
  | .ok client =>
    office.ledger.enter client.endpoint title.resource
      (Lease.acquire (keeper.fate client.endpoint) office.now title.resource.name
        ⟨client.id, keeper.deadline office.now lease⟩ title.payload)

/-- Gives a lock back. -/
def release (keeper : Keeper Settings Place Weather Action) (office : Office Place Weather)
    (title : Title) : Except LockError Unit × Ledger Place Weather :=
  match office.user title with
  | .error error => (.error error, office.ledger)
  | .ok client =>
    office.ledger.enter client.endpoint title.resource
      (Lease.release (keeper.fate client.endpoint) office.now title.resource.name client.id)

/-- Gives a lock the lease anew that it has kept. -/
def refresh (keeper : Keeper Settings Place Weather Action) (office : Office Place Weather)
    (title : Title) : Except LockError Unit × Ledger Place Weather :=
  match office.lessee title title.lease with
  | .error error => (.error error, office.ledger)
  | .ok client =>
    office.ledger.enter client.endpoint title.resource
      (Lease.refresh (keeper.fate client.endpoint) office.now title.resource.name
        ⟨client.id, keeper.deadline office.now title.lease⟩ title.payload)

/-- Looks at a lock. -/
def inspect (keeper : Keeper Settings Place Weather Action) (office : Office Place Weather)
    (title : Title) : Except LockError Snapshot × Ledger Place Weather :=
  match office.user title with
  | .error error => (.error error, office.ledger)
  | .ok client =>
    office.ledger.enter client.endpoint title.resource
      (Lease.inspect (keeper.fate client.endpoint) office.now title.resource.name)

/-! ### Steps -/

/-- What is answered, if something is shown on success. -/
def answer {Result : Type} (shown : Result → StepResult Place) :
    Except LockError Result → StepResult Place
  | .ok result => shown result
  | .error error => .failed error

/-- A step on the client of a name. -/
def onClient (office : Office Place Weather) (name : String)
    (step : Client Place → Dealing Place Weather) : Dealing Place Weather :=
  match office.client? name with
  | some client => step client
  | none => ⟨.unknown, office⟩

/-- A step on the lock of a name. -/
def onTitle (office : Office Place Weather) (name : String)
    (step : Title → Dealing Place Weather) : Dealing Place Weather :=
  match office.titles name with
  | some title => step title
  | none => ⟨.unknown, office⟩

/-- Goes on by one step. -/
def step (keeper : Keeper Settings Place Weather Action) (office : Office Place Weather) :
    Step Settings Action → Dealing Place Weather
  | .build name identity settings =>
    match keeper.reach settings with
    | .error error => ⟨.failed error, office⟩
    | .ok place => office.build keeper name identity place
  | .copy name copied =>
    office.onClient name fun client =>
      let copy := { client with serial := office.made, connected := false }
      ⟨.client copy, { office with made := office.made + 1 }.welcome copied copy⟩
  | .close name =>
    office.onClient name fun client =>
      let ledger := office.ledger.leave keeper client
      ⟨.finished, { office with ledger }.amend { client with connected := false }⟩
  | .reconnect name =>
    office.onClient name fun client =>
      let opened := (office.ledger.leave keeper client).connect keeper client.endpoint
      ⟨answer (fun _ => .finished) opened.1,
        { office with ledger := opened.2 }.amend { client with connected := opened.1.isOk }⟩
  | .drop name => office.onClient name fun _ => ⟨.finished, office.forget name⟩
  | .setId name id =>
    office.onClient name fun client =>
      let renamed := { client with id }
      ⟨.client renamed, office.amend renamed⟩
  | .newLock name lockName resource =>
    office.onClient name fun client =>
      let title : Title := ⟨⟨client.space, resource⟩, .zero, "", client.serial⟩
      ⟨.lock title.lock, office.entitle lockName title⟩
  | .acquireNew name lockName resource lease =>
    office.onClient name fun client =>
      let title : Title := ⟨⟨client.space, resource⟩, .zero, "", client.serial⟩
      let taken := office.acquire keeper title lease
      let after := { office with ledger := taken.2 }
      let leased := office.leased title lease
      match taken.1 with
      | .error error => ⟨.failed error, after⟩
      | .ok () => ⟨.lock leased.lock, after.entitle lockName leased⟩
  | .setPayload name payload =>
    office.onTitle name fun title => ⟨.finished, office.entitle name { title with payload }⟩
  | .acquire name lease =>
    office.onTitle name fun title =>
      let taken := office.acquire keeper title lease
      ⟨answer (fun _ => .finished) taken.1,
        { office with ledger := taken.2 }.entitle name (office.leased title lease)⟩
  | .release name =>
    office.onTitle name fun title =>
      let released := office.release keeper title
      ⟨answer (fun _ => .finished) released.1, { office with ledger := released.2 }⟩
  | .refresh name =>
    office.onTitle name fun title =>
      let refreshed := office.refresh keeper title
      ⟨answer (fun _ => .finished) refreshed.1, { office with ledger := refreshed.2 }⟩
  | .refreshFor name lease =>
    office.onTitle name fun title =>
      let leased := { title with lease }
      let refreshed := office.refresh keeper leased
      ⟨answer (fun _ => .finished) refreshed.1,
        { office with ledger := refreshed.2 }.entitle name leased⟩
  | .inspect name =>
    office.onTitle name fun title =>
      let seen := office.inspect keeper title
      ⟨answer .snapshot seen.1, { office with ledger := seen.2 }⟩
  | .advance nanos => ⟨.finished, { office with now := office.now + nanos }⟩
  | .interfere action =>
    let weather := keeper.change office.ledger.weather action
    ⟨.finished, { office with ledger := { office.ledger with weather } }⟩

/-- What the steps of a run come to, one after the other, with the office after each. -/
def follow (keeper : Keeper Settings Place Weather Action) :
    Office Place Weather → List (Step Settings Action) → List (Dealing Place Weather)
  | _, [] => []
  | office, step :: rest =>
    let dealing := office.step keeper step
    dealing :: follow keeper dealing.office rest

end Office

end Leasehold
