/-
This file proves when a client is connected. What happens to the connection of a client is put on
record as the run goes on: it is built, copied, closed, connected anew or dropped. The latest entry
about a client tells whether the client is there and whether it is connected, and with that which
operations on its locks are refused. What is done to one client says nothing about another, so that
a copy and the client that it was copied from go their own ways.
-/

import Leasehold.Proofs.Refusals
import Leasehold.Server.Backend
import Leasehold.Store.Backend

namespace Leasehold

/-! ### The record -/

/-- What can happen to the connection of a client. -/
inductive ConnectionEvent where
  | built
  | copied
  | closed
  | reconnected (succeeded : Bool)
  | dropped
  deriving DecidableEq

/-- Whether a client is connected after an event. -/
def ConnectionEvent.connects : ConnectionEvent → Bool
  | built => true
  | reconnected succeeded => succeeded
  | copied | closed | dropped => false

/-- The latest event of the client of a serial number, if there is one. -/
def latest? (serial : Nat) (record : List (Nat × ConnectionEvent)) : Option ConnectionEvent :=
  ((record.filter (·.1 = serial)).getLast?).map Prod.snd

theorem latest?_singleton (serial own : Nat) (event : ConnectionEvent) :
    latest? serial [(own, event)] = if own = serial then some event else none := by
  by_cases same : own = serial <;> simp [latest?, same]

theorem latest?_append (serial : Nat) (record others : List (Nat × ConnectionEvent)) :
    latest? serial (record ++ others) = (latest? serial others).or (latest? serial record) := by
  unfold latest?
  rw [List.filter_append, List.getLast?_append, Option.map_or]

section Sessions

variable {Settings Endpoint Service Action Request : Type} {Answer : Request → Type}

/-- What a step does to connections, each event with the serial number of its client. -/
def Passage.connectionEvents (passage : Passage Settings Endpoint Service Action) :
    List (Nat × ConnectionEvent) :=
  let named (name : String) (event : ConnectionEvent) : List (Nat × ConnectionEvent) :=
    (passage.before.clients.get? name).toList.map fun client => (client.serial, event)
  passage.leaver?.toList.map (fun client => (client.serial, .dropped)) ++
    match passage.step, passage.result with
    | .build .., .client client => [(client.serial, .built)]
    | .copy .., .client client => [(client.serial, .copied)]
    | .close name, .finished => named name .closed
    | .reconnect name, .finished => named name (.reconnected true)
    | .reconnect name, .failed _ => named name (.reconnected false)
    | _, _ => []

/-- The record of a run. -/
def connectionRecord (past : List (Passage Settings Endpoint Service Action)) :
    List (Nat × ConnectionEvent) :=
  past.flatMap Passage.connectionEvents

/-- A client turns from what it was into what an event makes of it. Without an event it is
connected as before. -/
inductive Turns (before after : Option (Client Endpoint)) : Option ConnectionEvent → Prop where
  | unchanged : after.map (·.connected) = before.map (·.connected) → Turns before after none
  | gone : after = none → Turns before after (some .dropped)
  | put {event client} : event ≠ .dropped → after = some client →
    client.connected = event.connects → Turns before after (some event)

namespace Turns

variable {before between after : Option (Client Endpoint)} {first second : Option ConnectionEvent}

theorem trans (early : Turns before between first) (late : Turns between after second) :
    Turns before after (second.or first) := by
  cases late with
  | gone none => exact .gone none
  | put kept present connected => exact .put kept present connected
  | unchanged same =>
    cases early with
    | unchanged still => exact .unchanged (same.trans still)
    | gone none =>
      subst none
      exact .gone (Option.map_eq_none_iff.mp same)
    | put kept present connected =>
      subst present
      obtain ⟨client, rfl, alike⟩ := Option.map_eq_some_iff.mp same
      exact .put kept rfl (alike.trans connected)

/-- A client is there after its latest event, unless it was dropped. -/
theorem isSome_iff (turns : Turns none after first) :
    after.isSome = true ↔ ∃ event, first = some event ∧ event ≠ .dropped := by
  cases turns with
  | unchanged same => simp [Option.map_eq_none_iff.mp same]
  | gone none => simp [none]
  | put kept present => simp [kept, present]

theorem connected_iff (turns : Turns none (some client) first) :
    client.connected = true ↔ ∃ event, first = some event ∧ event.connects = true := by
  cases turns with
  | unchanged same => cases same
  | gone none => cases none
  | put kept present connected =>
    cases present
    simp [connected]

/-- A client is gone or unconnected after each event that does not connect it. -/
theorem unconnected_iff (turns : Turns none after first) (known : first.isSome = true) :
    (∀ client, after = some client → client.connected = false) ↔
      first = some .dropped ∨ ∃ client, after = some client ∧ client.connected = false := by
  cases turns with
  | unchanged same => cases known
  | gone none => simp [none]
  | put kept present => simp [kept, present]

end Turns

/-! ### What each step puts on record -/

section Steps

variable {session after : Session Endpoint Service} {name : String} {client : Client Endpoint}

/-- A new client turns up under a name, and the client that had the name is dropped. -/
theorem turns_new (numbered : session.Numbered) (later : after.Numbered)
    (puts : after.clients = session.clients.insert name client) (event : ConnectionEvent)
    (kept : event ≠ .dropped) (connected : client.connected = event.connects) (serial : Nat) :
    Turns (session.clientOf? serial) (after.clientOf? serial)
      (latest? serial ((session.clients.get? name).toList.map
        (fun leaver => (leaver.serial, ConnectionEvent.dropped)) ++ [(client.serial, event)])) := by
  rw [numbered.clientOf?_put later puts, latest?_append, latest?_singleton]
  split
  next own => exact .put kept rfl connected
  next apart =>
    rw [Option.none_or]
    cases session.clients.get? name with
    | none => exact .unchanged rfl
    | some leaver =>
      simp only [Option.toList_some, List.map_cons, List.map_nil, latest?_singleton,
        Option.any_some, decide_eq_true_eq]
      split
      next displaced => exact .gone rfl
      next still => exact .unchanged rfl

theorem turns_altered (numbered : session.Numbered) (later : after.Numbered)
    {before : Client Endpoint} (found : session.clients.get? name = some before)
    (puts : after.clients = session.clients.insert name client)
    (same : client.serial = before.serial) (event : ConnectionEvent) (kept : event ≠ .dropped)
    (connected : client.connected = event.connects) (serial : Nat) :
    Turns (session.clientOf? serial) (after.clientOf? serial)
      (latest? serial [(before.serial, event)]) := by
  rw [numbered.clientOf?_alter later found puts same, latest?_singleton, ← same]
  split
  next own => exact .put kept rfl connected
  next apart => exact .unchanged rfl

theorem turns_renamed (numbered : session.Numbered) (later : after.Numbered) {id : String}
    (found : session.clients.get? name = some client)
    (puts : after.clients = session.clients.insert name { client with id }) (serial : Nat) :
    Turns (session.clientOf? serial) (after.clientOf? serial) none := by
  rw [numbered.clientOf?_alter later found puts rfl]
  split
  next own =>
    refine .unchanged ?_
    have held : session.clientOf? serial = some client := own ▸ numbered.clientOf?_serial found
    rw [held]
    rfl
  next apart => exact .unchanged rfl

theorem turns_dropped (numbered : session.Numbered) (later : after.Numbered)
    (found : session.clients.get? name = some client)
    (erased : after.clients = session.clients.erase name) (serial : Nat) :
    Turns (session.clientOf? serial) (after.clientOf? serial)
      (latest? serial [(client.serial, .dropped)]) := by
  rw [numbered.clientOf?_erase later found erased, latest?_singleton]
  split
  next own => exact .gone rfl
  next apart => exact .unchanged rfl

theorem turns_kept (clients : after.clients = session.clients) (serial : Nat) :
    Turns (session.clientOf? serial) (after.clientOf? serial) none := by
  rw [Session.Numbered.clientOf?_congr clients]
  exact .unchanged rfl

/-- Every client turns into what the step puts on record about it. -/
theorem turns_step {backend : Backend Settings Endpoint Service Action Request Answer}
    (numbered : session.Numbered) {step : Step Settings Action} {result : StepResult Endpoint}
    (deals : session.Deals backend step result after) (serial : Nat) :
    Turns (session.clientOf? serial) (after.clientOf? serial)
      (latest? serial (Passage.connectionEvents ⟨session, step, result, after⟩)) := by
  have later := numbered.step deals
  cases deals with
  | unknown => cases step <;> exact .unchanged rfl
  | unprepared _ clients | unbuilt _ _ clients => exact turns_kept clients serial
  | built _ _ puts =>
    exact turns_new numbered later puts .built (nofun) rfl serial
  | copied found puts => exact turns_new numbered later puts .copied (nofun) rfl serial
  | closed found puts =>
    simp only [Passage.connectionEvents, Passage.leaver?, found]
    exact turns_altered numbered later found puts rfl .closed (nofun) rfl serial
  | @reconnected name client result _ found _ puts =>
    cases result with
    | error error =>
      simp only [Passage.connectionEvents, Passage.leaver?, found, Session.resultOf]
      exact turns_altered numbered later found puts rfl (.reconnected false) (nofun) rfl serial
    | ok done =>
      simp only [Passage.connectionEvents, Passage.leaver?, found, Session.resultOf]
      exact turns_altered numbered later found puts rfl (.reconnected true) (nofun) rfl serial
  | dropped found erased =>
    simp only [Passage.connectionEvents, Passage.leaver?, found]
    exact turns_dropped numbered later found erased serial
  | renamed found puts => exact turns_renamed numbered later found puts serial
  | spared other clients =>
    cases step with
    | build name | copy name | close name | reconnect name | drop name | setId name =>
      exact absurd rfl (other name)
    | _ => exact turns_kept clients serial

end Steps

/-! ### Runs -/

/-- The clients of a session are as the record says, and every lock belongs to a client that the
record knows. -/
structure Recorded (record : List (Nat × ConnectionEvent)) (session : Session Endpoint Service) :
    Prop where
  numbered : session.Numbered
  turned : ∀ serial, Turns none (session.clientOf? serial) (latest? serial record)
  owned : ∀ {name lock}, session.locks.get? name = some lock →
    (latest? lock.client record).isSome = true

/-- The name of the client that a step is about, or under which it puts a new client. -/
def Step.clientPut? : Step Settings Action → Option String
  | .build name .. | .copy _ name | .close name | .reconnect name | .drop name | .setId name _ =>
    some name
  | _ => none

/-- A step that is not about a client, or about one of its locks, and that puts nothing in their
place. -/
structure Session.Spares (session : Session Endpoint Service) (serial : Nat)
    (step : Step Settings Action) : Prop where
  client : ∀ name client, step.clientPut? = some name →
    session.clients.get? name = some client → client.serial ≠ serial
  locks : ∀ name lock, step.lockPut? = some name →
    session.locks.get? name = some lock → lock.client ≠ serial

/-- What is known of the clients of a session whose run left a record. -/
structure Accounted [Inhabited Endpoint]
    (backend : Backend Settings Endpoint Service Action Request Answer)
    (record : List (Nat × ConnectionEvent)) (session : Session Endpoint Service) : Prop where
  named : ∀ name client, session.clients.get? name = some client →
    session.clientOf? client.serial = some client
  existing : ∀ serial, (session.clientOf? serial).isSome = true ↔
    ∃ event, latest? serial record = some event ∧ event ≠ .dropped
  connected : ∀ serial client, session.clientOf? serial = some client →
    (client.connected = true ↔
      ∃ event, latest? serial record = some event ∧ event.connects = true)
  closing : ∀ name client, session.clients.get? name = some client →
    (session.step backend (.close name)).result = .finished
  failing : ∀ name client error, session.clients.get? name = some client →
    (session.step backend (.reconnect name)).result = .failed error →
    (session.step backend (.reconnect name)).service.clientOf? client.serial =
      some { client with connected := false }
  /-- An operation on a lock finds its client unconnected if the client was dropped or is not
  connected, unless it has a lease to check that is too short. -/
  unconnected : ∀ step name lock, step.lockCalled? = some name →
    session.locks.get? name = some lock →
    ((session.step backend step).result = .failed .notConnected ↔
      (latest? lock.client record = some .dropped ∨
          ∃ client, session.clientOf? lock.client = some client ∧ client.connected = false) ∧
        ∀ lease, step.leaseChecked? lock = some lease →
          Duration.shortestLease.nanos ≤ lease.nanos)
  short : ∀ step name lock lease, step.lockCalled? = some name →
    session.locks.get? name = some lock →
    ((session.step backend step).result = .failed (.invalidTtl lease) ↔
      step.leaseChecked? lock = some lease ∧ lease.nanos < Duration.shortestLease.nanos)
  unconnectedNew : ∀ name client lockName resource lease,
    session.clients.get? name = some client →
    ((session.step backend (.acquireNew name lockName resource lease)).result =
        .failed .notConnected ↔
      client.connected = false ∧ Duration.shortestLease.nanos ≤ lease.nanos)
  shortNew : ∀ name client lockName resource lease checked,
    session.clients.get? name = some client →
    ((session.step backend (.acquireNew name lockName resource lease)).result =
        .failed (.invalidTtl checked) ↔
      lease = checked ∧ checked.nanos < Duration.shortestLease.nanos)
  /-- What is done to others changes neither a client nor what its locks are refused for. -/
  apart : ∀ step serial, serial < session.made → session.Spares serial step →
    (session.step backend step).service.clientOf? serial = session.clientOf? serial ∧
      ∀ name lock, session.locks.get? name = some lock → lock.client = serial →
        (session.step backend step).service.locks.get? name = some lock ∧
          ∀ call : Step Settings Action, call.lockCalled? = some name →
            ((session.step backend step).service.step backend call).result.refusal? =
              (session.step backend call).result.refusal?

namespace Recorded

variable {record : List (Nat × ConnectionEvent)} {session after : Session Endpoint Service}

theorem start (service : Service) (supply : Nat → String) :
    Recorded [] (Session.start service supply : Session Endpoint Service) where
  numbered := .start service supply
  turned _ := .unchanged rfl
  owned found := nomatch found

/-- A client that is there is known to the record. -/
theorem known (recorded : Recorded record session) {name : String} {client : Client Endpoint}
    (found : session.clients.get? name = some client) :
    (latest? client.serial record).isSome = true := by
  have turns := recorded.turned client.serial
  rw [recorded.numbered.clientOf?_serial found] at turns
  obtain ⟨event, latest, _⟩ := turns.isSome_iff.mp rfl
  rw [latest]
  rfl

variable {backend : Backend Settings Endpoint Service Action Request Answer}

theorem step (recorded : Recorded record session) {step : Step Settings Action}
    {result : StepResult Endpoint} (deals : session.Deals backend step result after)
    (handles : session.Handles step result after) :
    Recorded (record ++ Passage.connectionEvents ⟨session, step, result, after⟩) after where
  numbered := recorded.numbered.step deals
  turned serial := by
    rw [latest?_append]
    exact (recorded.turned serial).trans (turns_step recorded.numbered deals serial)
  owned {name lock} found := by
    rw [latest?_append, Option.isSome_or, Bool.or_eq_true]
    obtain ⟨before, held, same, _⟩ | ⟨key, client, _, held, same, _⟩ := handles.origin found
    · exact Or.inr (same ▸ recorded.owned held)
    · exact Or.inr (same ▸ recorded.known held)

/-- A client stays as it is in a step that spares it. -/
theorem clientOf?_spared (recorded : Recorded record session) {step : Step Settings Action}
    {result : StepResult Endpoint} (deals : session.Deals backend step result after)
    {serial : Nat} (given : serial < session.made) (spares : session.Spares serial step) :
    after.clientOf? serial = session.clientOf? serial := by
  have numbered := recorded.numbered
  have later := numbered.step deals
  have added {name : String} {client : Client Endpoint} (put : step.clientPut? = some name)
      (puts : after.clients = session.clients.insert name client)
      (new : client.serial = session.made) :
      after.clientOf? serial = session.clientOf? serial := by
    rw [numbered.clientOf?_put later puts, if_neg (by omega), if_neg]
    intro displaced
    obtain ⟨leaver, held, own⟩ := (Option.any_eq_true ..).mp displaced
    exact spares.client name leaver put held (of_decide_eq_true own)
  have altered {name : String} {before client : Client Endpoint}
      (put : step.clientPut? = some name) (found : session.clients.get? name = some before)
      (puts : after.clients = session.clients.insert name client)
      (same : client.serial = before.serial) :
      after.clientOf? serial = session.clientOf? serial := by
    rw [numbered.clientOf?_alter later found puts same,
      if_neg (same ▸ spares.client name before put found)]
  cases deals with
  | unknown => rfl
  | unprepared _ clients | unbuilt _ _ clients | spared _ clients =>
    exact Session.Numbered.clientOf?_congr clients serial
  | built _ _ puts => exact added rfl puts rfl
  | copied _ puts => exact added rfl puts rfl
  | closed found puts | renamed found puts => exact altered rfl found puts rfl
  | reconnected found _ puts => exact altered rfl found puts rfl
  | @dropped name client _ found erased =>
    rw [numbered.clientOf?_erase later found erased, if_neg (spares.client name client rfl found)]

variable [Inhabited Endpoint]

/-- A failed attempt to connect a client leaves it without a connection. -/
theorem failing (recorded : Recorded record session) {name : String} {client : Client Endpoint}
    {error : LockError} (found : session.clients.get? name = some client)
    (failed : (session.step backend (.reconnect name)).result = .failed error) :
    (session.step backend (.reconnect name)).service.clientOf? client.serial =
      some { client with connected := false } := by
  have deals := session.deals backend (.reconnect name)
  have later := recorded.numbered.step deals
  generalize (session.step backend (.reconnect name)).service = after at deals later ⊢
  rw [failed] at deals
  generalize told : (StepResult.failed error : StepResult Endpoint) = result at deals
  cases deals with
  | unknown => cases told
  | spared other => exact absurd rfl (other name)
  | @reconnected name held outcome _ present _ puts =>
    cases Option.some.inj (present.symm.trans found)
    cases outcome with
    | ok done => cases told
    | error other =>
      refine later.clientOf?_eq_some_iff.mpr ⟨rfl, name, ?_⟩
      rw [puts, Table.get?_insert, if_pos rfl]
      rfl

theorem accounted (recorded : Recorded record session)
    (unrefusing : backend.dialect.Unrefusing) : Accounted backend record session where
  named name client found := recorded.numbered.clientOf?_serial found
  existing serial := (recorded.turned serial).isSome_iff
  connected serial client found := by
    have turns := recorded.turned serial
    rw [found] at turns
    exact turns.connected_iff
  closing name client found := by
    simp only [Session.step, Session.onClient, found]
  failing name client error found failed := recorded.failing found failed
  unconnected step name lock called found := by
    have known := (recorded.turned lock.client).unconnected_iff (recorded.owned found)
    rw [StepResult.eq_failed_iff rfl, session.refusal?_step unrefusing called found,
      refusal?_eq_notConnected_iff, known, and_comm]
  short step name lock lease called found := by
    rw [StepResult.eq_failed_iff rfl, session.refusal?_step unrefusing called found,
      refusal?_eq_invalidTtl_iff]
  unconnectedNew name client lockName resource lease found := by
    rw [StepResult.eq_failed_iff rfl, session.refusal?_acquireNew unrefusing found,
      refusal?_eq_notConnected_iff]
    simp [and_comm]
  shortNew name client lockName resource lease checked found := by
    rw [StepResult.eq_failed_iff rfl, session.refusal?_acquireNew unrefusing found,
      refusal?_eq_invalidTtl_iff, Option.some.injEq]
  apart step serial given spares := by
    have same := recorded.clientOf?_spared (session.deals backend step) given spares
    refine ⟨same, fun name lock found own => ?_⟩
    have kept : (session.step backend step).service.locks.get? name = some lock := by
      rw [(session.handles unrefusing step).get?_of_ne, found]
      exact fun put => spares.locks name lock put found own
    refine ⟨kept, fun call called => ?_⟩
    rw [Session.refusal?_step unrefusing called kept, Session.refusal?_step unrefusing called found,
      own, same]

end Recorded

/-- The clients of every run are as its record says. -/
theorem accounted_run [Inhabited Endpoint]
    {backend : Backend Settings Endpoint Service Action Request Answer}
    (unrefusing : backend.dialect.Unrefusing) (service : Service) (supply : Nat → String)
    (steps : List (Step Settings Action)) :
    Accounted backend (connectionRecord ((Session.start service supply).passages backend steps))
      ((Session.start service supply).after backend steps) := by
  have begun : Recorded (connectionRecord ([] : List (Passage Settings Endpoint Service Action)))
      (Session.start service supply : Session Endpoint Service) := .start service supply
  refine (Session.passages_induction (fun past session => Recorded (connectionRecord past) session)
    begun ?_ steps).accounted unrefusing
  intro past session step recorded
  rw [connectionRecord, List.flatMap_append, List.flatMap_singleton]
  exact recorded.step (session.deals backend step) (session.handles unrefusing step)

end Sessions

/-- At both kinds of store, whatever is done to them, a client is connected if its latest event
connected it, a client is never kept from closing, and the operations on locks find their clients
unconnected when they are, each client for itself. -/
theorem connections_accounted :
    (∀ stores supply steps, Accounted Stores.backend
        (connectionRecord ((Session.start stores supply).passages Stores.backend steps))
        ((Session.start stores supply).after Stores.backend steps)) ∧
      ∀ server supply steps, Accounted Server.backend
        (connectionRecord ((Session.start server supply).passages Server.backend steps))
        ((Session.start server supply).after Server.backend steps) :=
  ⟨accounted_run Store.unrefusing, accounted_run Server.unrefusing⟩

end Leasehold
