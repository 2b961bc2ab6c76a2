/-
This file is about the names that the user of a session gives to clients and locks. In a run that
uses each name for one thing throughout, a client's for clients of one namespace and a lock's for
locks of one resource, it can be told from the names in a step what the step is about.
-/

import Leasehold.Proofs.Operations
import Leasehold.Proofs.Resource

namespace Leasehold

/-! ### What the names in a run stand for -/

/-- What a step is about. -/
inductive Subject where
  | client (name : String)
  | lock (name : String)
  | service

/-- The namespace of the clients under each name, and the resource of the locks. -/
structure Register where
  space : String → String
  resource : String → Resource

section Steps

variable {Settings Action : Type}

/-- What a step is about. The making of a lock is about the lock. -/
def Step.subject : Step Settings Action → Subject
  | .build name .. | .copy name _ | .close name | .reconnect name | .drop name | .setId name _ =>
    .client name
  | .newLock _ name _ | .acquireNew _ name _ _ | .setPayload name _ | .acquire name _
  | .release name | .refresh name | .refreshFor name _ | .inspect name => .lock name
  | .advance _ | .interfere _ => .service

/-- A step uses names for what they stand for. -/
def Register.Fits (register : Register) : Step Settings Action → Prop
  | .build name identity _ => namespaceOrDefault identity.space = register.space name
  | .copy name copied => register.space copied = register.space name
  | .newLock client name resource | .acquireNew client name resource _ =>
    register.resource name = ⟨register.space client, resource⟩
  | _ => True

instance (register : Register) : (step : Step Settings Action) → Decidable (register.Fits step)
  | .build name identity _ =>
    inferInstanceAs (Decidable (namespaceOrDefault identity.space = register.space name))
  | .copy name copied => inferInstanceAs (Decidable (register.space copied = register.space name))
  | .newLock client name resource | .acquireNew client name resource _ =>
    inferInstanceAs (Decidable (register.resource name = ⟨register.space client, resource⟩))
  | .close _ | .reconnect _ | .drop _ | .setId .. | .setPayload .. | .acquire .. | .release _
  | .refresh _ | .refreshFor .. | .inspect _ | .advance _ | .interfere _ =>
    inferInstanceAs (Decidable True)

end Steps

/-! ### Steps as they are taken -/

section Building

variable {Settings Endpoint Service Action Request : Type} {Answer : Request → Type}

theorem Session.identify_eq (session : Session Endpoint Service) (given : Option String) :
    session.identify given =
      ((given.filter (!·.isEmpty)).getD (session.supply session.drawn),
        { session with
          drawn := if (given.filter (!·.isEmpty)).isSome then session.drawn
            else session.drawn + 1 }) := by
  unfold identify
  cases given.filter (!·.isEmpty) <;> rfl

theorem Session.exists_identify (session : Session Endpoint Service) (given : Option String) :
    ∃ id drawn, session.identify given = (id, { session with drawn }) :=
  ⟨_, _, session.identify_eq given⟩

/-- A new client is there if it could be connected. Its number is used up in any case, an ID of
the supply is not. -/
theorem Session.introduce_eq (session : Session Endpoint Service)
    (backend : Backend Settings Endpoint Service Action Request Answer) (identity : Identity)
    (endpoint : Endpoint) :
    let opened := backend.dialect.connect.run (backend.perform session.now endpoint)
      session.service
    let named := session.identify identity.id
    (session.introduce backend identity endpoint).result =
        opened.result.map (fun _ =>
          ⟨session.made, named.1, namespaceOrDefault identity.space, true, endpoint⟩) ∧
      (session.introduce backend identity endpoint).service =
        { session with
          service := opened.service
          made := session.made + 1
          drawn := if opened.result.isOk then named.2.drawn else session.drawn } := by
  intro opened named
  obtain ⟨id, drawn, identified⟩ := session.exists_identify identity.id
  let client : Client Endpoint :=
    ⟨session.made, id, namespaceOrDefault identity.space, false, endpoint⟩
  obtain ⟨result, service⟩ := backend.dialect.run_reconnect
    (backend.perform session.now endpoint) client session.service
  have dialled : backend.dialect.redialling client.connected = backend.dialect.connect := rfl
  rw [dialled] at result service
  simp only [introduce, opened, named, identified, concluded, Session.run]
  rw [result, service]
  cases (backend.dialect.connect.run (backend.perform session.now endpoint)
    session.service).result with
  | error error => exact ⟨rfl, rfl⟩
  | ok opened => exact ⟨rfl, rfl⟩

/-- What holds of a session and after every step on the client of a name holds after the step. -/
theorem Session.onClient_keeps {kept : Session Endpoint Service → Prop}
    {session : Session Endpoint Service} {name : String}
    {step : Client Endpoint → Stepped Endpoint Service} (holds : kept session)
    (each : ∀ client, session.clients.get? name = some client → kept (step client).service) :
    kept (session.onClient name step).service := by
  unfold onClient
  cases found : session.clients.get? name with
  | none => exact holds
  | some client => exact each client found

theorem Session.onLock_keeps {kept : Session Endpoint Service → Prop}
    {session : Session Endpoint Service} {name : String}
    {step : Lock → Stepped Endpoint Service} (holds : kept session)
    (each : ∀ lock, session.locks.get? name = some lock → kept (step lock).service) :
    kept (session.onLock name step).service := by
  unfold onLock
  cases found : session.locks.get? name with
  | none => exact holds
  | some lock => exact each lock found

end Building

/-! ### Names that are used for what they stand for -/

section Tidiness

variable {Settings Endpoint Service Action Request : Type} {Answer : Request → Type}

/-- Clients and locks stand under names that are for them, and their serial numbers have been
given out. -/
structure Register.Tidy (register : Register) (session : Session Endpoint Service) : Prop where
  clients : ∀ {name client}, session.clients.get? name = some client →
    client.space = register.space name ∧ client.serial < session.made
  locks : ∀ {name lock}, session.locks.get? name = some lock →
    lock.keys = (register.resource name).keys ∧ lock.client < session.made

variable {register : Register} {session : Session Endpoint Service}

namespace Register.Tidy

theorem start (register : Register) (service : Service) (supply : Nat → String) :
    register.Tidy (Session.start service supply : Session Endpoint Service) where
  clients found := by cases found
  locks found := by cases found

theorem putClient (tidy : register.Tidy session) {name : String} {client : Client Endpoint}
    (fit : client.space = register.space name ∧ client.serial < session.made) :
    register.Tidy (session.putClient name client) where
  clients {key found} held := by
    simp only [Session.putClient, Table.get?_insert] at held
    split at held
    next same =>
      cases held
      rw [same]
      exact fit
    next => exact tidy.clients held
  locks := tidy.locks

theorem putLock (tidy : register.Tidy session) {name : String} {lock : Lock}
    (fit : lock.keys = (register.resource name).keys ∧ lock.client < session.made) :
    register.Tidy (session.putLock name lock) where
  clients := tidy.clients
  locks {key found} held := by
    simp only [Session.putLock, Table.get?_insert] at held
    split at held
    next same =>
      cases held
      rw [same]
      exact fit
    next => exact tidy.locks held

theorem dropClient (tidy : register.Tidy session) (name : String) :
    register.Tidy { session with clients := session.clients.erase name } where
  clients {key found} held := by
    simp only [Table.get?_erase] at held
    split at held
    · cases held
    · exact tidy.clients held
  locks := tidy.locks

theorem withService (tidy : register.Tidy session) (service : Service) :
    register.Tidy { session with service } :=
  ⟨tidy.clients, tidy.locks⟩

theorem withMade (tidy : register.Tidy session) :
    register.Tidy { session with made := session.made + 1 } where
  clients found := (tidy.clients found).imp_right Nat.lt_succ_of_lt
  locks found := (tidy.locks found).imp_right Nat.lt_succ_of_lt

/-- A new lock of a client is fit for its name. -/
theorem fit_newLock (tidy : register.Tidy session) {name lockName resource : String}
    {client : Client Endpoint} (found : session.clients.get? name = some client)
    (fits : register.resource lockName = ⟨register.space name, resource⟩) :
    (client.newLock resource).keys = (register.resource lockName).keys ∧
      (client.newLock resource).client < session.made := by
  obtain ⟨space, serial⟩ := tidy.clients found
  refine ⟨?_, serial⟩
  rw [fits, ← space]
  rfl

variable [Inhabited Endpoint]
  {backend : Backend Settings Endpoint Service Action Request Answer}

theorem build (tidy : register.Tidy session) {name : String} {identity : Identity}
    (fits : namespaceOrDefault identity.space = register.space name) (settings : Settings) :
    register.Tidy (session.step backend (.build name identity settings)).service := by
  simp only [Session.step, Session.connectClient_eq]
  obtain ⟨prepared, service⟩ := backend.prepare settings session.service
  cases prepared with
  | error error => exact tidy.withService service
  | ok endpoint =>
    obtain ⟨result, after⟩ :=
      Session.introduce_eq { session with service } backend identity endpoint
    have grown (service : Service) (drawn : Nat) :
        register.Tidy { session with service, made := session.made + 1, drawn } :=
      ⟨tidy.withMade.clients, tidy.withMade.locks⟩
    simp only [result, after]
    cases (backend.dialect.connect.run (backend.perform session.now endpoint) service).result with
    | error error => exact grown _ _
    | ok opened => exact (grown _ _).putClient ⟨fits, Nat.lt_succ_self session.made⟩

/-- Every step that uses names for what they stand for leaves a session tidy. -/
theorem step (tidy : register.Tidy session) {step : Step Settings Action}
    (fits : register.Fits step) : register.Tidy (session.step backend step).service := by
  cases step with
  | build name identity settings => exact tidy.build fits settings
  | copy name copied =>
    refine Session.onClient_keeps tidy fun client found => ?_
    refine tidy.withMade.putClient ?_
    exact ⟨(tidy.clients found).1.trans fits.symm, Nat.lt_succ_self session.made⟩
  | close name =>
    refine Session.onClient_keeps tidy fun client found => ?_
    refine (tidy.withService _).putClient ?_
    have closed := (backend.dialect.run_close
      (backend.perform session.now client.endpoint) client session.service).1
    show ((backend.dialect.close client).run _ _).result.space = _ ∧
      ((backend.dialect.close client).run _ _).result.serial < _
    rw [closed]
    exact ⟨(tidy.clients found).1, (tidy.clients found).2⟩
  | reconnect name =>
    refine Session.onClient_keeps tidy fun client found => ?_
    refine (tidy.withService _).putClient ?_
    have opened := (backend.dialect.run_reconnect
      (backend.perform session.now client.endpoint) client session.service).1
    show ((backend.dialect.reconnect client).run _ _).result.2.space = _ ∧
      ((backend.dialect.reconnect client).run _ _).result.2.serial < _
    rw [opened]
    exact ⟨(tidy.clients found).1, (tidy.clients found).2⟩
  | drop name => exact Session.onClient_keeps tidy fun client _ => tidy.dropClient name
  | setId name id =>
    exact Session.onClient_keeps tidy fun client found =>
      tidy.putClient ⟨(tidy.clients found).1, (tidy.clients found).2⟩
  | newLock name lockName resource =>
    exact Session.onClient_keeps tidy fun client found =>
      tidy.putLock (tidy.fit_newLock found fits)
  | acquireNew name lockName resource lease =>
    refine Session.onClient_keeps tidy fun client found => ?_
    obtain ⟨later, taken⟩ := backend.dialect.run_acquireLock
      (backend.perform session.now client.endpoint) (some client) (client.newLock resource) lease
      session.service
    simp only [Session.run]
    split
    next => exact tidy.withService _
    next lock result =>
      rw [result] at taken
      simp only at taken
      rw [taken]
      exact (tidy.withService _).putLock (tidy.fit_newLock found fits)
  | setPayload name payload =>
    exact Session.onLock_keeps tidy fun lock found =>
      tidy.putLock ⟨(tidy.locks found).1, (tidy.locks found).2⟩
  | acquire name lease =>
    refine Session.onLock_keeps tidy fun lock found => ?_
    refine (tidy.withService _).putLock ?_
    obtain ⟨later, taken⟩ := backend.dialect.run_acquireLock
      (backend.perform session.now
        (((session.clientOf? lock.client).map (·.endpoint)).getD default))
      (session.clientOf? lock.client) lock lease session.service
    show ((backend.dialect.acquireLock _ lock lease).run _ _).result.2.keys = _ ∧
      ((backend.dialect.acquireLock _ lock lease).run _ _).result.2.client < _
    rw [taken]
    exact ⟨(tidy.locks found).1, (tidy.locks found).2⟩
  | release name => exact Session.onLock_keeps tidy fun lock _ => tidy.withService _
  | refresh name => exact Session.onLock_keeps tidy fun lock _ => tidy.withService _
  | refreshFor name lease =>
    refine Session.onLock_keeps tidy fun lock found => ?_
    refine (tidy.withService _).putLock ?_
    have refreshed := backend.dialect.run_refreshLockFor
      (backend.perform session.now
        (((session.clientOf? lock.client).map (·.endpoint)).getD default))
      (session.clientOf? lock.client) lock lease session.service
    show ((backend.dialect.refreshLockFor _ lock lease).run _ _).result.2.keys = _ ∧
      ((backend.dialect.refreshLockFor _ lock lease).run _ _).result.2.client < _
    rw [refreshed]
    exact ⟨(tidy.locks found).1, (tidy.locks found).2⟩
  | inspect name =>
    refine Session.onLock_keeps tidy fun lock _ => ?_
    dsimp only
    split <;> exact tidy.withService _
  | advance nanos => exact ⟨tidy.clients, tidy.locks⟩
  | interfere action => exact tidy.withService _

end Register.Tidy

end Tidiness

end Leasehold
