/-
This file proves that a session over a ledger is an office. In such a session the operations are
programs, as they are for every kind of service, only that each of them makes a single request. The
session keeps its clients and locks in tables, and it looks for the client of a lock among all of
them; what is found there is what the office knows.
-/

import Leasehold.Proofs.Office
import Leasehold.Proofs.Passages

namespace Leasehold

/-! ### A ledger as a service -/

/-- What is asked of a ledger. Each of these is one step. -/
inductive Demand where
  | connect
  | disconnect
  | acquire (lock : Lock) (id : String) (lease : Duration)
  | release (lock : Lock) (id : String)
  | refresh (lock : Lock) (id : String)
  | inspect (lock : Lock)

/-- What a demand is answered with. -/
abbrev Demand.Answer : Demand → Type
  | connect | acquire .. | release .. | refresh .. => Except LockError Unit
  | disconnect => Unit
  | inspect _ => Except LockError Snapshot

section Keepers

variable {Settings Place Weather Action : Type}

/-- The operations on locks as a ledger understands them. -/
def Demand.dialect : Dialect Demand Demand.Answer where
  label := "ledger"
  disconnect := .ask .disconnect .done
  connect := .ask .connect .done
  acquire lock id lease _ := .ask (.acquire lock id lease) .done
  release lock id := .ask (.release lock id) .done
  refresh lock id _ := .ask (.refresh lock id) .done
  inspect lock := .ask (.inspect lock) .done

variable [DecidableEq Place]

/-- Performs a demand at a moment. -/
def Ledger.perform (keeper : Keeper Settings Place Weather Action) (now : Nat) (place : Place) :
    (demand : Demand) → Ledger Place Weather → demand.Answer × Ledger Place Weather
  | .connect, ledger => ledger.connect keeper place
  | .disconnect, ledger =>
    ((), { ledger with weather := keeper.disconnect place ledger.weather })
  | .acquire lock id lease, ledger =>
    ledger.enter place lock.resource
      (Lease.acquire (keeper.fate place) now lock.name ⟨id, keeper.deadline now lease⟩
        lock.payload)
  | .release lock id, ledger =>
    ledger.enter place lock.resource (Lease.release (keeper.fate place) now lock.name id)
  | .refresh lock id, ledger =>
    ledger.enter place lock.resource
      (Lease.refresh (keeper.fate place) now lock.name ⟨id, keeper.deadline now lock.lease⟩
        lock.payload)
  | .inspect lock, ledger =>
    ledger.enter place lock.resource (Lease.inspect (keeper.fate place) now lock.name)

/-- A ledger as a service. -/
def Keeper.backend (keeper : Keeper Settings Place Weather Action) :
    Backend Settings Place (Ledger Place Weather) Action Demand Demand.Answer where
  dialect := Demand.dialect
  prepare settings ledger := (keeper.reach settings, ledger)
  perform := Ledger.perform keeper
  interfere _ ledger action := { ledger with weather := keeper.change ledger.weather action }

end Keepers

/-! ### What an office knows of a session -/

/-- The lock of a title is for the resource of the title. -/
theorem Title.resource_lock (title : Title) : title.lock.resource = title.resource := by
  let client : Client Unit := ⟨title.client, "", title.resource.space, false, ()⟩
  exact client.resource_newLock title.resource.name

namespace Office

variable {Settings Place Weather Action : Type} {office : Office Place Weather}
  {session : Session Place (Ledger Place Weather)}

/-- An office knows what there is in a session over its ledger. -/
structure Portrays (office : Office Place Weather)
    (session : Session Place (Ledger Place Weather)) : Prop where
  now : office.now = session.now
  ledger : office.ledger = session.service
  serials : ∀ name, office.serials name = (session.clients.get? name).map (·.serial)
  clients : ∀ serial, office.clients serial = session.clientOf? serial
  locks : ∀ name, session.locks.get? name = (office.titles name).map Title.lock
  made : office.made = session.made
  supply : office.supply = session.supply
  drawn : office.drawn = session.drawn
  numbered : session.Numbered

namespace Portrays

theorem opening (weather : Weather) (supply : Nat → String) :
    (Office.opening weather supply : Office Place Weather).Portrays
      (Session.start (.blank weather) supply) where
  now := rfl
  ledger := rfl
  serials _ := rfl
  clients _ := rfl
  locks _ := rfl
  made := rfl
  supply := rfl
  drawn := rfl
  numbered := .start _ _

theorem client? (portrays : office.Portrays session) (name : String) :
    office.client? name = session.clients.get? name := by
  unfold Office.client?
  rw [portrays.serials]
  cases found : session.clients.get? name with
  | none => rfl
  | some client => exact (portrays.clients _).trans (portrays.numbered.clientOf?_serial found)

/-! ### What changes alike -/

theorem withLedger (portrays : office.Portrays session) (ledger : Ledger Place Weather) :
    { office with ledger }.Portrays { session with service := ledger } :=
  { portrays with
    ledger := rfl
    numbered := portrays.numbered.of_clients_eq rfl (Nat.le_refl _) }

theorem withMade (portrays : office.Portrays session) :
    { office with made := session.made + 1 }.Portrays { session with made := session.made + 1 } :=
  { portrays with
    made := rfl
    numbered := portrays.numbered.of_clients_eq rfl (Nat.le_succ _) }

theorem entitle (portrays : office.Portrays session) (name : String) (title : Title) :
    (office.entitle name title).Portrays (session.putLock name title.lock) :=
  { portrays with
    locks := fun key => by
      simp only [Session.putLock, Office.entitle, Table.get?_insert, Function.update_apply]
      split
      · rfl
      · exact portrays.locks key
    numbered := portrays.numbered.of_clients_eq rfl (Nat.le_refl _) }

/-- A client is displaced by its serial number if it has the name. -/
theorem displaced_iff (portrays : office.Portrays session) (name : String) (serial : Nat) :
    (session.clients.get? name).any (·.serial = serial) = true ↔
      office.serials name = some serial := by
  rw [portrays.serials]
  cases session.clients.get? name <;> simp

theorem forget (portrays : office.Portrays session) {name : String} {client : Client Place}
    (found : session.clients.get? name = some client) :
    (office.forget name).Portrays { session with clients := session.clients.erase name } := by
  have later : Session.Numbered { session with clients := session.clients.erase name } :=
    portrays.numbered.remove rfl rfl
  refine { portrays with serials := fun key => ?_, clients := fun serial => ?_, numbered := later }
  · simp only [Office.forget, Table.get?_erase, Function.update_apply]
    split
    · rfl
    · exact portrays.serials key
  · rw [portrays.numbered.clientOf?_erase later found rfl]
    simp only [Office.forget, portrays.serials, found, Option.map_some, Option.some.injEq]
    split
    · rfl
    · exact portrays.clients serial

/-- A client with a serial number of its own comes under a name. -/
theorem welcome (portrays : office.Portrays session) (name : String) {client : Client Place}
    (later : (session.putClient name client).Numbered) :
    (office.welcome name client).Portrays (session.putClient name client) := by
  refine { portrays with serials := fun key => ?_, clients := fun serial => ?_, numbered := later }
  · simp only [Office.welcome, Office.forget, Session.putClient, Table.get?_insert,
      Function.update_apply]
    split
    · rfl
    · exact portrays.serials key
  · rw [portrays.numbered.clientOf?_put later rfl]
    simp only [Office.welcome, Office.forget, Function.update_apply, eq_comm (a := serial),
      portrays.displaced_iff, portrays.clients]

theorem amend (portrays : office.Portrays session) {name : String} {client before : Client Place}
    (found : session.clients.get? name = some before) (same : client.serial = before.serial) :
    (office.amend client).Portrays (session.putClient name client) := by
  have later : (session.putClient name client).Numbered :=
    portrays.numbered.alter found rfl same rfl
  refine { portrays with serials := fun key => ?_, clients := fun serial => ?_, numbered := later }
  · simp only [Session.putClient, Table.get?_insert]
    split
    next here =>
      have known := portrays.serials name
      rw [found] at known
      rw [here, Option.map_some, same]
      exact known
    next => exact portrays.serials key
  · rw [portrays.numbered.clientOf?_alter later found rfl same]
    simp only [Office.amend, Function.update_apply, eq_comm (a := serial), portrays.clients]

/-! ### Operations -/

variable {title : Title} {client : Option (Client Place)}

/-- A client may act or it may not, and both sides say so alike. -/
theorem user_cases (portrays : office.Portrays session)
    (owner : session.clientOf? title.client = client) :
    (∃ error, office.user title = .error error ∧ Dialect.session client = .error error) ∨
      ∃ found, client = some found ∧ office.user title = .ok found ∧
        Dialect.session client = .ok found.id := by
  unfold Office.user Dialect.session
  rw [portrays.clients, owner]
  cases client with
  | none => exact Or.inl ⟨_, rfl, rfl⟩
  | some found =>
    simp only
    cases found.connected with
    | false => exact Or.inl ⟨_, rfl, rfl⟩
    | true => exact Or.inr ⟨found, rfl, rfl, rfl⟩

/-- So is it with a client that acts under a lease, which is looked at first. -/
theorem lessee_cases (portrays : office.Portrays session)
    (owner : session.clientOf? title.client = client) (lease : Duration) :
    (∃ error, office.lessee title lease = .error error ∧
        (lease.leaseMillis = .error error ∨
          ∃ millis, lease.leaseMillis = .ok millis ∧ Dialect.session client = .error error)) ∨
      ∃ found millis, client = some found ∧ office.lessee title lease = .ok found ∧
        lease.leaseMillis = .ok millis ∧ Dialect.session client = .ok found.id := by
  unfold Office.lessee Duration.leaseMillis Duration.leaseMillis?
  by_cases short : lease.nanos < Duration.shortestLease.nanos
  · rw [if_pos short, if_pos short]
    exact Or.inl ⟨_, rfl, Or.inl rfl⟩
  · rw [if_neg short, if_neg short]
    obtain ⟨error, refused, closed⟩ | ⟨found, present, admitted, connected⟩ :=
      portrays.user_cases owner
    · exact Or.inl ⟨error, refused, Or.inr ⟨_, rfl, closed⟩⟩
    · exact Or.inr ⟨found, _, present, admitted, rfl, connected⟩

variable [DecidableEq Place]

/-- What a program comes to in a session over a ledger: a value, and a ledger in place of the one
there was. -/
structure Comes {Value : Type} (session : Session Place (Ledger Place Weather))
    (outcome : Outcome (Session Place (Ledger Place Weather)) Value) (value : Value)
    (ledger : Ledger Place Weather) : Prop where
  result : outcome.result = value
  service : outcome.service = { session with service := ledger }

/-- A program of a lock as it is run in a session. -/
abbrev ran [Inhabited Place] {Result : Type} (keeper : Keeper Settings Place Weather Action)
    (session : Session Place (Ledger Place Weather)) (client : Option (Client Place))
    (program : Program Demand Demand.Answer Result) :
    Outcome (Session Place (Ledger Place Weather)) Result :=
  session.run keeper.backend ((client.map (·.endpoint)).getD default) program

variable (keeper : Keeper Settings Place Weather Action) [Inhabited Place]

theorem acquire (portrays : office.Portrays session)
    (owner : session.clientOf? title.client = client) (lease : Duration) :
    Comes session (ran keeper session client (Demand.dialect.acquireLock client title.lock lease))
      ((office.acquire keeper title lease).1, (office.leased title lease).lock)
      (office.acquire keeper title lease).2 := by
  unfold Dialect.acquireLock Office.acquire Office.leased
  rw [ran, Session.run, Program.run, portrays.now, portrays.ledger]
  obtain ⟨error, refused, short | ⟨millis, long, closed⟩⟩ |
    ⟨found, millis, present, admitted, long, connected⟩ := portrays.lessee_cases owner lease
  · rw [refused, short]
    exact ⟨rfl, rfl⟩
  · rw [refused, long, closed]
    exact ⟨rfl, rfl⟩
  · have resource : Lock.resource { title.lock with lease } = title.resource := title.resource_lock
    rw [admitted, long, connected, present]
    simp only [Program.map, Program.andThen, Program.run, Demand.dialect, Keeper.backend,
      Ledger.perform, resource]
    exact ⟨rfl, rfl⟩

theorem release (portrays : office.Portrays session)
    (owner : session.clientOf? title.client = client) :
    Comes session (ran keeper session client (Demand.dialect.releaseLock client title.lock))
      (office.release keeper title).1 (office.release keeper title).2 := by
  unfold Dialect.releaseLock Office.release
  rw [ran, Session.run, Program.run, portrays.now, portrays.ledger]
  obtain ⟨error, refused, closed⟩ | ⟨found, present, admitted, connected⟩ :=
    portrays.user_cases owner
  · rw [refused, closed]
    exact ⟨rfl, rfl⟩
  · rw [admitted, connected, present]
    simp only [Program.run, Demand.dialect, Keeper.backend, Ledger.perform, title.resource_lock]
    exact ⟨rfl, rfl⟩

theorem refresh (portrays : office.Portrays session)
    (owner : session.clientOf? title.client = client) :
    Comes session (ran keeper session client (Demand.dialect.refreshLock client title.lock))
      (office.refresh keeper title).1 (office.refresh keeper title).2 := by
  have lease : title.lock.lease = title.lease := rfl
  unfold Dialect.refreshLock Office.refresh
  rw [ran, Session.run, Program.run, portrays.now, portrays.ledger, lease]
  obtain ⟨error, refused, short | ⟨millis, long, closed⟩⟩ |
    ⟨found, millis, present, admitted, long, connected⟩ := portrays.lessee_cases owner title.lease
  · rw [refused, short]
    exact ⟨rfl, rfl⟩
  · rw [refused, long, closed]
    exact ⟨rfl, rfl⟩
  · rw [admitted, long, connected, present]
    simp only [Program.run, Demand.dialect, Keeper.backend, Ledger.perform, title.resource_lock]
    exact ⟨rfl, rfl⟩

theorem refreshFor (portrays : office.Portrays session)
    (owner : session.clientOf? title.client = client) (lease : Duration) :
    let leased := { title with lease }
    Comes session
      (ran keeper session client (Demand.dialect.refreshLockFor client title.lock lease))
      ((office.refresh keeper leased).1, leased.lock) (office.refresh keeper leased).2 := by
  intro leased
  have same : session.clientOf? leased.client = client := owner
  obtain ⟨result, service⟩ := portrays.refresh keeper same
  obtain ⟨mapped, left⟩ := Program.run_map
    (Ledger.perform keeper session.now ((client.map (·.endpoint)).getD default))
    (Demand.dialect.refreshLock client leased.lock) (fun result => (result, leased.lock))
    session.service
  refine ⟨mapped.trans (congrArg (·, leased.lock) result), Eq.trans ?_ service⟩
  exact congrArg (fun ledger => { session with service := ledger }) left

theorem inspect (portrays : office.Portrays session)
    (owner : session.clientOf? title.client = client) :
    Comes session (ran keeper session client (Demand.dialect.inspectLock client title.lock))
      (office.inspect keeper title).1 (office.inspect keeper title).2 := by
  unfold Dialect.inspectLock Office.inspect
  rw [ran, Session.run, Program.run, portrays.now, portrays.ledger]
  obtain ⟨error, refused, closed⟩ | ⟨found, present, admitted, connected⟩ :=
    portrays.user_cases owner
  · rw [refused, closed]
    exact ⟨rfl, rfl⟩
  · rw [admitted, connected, present]
    simp only [Program.run, Demand.dialect, Keeper.backend, Ledger.perform, title.resource_lock]
    exact ⟨rfl, rfl⟩

end Portrays

/-! ### Steps -/

/-- A step of the office comes to what a step of the session comes to, and the office knows what
there is in the session after it. -/
structure Tallies (dealing : Dealing Place Weather)
    (stepped : Session.Stepped Place (Ledger Place Weather)) : Prop where
  result : dealing.result = stepped.result
  portrays : dealing.office.Portrays stepped.service

namespace Portrays

theorem onClient (portrays : office.Portrays session) (name : String)
    {act : Client Place → Dealing Place Weather}
    {step : Client Place → Session.Stepped Place (Ledger Place Weather)}
    (each : ∀ client, session.clients.get? name = some client →
      Tallies (act client) (step client)) :
    Tallies (office.onClient name act) (session.onClient name step) := by
  unfold Office.onClient Session.onClient
  rw [portrays.client?]
  cases found : session.clients.get? name with
  | none => exact ⟨rfl, portrays⟩
  | some client => exact each client found

theorem onTitle (portrays : office.Portrays session) (name : String)
    {act : Title → Dealing Place Weather}
    {step : Lock → Session.Stepped Place (Ledger Place Weather)}
    (each : ∀ title, Tallies (act title) (step title.lock)) :
    Tallies (office.onTitle name act) (session.onLock name step) := by
  unfold Office.onTitle Session.onLock
  rw [portrays.locks]
  cases office.titles name with
  | none => exact ⟨rfl, portrays⟩
  | some title => exact each title

theorem answer_eq (result : Except LockError Unit) :
    answer (fun _ => .finished) result = (Session.resultOf result : StepResult Place) := by
  cases result <;> rfl

theorem finish (portrays : office.Portrays session) {ledger : Ledger Place Weather}
    {result : Except LockError Unit}
    {outcome : Outcome (Session Place (Ledger Place Weather)) (Except LockError Unit)}
    (comes : Comes session outcome result ledger) :
    Tallies ⟨answer (fun _ => .finished) result, { office with ledger }⟩
      ⟨Session.resultOf outcome.result, outcome.events, outcome.service⟩ := by
  rw [comes.result, comes.service]
  exact ⟨answer_eq result, portrays.withLedger ledger⟩

theorem finish_leased (portrays : office.Portrays session) (name : String)
    {ledger : Ledger Place Weather} {result : Except LockError Unit} {leased : Title}
    {outcome : Outcome (Session Place (Ledger Place Weather)) (Except LockError Unit × Lock)}
    (comes : Comes session outcome (result, leased.lock) ledger) :
    Tallies ⟨answer (fun _ => .finished) result, { office with ledger }.entitle name leased⟩
      ⟨Session.resultOf outcome.result.1, outcome.events,
        outcome.service.putLock name outcome.result.2⟩ := by
  rw [comes.result, comes.service]
  exact ⟨answer_eq result, (portrays.withLedger ledger).entitle name leased⟩

/-- A new lock is known if it could be taken. -/
theorem finish_new (portrays : office.Portrays session) (name : String)
    {ledger : Ledger Place Weather} {result : Except LockError Unit} {leased : Title}
    {outcome : Outcome (Session Place (Ledger Place Weather)) (Except LockError Unit × Lock)}
    (comes : Comes session outcome (result, leased.lock) ledger) :
    Tallies
      (match result with
        | .error error => ⟨.failed error, { office with ledger }⟩
        | .ok () => ⟨.lock leased.lock, { office with ledger }.entitle name leased⟩)
      (match outcome.result with
        | (.error error, _) => ⟨.failed error, outcome.events, outcome.service⟩
        | (.ok (), lock) => ⟨.lock lock, outcome.events, outcome.service.putLock name lock⟩) := by
  rw [comes.result, comes.service]
  cases result with
  | error error => exact ⟨rfl, portrays.withLedger ledger⟩
  | ok done => exact ⟨rfl, (portrays.withLedger ledger).entitle name leased⟩

theorem finish_shown (portrays : office.Portrays session) {ledger : Ledger Place Weather}
    {result : Except LockError Snapshot}
    {outcome : Outcome (Session Place (Ledger Place Weather)) (Except LockError Snapshot)}
    (comes : Comes session outcome result ledger) :
    Tallies ⟨answer .snapshot result, { office with ledger }⟩
      (match outcome.result with
        | .error error => ⟨.failed error, outcome.events, outcome.service⟩
        | .ok snapshot => ⟨.snapshot snapshot, outcome.events, outcome.service⟩) := by
  rw [comes.result, comes.service]
  cases result with
  | error error => exact ⟨rfl, portrays.withLedger ledger⟩
  | ok snapshot => exact ⟨rfl, portrays.withLedger ledger⟩

variable [DecidableEq Place] (keeper : Keeper Settings Place Weather Action)

/-- Hanging up comes to the same, whether or not the client has a connection. -/
theorem run_closing (client : Client Place) (now : Nat) (ledger : Ledger Place Weather) :
    ((Demand.dialect.closing client.connected).run (Ledger.perform keeper now client.endpoint)
      ledger).service = ledger.leave keeper client := by
  unfold Dialect.closing Ledger.leave
  cases client.connected <;> rfl

/-- So does connecting anew. -/
theorem run_redialling (client : Client Place) (now : Nat) (ledger : Ledger Place Weather) :
    let outcome := (Demand.dialect.redialling client.connected).run
      (Ledger.perform keeper now client.endpoint) ledger
    let opened := (ledger.leave keeper client).connect keeper client.endpoint
    outcome.result = opened.1 ∧ outcome.service = opened.2 := by
  intro outcome opened
  simp only [outcome, Dialect.redialling, Program.run_andThen, run_closing]
  exact ⟨rfl, rfl⟩

/-- A client is built alike, under the same ID and serial number. -/
theorem build (portrays : office.Portrays session) (name : String) (identity : Identity)
    (place : Place) :
    Tallies (office.build keeper name identity place)
      (let outcome := session.introduce keeper.backend identity place
      match outcome.result with
      | .error error => ⟨.failed error, outcome.events, outcome.service⟩
      | .ok client => ⟨.client client, outcome.events, outcome.service.putClient name client⟩) := by
  obtain ⟨result, after⟩ := session.introduce_eq keeper.backend identity place
  have opened : keeper.backend.dialect.connect.run (keeper.backend.perform session.now place)
      session.service =
        ⟨(session.service.connect keeper place).1, [], (session.service.connect keeper place).2⟩ :=
    rfl
  rw [opened, session.identify_eq] at result after
  have tried (ledger : Ledger Place Weather) (drawn : Nat) :
      Portrays
        { office with ledger, made := session.made + 1, supply := session.supply, drawn }
        { session with service := ledger, made := session.made + 1, drawn } :=
    { portrays with
      ledger := rfl
      made := rfl
      supply := rfl
      drawn := rfl
      numbered := portrays.numbered.of_clients_eq rfl (Nat.le_succ _) }
  unfold Office.build
  simp only [result, after, portrays.ledger, portrays.made, portrays.supply, portrays.drawn]
  cases (session.service.connect keeper place).1 with
  | error error => exact ⟨rfl, tried _ session.drawn⟩
  | ok done => exact ⟨rfl, (tried _ _).welcome name (portrays.numbered.add rfl rfl rfl)⟩

variable [Inhabited Place]

/-- Every step of the office comes to what it comes to in the session. -/
theorem step (portrays : office.Portrays session) (step : Step Settings Action) :
    Tallies (office.step keeper step) (session.step keeper.backend step) := by
  cases step with
  | build name identity settings =>
    simp only [Office.step, Session.step, Session.connectClient_eq, Keeper.backend]
    cases keeper.reach settings with
    | error error => exact ⟨rfl, portrays⟩
    | ok place => exact portrays.build keeper name identity place
  | copy name copied =>
    refine portrays.onClient name fun client found => ?_
    let copy := client.disconnectedCopy session.made
    have later : Session.Numbered
        ({ session with made := session.made + 1 }.putClient copied copy) :=
      portrays.numbered.add rfl rfl rfl
    rw [portrays.made]
    exact ⟨rfl, portrays.withMade.welcome copied later⟩
  | close name =>
    refine portrays.onClient name fun client found => ?_
    obtain ⟨closed, left⟩ := Demand.dialect.run_close
      (Ledger.perform keeper session.now client.endpoint) client session.service
    rw [run_closing] at left
    simp only [Session.run, Keeper.backend, closed, left, portrays.ledger]
    exact ⟨rfl, (portrays.withLedger _).amend found rfl⟩
  | reconnect name =>
    refine portrays.onClient name fun client found => ?_
    obtain ⟨opened, left⟩ := Demand.dialect.run_reconnect
      (Ledger.perform keeper session.now client.endpoint) client session.service
    obtain ⟨result, service⟩ := run_redialling keeper client session.now session.service
    rw [result] at opened
    rw [service] at left
    simp only [Session.run, Keeper.backend, opened, left, portrays.ledger]
    exact ⟨answer_eq _, (portrays.withLedger _).amend found rfl⟩
  | drop name => exact portrays.onClient name fun client found => ⟨rfl, portrays.forget found⟩
  | setId name id =>
    exact portrays.onClient name fun client found => ⟨rfl, portrays.amend found rfl⟩
  | newLock name lockName resource =>
    exact portrays.onClient name fun client found => ⟨rfl, portrays.entitle lockName _⟩
  | acquireNew name lockName resource lease =>
    refine portrays.onClient name fun client found => ?_
    let title : Title := ⟨⟨client.space, resource⟩, .zero, "", client.serial⟩
    have owner : session.clientOf? title.client = some client :=
      portrays.numbered.clientOf?_serial found
    exact portrays.finish_new lockName (portrays.acquire keeper owner lease)
  | setPayload name payload =>
    exact portrays.onTitle name fun title => ⟨rfl, portrays.entitle name { title with payload }⟩
  | acquire name lease =>
    exact portrays.onTitle name fun title =>
      portrays.finish_leased name (portrays.acquire keeper rfl lease)
  | release name =>
    exact portrays.onTitle name fun title => portrays.finish (portrays.release keeper rfl)
  | refresh name =>
    exact portrays.onTitle name fun title => portrays.finish (portrays.refresh keeper rfl)
  | refreshFor name lease =>
    exact portrays.onTitle name fun title =>
      portrays.finish_leased name (portrays.refreshFor keeper rfl lease)
  | inspect name =>
    exact portrays.onTitle name fun title => portrays.finish_shown (portrays.inspect keeper rfl)
  | advance nanos =>
    exact ⟨rfl, { portrays with
      now := congrArg (· + nanos) portrays.now
      numbered := portrays.numbered.of_clients_eq rfl (Nat.le_refl _) }⟩
  | interfere action =>
    have after := portrays.withLedger
      { session.service with weather := keeper.change session.service.weather action }
    simp only [Office.step, portrays.ledger]
    exact ⟨rfl, after⟩

end Portrays

/-! ### Runs -/

section Runs

variable {Endpoint Service Request : Type} {Answer : Request → Type} [DecidableEq Place]
  {backend : Backend Settings Endpoint Service Action Request Answer}
  {keeper : Keeper Settings Place Weather Action}

/-- A step over a service comes to what a step of an office comes to: the answers are the same,
the service shows what is in the ledger, and the locks are as the office knows them. -/
structure Settles (simulation : Simulation backend keeper.backend)
    (stepped : Session.Stepped Endpoint Service) (dealing : Dealing Place Weather) : Prop where
  result : stepped.result.seen simulation.elsewhere simulation.view =
    dealing.result.seen id simulation.view
  related : simulation.matched stepped.service.now stepped.service.service dealing.office.ledger
  locks : ∀ name,
    stepped.service.locks.get? name = (dealing.office.titles name).map Title.lock

/-- Between a service and an office there is a ledger. -/
theorem Tallies.settles {simulation : Simulation backend keeper.backend}
    {stepped : Session.Stepped Endpoint Service}
    {ideal : Session.Stepped Place (Ledger Place Weather)} {dealing : Dealing Place Weather}
    (tallies : Tallies dealing ideal)
    (ended : simulation.Ends simulation.SameResult stepped ideal) :
    Settles simulation stepped dealing where
  result := by
    rw [tallies.result]
    exact ended.agreed
  related := by
    rw [tallies.portrays.ledger]
    exact ended.alike.related
  locks name := by
    have locks : ideal.service.locks = stepped.service.locks := by
      rw [ended.alike.same]
      rfl
    rw [← locks]
    exact tallies.portrays.locks name

variable [Inhabited Endpoint] [Inhabited Place]

/-- If a service is a ledger to a simulation, then every run over it is a run of an office. -/
theorem Portrays.follow {simulation : Simulation backend keeper.backend}
    {other : Session Endpoint Service} (portrays : office.Portrays session)
    (alike : simulation.Alike other session) (steps : List (Step Settings Action))
    (permitted : simulation.PermitsAll other steps) :
    List.Forall₂ (Settles simulation) (other.follow backend steps)
      (office.follow keeper steps) := by
  induction steps generalizing office other session with
  | nil => exact .nil
  | cons step rest inductionHypothesis =>
    have ended := alike.step step permitted.1
    have tallies := portrays.step keeper step
    exact .cons (tallies.settles ended)
      (inductionHypothesis tallies.portrays ended.alike permitted.2)

/-- So is it from the start, if the service shows what is in a blank ledger. -/
theorem follow_opening {simulation : Simulation backend keeper.backend} {service : Service}
    {weather : Weather} (related : simulation.matched 0 service (.blank weather))
    (supply : Nat → String) (steps : List (Step Settings Action))
    (permitted : simulation.PermitsAll (Session.start service supply) steps) :
    List.Forall₂ (Settles simulation) ((Session.start service supply).follow backend steps)
      ((Office.opening weather supply).follow keeper steps) :=
  (Portrays.opening weather supply).follow (Simulation.alike_start related supply) steps permitted

end Runs

end Office

end Leasehold
