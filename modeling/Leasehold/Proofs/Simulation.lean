/-
This file proves that sessions over two kinds of service give the same answers when the
operations do. A simulation relates the services and shows, operation by operation, that
related services answer alike and stay related. Everything else in a session (names, clients
that come and go, identities, the checks before a service is contacted) is common to all kinds
of service, so it is dealt with here once and a simulation only speaks of requests.
-/

import Leasehold.Proofs.Runs
import Leasehold.Proofs.Tracks
import Mathlib.Data.List.Forall2

namespace Leasehold

/-! ### Clients that connect elsewhere -/

section Redirect

variable {Endpoint Elsewhere Value Other : Type}

/-- The same client with another endpoint. -/
def Client.redirect (elsewhere : Endpoint → Elsewhere) (client : Client Endpoint) :
    Client Elsewhere :=
  { client with endpoint := elsewhere client.endpoint }

namespace Table

/-- The table with all its values changed. -/
def map (change : Value → Other) (table : Table Value) : Table Other where
  rows := table.rows.map fun row => (row.1, change row.2)
  distinct := by
    rw [List.map_map]
    exact table.distinct

theorem ext {table other : Table Value} (same : table.rows = other.rows) : table = other := by
  cases table
  cases other
  cases same
  rfl

theorem get?_map (change : Value → Other) (table : Table Value) (key : String) :
    (table.map change).get? key = (table.get? key).map change := by
  simp only [get?, map, List.find?_map, Option.map_map]
  rfl

theorem map_erase (change : Value → Other) (table : Table Value) (key : String) :
    (table.erase key).map change = (table.map change).erase key := by
  apply ext
  simp only [map, erase, restrict, List.filter_map]
  rfl

theorem map_insert (change : Value → Other) (table : Table Value) (key : String)
    (value : Value) :
    (table.insert key value).map change = (table.map change).insert key (change value) := by
  apply ext
  have rest := congrArg Table.rows (map_erase change table key)
  exact congrArg ((key, change value) :: ·) rest

end Table

end Redirect

/-! ### Building a client -/

section Introduce

variable {Settings Endpoint Service Action Request : Type} {Answer : Request → Type}

/-- What building a client comes to once its first connection has been tried. -/
def Session.concluded (unused : Nat)
    (outcome : Outcome (Session Endpoint Service) (Except LockError Unit × Client Endpoint)) :
    Outcome (Session Endpoint Service) (Except LockError (Client Endpoint)) :=
  match outcome.result with
  | (.ok (), client) => ⟨.ok client, outcome.events, outcome.service⟩
  | (.error error, _) =>
    ⟨.error error, outcome.events, { outcome.service with drawn := unused }⟩

/-- Builds a client whose endpoint is known. -/
def Session.introduce (session : Session Endpoint Service)
    (backend : Backend Settings Endpoint Service Action Request Answer) (identity : Identity)
    (endpoint : Endpoint) :
    Outcome (Session Endpoint Service) (Except LockError (Client Endpoint)) :=
  let named := session.identify identity.id
  let client : Client Endpoint :=
    ⟨named.2.made, named.1, namespaceOrDefault identity.space, false, endpoint⟩
  Session.concluded session.drawn
    ({ named.2 with made := named.2.made + 1 }.run backend endpoint
      (backend.dialect.reconnect client))

theorem Session.connectClient_eq (session : Session Endpoint Service)
    (backend : Backend Settings Endpoint Service Action Request Answer) (identity : Identity)
    (settings : Settings) :
    session.connectClient backend identity settings =
      match backend.prepare settings session.service with
      | (.error error, service) => ⟨.error error, [], { session with service }⟩
      | (.ok endpoint, service) => { session with service }.introduce backend identity endpoint :=
  rfl

end Introduce

/-! ### Simulations -/

/-- Results that are the same once their errors are seen in one way. -/
def SameFor {Result : Type} (view : LockError → LockError) (one other : Except LockError Result) :
    Prop :=
  one.mapError view = other.mapError view

section Simulation

variable {Settings Action Endpoint Elsewhere Service Host Request Demand : Type}
  {Answer : Request → Type} {Response : Demand → Type}

/-- Related services answer each operation alike and stay related. Errors count as alike that
are the same in some view of them. The operations need only be dealt with for good locks and
fair leases, and the taking of a lock for a payload that is apt. -/
structure Simulation (backend : Backend Settings Endpoint Service Action Request Answer)
    (model : Backend Settings Elsewhere Host Action Demand Response) where
  /-- Where a client of the model connects to. -/
  elsewhere : Endpoint → Elsewhere
  view : LockError → LockError
  matched : (now : Nat) → Service → Host → Prop
  good : Lock → Prop
  fair : Duration → Prop
  /-- Which payloads may be written by one who takes a lock. It may depend on the service. -/
  apt : Service → (payload : String) → Prop
  good_payload : ∀ {lock}, good lock → ∀ payload, good { lock with payload }
  good_lease : ∀ {lock lease}, good lock → fair lease → good { lock with lease }
  later : ∀ {now service host}, matched now service host →
    ∀ passed, matched (now + passed) service host
  prepare : ∀ {now service host}, matched now service host → ∀ settings,
    SameFor view ((backend.prepare settings service).1.map elsewhere)
        (model.prepare settings host).1 ∧
      matched now (backend.prepare settings service).2 (model.prepare settings host).2
  interfere : ∀ {now service host}, matched now service host → ∀ action,
    matched now (backend.interfere now service action) (model.interfere now host action)
  disconnect : ∀ now endpoint,
    Tracks (backend.perform now endpoint) (model.perform now (elsewhere endpoint)) (matched now)
      (fun _ _ => True) backend.dialect.disconnect model.dialect.disconnect
  connect : ∀ now endpoint,
    Tracks (backend.perform now endpoint) (model.perform now (elsewhere endpoint)) (matched now)
      (SameFor view) backend.dialect.connect model.dialect.connect
  acquire : ∀ now endpoint {service lock millis} id, good lock →
    lock.lease.leaseMillis? = some millis → apt service lock.payload →
    TracksFrom (backend.perform now endpoint) (model.perform now (elsewhere endpoint))
      (matched now) (SameFor view) service (backend.dialect.acquire lock id lock.lease millis)
      (model.dialect.acquire lock id lock.lease millis)
  release : ∀ now endpoint {lock} id, good lock →
    Tracks (backend.perform now endpoint) (model.perform now (elsewhere endpoint)) (matched now)
      (SameFor view) (backend.dialect.release lock id) (model.dialect.release lock id)
  refresh : ∀ now endpoint {lock millis} id, good lock →
    lock.lease.leaseMillis? = some millis →
    Tracks (backend.perform now endpoint) (model.perform now (elsewhere endpoint)) (matched now)
      (SameFor view) (backend.dialect.refresh lock id millis)
      (model.dialect.refresh lock id millis)
  inspect : ∀ now endpoint {lock}, good lock →
    Tracks (backend.perform now endpoint) (model.perform now (elsewhere endpoint)) (matched now)
      (SameFor view) (backend.dialect.inspect lock) (model.dialect.inspect lock)

/-! ### The operations on clients and locks -/

/-- Results that are the same are two errors seen alike, or the same value. -/
theorem SameFor.cases_map {Result Changed : Type} {view : LockError → LockError}
    {change : Result → Changed} {one : Except LockError Result}
    {other : Except LockError Changed} (same : SameFor view (one.map change) other) :
    (∃ error fault, one = .error error ∧ other = .error fault ∧ view error = view fault) ∨
      ∃ result, one = .ok result ∧ other = .ok (change result) := by
  cases one with
  | error error =>
    cases other with
    | error fault => exact Or.inl ⟨error, fault, rfl, rfl, Except.error.inj same⟩
    | ok changed => cases same
  | ok result =>
    cases other with
    | error fault => cases same
    | ok changed =>
      have equal : change result = changed := Except.ok.inj same
      exact Or.inr ⟨result, rfl, by rw [equal]⟩

theorem SameFor.cases {Result : Type} {view : LockError → LockError}
    {one other : Except LockError Result} (same : SameFor view one other) :
    (∃ error fault, one = .error error ∧ other = .error fault ∧ view error = view fault) ∨
      ∃ result, one = .ok result ∧ other = .ok result := by
  have mapped : SameFor view (one.map id) other := by
    cases one <;> exact same
  exact mapped.cases_map

theorem SameFor.isOk {Result : Type} {view : LockError → LockError}
    {one other : Except LockError Result} (same : SameFor view one other) :
    one.isOk = other.isOk := by
  obtain ⟨error, fault, rfl, rfl, _⟩ | ⟨result, rfl, rfl⟩ := same.cases <;> rfl

theorem Dialect.session_redirect (elsewhere : Endpoint → Elsewhere)
    (client : Option (Client Endpoint)) :
    Dialect.session (client.map (Client.redirect elsewhere)) = Dialect.session client := by
  cases client <;> rfl

/-- A client without connection, or one that is gone, has no session. -/
theorem Dialect.session_cases (client : Option (Client Endpoint)) :
    Dialect.session client = .error .notConnected ∨
      ∃ found, client = some found ∧ Dialect.session client = .ok found.id := by
  cases client with
  | none => exact Or.inl rfl
  | some found =>
    by_cases connected : found.connected = true
    · exact Or.inr ⟨found, rfl, if_pos connected⟩
    · exact Or.inl (if_neg connected)

theorem Duration.leaseMillis?_of_leaseMillis {lease : Duration} {millis : Nat}
    (valid : lease.leaseMillis = .ok millis) : lease.leaseMillis? = some millis := by
  unfold Duration.leaseMillis at valid
  split at valid
  next found =>
    cases valid
    exact found
  next => cases valid

namespace Simulation

variable {backend : Backend Settings Endpoint Service Action Request Answer}
  {model : Backend Settings Elsewhere Host Action Demand Response}
  (simulation : Simulation backend model)

theorem close_tracks (now : Nat) (client : Client Endpoint) :
    Tracks (backend.perform now client.endpoint)
      (model.perform now (simulation.elsewhere client.endpoint)) (simulation.matched now)
      (fun one other => other = one.redirect simulation.elsewhere)
      (backend.dialect.close client)
      (model.dialect.close (client.redirect simulation.elsewhere)) := by
  refine Tracks.noteLeft _ (Tracks.noteRight _ ?_)
  have alike : (client.redirect simulation.elsewhere).connected = client.connected := rfl
  rw [alike]
  by_cases connected : client.connected = true
  · rw [if_pos connected, if_pos connected]
    exact (simulation.disconnect now client.endpoint).map fun _ _ _ => rfl
  · rw [if_neg connected, if_neg connected]
    exact Tracks.done rfl

theorem reconnect_tracks (now : Nat) (client : Client Endpoint) :
    Tracks (backend.perform now client.endpoint)
      (model.perform now (simulation.elsewhere client.endpoint)) (simulation.matched now)
      (fun one other => SameFor simulation.view one.1 other.1 ∧
        other.2 = one.2.redirect simulation.elsewhere)
      (backend.dialect.reconnect client)
      (model.dialect.reconnect (client.redirect simulation.elsewhere)) := by
  refine Tracks.noteLeft _ (Tracks.noteRight _ ?_)
  refine (simulation.close_tracks now client).andThen fun one other closed => ?_
  refine (simulation.connect now client.endpoint).map fun result shadowed same => ?_
  refine ⟨same, ?_⟩
  rw [closed, same.isOk]
  rfl

/-- Tracking for a program of a lock, whose client may no longer exist. -/
abbrev LockTracks [Inhabited Endpoint] [Inhabited Elsewhere] {Result Shadowed : Type} (now : Nat)
    (client : Option (Client Endpoint)) (agree : Result → Shadowed → Prop) (service : Service)
    (program : Option (Client Endpoint) → Program Request Answer Result)
    (shadow : Option (Client Elsewhere) → Program Demand Response Shadowed) : Prop :=
  TracksFrom (backend.perform now ((client.map (·.endpoint)).getD default))
    (model.perform now
      (((client.map (Client.redirect simulation.elsewhere)).map (·.endpoint)).getD default))
    (simulation.matched now) agree service (program client)
    (shadow (client.map (Client.redirect simulation.elsewhere)))

variable [Inhabited Endpoint] [Inhabited Elsewhere] (service : Service)

theorem acquireLock_tracks (now : Nat) (client : Option (Client Endpoint)) {lock : Lock}
    (good : simulation.good lock) {lease : Duration} (fair : simulation.fair lease)
    (apt : simulation.apt service lock.payload) :
    simulation.LockTracks now client
      (fun one other => SameFor simulation.view one.1 other.1 ∧ other.2 = one.2 ∧
        simulation.good one.2) service
      (fun client => backend.dialect.acquireLock client lock lease)
      (fun client => model.dialect.acquireLock client lock lease) := by
  refine TracksFrom.noteLeft _ (TracksFrom.noteRight _ ?_)
  rw [Dialect.session_redirect]
  cases valid : lease.leaseMillis with
  | error error => exact .done ⟨rfl, rfl, good⟩
  | ok millis =>
    obtain absent | ⟨found, rfl, present⟩ := Dialect.session_cases client
    · rw [absent]
      exact .done ⟨rfl, rfl, good⟩
    · have leased := simulation.good_lease good fair
      rw [present]
      exact (simulation.acquire now found.endpoint found.id leased
        (Duration.leaseMillis?_of_leaseMillis valid) apt).map
        fun one other same => ⟨same, rfl, leased⟩

theorem releaseLock_tracks (now : Nat) (client : Option (Client Endpoint)) {lock : Lock}
    (good : simulation.good lock) :
    simulation.LockTracks now client (SameFor simulation.view) service
      (fun client => backend.dialect.releaseLock client lock)
      (fun client => model.dialect.releaseLock client lock) := by
  refine TracksFrom.noteLeft _ (TracksFrom.noteRight _ ?_)
  rw [Dialect.session_redirect]
  obtain absent | ⟨found, rfl, present⟩ := Dialect.session_cases client
  · rw [absent]
    exact .done rfl
  · rw [present]
    exact simulation.release now found.endpoint found.id good service

theorem refreshLock_tracks (now : Nat) (client : Option (Client Endpoint)) {lock : Lock}
    (good : simulation.good lock) :
    simulation.LockTracks now client (SameFor simulation.view) service
      (fun client => backend.dialect.refreshLock client lock)
      (fun client => model.dialect.refreshLock client lock) := by
  refine TracksFrom.noteLeft _ (TracksFrom.noteRight _ ?_)
  rw [Dialect.session_redirect]
  cases valid : lock.lease.leaseMillis with
  | error error => exact .done rfl
  | ok millis =>
    obtain absent | ⟨found, rfl, present⟩ := Dialect.session_cases client
    · rw [absent]
      exact .done rfl
    · rw [present]
      exact simulation.refresh now found.endpoint found.id good
        (Duration.leaseMillis?_of_leaseMillis valid) service

theorem refreshLockFor_tracks (now : Nat) (client : Option (Client Endpoint)) {lock : Lock}
    (good : simulation.good lock) {lease : Duration} (fair : simulation.fair lease) :
    simulation.LockTracks now client
      (fun one other => SameFor simulation.view one.1 other.1 ∧ other.2 = one.2 ∧
        simulation.good one.2) service
      (fun client => backend.dialect.refreshLockFor client lock lease)
      (fun client => model.dialect.refreshLockFor client lock lease) := by
  refine TracksFrom.noteLeft _ (TracksFrom.noteRight _ ?_)
  have leased := simulation.good_lease good fair
  exact (simulation.refreshLock_tracks service now client leased).map
    fun one other same => ⟨same, rfl, leased⟩

theorem inspectLock_tracks (now : Nat) (client : Option (Client Endpoint)) {lock : Lock}
    (good : simulation.good lock) :
    simulation.LockTracks now client (SameFor simulation.view) service
      (fun client => backend.dialect.inspectLock client lock)
      (fun client => model.dialect.inspectLock client lock) := by
  refine TracksFrom.noteLeft _ (TracksFrom.noteRight _ ?_)
  rw [Dialect.session_redirect]
  obtain absent | ⟨found, rfl, present⟩ := Dialect.session_cases client
  · rw [absent]
    exact .done rfl
  · rw [present]
    exact simulation.inspect now found.endpoint good service

/-! ### Sessions -/

/-- The same session over another service. -/
def moved (session : Session Endpoint Service) (host : Host) : Session Elsewhere Host where
  now := session.now
  service := host
  clients := session.clients.map (Client.redirect simulation.elsewhere)
  locks := session.locks
  made := session.made
  supply := session.supply
  drawn := session.drawn

/-- A session over a service is like one over the model: they only differ in their services,
which are related, and all locks are good. -/
structure Alike (session : Session Endpoint Service) (other : Session Elsewhere Host) :
    Prop where
  same : other = simulation.moved session other.service
  related : simulation.matched session.now session.service other.service
  good : ∀ name lock, session.locks.get? name = some lock → simulation.good lock

/-- Two outcomes end alike: the results agree and the sessions are alike. -/
structure Ends {Result Shadowed : Type} (agree : Result → Shadowed → Prop)
    (outcome : Outcome (Session Endpoint Service) Result)
    (shadow : Outcome (Session Elsewhere Host) Shadowed) : Prop where
  agreed : agree outcome.result shadow.result
  alike : simulation.Alike outcome.service shadow.service

variable {simulation} {session : Session Endpoint Service} {other : Session Elsewhere Host}

omit [Inhabited Endpoint] [Inhabited Elsewhere]

/-- Sessions that begin over related services are alike. -/
theorem alike_start {service : Service} {host : Host} (related : simulation.matched 0 service host)
    (supply : Nat → String) :
    simulation.Alike (Session.start service supply) (Session.start host supply) where
  same := rfl
  related := related
  good name lock held := by cases held

theorem Alike.client (alike : simulation.Alike session other) (name : String) :
    other.clients.get? name =
      (session.clients.get? name).map (Client.redirect simulation.elsewhere) := by
  rw [alike.same]
  exact Table.get?_map _ _ _

theorem Alike.clientOf? (alike : simulation.Alike session other) (serial : Nat) :
    other.clientOf? serial =
      (session.clientOf? serial).map (Client.redirect simulation.elsewhere) := by
  rw [alike.same]
  simp only [Session.clientOf?, moved, Table.map, List.find?_map, Option.map_map]
  rfl

theorem Alike.putClient (alike : simulation.Alike session other) (name : String)
    {client : Client Endpoint} {redirected : Client Elsewhere}
    (equal : redirected = client.redirect simulation.elsewhere) :
    simulation.Alike (session.putClient name client) (other.putClient name redirected) := by
  refine ⟨?_, alike.related, alike.good⟩
  rw [equal, alike.same]
  simp only [Session.putClient, moved, Table.map_insert]

theorem Alike.dropClient (alike : simulation.Alike session other) (name : String) :
    simulation.Alike { session with clients := session.clients.erase name }
      { other with clients := other.clients.erase name } := by
  refine ⟨?_, alike.related, alike.good⟩
  rw [alike.same]
  simp only [moved, Table.map_erase]

theorem Alike.putLock (alike : simulation.Alike session other) (name : String)
    {lock put : Lock} (equal : put = lock) (good : simulation.good lock) :
    simulation.Alike (session.putLock name lock) (other.putLock name put) := by
  subst equal
  refine ⟨?_, alike.related, fun key found held => ?_⟩
  · rw [alike.same]
    rfl
  · simp only [Session.putLock, Table.get?_insert] at held
    split at held
    · cases held
      exact good
    · exact alike.good key found held

theorem Alike.run {Result Shadowed : Type} (alike : simulation.Alike session other)
    {endpoint : Endpoint} {place : Elsewhere} {agree : Result → Shadowed → Prop}
    {program : Program Request Answer Result} {shadow : Program Demand Response Shadowed}
    (tracks : TracksFrom (backend.perform session.now endpoint) (model.perform session.now place)
      (simulation.matched session.now) agree session.service program shadow) :
    simulation.Ends agree (session.run backend endpoint program)
      (other.run model place shadow) := by
  obtain ⟨same, related, good⟩ := alike
  generalize other.service = host at same related
  subst same
  obtain ⟨agreed, after⟩ := tracks _ related
  exact ⟨agreed, rfl, after, good⟩

/-- An alike session is the session itself moved to a related service. -/
theorem Alike.exists_moved (alike : simulation.Alike session other) :
    ∃ host, other = simulation.moved session host ∧
      simulation.matched session.now session.service host :=
  ⟨other.service, alike.same, alike.related⟩

theorem Alike.withService (alike : simulation.Alike session other) {service : Service}
    {host : Host} (related : simulation.matched session.now service host) :
    simulation.Alike { session with service } { other with service := host } := by
  obtain ⟨before, rfl, _⟩ := alike.exists_moved
  exact ⟨rfl, related, alike.good⟩

theorem Alike.withMade (alike : simulation.Alike session other) :
    simulation.Alike { session with made := session.made + 1 }
      { other with made := other.made + 1 } := by
  obtain ⟨host, rfl, related⟩ := alike.exists_moved
  exact ⟨rfl, related, alike.good⟩

theorem Alike.withDrawn (alike : simulation.Alike session other) (drawn : Nat) :
    simulation.Alike { session with drawn } { other with drawn } := by
  obtain ⟨host, rfl, related⟩ := alike.exists_moved
  exact ⟨rfl, related, alike.good⟩

theorem Alike.identify (alike : simulation.Alike session other) (given : Option String) :
    (other.identify given).1 = (session.identify given).1 ∧
      simulation.Alike (session.identify given).2 (other.identify given).2 := by
  obtain ⟨host, rfl, related⟩ := alike.exists_moved
  unfold Session.identify
  split
  · exact ⟨rfl, alike⟩
  · exact ⟨rfl, alike.withDrawn _⟩

theorem Ends.concluded
    {outcome : Outcome (Session Endpoint Service) (Except LockError Unit × Client Endpoint)}
    {shadow : Outcome (Session Elsewhere Host) (Except LockError Unit × Client Elsewhere)}
    (ended : simulation.Ends
      (fun one another => SameFor simulation.view one.1 another.1 ∧
        another.2 = one.2.redirect simulation.elsewhere) outcome shadow) (unused : Nat) :
    simulation.Ends
      (fun one another => SameFor simulation.view
        (one.map (Client.redirect simulation.elsewhere)) another)
      (Session.concluded unused outcome) (Session.concluded unused shadow) := by
  obtain ⟨⟨result, client⟩, events, session⟩ := outcome
  obtain ⟨⟨shadowed, redirected⟩, noted, other⟩ := shadow
  obtain ⟨⟨same, equal⟩, alike⟩ := ended
  simp only at same equal
  subst equal
  obtain ⟨error, fault, rfl, rfl, seen⟩ | ⟨_, rfl, rfl⟩ := same.cases
  · exact ⟨congrArg Except.error seen, alike.withDrawn unused⟩
  · exact ⟨rfl, alike⟩

theorem Alike.introduce (alike : simulation.Alike session other) (identity : Identity)
    (endpoint : Endpoint) :
    simulation.Ends
      (fun one another => SameFor simulation.view
        (one.map (Client.redirect simulation.elsewhere)) another)
      (session.introduce backend identity endpoint)
      (other.introduce model identity (simulation.elsewhere endpoint)) := by
  obtain ⟨host, rfl, related⟩ := alike.exists_moved
  obtain ⟨sameId, identified⟩ := alike.identify identity.id
  unfold Session.introduce
  generalize session.identify identity.id = one at sameId identified ⊢
  generalize (simulation.moved session host).identify identity.id = another at sameId identified ⊢
  obtain ⟨id, one⟩ := one
  obtain ⟨_, another⟩ := another
  -- one ID was drawn for both, so that the clients differ in their endpoints only
  cases sameId
  obtain ⟨before, rfl, _⟩ := identified.exists_moved
  let client : Client Endpoint :=
    ⟨one.made, id, namespaceOrDefault identity.space, false, endpoint⟩
  exact (identified.withMade.run (simulation.reconnect_tracks one.now client _)).concluded _

theorem Alike.connectClient (alike : simulation.Alike session other) (identity : Identity)
    (settings : Settings) :
    simulation.Ends
      (fun one another => SameFor simulation.view
        (one.map (Client.redirect simulation.elsewhere)) another)
      (session.connectClient backend identity settings)
      (other.connectClient model identity settings) := by
  have prepared := simulation.prepare alike.related settings
  rw [Session.connectClient_eq, Session.connectClient_eq]
  generalize backend.prepare settings session.service = reached at prepared ⊢
  generalize model.prepare settings other.service = found at prepared ⊢
  obtain ⟨reached, service⟩ := reached
  obtain ⟨found, host⟩ := found
  obtain ⟨same, related⟩ := prepared
  have next := alike.withService related
  simp only at same
  obtain ⟨error, fault, rfl, rfl, seen⟩ | ⟨endpoint, rfl, rfl⟩ := same.cases_map
  · exact ⟨congrArg Except.error seen, next⟩
  · exact next.introduce identity endpoint

/-! ### Steps -/

end Simulation

/-- What a step came to, its client connecting elsewhere and its error seen in some way. -/
def StepResult.seen (elsewhere : Endpoint → Elsewhere) (view : LockError → LockError) :
    StepResult Endpoint → StepResult Elsewhere
  | .unknown => .unknown
  | .failed error => .failed (view error)
  | .finished => .finished
  | .client found => .client (found.redirect elsewhere)
  | .lock made => .lock made
  | .snapshot seen => .snapshot seen

theorem StepResult.seen_id (result : StepResult Endpoint) : result.seen id id = result := by
  cases result <;> rfl

namespace Simulation

variable {backend : Backend Settings Endpoint Service Action Request Answer}
  {model : Backend Settings Elsewhere Host Action Demand Response}

/-- Two steps came to the same. -/
def SameResult (simulation : Simulation backend model) (one : StepResult Endpoint)
    (another : StepResult Elsewhere) : Prop :=
  one.seen simulation.elsewhere simulation.view = another.seen id simulation.view

/-- A step makes good locks and names fair leases only, and takes locks for apt payloads. -/
def Permits (simulation : Simulation backend model) (session : Session Endpoint Service) :
    Step Settings Action → Prop
  | .newLock client _ name => ∀ found, session.clients.get? client = some found →
      simulation.good (found.newLock name)
  | .acquireNew client _ name lease => simulation.fair lease ∧
      ∀ found, session.clients.get? client = some found →
        simulation.good (found.newLock name) ∧
          simulation.apt session.service (found.newLock name).payload
  | .acquire name lease => simulation.fair lease ∧
      ∀ lock, session.locks.get? name = some lock → simulation.apt session.service lock.payload
  | .refreshFor _ lease => simulation.fair lease
  | _ => True

variable {simulation : Simulation backend model} {session : Session Endpoint Service}
  {other : Session Elsewhere Host}

theorem sameResult_resultOf {one another : Except LockError Unit}
    (same : SameFor simulation.view one another) :
    simulation.SameResult (Session.resultOf one) (Session.resultOf another) := by
  obtain ⟨error, fault, rfl, rfl, seen⟩ | ⟨_, rfl, rfl⟩ := same.cases
  · exact congrArg StepResult.failed seen
  · rfl

/-- Taking a new lock comes to the same if the attempt does. -/
theorem Ends.taken {outcome : Outcome (Session Endpoint Service) (Except LockError Unit × Lock)}
    {shadow : Outcome (Session Elsewhere Host) (Except LockError Unit × Lock)}
    (ended : simulation.Ends
      (fun one another => SameFor simulation.view one.1 another.1 ∧ another.2 = one.2 ∧
        simulation.good one.2) outcome shadow) (name : String) :
    simulation.Ends simulation.SameResult
      (match outcome.result with
        | (.error error, _) => ⟨.failed error, outcome.events, outcome.service⟩
        | (.ok (), lock) => ⟨.lock lock, outcome.events, outcome.service.putLock name lock⟩)
      (match shadow.result with
        | (.error error, _) => ⟨.failed error, shadow.events, shadow.service⟩
        | (.ok (), lock) => ⟨.lock lock, shadow.events, shadow.service.putLock name lock⟩) := by
  obtain ⟨⟨result, lock⟩, events, session⟩ := outcome
  obtain ⟨⟨shadowed, put⟩, noted, other⟩ := shadow
  obtain ⟨⟨same, equal, good⟩, alike⟩ := ended
  simp only at same equal
  subst equal
  obtain ⟨error, fault, rfl, rfl, seen⟩ | ⟨_, rfl, rfl⟩ := same.cases
  · exact ⟨congrArg StepResult.failed seen, alike⟩
  · exact ⟨rfl, alike.putLock name rfl good⟩

theorem Alike.onClient (alike : simulation.Alike session other) (name : String)
    {step : Client Endpoint → Session.Stepped Endpoint Service}
    {shadow : Client Elsewhere → Session.Stepped Elsewhere Host}
    (each : ∀ client, session.clients.get? name = some client →
      simulation.Ends simulation.SameResult (step client)
        (shadow (client.redirect simulation.elsewhere))) :
    simulation.Ends simulation.SameResult (session.onClient name step)
      (other.onClient name shadow) := by
  unfold Session.onClient
  rw [alike.client name]
  cases found : session.clients.get? name with
  | none => exact ⟨rfl, alike⟩
  | some client => exact each client found

theorem Alike.onLock (alike : simulation.Alike session other) (name : String)
    {step : Lock → Session.Stepped Endpoint Service}
    {shadow : Lock → Session.Stepped Elsewhere Host}
    (each : ∀ lock, session.locks.get? name = some lock → simulation.good lock →
      simulation.Ends simulation.SameResult (step lock) (shadow lock)) :
    simulation.Ends simulation.SameResult (session.onLock name step)
      (other.onLock name shadow) := by
  have locks : other.locks = session.locks := by rw [alike.same]; rfl
  unfold Session.onLock
  rw [locks]
  cases found : session.locks.get? name with
  | none => exact ⟨rfl, alike⟩
  | some lock => exact each lock found (alike.good name lock found)

variable [Inhabited Endpoint] [Inhabited Elsewhere]

/-- A program of a lock ends alike over both services. -/
theorem Alike.runFor {Result Shadowed : Type} (alike : simulation.Alike session other)
    (lock : Lock) {agree : Result → Shadowed → Prop}
    {program : Option (Client Endpoint) → Program Request Answer Result}
    {shadow : Option (Client Elsewhere) → Program Demand Response Shadowed}
    (tracks : simulation.LockTracks session.now (session.clientOf? lock.client) agree
      session.service program shadow) :
    simulation.Ends agree (session.runFor backend lock program)
      (other.runFor model lock shadow) := by
  unfold Session.runFor
  rw [alike.clientOf? lock.client]
  exact alike.run tracks

/-- Each step comes to the same over both services and leaves the sessions alike. -/
theorem Alike.step (alike : simulation.Alike session other) (step : Step Settings Action)
    (permitted : simulation.Permits session step) :
    simulation.Ends simulation.SameResult (session.step backend step)
      (other.step model step) := by
  cases step with
  | build name identity settings =>
    obtain ⟨same, after⟩ := alike.connectClient identity settings
    simp only [Session.step]
    obtain ⟨error, fault, failed, faulty, seen⟩ | ⟨client, built, shadowed⟩ := same.cases_map
    · rw [failed, faulty]
      exact ⟨congrArg StepResult.failed seen, after⟩
    · rw [built, shadowed]
      exact ⟨rfl, after.putClient name rfl⟩
  | copy name copied =>
    refine alike.onClient name fun client _ => ?_
    obtain ⟨host, rfl, related⟩ := alike.exists_moved
    exact ⟨rfl, alike.withMade.putClient copied rfl⟩
  | close name =>
    refine alike.onClient name fun client _ => ?_
    obtain ⟨closed, after⟩ := alike.run (simulation.close_tracks session.now client _)
    exact ⟨rfl, after.putClient name closed⟩
  | reconnect name =>
    refine alike.onClient name fun client _ => ?_
    obtain ⟨⟨same, redirected⟩, after⟩ :=
      alike.run (simulation.reconnect_tracks session.now client _)
    exact ⟨sameResult_resultOf same, after.putClient name redirected⟩
  | drop name => exact alike.onClient name fun client _ => ⟨rfl, alike.dropClient name⟩
  | setId name id =>
    refine alike.onClient name fun client _ => ?_
    exact ⟨rfl, alike.putClient name rfl⟩
  | newLock name lockName resource =>
    refine alike.onClient name fun client found => ?_
    exact ⟨rfl, alike.putLock lockName rfl (permitted client found)⟩
  | acquireNew name lockName resource lease =>
    refine alike.onClient name fun client found => ?_
    obtain ⟨good, apt⟩ := permitted.2 client found
    have tracks := simulation.acquireLock_tracks session.service session.now (some client) good
      permitted.1 apt
    exact (alike.run tracks).taken lockName
  | setPayload name payload =>
    refine alike.onLock name fun lock _ good => ?_
    exact ⟨rfl, alike.putLock name rfl (simulation.good_payload good payload)⟩
  | acquire name lease =>
    refine alike.onLock name fun lock found good => ?_
    obtain ⟨⟨same, equal, leased⟩, after⟩ := alike.runFor lock
      (simulation.acquireLock_tracks session.service session.now _ good permitted.1
        (permitted.2 lock found))
    exact ⟨sameResult_resultOf same, after.putLock name equal leased⟩
  | release name =>
    refine alike.onLock name fun lock _ good => ?_
    obtain ⟨same, after⟩ :=
      alike.runFor lock (simulation.releaseLock_tracks session.service session.now _ good)
    exact ⟨sameResult_resultOf same, after⟩
  | refresh name =>
    refine alike.onLock name fun lock _ good => ?_
    obtain ⟨same, after⟩ :=
      alike.runFor lock (simulation.refreshLock_tracks session.service session.now _ good)
    exact ⟨sameResult_resultOf same, after⟩
  | refreshFor name lease =>
    refine alike.onLock name fun lock _ good => ?_
    obtain ⟨⟨same, equal, leased⟩, after⟩ := alike.runFor lock
      (simulation.refreshLockFor_tracks session.service session.now _ good permitted)
    exact ⟨sameResult_resultOf same, after.putLock name equal leased⟩
  | inspect name =>
    refine alike.onLock name fun lock _ good => ?_
    obtain ⟨same, after⟩ :=
      alike.runFor lock (simulation.inspectLock_tracks session.service session.now _ good)
    obtain ⟨error, fault, failed, faulty, seen⟩ | ⟨snapshot, seen, shadowed⟩ := same.cases
    · simp only [failed, faulty]
      exact ⟨congrArg StepResult.failed seen, after⟩
    · simp only [seen, shadowed]
      exact ⟨rfl, after⟩
  | advance nanos =>
    obtain ⟨host, rfl, related⟩ := alike.exists_moved
    exact ⟨rfl, rfl, simulation.later related nanos, alike.good⟩
  | interfere action =>
    obtain ⟨host, rfl, related⟩ := alike.exists_moved
    exact ⟨rfl, rfl, simulation.interfere related action, alike.good⟩

/-! ### Whole runs -/

/-- All steps of a run are permitted. -/
def PermitsAll (simulation : Simulation backend model) :
    Session Endpoint Service → List (Step Settings Action) → Prop
  | _, [] => True
  | session, step :: rest =>
    simulation.Permits session step ∧
      simulation.PermitsAll (session.step backend step).service rest

/-- Runs of the same steps over both services come to the same, step by step, and leave the
sessions alike after each step. -/
theorem Alike.follow (alike : simulation.Alike session other)
    (steps : List (Step Settings Action)) (permitted : simulation.PermitsAll session steps) :
    List.Forall₂ (simulation.Ends simulation.SameResult) (session.follow backend steps)
      (other.follow model steps) := by
  induction steps generalizing session other with
  | nil => exact .nil
  | cons step rest inductionHypothesis =>
    have ended := alike.step step permitted.1
    exact .cons ended (inductionHypothesis ended.alike permitted.2)

end Simulation

end Simulation

end Leasehold
