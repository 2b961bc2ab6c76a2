/-
This file is about runs of a session, each step with what it came to and with the session before
and after it. It says once what a step can do to the clients, so that a run need not be looked at
step by step again: a client is made, altered or removed, always under one name, and every client
keeps the serial number that tells it apart from all others.
-/

import Leasehold.Proofs.Register

namespace Leasehold

theorem Subject.lock_ne_client {name other : String} : lock name ≠ .client other := nofun

theorem Subject.service_ne_client {other : String} : service ≠ .client other := nofun

section Sessions

variable {Settings Endpoint Service Action Request : Type} {Answer : Request → Type}

/-! ### Runs -/

/-- A step of a run: the session it was taken in, what it came to, and the session after it. -/
structure Passage (Settings Endpoint Service Action : Type) where
  before : Session Endpoint Service
  step : Step Settings Action
  result : StepResult Endpoint
  after : Session Endpoint Service

/-- The client that a step drops: it is dropped outright, or a new client is put under its
name. -/
def Passage.leaver? (passage : Passage Settings Endpoint Service Action) :
    Option (Client Endpoint) :=
  match passage.step, passage.result with
  | .build name .., .client _ | .copy _ name, .client _ | .drop name, .finished =>
    passage.before.clients.get? name
  | _, _ => none

namespace Session

/-- A step as it is taken in a session. -/
def passage [Inhabited Endpoint]
    (backend : Backend Settings Endpoint Service Action Request Answer)
    (session : Session Endpoint Service) (step : Step Settings Action) :
    Passage Settings Endpoint Service Action :=
  ⟨session, step, (session.step backend step).result, (session.step backend step).service⟩

/-- The steps of a run as they are taken, the first one first. -/
def passages [Inhabited Endpoint]
    (backend : Backend Settings Endpoint Service Action Request Answer) :
    Session Endpoint Service → List (Step Settings Action) →
      List (Passage Settings Endpoint Service Action)
  | _, [] => []
  | session, step :: rest =>
    session.passage backend step :: passages backend (session.step backend step).service rest

/-- The session after a run. -/
def after [Inhabited Endpoint]
    (backend : Backend Settings Endpoint Service Action Request Answer) :
    Session Endpoint Service → List (Step Settings Action) → Session Endpoint Service
  | session, [] => session
  | session, step :: rest => after backend (session.step backend step).service rest

/-- What holds at the beginning of a run, and after a step if it held before, holds after the
run. -/
theorem passages_induction [Inhabited Endpoint]
    {backend : Backend Settings Endpoint Service Action Request Answer}
    (kept : List (Passage Settings Endpoint Service Action) → Session Endpoint Service → Prop)
    {past : List (Passage Settings Endpoint Service Action)} {session : Session Endpoint Service}
    (begun : kept past session)
    (each : ∀ past session step, kept past session →
      kept (past ++ [session.passage backend step]) (session.step backend step).service)
    (steps : List (Step Settings Action)) :
    kept (past ++ session.passages backend steps) (session.after backend steps) := by
  induction steps generalizing past session with
  | nil =>
    rw [passages, List.append_nil]
    exact begun
  | cons step rest inductionHypothesis =>
    rw [passages, List.append_cons]
    exact inductionHypothesis (each past session step begun)

/-- Whether the client or lock is there that a step is about. -/
def finds (session : Session Endpoint Service) : Step Settings Action → Bool
  | .build .. | .advance _ | .interfere _ => true
  | .copy name _ | .close name | .reconnect name | .drop name | .setId name _ | .newLock name _ _
  | .acquireNew name _ _ _ => (session.clients.get? name).isSome
  | .setPayload name _ | .acquire name _ | .release name | .refresh name | .refreshFor name _
  | .inspect name => (session.locks.get? name).isSome

/-- What a step does to the clients of a session, with what it comes to and the session after
it. -/
inductive Deals (backend : Backend Settings Endpoint Service Action Request Answer)
    (session : Session Endpoint Service) :
    Step Settings Action → StepResult Endpoint → Session Endpoint Service → Prop where
  | unknown {step} : session.finds step = false → Deals backend session step .unknown session
  | unprepared {name identity settings error} {after : Session Endpoint Service} :
    (backend.prepare settings session.service).1 = .error error →
    after.clients = session.clients → after.made = session.made →
    Deals backend session (.build name identity settings) (.failed error) after
  | unbuilt {name identity settings endpoint error} {after : Session Endpoint Service} :
    (backend.prepare settings session.service).1 = .ok endpoint →
    (backend.dialect.connect.run (backend.perform session.now endpoint)
      (backend.prepare settings session.service).2).result = .error error →
    after.clients = session.clients → after.made = session.made + 1 →
    Deals backend session (.build name identity settings) (.failed error) after
  | built {name identity settings endpoint id} {after : Session Endpoint Service} :
    (backend.prepare settings session.service).1 = .ok endpoint →
    (backend.dialect.connect.run (backend.perform session.now endpoint)
      (backend.prepare settings session.service).2).result = .ok () →
    after.clients = session.clients.insert name
      ⟨session.made, id, namespaceOrDefault identity.space, true, endpoint⟩ →
    after.made = session.made + 1 →
    Deals backend session (.build name identity settings)
      (.client ⟨session.made, id, namespaceOrDefault identity.space, true, endpoint⟩) after
  | copied {name copied client} {after : Session Endpoint Service} :
    session.clients.get? name = some client →
    after.clients = session.clients.insert copied (client.disconnectedCopy session.made) →
    after.made = session.made + 1 →
    Deals backend session (.copy name copied) (.client (client.disconnectedCopy session.made))
      after
  | closed {name client} {after : Session Endpoint Service} :
    session.clients.get? name = some client →
    after.clients = session.clients.insert name { client with connected := false } →
    after.made = session.made → Deals backend session (.close name) .finished after
  | reconnected {name client result} {after : Session Endpoint Service} :
    session.clients.get? name = some client →
    ((backend.dialect.redialling client.connected).run
      (backend.perform session.now client.endpoint) session.service).result = result →
    after.clients = session.clients.insert name { client with connected := result.isOk } →
    after.made = session.made → Deals backend session (.reconnect name) (resultOf result) after
  | dropped {name client} {after : Session Endpoint Service} :
    session.clients.get? name = some client → after.clients = session.clients.erase name →
    after.made = session.made → Deals backend session (.drop name) .finished after
  | renamed {name id client} {after : Session Endpoint Service} :
    session.clients.get? name = some client →
    after.clients = session.clients.insert name { client with id } →
    after.made = session.made →
    Deals backend session (.setId name id) (.client { client with id }) after
  | spared {step result} {after : Session Endpoint Service} :
    (∀ name, step.subject ≠ .client name) →
    after.clients = session.clients → after.made = session.made →
    Deals backend session step result after

variable {backend : Backend Settings Endpoint Service Action Request Answer}
  {session : Session Endpoint Service}

/-- A step on the client of a name comes to what it comes to for that client, or to nothing. -/
theorem onClient_cases (holds : StepResult Endpoint → Session Endpoint Service → Prop)
    {name : String} {step : Client Endpoint → Stepped Endpoint Service}
    (unknown : session.clients.get? name = none → holds .unknown session)
    (each : ∀ client, session.clients.get? name = some client →
      holds (step client).result (step client).service) :
    holds (session.onClient name step).result (session.onClient name step).service := by
  unfold onClient
  cases found : session.clients.get? name with
  | none => exact unknown found
  | some client => exact each client found

theorem onLock_cases (holds : StepResult Endpoint → Session Endpoint Service → Prop)
    {name : String} {step : Lock → Stepped Endpoint Service}
    (unknown : session.locks.get? name = none → holds .unknown session)
    (each : ∀ lock, session.locks.get? name = some lock →
      holds (step lock).result (step lock).service) :
    holds (session.onLock name step).result (session.onLock name step).service := by
  unfold onLock
  cases found : session.locks.get? name with
  | none => exact unknown found
  | some lock => exact each lock found

variable [Inhabited Endpoint]

/-- A client is built if its settings make sense and its first connection succeeds. Its number is
used up once the connection has been tried. -/
theorem build_cases (holds : StepResult Endpoint → Session Endpoint Service → Prop)
    (name : String) (identity : Identity) (settings : Settings)
    (unprepared : ∀ error service,
      backend.prepare settings session.service = (.error error, service) →
      holds (.failed error) { session with service })
    (unbuilt : ∀ endpoint service error,
      backend.prepare settings session.service = (.ok endpoint, service) →
      (backend.dialect.connect.run (backend.perform session.now endpoint) service).result =
        .error error →
      ∀ drawn, holds (.failed error)
        { session with
          service := (backend.dialect.connect.run (backend.perform session.now endpoint)
            service).service
          made := session.made + 1
          drawn })
    (built : ∀ endpoint service,
      backend.prepare settings session.service = (.ok endpoint, service) →
      (backend.dialect.connect.run (backend.perform session.now endpoint) service).result =
        .ok () →
      ∀ id drawn,
        let client := ⟨session.made, id, namespaceOrDefault identity.space, true, endpoint⟩
        holds (.client client)
          (putClient
            { session with
              service := (backend.dialect.connect.run (backend.perform session.now endpoint)
                service).service
              made := session.made + 1
              drawn }
            name client)) :
    holds (session.step backend (.build name identity settings)).result
      (session.step backend (.build name identity settings)).service := by
  simp only [Session.step, Session.connectClient_eq]
  cases prepared : backend.prepare settings session.service with
  | mk endpoint? service =>
    cases endpoint? with
    | error error => exact unprepared error service prepared
    | ok endpoint =>
      obtain ⟨result, after⟩ :=
        Session.introduce_eq { session with service } backend identity endpoint
      simp only at result after
      simp only [result, after]
      cases opened : (backend.dialect.connect.run (backend.perform session.now endpoint)
        service).result with
      | error error => exact unbuilt endpoint service error prepared opened _
      | ok done => exact built endpoint service prepared opened _ _

/-- Every step does one of these things to the clients. -/
theorem deals (backend : Backend Settings Endpoint Service Action Request Answer)
    (session : Session Endpoint Service) (step : Step Settings Action) :
    session.Deals backend step (session.step backend step).result
      (session.step backend step).service := by
  have unknown {Value : Type} {value? : Option Value} {step : Step Settings Action}
      (looked : session.finds step = value?.isSome) (absent : value? = none) :
      session.Deals backend step .unknown session :=
    .unknown (looked.trans (congrArg Option.isSome absent))
  cases step with
  | build name identity settings =>
    refine build_cases (Deals backend session _) name identity settings ?_ ?_ ?_
    · exact fun error service prepared => .unprepared (congrArg Prod.fst prepared) rfl rfl
    · intro endpoint service error prepared failed drawn
      refine .unbuilt (congrArg Prod.fst prepared) ?_ rfl rfl
      rw [prepared, failed]
    · intro endpoint service prepared opened id drawn
      refine .built (congrArg Prod.fst prepared) ?_ rfl rfl
      rw [prepared, opened]
  | copy name copied =>
    exact onClient_cases (Deals backend session _) (unknown rfl) fun client found =>
      .copied found rfl rfl
  | close name =>
    refine onClient_cases (Deals backend session _) (unknown rfl) fun client found =>
      .closed found ?_ rfl
    have closed := (backend.dialect.run_close (backend.perform session.now client.endpoint)
      client session.service).1
    exact congrArg (session.clients.insert name) closed
  | reconnect name =>
    refine onClient_cases (Deals backend session _) (unknown rfl) fun client found => ?_
    have opened := (backend.dialect.run_reconnect
      (backend.perform session.now client.endpoint) client session.service).1
    simp only [Session.run, opened]
    exact .reconnected found rfl rfl rfl
  | drop name =>
    exact onClient_cases (Deals backend session _) (unknown rfl) fun client found =>
      .dropped found rfl rfl
  | setId name id =>
    exact onClient_cases (Deals backend session _) (unknown rfl) fun client found =>
      .renamed found rfl rfl
  | newLock name lockName resource =>
    exact onClient_cases (Deals backend session _) (unknown rfl) fun client found =>
      .spared (fun _ => Subject.lock_ne_client) rfl rfl
  | acquireNew name lockName resource lease =>
    refine onClient_cases (Deals backend session _) (unknown rfl) fun client found => ?_
    dsimp only
    split <;> exact .spared (fun _ => Subject.lock_ne_client) rfl rfl
  | setPayload | acquire | release | refresh | refreshFor =>
    exact onLock_cases (Deals backend session _) (unknown rfl) fun lock found =>
      .spared (fun _ => Subject.lock_ne_client) rfl rfl
  | inspect name =>
    refine onLock_cases (Deals backend session _) (unknown rfl) fun lock found => ?_
    dsimp only
    split <;> exact .spared (fun _ => Subject.lock_ne_client) rfl rfl
  | advance | interfere => exact .spared (fun _ => Subject.service_ne_client) rfl rfl

end Session

/-! ### Serial numbers -/

/-- Every client has a serial number of its own, which has been given out. -/
structure Session.Numbered (session : Session Endpoint Service) : Prop where
  below : ∀ {name client}, session.clients.get? name = some client → client.serial < session.made
  apart : ∀ {name other client twin}, session.clients.get? name = some client →
    session.clients.get? other = some twin → client.serial = twin.serial → name = other

namespace Session.Numbered

variable {session after : Session Endpoint Service} {name : String} {client : Client Endpoint}

theorem start (service : Service) (supply : Nat → String) :
    (Session.start service supply : Session Endpoint Service).Numbered :=
  ⟨fun found => (nomatch found), fun found => (nomatch found)⟩

/-- A client that is put under a name has a number of its own if it is new or had it before. -/
theorem put (numbered : session.Numbered)
    (puts : after.clients = session.clients.insert name client)
    (made : session.made ≤ after.made) (below : client.serial < after.made)
    (own : ∀ {other twin}, session.clients.get? other = some twin →
      client.serial = twin.serial → name = other) :
    after.Numbered := by
  refine ⟨fun {key held} found => ?_, fun {key other held twin} found another same => ?_⟩
  · rw [puts, Table.get?_insert] at found
    split at found
    · cases found
      exact below
    · exact Nat.lt_of_lt_of_le (numbered.below found) made
  · rw [puts, Table.get?_insert] at found another
    split at found <;> split at another
    next here there => exact here.trans there.symm
    next here there =>
      cases found
      exact here.trans (own another same)
    next here there =>
      cases another
      exact (own found same.symm).symm.trans there.symm
    next => exact numbered.apart found another same

theorem of_clients_eq (numbered : session.Numbered) (clients : after.clients = session.clients)
    (made : session.made ≤ after.made) : after.Numbered := by
  refine ⟨fun found => ?_, fun found another => ?_⟩
  · rw [clients] at found
    exact Nat.lt_of_lt_of_le (numbered.below found) made
  · rw [clients] at found another
    exact numbered.apart found another

/-- A client that takes the place of another with its number is told apart as that was. -/
theorem alter (numbered : session.Numbered) {before : Client Endpoint}
    (found : session.clients.get? name = some before)
    (puts : after.clients = session.clients.insert name client)
    (same : client.serial = before.serial) (made : after.made = session.made) : after.Numbered := by
  refine numbered.put puts (Nat.le_of_eq made.symm) ?_ fun another equal => ?_
  · rw [same, made]
    exact numbered.below found
  · exact numbered.apart found another (same.symm.trans equal)

theorem add (numbered : session.Numbered) (new : client.serial = session.made)
    (puts : after.clients = session.clients.insert name client)
    (made : after.made = session.made + 1) : after.Numbered := by
  refine numbered.put puts (by omega) (by omega) fun another equal => ?_
  have below := numbered.below another
  omega

theorem remove (numbered : session.Numbered) (erased : after.clients = session.clients.erase name)
    (made : after.made = session.made) : after.Numbered := by
  have still {key : String} {held : Client Endpoint} (found : after.clients.get? key = some held) :
      session.clients.get? key = some held := by
    rw [erased, Table.get?_erase] at found
    exact (Option.ite_none_left_eq_some.mp found).2
  exact ⟨fun found => made ▸ numbered.below (still found),
    fun found another => numbered.apart (still found) (still another)⟩

theorem step {backend : Backend Settings Endpoint Service Action Request Answer}
    (numbered : session.Numbered) {step : Step Settings Action} {result : StepResult Endpoint}
    (deals : session.Deals backend step result after) : after.Numbered := by
  cases deals with
  | unknown => exact numbered
  | unprepared _ clients made | spared _ clients made =>
    exact numbered.of_clients_eq clients (Nat.le_of_eq made.symm)
  | unbuilt _ _ clients made => exact numbered.of_clients_eq clients (by omega)
  | built _ _ puts made => exact numbered.add rfl puts made
  | copied _ puts made => exact numbered.add rfl puts made
  | closed found puts made | renamed found puts made => exact numbered.alter found puts rfl made
  | reconnected found _ puts made => exact numbered.alter found puts rfl made
  | dropped _ erased made => exact numbered.remove erased made

/-- The client of a serial number is found under the one name that it has. -/
theorem clientOf?_eq_some_iff (numbered : session.Numbered) {serial : Nat} :
    session.clientOf? serial = some client ↔
      client.serial = serial ∧ ∃ name, session.clients.get? name = some client := by
  simp only [Session.clientOf?, Option.map_eq_some_iff, Prod.exists, exists_eq_right]
  constructor
  · rintro ⟨name, first⟩
    exact ⟨of_decide_eq_true (List.find?_some first :),
      name, Table.get?_eq_some_iff.mpr (List.mem_of_find?_eq_some first)⟩
  · rintro ⟨rfl, name, found⟩
    have member := Table.get?_eq_some_iff.mp found
    have present : (session.clients.rows.find? fun row =>
        row.2.serial = client.serial).isSome = true :=
      List.find?_isSome.mpr ⟨_, member, decide_eq_true rfl⟩
    obtain ⟨⟨other, twin⟩, first⟩ := Option.isSome_iff_exists.mp present
    have another := Table.get?_eq_some_iff.mpr (List.mem_of_find?_eq_some first)
    have same : twin.serial = client.serial := of_decide_eq_true (List.find?_some first :)
    obtain rfl := numbered.apart another found same
    obtain rfl := Option.some.inj (another.symm.trans found)
    exact ⟨other, first⟩

theorem clientOf?_serial (numbered : session.Numbered)
    (found : session.clients.get? name = some client) :
    session.clientOf? client.serial = some client :=
  numbered.clientOf?_eq_some_iff.mpr ⟨rfl, name, found⟩

/-- A client that is not put under a name is there afterwards if it was there before and did not
have the name. -/
theorem clientOf?_elsewhere (numbered : session.Numbered) (later : after.Numbered) {serial : Nat}
    (same : ∀ key, key ≠ name → after.clients.get? key = session.clients.get? key)
    (other : ∀ held, after.clients.get? name = some held → held.serial ≠ serial) :
    after.clientOf? serial =
      if (session.clients.get? name).any (·.serial = serial) then none
      else session.clientOf? serial := by
  apply Option.ext
  intro client
  rw [later.clientOf?_eq_some_iff]
  split
  next displaced =>
    obtain ⟨holder, held, own⟩ := (Option.any_eq_true ..).mp displaced
    simp only [reduceCtorEq, iff_false]
    rintro ⟨rfl, key, found⟩
    by_cases here : key = name
    · exact other client (here ▸ found) rfl
    · rw [same key here] at found
      exact here (numbered.apart found held (of_decide_eq_true own).symm)
  next kept =>
    rw [numbered.clientOf?_eq_some_iff]
    refine and_congr_right fun own => exists_congr fun key => ?_
    by_cases here : key = name
    · subst here
      refine ⟨fun found => absurd own (other client found), fun found => ?_⟩
      exact absurd ((Option.any_eq_true ..).mpr ⟨client, found, decide_eq_true own⟩) kept
    · rw [same key here]

theorem clientOf?_put (numbered : session.Numbered) (later : after.Numbered)
    (puts : after.clients = session.clients.insert name client) (serial : Nat) :
    after.clientOf? serial =
      if client.serial = serial then some client
      else if (session.clients.get? name).any (·.serial = serial) then none
      else session.clientOf? serial := by
  split
  next own =>
    refine later.clientOf?_eq_some_iff.mpr ⟨own, name, ?_⟩
    rw [puts, Table.get?_insert, if_pos rfl]
  next apart =>
    refine numbered.clientOf?_elsewhere later (fun key here => ?_) fun held found => ?_
    · rw [puts, Table.get?_insert, if_neg here]
    · rw [puts, Table.get?_insert, if_pos rfl] at found
      cases found
      exact apart

theorem clientOf?_alter (numbered : session.Numbered) (later : after.Numbered)
    {before : Client Endpoint} (found : session.clients.get? name = some before)
    (puts : after.clients = session.clients.insert name client)
    (same : client.serial = before.serial) (serial : Nat) :
    after.clientOf? serial =
      if client.serial = serial then some client else session.clientOf? serial := by
  rw [numbered.clientOf?_put later puts, found]
  split
  next => rfl
  next apart => simp [← same, apart]

theorem clientOf?_erase (numbered : session.Numbered) (later : after.Numbered)
    (found : session.clients.get? name = some client)
    (erased : after.clients = session.clients.erase name) (serial : Nat) :
    after.clientOf? serial =
      if client.serial = serial then none else session.clientOf? serial := by
  have elsewhere : after.clientOf? serial =
      if (session.clients.get? name).any (·.serial = serial) then none
      else session.clientOf? serial := by
    refine numbered.clientOf?_elsewhere later (fun key here => ?_) fun held present => ?_
    · rw [erased, Table.get?_erase, if_neg here]
    · rw [erased, Table.get?_erase, if_pos rfl] at present
      cases present
  rw [elsewhere, found]
  simp

theorem clientOf?_congr (clients : after.clients = session.clients) (serial : Nat) :
    after.clientOf? serial = session.clientOf? serial := by
  unfold Session.clientOf?
  rw [clients]

end Session.Numbered

end Sessions

end Leasehold
