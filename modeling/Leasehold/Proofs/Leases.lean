/-
This file proves which lease a refresh arms. The lease of a lock is set for certain by a call that
takes the lock, and by one that refreshes it with a lease of its own, whatever comes of that. A call
that was refused for its lease or its client while it tried to take the lock sets nothing. After one
that the store refused it is left open which lease the lock has: the one from before, or that of the
call. A refresh that succeeds arms a lease that stands in this sense, and two runs show that it need
not be the lease of a call that succeeded.
-/

import Leasehold.Proofs.ServerSight
import Leasehold.Proofs.StoreSight
import Leasehold.Proofs.Refusals
import Leasehold.Proofs.Talks

namespace Leasehold

/-! ### The leases that stand -/

section Sessions

variable {Settings Endpoint Service Action Request : Type} {Answer : Request → Type}

/-- The leases that stand for the lock of a name after a step: that of the latest call which set it
for certain, and those of later calls that the store refused. -/
def Passage.standing (name : String) (standing : List Duration)
    (passage : Passage Settings Endpoint Service Action) : List Duration :=
  match passage.step, passage.result with
  | .newLock _ made _, .lock _ => if made = name then [.zero] else standing
  | .acquireNew _ made _ lease, .lock _ => if made = name then [lease] else standing
  | .acquire tried lease, .finished => if tried = name then [lease] else standing
  | .acquire tried lease, .failed error =>
    if tried = name ∧ error.isRefusal = false then standing ++ [lease] else standing
  | .refreshFor tried lease, .finished | .refreshFor tried lease, .failed _ =>
    if tried = name then [lease] else standing
  | _, _ => standing

/-- The leases that stand for the lock of a name after a run. -/
def standingLeases (name : String) (past : List (Passage Settings Endpoint Service Action)) :
    List Duration :=
  past.foldl (Passage.standing name) []

theorem standingLeases_concat (name : String)
    (past : List (Passage Settings Endpoint Service Action))
    (passage : Passage Settings Endpoint Service Action) :
    standingLeases name (past ++ [passage]) =
      passage.standing name (standingLeases name past) :=
  List.foldl_concat ..

/-- The locks of a session have leases that stand, and two keys each. -/
structure Leased (past : List (Passage Settings Endpoint Service Action))
    (session : Session Endpoint Service) : Prop where
  stands : ∀ {name lock}, session.locks.get? name = some lock →
    lock.lease ∈ standingLeases name past
  keys : ∀ {name lock}, session.locks.get? name = some lock → lock.keys.data ≠ lock.keys.owner

namespace Leased

variable {past : List (Passage Settings Endpoint Service Action)}
  {session after : Session Endpoint Service}

theorem start (service : Service) (supply : Nat → String) :
    Leased ([] : List (Passage Settings Endpoint Service Action))
      (Session.start service supply) :=
  ⟨fun found => (nomatch found), fun found => (nomatch found)⟩

theorem keys_step (leased : Leased past session) {step : Step Settings Action}
    {result : StepResult Endpoint} (handles : session.Handles step result after) {name : String}
    {lock : Lock} (found : after.locks.get? name = some lock) :
    lock.keys.data ≠ lock.keys.owner := by
  obtain ⟨before, held, _, same⟩ | ⟨key, client, resource, _, _, named⟩ := handles.origin found
  · rw [same]
    exact leased.keys held
  · rw [named]
    exact Resource.data_ne_owner ⟨client.space, resource⟩

/-- A lock that is put under a name has one of the leases that stand from then on. -/
theorem stands_put (leased : Leased past session) {put name : String} {lock other : Lock}
    (found : after.locks.get? name = some lock)
    (puts : after.locks = session.locks.insert put other) {standing : List Duration}
    (stands : put = name → other.lease ∈ standing) :
    lock.lease ∈ if put = name then standing else standingLeases name past := by
  rw [puts, Table.get?_insert] at found
  by_cases here : name = put
  · rw [if_pos here] at found
    rw [if_pos here.symm]
    cases found
    exact stands here.symm
  · rw [if_neg here] at found
    rw [if_neg fun same => here same.symm]
    exact leased.stands found

/-- A lock that is put again with the lease that it had has one that stood before. -/
theorem stands_again (leased : Leased past session) {put name : String} {lock before other : Lock}
    (found : after.locks.get? name = some lock) (held : session.locks.get? put = some before)
    (puts : after.locks = session.locks.insert put other) (same : other.lease = before.lease) :
    lock.lease ∈ standingLeases name past := by
  have stands (here : put = name) : other.lease ∈ standingLeases name past := by
    subst here
    rw [same]
    exact leased.stands held
  have kept := leased.stands_put found puts stands
  rwa [ite_self] at kept

/-- A step sets the lease of a lock as it lets it stand. -/
theorem stands_step (leased : Leased past session) {step : Step Settings Action}
    {result : StepResult Endpoint} (handles : session.Handles step result after) {name : String}
    {lock : Lock} (found : after.locks.get? name = some lock) :
    lock.lease ∈
      Passage.standing name (standingLeases name past) ⟨session, step, result, after⟩ := by
  cases handles with
  | unknown =>
    have stands := leased.stands found
    cases step <;> exact stands
  | untaken same =>
    rw [same] at found
    exact leased.stands found
  | made _ puts => exact leased.stands_put found puts fun _ => List.mem_singleton_self _
  | taken _ puts => exact leased.stands_put found puts fun _ => List.mem_singleton_self _
  | filled held puts => exact leased.stands_again found held puts rfl
  | refused held refuses puts =>
    simp only [Passage.standing, refuses, Bool.true_eq_false, and_false, if_false]
    exact leased.stands_again found held puts rfl
  | @tried key lease before result _ held admitted puts =>
    -- the lease is set in any case, but stands for certain only if the attempt succeeded
    cases result with
    | ok done => exact leased.stands_put found puts fun _ => List.mem_singleton_self _
    | error error =>
      have answered : error.isRefusal = false :=
        Bool.eq_false_iff.mpr fun refuses => nomatch (if_pos refuses).symm.trans admitted
      simp only [Session.resultOf, Passage.standing, answered, and_true]
      exact leased.stands_put found puts fun _ => List.mem_concat_self
  | @renewed key lease before result _ held puts =>
    cases result <;> exact leased.stands_put found puts fun _ => List.mem_singleton_self _
  | spared none same =>
    rw [same] at found
    have stands := leased.stands found
    cases step with
    | newLock | acquireNew | setPayload | acquire | refreshFor => cases none
    | _ => exact stands

variable [Inhabited Endpoint]
  {backend : Backend Settings Endpoint Service Action Request Answer}

theorem step (unrefusing : backend.dialect.Unrefusing) (leased : Leased past session)
    (step : Step Settings Action) :
    Leased (past ++ [session.passage backend step]) (session.step backend step).service := by
  have handles := session.handles unrefusing step
  refine ⟨fun found => ?_, leased.keys_step handles⟩
  rw [standingLeases_concat]
  exact leased.stands_step handles found

theorem run (unrefusing : backend.dialect.Unrefusing) (service : Service)
    (supply : Nat → String) (steps : List (Step Settings Action)) :
    let session : Session Endpoint Service := Session.start service supply
    Leased (session.passages backend steps) (session.after backend steps) :=
  Session.passages_induction Leased (start service supply)
    (fun _ _ taken leased => leased.step unrefusing taken) steps

end Leased

/-! ### Refreshing -/

/-- A refresh that succeeds is made for a connected client and a valid lease, and the store agrees
to it. -/
theorem Dialect.exists_of_refreshLock (dialect : Dialect Request Answer)
    (perform : (request : Request) → Service → Answer request × Service)
    {client : Option (Client Endpoint)} {lock : Lock} {service : Service}
    (refreshed : ((dialect.refreshLock client lock).run perform service).result = .ok ()) :
    ∃ holder millis, client = some holder ∧ lock.lease.leaseMillis = .ok millis ∧
      ((dialect.refresh lock holder.id millis).run perform service).result = .ok () ∧
      ((dialect.refreshLock client lock).run perform service).service =
        ((dialect.refresh lock holder.id millis).run perform service).service := by
  have verdict := checked lock.lease client
  generalize refusal? (some lock.lease) client = refused at verdict
  unfold Dialect.refreshLock at refreshed
  rw [Program.run] at refreshed
  cases verdict with
  | short below =>
    rw [below] at refreshed
    cases refreshed
  | unconnected long absent =>
    rw [long, absent] at refreshed
    cases refreshed
  | @passed millis holder long present connected =>
    rw [long, connected] at refreshed
    refine ⟨holder, millis, present, long, refreshed, ?_⟩
    unfold Dialect.refreshLock
    rw [Program.run, long, connected]

theorem Session.eq_ok_of_resultOf {result : Except LockError Unit}
    (finished : (resultOf result : StepResult Endpoint) = .finished) : result = .ok () := by
  cases result with
  | ok done => rfl
  | error error => cases finished

/-- What a refresh of a session that succeeded comes from. -/
theorem Session.exists_of_refresh [Inhabited Endpoint]
    {backend : Backend Settings Endpoint Service Action Request Answer}
    {session : Session Endpoint Service} {name : String}
    (refreshed : (session.step backend (.refresh name)).result = .finished) :
    ∃ lock client millis, session.locks.get? name = some lock ∧
      session.clientOf? lock.client = some client ∧ lock.lease.leaseMillis = .ok millis ∧
      let outcome := (backend.dialect.refresh lock client.id millis).run
        (backend.perform session.now client.endpoint) session.service
      outcome.result = .ok () ∧
        (session.step backend (.refresh name)).service.service = outcome.service := by
  cases found : session.locks.get? name with
  | none =>
    simp only [Session.step, Session.onLock, found] at refreshed
    cases refreshed
  | some lock =>
    have service : (session.step backend (.refresh name)).service.service =
        (session.runFor backend lock fun client =>
          backend.dialect.refreshLock client lock).service.service := by
      simp only [Session.step, Session.onLock, found]
    simp only [Session.step, Session.onLock, found] at refreshed
    obtain ⟨client, millis, present, long, agreed, left⟩ :=
      backend.dialect.exists_of_refreshLock _ (eq_ok_of_resultOf refreshed)
    have told : session.runFor backend lock (fun client =>
        backend.dialect.refreshLock client lock) =
          session.run backend client.endpoint
            (backend.dialect.refreshLock (some client) lock) := by
      rw [Session.runFor, present]
      rfl
    rw [present] at agreed left
    rw [told] at service
    exact ⟨lock, client, millis, rfl, present, long, agreed, service.trans left⟩

end Sessions

/-! ### What a refresh arms -/

/-- A lock that is given a new deadline has it. -/
theorem Entries.get?_rearmIfHeld {keys : KeyPair} (apart : keys.data ≠ keys.owner) {id : String}
    {deadline : Nat} {payload : String} {entries : Entries}
    (done : (entries.rearmIfHeld keys id deadline payload).1 = true) :
    (entries.rearmIfHeld keys id deadline payload).2.get? keys.owner =
      some ⟨id, some deadline⟩ := by
  unfold rearmIfHeld at done ⊢
  split at done
  next held =>
    rw [if_pos held, Table.get?_insert, if_neg apart.symm, Table.get?_insert, if_pos rfl]
  next => cases done

namespace Store

theorem get?_perform_refresh {now : Nat} {keys : KeyPair} (apart : keys.data ≠ keys.owner)
    {id : String} {lease : Duration} {payload : String} {store : Store}
    (done : (store.perform now (.refreshIfOwner keys id lease payload)).1 = .ok true) :
    (store.perform now (.refreshIfOwner keys id lease payload)).2.entries.get? keys.owner =
      some ⟨id, some (deadline now lease)⟩ := by
  unfold Store.perform at done ⊢
  split at done
  next available =>
    rw [if_pos available]
    exact Entries.get?_rearmIfHeld apart (Except.ok.inj done)
  next => cases done

/-- A refresh that succeeded has armed the lease of the lock. -/
theorem get?_refreshing {now number : Nat} {lock : Lock} (apart : lock.keys.data ≠ lock.keys.owner)
    {id : String} {stores : Stores}
    (refreshed : ((refreshing lock id).run (Stores.perform now number) stores).result = .ok ()) :
    (((refreshing lock id).run (Stores.perform now number) stores).service.get
        number).entries.get? lock.keys.owner =
      some ⟨id, some (deadline now lock.lease)⟩ := by
  unfold refreshing at refreshed ⊢
  rw [Program.run] at refreshed ⊢
  split at refreshed
  next => cases refreshed
  next => cases refreshed
  next done =>
    show ((stores.put number _).get number).entries.get? _ = _
    rw [Stores.get_put, if_pos rfl]
    exact get?_perform_refresh apart done

end Store

/-- A refresh of a lock of a store within the process arms a lease: the owner key then holds the
client, until that lease runs out. -/
def Stores.Arms (session : Session Nat Stores) (name : String) (lease : Duration) : Prop :=
  ∃ lock client, session.locks.get? name = some lock ∧
    session.clientOf? lock.client = some client ∧
    ((session.step Stores.backend (.refresh name)).service.service.get
      client.endpoint).entries.get? lock.keys.owner =
        some ⟨client.id, some (Store.deadline session.now lease)⟩

theorem Stores.arms {session : Session Nat Stores} {name : String}
    (refreshed : (session.step Stores.backend (.refresh name)).result = .finished)
    {lock : Lock} (found : session.locks.get? name = some lock)
    (apart : lock.keys.data ≠ lock.keys.owner) : Stores.Arms session name lock.lease := by
  obtain ⟨same, client, millis, held, present, long, agreed, left⟩ :=
    Session.exists_of_refresh refreshed
  obtain rfl := Option.some.inj (held.symm.trans found)
  refine ⟨same, client, found, present, ?_⟩
  rw [left]
  exact Store.get?_refreshing apart agreed

namespace Server

/-- The next command that the server receives is answered by the server itself. -/
def AnswersItself (server : Server) : Prop :=
  ∀ answer, server.prepared.head? ≠ some (.fixed answer)

theorem AnswersItself.exists_answerOwn {server : Server} (itself : server.AnswersItself) (now : Nat)
    (command : Command) :
    ∃ received prepared, server.answer now command =
      { server with received, prepared }.answerOwn now command := by
  obtain ⟨entries, failing, failingWrites, prepared, received, dialled⟩ := server
  cases prepared with
  | nil => exact ⟨_, [], rfl⟩
  | cons first rest =>
    cases first with
    | own => exact ⟨_, rest, rfl⟩
    | fixed answer => exact absurd rfl (itself answer)

theorem get?_answerOwn_refresh {now : Nat} {keys : KeyPair} (apart : keys.data ≠ keys.owner)
    {id : String} {millis : Nat} {payload : String} {server : Server}
    (done : succeeded (server.answerOwn now (.refresh keys id millis payload)).1 = .ok true) :
    (server.answerOwn now (.refresh keys id millis payload)).2.entries.get? keys.owner =
      some ⟨id, some (deadline now millis)⟩ := by
  unfold answerOwn at done ⊢
  split at done
  next => cases done
  next spared =>
    rw [if_neg spared]
    exact Entries.get?_rearmIfHeld apart (Except.ok.inj ((succeeded_verdict _).symm.trans done))

theorem succeeded_of_refreshing {now millis : Nat} {endpoint : Endpoint} {lock : Lock}
    {id : String} {server : Server}
    (refreshed : ((refreshing lock id millis).run (perform now endpoint) server).result = .ok ()) :
    succeeded (server.answer now (.refresh lock.keys id millis lock.payload)).1 = .ok true ∧
      ((refreshing lock id millis).run (perform now endpoint) server).service =
        (server.answer now (.refresh lock.keys id millis lock.payload)).2 := by
  unfold refreshing at refreshed ⊢
  rw [Program.run] at refreshed ⊢
  split at refreshed
  next => cases refreshed
  next => cases refreshed
  next done => exact ⟨done, rfl⟩

/-- A refresh of a lock of a server arms a lease: the server is told the lease in milliseconds, and
unless its answer is laid in the owner key then holds the client, until the lease runs out. -/
def Arms (session : Session Endpoint Server) (name : String) (lease : Duration) : Prop :=
  ∃ lock client millis, session.locks.get? name = some lock ∧
    session.clientOf? lock.client = some client ∧ lease.leaseMillis = .ok millis ∧
    let after := (session.step backend (.refresh name)).service.service
    after.received =
        session.service.received ++ [.refresh lock.keys client.id millis lock.payload] ∧
      (session.service.AnswersItself → after.entries.get? lock.keys.owner =
        some ⟨client.id, some (deadline session.now millis)⟩)

theorem arms {session : Session Endpoint Server} {name : String}
    (refreshed : (session.step backend (.refresh name)).result = .finished)
    {lock : Lock} (found : session.locks.get? name = some lock)
    (apart : lock.keys.data ≠ lock.keys.owner) : Arms session name lock.lease := by
  obtain ⟨same, client, millis, held, present, long, agreed, left⟩ :=
    Session.exists_of_refresh refreshed
  obtain rfl := Option.some.inj (held.symm.trans found)
  obtain ⟨done, answered⟩ := succeeded_of_refreshing agreed
  have after := left.trans answered
  refine ⟨same, client, millis, found, present, long, ?_, fun itself => ?_⟩
  · rw [after]
    exact (received_answer _ _ _).1
  · obtain ⟨received, prepared, own⟩ :=
      itself.exists_answerOwn session.now (.refresh same.keys client.id millis same.payload)
    rw [own] at done after
    rw [after]
    exact get?_answerOwn_refresh apart done

end Server

/-! ### Runs -/

/-- After every run, at either kind of store, a refresh that succeeds arms a lease that stands. -/
theorem refresh_arms_standing_lease :
    (∀ (stores : Stores) (supply : Nat → String) (steps : List (Step Nat Stores.Action))
      (name : String),
      let past := (Session.start stores supply).passages Stores.backend steps
      let session := (Session.start stores supply).after Stores.backend steps
      (session.step Stores.backend (.refresh name)).result = .finished →
        ∃ lease ∈ standingLeases name past, Stores.Arms session name lease) ∧
    ∀ (server : Server) (supply : Nat → String)
      (steps : List (Step Server.Settings Server.Action)) (name : String),
      let past := (Session.start server supply).passages Server.backend steps
      let session := (Session.start server supply).after Server.backend steps
      (session.step Server.backend (.refresh name)).result = .finished →
        ∃ lease ∈ standingLeases name past, Server.Arms session name lease := by
  constructor
  · intro stores supply steps name past session refreshed
    have leased : Leased past session := Leased.run Store.unrefusing stores supply steps
    obtain ⟨lock, _, _, found, _⟩ := Session.exists_of_refresh refreshed
    exact ⟨lock.lease, leased.stands found, Stores.arms refreshed found (leased.keys found)⟩
  · intro server supply steps name past session refreshed
    have leased : Leased past session := Leased.run Server.unrefusing server supply steps
    obtain ⟨lock, _, _, found, _⟩ := Session.exists_of_refresh refreshed
    exact ⟨lock.lease, leased.stands found, Server.arms refreshed found (leased.keys found)⟩

/-- A client takes a lock for five milliseconds. -/
def tenancy {Settings Action : Type} (settings : Settings) : List (Step Settings Action) :=
  [.build "a" ⟨some "A", some "app"⟩ settings, .newLock "a" "mine" "job",
    .acquire "mine" (.ofMillis 5)]

/-- The client has taken the lock of a store within the process. -/
def Stores.tenanted : Session Nat Stores :=
  (Session.start .single fun _ => "").after backend (tenancy 0)

/-- The client has taken the lock of a server. -/
def Server.tenanted : Session Endpoint Server :=
  (Session.start .empty fun _ => "").after backend
    (tenancy ⟨none, some .loopback, none, none, false⟩)

theorem refresh_arms_standing_lease_tenancy :
    ((Stores.tenanted.step Stores.backend (.refresh "mine")).result = .finished ∧
        Stores.Arms Stores.tenanted "mine" (.ofMillis 5)) ∧
      (Server.tenanted.step Server.backend (.refresh "mine")).result = .finished ∧
        Server.Arms Server.tenanted "mine" (.ofMillis 5) := by
  refine ⟨⟨rfl, ?_⟩, rfl, ?_⟩
  · obtain ⟨lease, stands, arms⟩ :=
      refresh_arms_standing_lease.1 .single (fun _ => "") (tenancy 0) "mine" rfl
    cases List.mem_singleton.mp stands
    exact arms
  · obtain ⟨lease, stands, arms⟩ :=
      refresh_arms_standing_lease.2 .empty (fun _ => "")
        (tenancy ⟨none, some .loopback, none, none, false⟩) "mine" rfl
    cases List.mem_singleton.mp stands
    exact arms

/-! ### Leases of calls that failed -/

section Grants

variable {Settings Endpoint Service Action : Type}

/-- The lease for which the lock of a name was last taken or refreshed with success, after a
step. -/
def Passage.granted (name : String) (granted : Option Duration)
    (passage : Passage Settings Endpoint Service Action) : Option Duration :=
  match passage.step, passage.result with
  | .newLock _ made _, .lock _ => if made = name then none else granted
  | .acquireNew _ made _ lease, .lock _ => if made = name then some lease else granted
  | .acquire tried lease, .finished | .refreshFor tried lease, .finished =>
    if tried = name then some lease else granted
  | _, _ => granted

/-- The lease for which the lock of a name was last taken or refreshed with success in a run. -/
def grantedLease? (name : String) (past : List (Passage Settings Endpoint Service Action)) :
    Option Duration :=
  past.foldl (Passage.granted name) none

end Grants

namespace Stores

/-- A refresh arms no lease with another deadline. -/
theorem Arms.not_of_ne {session : Session Nat Stores} {name : String} {one other : Duration}
    (arms : Arms session name one)
    (differ : Store.deadline session.now one ≠ Store.deadline session.now other) :
    ¬ Arms session name other := by
  obtain ⟨lock, client, found, present, entry⟩ := arms
  rintro ⟨_, _, named, owned, again⟩
  obtain rfl := Option.some.inj (found.symm.trans named)
  obtain rfl := Option.some.inj (present.symm.trans owned)
  have same := entry.symm.trans again
  simp only [Option.some.injEq, Entry.mk.injEq] at same
  exact differ same.2

/-- After a run a refresh of a lock arms a lease that was asked for in a call that failed, and not
the lease that is due, for which the lock was last taken or refreshed with success. -/
structure ArmsFailed (steps : List (Step Nat Action)) (name : String) (call : Step Nat Action)
    (error : LockError) (asked due : Duration) : Prop where
  failed : ∃ passage ∈ (Session.start .single fun _ => "").passages backend steps,
    passage.step = call ∧ passage.result = .failed error
  granted : grantedLease? name ((Session.start .single fun _ => "").passages backend steps) =
    some due
  refreshed : (((Session.start .single fun _ => "").after backend steps).step backend
    (.refresh name)).result = .finished
  arms : Arms ((Session.start .single fun _ => "").after backend steps) name asked
  spares : ¬ Arms ((Session.start .single fun _ => "").after backend steps) name due

/-- The store cannot be reached while a lock is to be refreshed for the shortest lease. -/
def outage : List (Step Nat Action) :=
  tenancy 0 ++ [.interfere (.setAvailable 0 false), .refreshFor "mine" .shortestLease,
    .interfere (.setAvailable 0 true)]

/-- The client that has the lock takes it once more, and for longer. -/
def insistence : List (Step Nat Action) := tenancy 0 ++ [.acquire "mine" (.ofMillis 9)]

/-- The lease that a refresh arms need not be that of a call that succeeded. A call that failed to
refresh the lock with a lease of its own has set it all the same, and so has a call that could not
take the lock because it is held. -/
theorem failed_lease_armed :
    ArmsFailed outage "mine" (.refreshFor "mine" .shortestLease) (.store (.fault .unavailable))
        .shortestLease (.ofMillis 5) ∧
      ArmsFailed insistence "mine" (.acquire "mine" (.ofMillis 9)) (.heldByOtherClient "job")
        (.ofMillis 9) (.ofMillis 5) := by
  constructor
  · have arms : Arms ((Session.start .single fun _ => "").after backend outage) "mine"
        .shortestLease :=
      ⟨_, _, rfl, rfl, rfl⟩
    exact ⟨⟨_, List.mem_of_getElem? (show _[4]? = _ from rfl), rfl, rfl⟩, rfl, rfl, arms,
      arms.not_of_ne (by decide)⟩
  · have arms : Arms ((Session.start .single fun _ => "").after backend insistence) "mine"
        (.ofMillis 9) :=
      ⟨_, _, rfl, rfl, rfl⟩
    exact ⟨⟨_, List.mem_of_getElem? (show _[3]? = _ from rfl), rfl, rfl⟩, rfl, rfl, arms,
      arms.not_of_ne (by decide)⟩

end Stores

end Leasehold
