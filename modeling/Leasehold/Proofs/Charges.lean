/-
This file keeps account of the requests that stores within the process count. What a step of a
session charges to a store can be told from the step and from what it came to: one request for each
client that is connected, none for a call that is refused for its lease or its client, one for any
other operation on a lock, and for an attempt to take a lock as many as it got ahead with. What a
store counts in a run is the sum of these charges, and a step that charges nothing to a store leaves
its live entries alone.
-/

import Leasehold.Proofs.Refusals
import Leasehold.Proofs.StoreSight
import Leasehold.Proofs.Talks

namespace Leasehold

/-! ### Charges -/

/-- The requests of an attempt to take a lock that came to something: the owner key, then the
payload, then the owner key given back. -/
def StepResult.attempts {Endpoint : Type} : StepResult Endpoint → Nat
  | .finished | .lock _ => 2
  | .failed (.heldByOtherClient _) | .failed (.store (.fault .unavailable)) => 1
  | .failed (.store (.fault .writeRejected)) => 3
  | _ => 0

/-- The requests that a step makes which comes to something. -/
def Step.requests {Settings Action Endpoint : Type} (result : StepResult Endpoint) :
    Step Settings Action → Nat
  | .build .. | .reconnect _ => 1
  | .acquire .. | .acquireNew .. => result.attempts
  | .release _ | .refresh _ | .refreshFor .. | .inspect _ => if result.refusal?.isSome then 0 else 1
  | .copy .. | .close _ | .drop _ | .setId .. | .newLock .. | .setPayload .. | .advance _
  | .interfere _ => 0

namespace Stores

variable {now number : Nat} {stores after : Stores}

/-- The store that a step makes its requests to: that of the client it is about. -/
def asked? (session : Session Nat Stores) : Step Nat Action → Option Nat
  | .build _ _ number => some number
  | .reconnect name | .acquireNew name .. => (session.clients.get? name).map (·.endpoint)
  | .acquire name _ | .release name | .refresh name | .refreshFor name _ | .inspect name =>
    ((session.locks.get? name).bind fun lock => session.clientOf? lock.client).map (·.endpoint)
  | .copy .. | .close _ | .drop _ | .setId .. | .newLock .. | .setPayload .. | .advance _
  | .interfere _ => none

/-- What a step that comes to something charges to the store of a number. -/
def charge (session : Session Nat Stores) (number : Nat) (step : Step Nat Action)
    (result : StepResult Nat) : Nat :=
  if asked? session step = some number then step.requests result else 0

/-! ### Programs -/

/-- The store of a number counts so many requests more. If it counts none, it is as it was. -/
structure Spent (number count : Nat) (before after : Stores) : Prop where
  operations : (after.get number).operations =
    (before.get number).operations + UInt64.ofNat count
  idle : count = 0 → after.get number = before.get number

theorem Spent.of_eq (same : after.get number = stores.get number) :
    Spent number 0 stores after :=
  ⟨(congrArg Store.operations same).trans (UInt64.add_zero _).symm, fun _ => same⟩

theorem operations_perform (request : Store.Request) :
    ((stores.perform now number request).2.get number).operations =
      (stores.get number).operations + 1 := by
  simp only [perform, get_put, if_pos, Store.perform]
  split <;> rfl

/-- A program charges its store with the requests that it makes, and no other store. -/
theorem run_spent {Result : Type} (program : Store.Steps Result) (now endpoint number : Nat)
    (stores : Stores) :
    Spent number
      (if endpoint = number then (program.talk (perform now endpoint) stores).length else 0)
      stores (program.run (perform now endpoint) stores).service := by
  by_cases same : endpoint = number
  · subst same
    rw [if_pos rfl]
    induction program generalizing stores with
    | done result => exact .of_eq rfl
    | note event next inductionHypothesis => exact inductionHypothesis stores
    | ask request next inductionHypothesis =>
      obtain ⟨operations, -⟩ := inductionHypothesis
        (perform now endpoint request stores).1 (perform now endpoint request stores).2
      refine ⟨?_, nofun⟩
      rw [Program.run_ask, operations, operations_perform, Program.talk, List.length_cons,
        UInt64.ofNat_add, UInt64.add_assoc, UInt64.add_comm 1]
      rfl
  · rw [if_neg same]
    exact .of_eq ((run_shows program now endpoint stores).2.others number (Ne.symm same))

/-! ### Dialogues -/

section Dialogues

variable (perform : (request : Store.Request) → Stores → request.Answer × Stores)

theorem length_talk_connecting : (Store.connecting.talk perform stores).length = 1 := by
  rw [Store.connecting, Program.talk]
  rcases (perform .ping stores).1 with fault | done <;> rfl

theorem talk_closing (connected : Bool) :
    (Store.dialect.closing connected).talk perform stores = [] := by
  cases connected <;> rfl

theorem length_talk_reconnect (client : Client Nat) :
    ((Store.dialect.reconnect client).talk perform stores).length = 1 := by
  rw [Dialect.talk_reconnect, Dialect.redialling, Program.talk_andThen, talk_closing]
  exact length_talk_connecting perform

theorem length_talk_releasing (lock : Lock) (id : String) :
    ((Store.releasing lock id).talk perform stores).length = 1 := by
  rw [Store.releasing, Program.talk]
  rcases (perform (.releaseIfOwner lock.keys id) stores).1 with fault | _ | _ <;> rfl

theorem length_talk_refreshing (lock : Lock) (id : String) :
    ((Store.refreshing lock id).talk perform stores).length = 1 := by
  rw [Store.refreshing, Program.talk]
  rcases (perform (.refreshIfOwner lock.keys id lock.lease lock.payload) stores).1 with
    fault | _ | _ <;> rfl

theorem length_talk_inspecting (lock : Lock) :
    ((Store.inspecting lock).talk perform stores).length = 1 := by
  rw [Store.inspecting, Program.talk]
  rcases (perform (.read lock.keys) stores).1 with fault | reading <;> rfl

/-! ### Calls -/

variable (client : Option (Client Nat)) (lock : Lock)

theorem length_talk_releaseLock :
    ((Store.dialect.releaseLock client lock).talk perform stores).length =
      if (refusal? none client).isSome then 0 else 1 := by
  unfold Dialect.releaseLock
  obtain ⟨absent, refused⟩ | ⟨found, -, connected, admitted⟩ := refusal?_none client
  · simp [absent, refused, Program.talk]
  · simp only [connected, admitted]
    exact length_talk_releasing perform lock found.id

theorem length_talk_inspectLock :
    ((Store.dialect.inspectLock client lock).talk perform stores).length =
      if (refusal? none client).isSome then 0 else 1 := by
  unfold Dialect.inspectLock
  obtain ⟨absent, refused⟩ | ⟨found, -, connected, admitted⟩ := refusal?_none client
  · simp [absent, refused, Program.talk]
  · simp only [connected, admitted]
    exact length_talk_inspecting perform lock

theorem length_talk_refreshLock :
    ((Store.dialect.refreshLock client lock).talk perform stores).length =
      if (refusal? (some lock.lease) client).isSome then 0 else 1 := by
  have verdict := checked lock.lease client
  generalize refusal? (some lock.lease) client = refused at verdict ⊢
  unfold Dialect.refreshLock
  cases verdict with
  | short below => simp [below, Program.talk]
  | unconnected long absent => simp [long, absent, Program.talk]
  | @passed millis found long present connected =>
    simp only [long, connected]
    exact length_talk_refreshing perform lock found.id

theorem length_talk_refreshLockFor (lease : Duration) :
    ((Store.dialect.refreshLockFor client lock lease).talk perform stores).length =
      if (refusal? (some lease) client).isSome then 0 else 1 := by
  unfold Dialect.refreshLockFor
  rw [Program.talk, Program.talk_map]
  exact length_talk_refreshLock perform client { lock with lease }

end Dialogues

/-! ### Attempts -/

/-- A store fails a request only for what its switches are set to. -/
theorem perform_cases (now number : Nat) (stores : Stores) (request : Store.Request) :
    (∃ fault, (stores.perform now number request).1 = .error fault ∧
        (stores.get number).switches.fault? request.isPlain = some fault) ∨
      ∃ value, (stores.perform now number request).1 = .ok value ∧
        (stores.get number).switches.fault? request.isPlain = none := by
  obtain ⟨answered, -⟩ := Shows.perform (shows_seen now number stores) request
  rw [answered]
  cases struck : (stores.get number).switches.fault? request.isPlain with
  | none => exact Or.inr ⟨_, congrArg Prod.fst (Sight.perform_of_none struck), rfl⟩
  | some fault => exact Or.inl ⟨fault, congrArg Prod.fst (Sight.perform_of_fault struck), rfl⟩

theorem switches_perform (request : Store.Request) :
    ((stores.perform now number request).2.get number).switches =
      (stores.get number).switches :=
  (Shows.perform (shows_seen now number stores) request).2.shown.switches

/-- How far an attempt to take a lock got can be told from what it came to. -/
theorem length_talk_acquiring (lock : Lock) (id : String) (lease : Duration) :
    ((Store.acquiring lock id lease).talk (Stores.perform now number) stores).length =
      (Session.resultOf ((Store.acquiring lock id lease).run (Stores.perform now number)
        stores).result : StepResult Nat).attempts := by
  rw [Store.acquiring, Program.talk, Program.run_ask]
  have kept := @switches_perform now number stores (.setIfAbsent lock.keys.owner id lease)
  rcases perform_cases now number stores (.setIfAbsent lock.keys.owner id lease) with
    ⟨fault, failed, struck⟩ | ⟨taken, answered, spared⟩
  · -- failing writes are no concern of a conditional one
    obtain rfl : fault = .unavailable := by
      simp only [Store.Switches.fault?, Store.Request.isPlain] at struck
      split at struck <;> simp_all
    rw [failed]
    rfl
  rw [answered]
  cases taken with
  | false => rfl
  | true =>
    dsimp only
    rw [Program.talk, Program.run_ask]
    generalize (stores.perform now number (.setIfAbsent lock.keys.owner id lease)).2 = after
      at kept ⊢
    rcases perform_cases now number after (.set lock.keys.data lock.payload) with
      ⟨fault, failed, struck⟩ | ⟨written, answered, -⟩
    · -- a store that answered the first request is still available
      obtain rfl : fault = .writeRejected := by
        rw [kept] at struck
        simp only [Store.Switches.fault?, Store.Request.isPlain] at spared struck
        split at struck <;> simp_all
      rw [failed]
      dsimp only
      rw [Store.rollingBack, Program.talk, Program.run_ask]
      cases (Stores.perform now number (.releaseIfOwner lock.keys id)
        (after.perform now number (.set lock.keys.data lock.payload)).2).1 <;> rfl
    · rw [answered]
      rfl

theorem length_talk_acquireLock (client : Option (Client Nat)) (lock : Lock) (lease : Duration) :
    ((Store.dialect.acquireLock client lock lease).talk (Stores.perform now number)
        stores).length =
      (Session.resultOf ((Store.dialect.acquireLock client lock lease).run
        (Stores.perform now number) stores).result.1 : StepResult Nat).attempts := by
  have verdict := checked lease client
  generalize refusal? (some lease) client = refused at verdict
  unfold Dialect.acquireLock
  rw [Program.talk, Program.run]
  cases verdict with
  | short below =>
    simp only [below]
    rfl
  | unconnected long absent =>
    simp only [long, absent]
    rfl
  | @passed millis found long present connected =>
    simp only [long, connected]
    rw [Program.talk_map, (Program.run_map _ _ _ _).1]
    exact length_talk_acquiring { lock with lease } found.id lease

/-! ### Steps -/

/-- A step charges a store as can be told from what it came to. If it charges nothing, the live
entries of the store are as they were, but for those that ran out. -/
structure Accounted (number : Nat) (session : Session Nat Stores) (step : Step Nat Action)
    (result : StepResult Nat) (after : Session Nat Stores) : Prop where
  operations : (after.service.get number).operations =
    (session.service.get number).operations + UInt64.ofNat (charge session number step result)
  untouched : charge session number step result = 0 →
    (after.service.get number).entries.seen after.now =
      ((session.service.get number).entries.seen session.now).later after.now

variable {session after : Session Nat Stores} {step : Step Nat Action} {result : StepResult Nat}

theorem Spent.accounted (spent : Spent number (charge session number step result) session.service
    after.service) (same : after.now = session.now) :
    Accounted number session step result after := by
  refine ⟨spent.operations, fun nothing => ?_⟩
  rw [spent.idle nothing]
  exact Entries.seen_later (Nat.le_of_eq same.symm)

/-- A step that leaves alone what a store counts and shows, and charges nothing to it. -/
theorem accounted_of_free (free : step.requests result = 0)
    (operations : (after.service.get number).operations =
      (session.service.get number).operations)
    (seen : (after.service.get number).entries.seen after.now =
      ((session.service.get number).entries.seen session.now).later after.now) :
    Accounted number session step result after := by
  have nothing : charge session number step result = 0 := by
    unfold charge
    rw [free, ite_self]
  refine ⟨?_, fun _ => seen⟩
  rw [operations, nothing]
  exact (UInt64.add_zero _).symm

/-- A run of the program of a client charges the store of that client. -/
theorem spent_run {Result : Type} (session : Session Nat Stores) (endpoint number : Nat)
    (program : Store.Steps Result) {step : Step Nat Action} {result : StepResult Nat}
    (asked : asked? session step = some endpoint)
    (made : (program.talk (perform session.now endpoint) session.service).length =
      step.requests result) :
    Spent number (charge session number step result) session.service
      (session.run backend endpoint program).service.service := by
  have spent := run_spent program session.now endpoint number session.service
  rw [made] at spent
  unfold charge
  simp only [asked, Option.some.injEq]
  exact spent

/-- So does that of a lock, unless the client of the lock is gone: then nothing is requested. -/
theorem spent_runFor {Result : Type} (session : Session Nat Stores) (number : Nat) (lock : Lock)
    (program : Option (Client Nat) → Store.Steps Result) {step : Step Nat Action}
    {result : StepResult Nat}
    (asked : asked? session step = (session.clientOf? lock.client).map (·.endpoint))
    (made : ((program (session.clientOf? lock.client)).talk
      (perform session.now (((session.clientOf? lock.client).map (·.endpoint)).getD default))
      session.service).length = step.requests result)
    (silent : ((program none).talk (perform session.now default) session.service).length = 0) :
    Spent number (charge session number step result) session.service
      (session.runFor backend lock program).service.service := by
  have spent := run_spent (program (session.clientOf? lock.client)) session.now
    (((session.clientOf? lock.client).map (·.endpoint)).getD default) number session.service
  rw [made] at spent
  have charged : charge session number step result =
      if ((session.clientOf? lock.client).map (·.endpoint)).getD default = number then
        step.requests result else 0 := by
    unfold charge
    rw [asked]
    cases found : session.clientOf? lock.client with
    | none =>
      rw [found] at made
      have nothing : step.requests result = 0 := made.symm.trans silent
      rw [nothing, ite_self, ite_self]
    | some client => simp
  rw [charged]
  exact spent

theorem Spent.of_upTo {count other : Nat} {stores after : Stores}
    (spent : Spent number count (stores.upTo other) after) : Spent number count stores after := by
  obtain ⟨operations, idle⟩ := spent
  rw [get_upTo] at operations idle
  exact ⟨operations, idle⟩

theorem isSome_refusal?_none (lease : Option Duration) :
    (refusal? lease (none : Option (Client Nat))).isSome = true := by
  unfold refusal?
  split <;> rfl

/-- An operation on a lock that makes one request unless it is refused is accounted for. -/
theorem accounted_single {Result : Type} (number : Nat) {lock : Lock}
    (program : Option (Client Nat) → Store.Steps Result) {step : Step Nat Action}
    {result : StepResult Nat} {checked : Option Duration}
    (asked : asked? session step = (session.clientOf? lock.client).map (·.endpoint))
    (single : step.requests result = if result.refusal?.isSome then 0 else 1)
    (refused : result.refusal? = refusal? checked (session.clientOf? lock.client))
    (made : ∀ perform client, ((program client).talk perform session.service).length =
      if (refusal? checked client).isSome then 0 else 1)
    (service : after.service = (session.runFor backend lock program).service.service)
    (same : after.now = session.now) :
    Accounted number session step result after := by
  have spent := spent_runFor session number lock program asked
    (by rw [made, single, refused]) (by rw [made, isSome_refusal?_none, if_pos rfl])
  rw [← service] at spent
  exact spent.accounted same

theorem charge_of_unasked (unasked : asked? session step = none) :
    charge session number step result = 0 := by
  rw [charge, unasked]
  rfl

/-- A step that asks no store and leaves the stores alone is accounted for. -/
theorem accounted_unasked (unasked : asked? session step = none) (now : after.now = session.now)
    (service : after.service = session.service) :
    Accounted number session step result after := by
  refine Spent.accounted ?_ now
  rw [charge_of_unasked unasked, service]
  exact .of_eq rfl

theorem asked?_of_absent_client {name : String} (absent : session.clients.get? name = none) :
    (session.clients.get? name).map (·.endpoint) = none := by
  rw [absent, Option.map_none]

theorem asked?_of_absent_lock {name : String} (absent : session.locks.get? name = none) :
    ((session.locks.get? name).bind fun lock => session.clientOf? lock.client).map
      (·.endpoint) = none := by
  rw [absent, Option.bind_none, Option.map_none]

theorem asked?_of_lock {name : String} {lock : Lock}
    (found : session.locks.get? name = some lock) :
    ((session.locks.get? name).bind fun lock => session.clientOf? lock.client).map (·.endpoint) =
      (session.clientOf? lock.client).map (·.endpoint) := by
  rw [found, Option.bind_some]

theorem accounted_build (number : Nat) (session : Session Nat Stores) (name : String)
    (identity : Identity) (settings : Nat) :
    Accounted number session (.build name identity settings)
      (session.step backend (.build name identity settings)).result
      (session.step backend (.build name identity settings)).service := by
  have connected (result : StepResult Nat) :
      Spent number (charge session number (.build name identity settings) result)
        session.service
        (Store.connecting.run (perform session.now settings)
          (session.service.upTo settings)).service := by
    have spent := run_spent Store.connecting session.now settings number
      (session.service.upTo settings)
    rw [length_talk_connecting] at spent
    simp only [charge, asked?, Option.some.injEq]
    exact spent.of_upTo
  refine Session.build_cases (Accounted number session _) name identity settings ?_ ?_ ?_
  · intro error service prepared
    cases prepared
  · intro endpoint service error prepared failed drawn
    cases prepared
    exact (connected _).accounted rfl
  · intro endpoint service prepared opened id drawn
    cases prepared
    exact (connected _).accounted rfl

theorem accounted_acquireNew (number : Nat) (session : Session Nat Stores)
    (name lockName resource : String) (lease : Duration) :
    Accounted number session (.acquireNew name lockName resource lease)
      (session.step backend (.acquireNew name lockName resource lease)).result
      (session.step backend (.acquireNew name lockName resource lease)).service := by
  refine Session.onClient_cases (Accounted number session _)
    (fun absent => accounted_unasked (asked?_of_absent_client absent) rfl rfl)
    fun client found => ?_
  have asked : asked? session (.acquireNew name lockName resource lease) =
      some client.endpoint := congrArg (Option.map _) found
  have made : ((Store.dialect.acquireLock (some client) (client.newLock resource) lease).talk
      (perform session.now client.endpoint) session.service).length = _ :=
    length_talk_acquireLock (some client) (client.newLock resource) lease
  dsimp only
  split
  next error lock failed =>
    refine Spent.accounted (spent_run session client.endpoint number _ asked ?_) rfl
    exact made.trans
      (congrArg (fun taken => (Session.resultOf taken.1 : StepResult Nat).attempts) failed)
  next lock taken =>
    refine Spent.accounted (spent_run session client.endpoint number _ asked ?_) rfl
    exact made.trans
      (congrArg (fun taken => (Session.resultOf taken.1 : StepResult Nat).attempts) taken)

theorem accounted_inspect (number : Nat) (session : Session Nat Stores) (name : String) :
    Accounted number session (.inspect name) (session.step backend (.inspect name)).result
      (session.step backend (.inspect name)).service := by
  refine Session.onLock_cases (Accounted number session _)
    (fun absent => accounted_unasked (asked?_of_absent_lock absent) rfl rfl) fun lock found => ?_
  have refused := Store.unrefusing.inspectLock (perform session.now
    (((session.clientOf? lock.client).map (·.endpoint)).getD default))
    (session.clientOf? lock.client) lock session.service
  dsimp only
  split
  next error failed =>
    refine accounted_single number (fun client => Store.dialect.inspectLock client lock)
      (asked?_of_lock found) rfl ?_
      (fun perform client => length_talk_inspectLock perform client lock) rfl rfl
    rw [← refused]
    exact congrArg refusalOf? failed.symm
  next snapshot viewed =>
    refine accounted_single number (fun client => Store.dialect.inspectLock client lock)
      (asked?_of_lock found) rfl ?_
      (fun perform client => length_talk_inspectLock perform client lock) rfl rfl
    rw [← refused]
    exact congrArg refusalOf? viewed.symm

/-- To interfere with a store is no request, and leaves all entries alone. -/
theorem get_interfere (now : Nat) (stores : Stores) (action : Action) (number : Nat) :
    ((interfere now stores action).get number).operations = (stores.get number).operations ∧
      ((interfere now stores action).get number).entries = (stores.get number).entries := by
  cases action with
  | setAvailable other available =>
    simp only [interfere, get_put]
    split
    next same =>
      subst same
      exact ⟨rfl, rfl⟩
    next => exact ⟨rfl, rfl⟩
  | setWriteFailures other failing =>
    simp only [interfere, get_put]
    split
    next same =>
      subst same
      exact ⟨rfl, rfl⟩
    next => exact ⟨rfl, rfl⟩
  | name other =>
    exact ⟨congrArg Store.operations (get_upTo stores other number),
      congrArg Store.entries (get_upTo stores other number)⟩

/-- Every step is accounted for. -/
theorem accounted (number : Nat) (session : Session Nat Stores) (step : Step Nat Action) :
    Accounted number session step (session.step backend step).result
      (session.step backend step).service := by
  cases step with
  | build name identity settings => exact accounted_build number session name identity settings
  | acquireNew name lockName resource lease =>
    exact accounted_acquireNew number session name lockName resource lease
  | inspect name => exact accounted_inspect number session name
  | reconnect name =>
    refine Session.onClient_cases (Accounted number session _)
      (fun absent => accounted_unasked (asked?_of_absent_client absent) rfl rfl)
      fun client found => ?_
    refine Spent.accounted ?_ rfl
    exact spent_run session client.endpoint number (Store.dialect.reconnect client)
      (congrArg (Option.map _) found) (length_talk_reconnect _ client)
  | close name =>
    refine Session.onClient_cases (Accounted number session _)
      (fun _ => accounted_unasked rfl rfl rfl) fun client found => ?_
    refine Spent.accounted ?_ rfl
    have spent := run_spent (Store.dialect.close client) session.now client.endpoint number
      session.service
    rw [Dialect.talk_close, talk_closing, List.length_nil, ite_self] at spent
    exact spent
  | acquire name lease =>
    refine Session.onLock_cases (Accounted number session _)
      (fun absent => accounted_unasked (asked?_of_absent_lock absent) rfl rfl)
      fun lock found => ?_
    refine Spent.accounted ?_ rfl
    refine spent_runFor session number lock
      (fun client => Store.dialect.acquireLock client lock lease) (asked?_of_lock found)
      (length_talk_acquireLock _ lock lease) ?_
    rw [Dialect.acquireLock, Program.talk]
    cases lease.leaseMillis <;> rfl
  | release name =>
    refine Session.onLock_cases (Accounted number session _)
      (fun absent => accounted_unasked (asked?_of_absent_lock absent) rfl rfl)
      fun lock found => ?_
    refine accounted_single number (fun client => Store.dialect.releaseLock client lock)
      (asked?_of_lock found) rfl ?_
      (fun perform client => length_talk_releaseLock perform client lock) rfl rfl
    rw [StepResult.refusal?_resultOf]
    exact Store.unrefusing.releaseLock _ _ lock session.service
  | refresh name =>
    refine Session.onLock_cases (Accounted number session _)
      (fun absent => accounted_unasked (asked?_of_absent_lock absent) rfl rfl)
      fun lock found => ?_
    refine accounted_single number (fun client => Store.dialect.refreshLock client lock)
      (asked?_of_lock found) rfl ?_
      (fun perform client => length_talk_refreshLock perform client lock) rfl rfl
    rw [StepResult.refusal?_resultOf]
    exact Store.unrefusing.refreshLock _ _ lock session.service
  | refreshFor name lease =>
    refine Session.onLock_cases (Accounted number session _)
      (fun absent => accounted_unasked (asked?_of_absent_lock absent) rfl rfl)
      fun lock found => ?_
    refine accounted_single number
      (fun client => Store.dialect.refreshLockFor client lock lease) (asked?_of_lock found) rfl
      ?_ (fun perform client => length_talk_refreshLockFor perform client lock lease) rfl rfl
    rw [StepResult.refusal?_resultOf]
    exact Store.unrefusing.refreshLockFor _ _ lock session.service lease
  | copy | drop | setId | newLock =>
    exact Session.onClient_cases (Accounted number session _)
      (fun _ => accounted_unasked rfl rfl rfl) fun _ _ => accounted_unasked rfl rfl rfl
  | setPayload =>
    exact Session.onLock_cases (Accounted number session _)
      (fun _ => accounted_unasked rfl rfl rfl) fun _ _ => accounted_unasked rfl rfl rfl
  | advance nanos =>
    exact accounted_of_free rfl rfl (Entries.seen_later (Nat.le_add_right session.now nanos))
  | interfere action =>
    obtain ⟨operations, entries⟩ := get_interfere session.now session.service action number
    refine accounted_of_free rfl operations ?_
    exact (congrArg (Entries.seen session.now) entries).trans
      (Entries.seen_later (Nat.le_refl session.now))

/-! ### Runs -/

/-- What can be done in a session with stores: a step, and two ways to look at how many live
entries a store has. -/
inductive Doing where
  | step (step : Step Nat Action)
  | count (number : Nat)
  | isEmpty (number : Nat)

/-- The session after something was done. -/
def follow (session : Session Nat Stores) : Doing → Session Nat Stores
  | .step step => (session.step backend step).service
  | .count number =>
    let counted := (session.service.get number).count session.now
    { session with service := session.service.put number counted.2 }
  | .isEmpty number =>
    let asked := (session.service.get number).isEmpty session.now
    { session with service := session.service.put number asked.2 }

/-- What something that is done charges to the store of a number. -/
def toll (number : Nat) (session : Session Nat Stores) : Doing → Nat
  | .step step => charge session number step (session.step backend step).result
  | .count _ | .isEmpty _ => 0

/-- The session after a run. -/
def pursue (session : Session Nat Stores) : List Doing → Session Nat Stores
  | [] => session
  | doing :: rest => pursue (follow session doing) rest

/-- What a run charges to the store of a number, one step after the other. -/
def tolls (number : Nat) (session : Session Nat Stores) : List Doing → Nat
  | [] => 0
  | doing :: rest => toll number session doing + tolls number (follow session doing) rest

/-- To look at how many live entries a store has is no request. What is dropped had run out. -/
theorem get_put_count (now : Nat) (stores : Stores) (other number : Nat) :
    let after := stores.put other ((stores.get other).count now).2
    (after.get number).operations = (stores.get number).operations ∧
      (after.get number).entries.seen now =
        ((stores.get number).entries.seen now).later now := by
  intro after
  simp only [after, get_put]
  split
  next same =>
    subst same
    exact ⟨rfl, Entries.seen_live.trans (Entries.seen_later (Nat.le_refl now))⟩
  next => exact ⟨rfl, Entries.seen_later (Nat.le_refl now)⟩

theorem follow_accounted (number : Nat) (session : Session Nat Stores) (doing : Doing) :
    ((follow session doing).service.get number).operations =
        (session.service.get number).operations + UInt64.ofNat (toll number session doing) ∧
      (toll number session doing = 0 →
        ((follow session doing).service.get number).entries.seen (follow session doing).now =
          ((session.service.get number).entries.seen session.now).later
            (follow session doing).now) := by
  cases doing with
  | step step =>
    have accounted := accounted number session step
    exact ⟨accounted.operations, accounted.untouched⟩
  | count other | isEmpty other =>
    obtain ⟨operations, seen⟩ := get_put_count session.now session.service other number
    exact ⟨operations.trans (UInt64.add_zero _).symm, fun _ => seen⟩

theorem operations_pursue (number : Nat) (session : Session Nat Stores) (doings : List Doing) :
    ((pursue session doings).service.get number).operations =
      (session.service.get number).operations +
        UInt64.ofNat (tolls number session doings) := by
  induction doings generalizing session with
  | nil => exact (UInt64.add_zero _).symm
  | cons doing rest inductionHypothesis =>
    rw [pursue, tolls, inductionHypothesis, (follow_accounted number session doing).1,
      UInt64.ofNat_add, UInt64.add_assoc]

/-- A store counts in a run what the run charges to it, in as far as 64 bits can hold it, and
whatever charges nothing to a store leaves its live entries as they were, but for those that ran
out meanwhile. -/
theorem requests_accounted :
    (∀ (supply : Nat → String) (doings : List Doing) (number : Nat),
      let session : Session Nat Stores := Session.start .single supply
      ((pursue session doings).service.get number).operations.toNat =
        tolls number session doings % UInt64.size) ∧
    ∀ (session : Session Nat Stores) (doing : Doing) (number : Nat),
      toll number session doing = 0 →
        ((follow session doing).service.get number).entries.seen (follow session doing).now =
          ((session.service.get number).entries.seen session.now).later
            (follow session doing).now := by
  refine ⟨fun supply doings number => ?_, fun session doing number => ?_⟩
  · intro session
    have begun : (session.service.get number).operations = 0 := by
      cases number <;> rfl
    rw [operations_pursue, begun, UInt64.zero_add]
    exact UInt64.toNat_ofNat'
  · exact (follow_accounted number session doing).2

/-- A client takes a lock, and fails to take it again for no time at all. -/
def overstay : List Doing :=
  [.step (.build "a" ⟨some "A", some "app"⟩ 0), .step (.newLock "a" "mine" "job"),
    .step (.acquire "mine" .shortestLease), .step (.acquire "mine" .zero), .count 0]

theorem requests_accounted_overstay :
    let begun : Session Nat Stores := Session.start .single fun _ => ""
    let session := pursue begun overstay
    (session.service.get 0).operations.toNat = 3 ∧
      ((follow session (.step (.acquire "mine" .zero))).service.get 0).entries.seen session.now =
        ((session.service.get 0).entries.seen session.now).later session.now :=
  ⟨requests_accounted.1 (fun _ => "") overstay 0,
    requests_accounted.2 (pursue (Session.start .single fun _ => "") overstay)
      (.step (.acquire "mine" .zero)) 0 rfl⟩

end Stores

end Leasehold
