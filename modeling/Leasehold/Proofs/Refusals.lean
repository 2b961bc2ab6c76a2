/-
This file says which operations on locks are refused without contact with the store, and with
which error. The lease that an operation checks is looked at first and its client afterwards. An
operation that passes both is never told such an error by its store, so that the error tells
exactly what the check found. An attempt to take a lock that is refused leaves the lock as it was.
-/

import Leasehold.Proofs.Courses
import Leasehold.Proofs.Passages
import Leasehold.Server.Dialect
import Leasehold.Store.Dialect

namespace Leasehold

/-! ### What programs may come to -/

section Programs

variable {Request : Type} {Answer : Request → Type} {Result Other Service : Type}

namespace Program

/-- All results that a program may come to are good, whatever it is answered. -/
def Yields (good : Result → Prop) : Program Request Answer Result → Prop
  | done result => good result
  | note _ next => next.Yields good
  | ask _ next => ∀ answer, (next answer).Yields good

theorem Yields.run {good : Result → Prop} {program : Program Request Answer Result}
    (yields : program.Yields good)
    (perform : (request : Request) → Service → Answer request × Service) (service : Service) :
    good (program.run perform service).result := by
  induction program generalizing service with
  | done result => exact yields
  | note event next inductionHypothesis => exact inductionHypothesis yields service
  | ask request next inductionHypothesis => exact inductionHypothesis _ (yields _) _

end Program

/-- The error of a result, if it is one that refuses a call without contact with the store. -/
def refusalOf? : Except LockError Result → Option LockError
  | .error error => if error.isRefusal then some error else none
  | .ok _ => none

/-- The operations of a dialect never end with an error that refuses a call. -/
structure Dialect.Unrefusing (dialect : Dialect Request Answer) : Prop where
  acquire : ∀ lock id lease millis,
    (dialect.acquire lock id lease millis).Yields fun result => refusalOf? result = none
  release : ∀ lock id, (dialect.release lock id).Yields fun result => refusalOf? result = none
  refresh : ∀ lock id millis,
    (dialect.refresh lock id millis).Yields fun result => refusalOf? result = none
  inspect : ∀ lock, (dialect.inspect lock).Yields fun result => refusalOf? result = none

end Programs

/-! ### Both kinds of store -/

theorem Store.unrefusing : Store.dialect.Unrefusing where
  acquire lock id lease millis := by
    rintro (fault | _ | _)
    · exact rfl
    · exact rfl
    · rintro (fault | written)
      · rintro (rollback | released) <;> exact rfl
      · exact rfl
  release lock id := by rintro (fault | _ | _) <;> exact rfl
  refresh lock id millis := by rintro (fault | _ | _) <;> exact rfl
  inspect lock := by rintro (fault | reading) <;> exact rfl

theorem Server.unrefusing : Server.dialect.Unrefusing where
  acquire lock id lease millis := by
    intro first
    dsimp only
    split
    · exact rfl
    · exact rfl
    · rintro (failure | written)
      · intro third
        dsimp only
        split <;> exact rfl
      · exact rfl
  release lock id := by
    intro answer
    dsimp only
    split <;> exact rfl
  refresh lock id millis := by
    intro answer
    dsimp only
    split <;> exact rfl
  inspect lock := by
    rintro (failure | reply)
    · exact rfl
    · dsimp only
      split <;> exact rfl

/-! ### The checks -/

section Checks

variable {Endpoint : Type}

/-- The error for which an operation is refused that checks a lease, if it does, and then its
client. -/
def refusal? (lease : Option Duration) (client : Option (Client Endpoint)) : Option LockError :=
  match lease.filter (·.nanos < Duration.shortestLease.nanos) with
  | some short => some (.invalidTtl short)
  | none => if client.any (·.connected) then none else some .notConnected

theorem refusal?_eq_invalidTtl_iff {lease : Option Duration} {client : Option (Client Endpoint)}
    {short : Duration} :
    refusal? lease client = some (.invalidTtl short) ↔
      lease = some short ∧ short.nanos < Duration.shortestLease.nanos := by
  unfold refusal?
  split
  next other found =>
    rw [Option.filter_eq_some_iff, decide_eq_true_eq] at found
    obtain ⟨rfl, below⟩ := found
    simp only [Option.some.injEq, LockError.invalidTtl.injEq]
    exact ⟨fun same => ⟨same, same ▸ below⟩, And.left⟩
  next enough =>
    have none : (if client.any (·.connected) then none else some LockError.notConnected) ≠
        some (.invalidTtl short) := by
      split <;> exact fun same => nomatch same
    refine ⟨fun same => absurd same none, ?_⟩
    rintro ⟨rfl, below⟩
    exact absurd (decide_eq_true below) (Option.filter_eq_none_iff.mp enough short rfl)

theorem refusal?_eq_notConnected_iff {lease : Option Duration}
    {client : Option (Client Endpoint)} :
    refusal? lease client = some .notConnected ↔
      (∀ checked, lease = some checked → Duration.shortestLease.nanos ≤ checked.nanos) ∧
        ∀ found, client = some found → found.connected = false := by
  unfold refusal?
  split
  next short found =>
    rw [Option.filter_eq_some_iff, decide_eq_true_eq] at found
    obtain ⟨rfl, below⟩ := found
    simp only [Option.some.injEq, reduceCtorEq, false_iff, not_and]
    exact fun long => absurd (long short rfl) (Nat.not_le.mpr below)
  next enough =>
    have long (checked : Duration) (same : lease = some checked) :
        Duration.shortestLease.nanos ≤ checked.nanos := by
      rw [same, Option.filter_eq_none_iff] at enough
      exact Nat.le_of_not_lt fun below => enough checked rfl (decide_eq_true below)
    have admitted : (∀ checked, lease = some checked →
        Duration.shortestLease.nanos ≤ checked.nanos) ∧
          (∀ found, client = some found → found.connected = false) ↔
        ∀ found, client = some found → found.connected = false := and_iff_right long
    rw [admitted]
    cases client with
    | none => simp
    | some found => cases connected : found.connected <;> simp [connected]

/-- How the two checks of an operation can come out. -/
inductive Checked (lease : Duration) (client : Option (Client Endpoint)) :
    Option LockError → Prop where
  | short : lease.leaseMillis = .error (.invalidTtl lease) →
    Checked lease client (some (.invalidTtl lease))
  | unconnected {millis} : lease.leaseMillis = .ok millis →
    Dialect.session client = .error .notConnected → Checked lease client (some .notConnected)
  | passed {millis found} : lease.leaseMillis = .ok millis → client = some found →
    Dialect.session client = .ok found.id → Checked lease client none

theorem refusal?_none (client : Option (Client Endpoint)) :
    (Dialect.session client = .error .notConnected ∧ refusal? none client = some .notConnected) ∨
      ∃ found, client = some found ∧ Dialect.session client = .ok found.id ∧
        refusal? none client = none := by
  cases client with
  | none => exact Or.inl ⟨rfl, rfl⟩
  | some found =>
    unfold Dialect.session refusal?
    cases connected : found.connected with
    | false => exact Or.inl ⟨by simp [connected], by simp [connected]⟩
    | true => exact Or.inr ⟨found, rfl, by simp [connected], by simp [connected]⟩

theorem checked (lease : Duration) (client : Option (Client Endpoint)) :
    Checked lease client (refusal? (some lease) client) := by
  by_cases below : lease.nanos < Duration.shortestLease.nanos
  · have refused : refusal? (some lease) client = some (.invalidTtl lease) :=
      refusal?_eq_invalidTtl_iff.mpr ⟨rfl, below⟩
    rw [refused]
    refine .short ?_
    rw [Duration.leaseMillis, Duration.leaseMillis?, if_pos below]
  · have long : lease.leaseMillis = .ok (min lease.millis Duration.largestMillis) := by
      rw [Duration.leaseMillis, Duration.leaseMillis?, if_neg below]
    have same : refusal? (some lease) client = refusal? none client := by
      unfold refusal?
      rw [Option.filter_some_neg (by simpa using below)]
      rfl
    rw [same]
    obtain ⟨absent, refused⟩ | ⟨found, present, connected, admitted⟩ := refusal?_none client
    · rw [refused]
      exact .unconnected long absent
    · rw [admitted]
      exact .passed long present connected

end Checks

/-! ### The operations -/

section Operations

variable {Request Endpoint Service : Type} {Answer : Request → Type}
  {dialect : Dialect Request Answer}

namespace Dialect.Unrefusing

variable (unrefusing : dialect.Unrefusing)
  (perform : (request : Request) → Service → Answer request × Service)
  (client : Option (Client Endpoint)) (lock : Lock) (service : Service)

include unrefusing

/-- An attempt to take a lock that is refused leaves the lock alone. Any other sets its lease,
whatever comes of the attempt. -/
theorem acquireLock (lease : Duration) :
    refusalOf? ((dialect.acquireLock client lock lease).run perform service).result.1 =
        refusal? (some lease) client ∧
      ((dialect.acquireLock client lock lease).run perform service).result.2 =
        if (refusal? (some lease) client).isSome then lock else { lock with lease } := by
  have verdict := checked lease client
  generalize refusal? (some lease) client = refused at verdict ⊢
  unfold Dialect.acquireLock
  rw [Program.run]
  cases verdict with
  | short below =>
    rw [below]
    exact ⟨rfl, rfl⟩
  | unconnected long absent =>
    rw [long, absent]
    exact ⟨rfl, rfl⟩
  | @passed millis found long present connected =>
    obtain ⟨mapped, _⟩ := Program.run_map perform
      (dialect.acquire { lock with lease } found.id lease millis)
      (fun result => (result, { lock with lease })) service
    rw [long, connected]
    dsimp only
    rw [mapped]
    exact ⟨(unrefusing.acquire { lock with lease } found.id lease millis).run perform service, rfl⟩

theorem releaseLock :
    refusalOf? ((dialect.releaseLock client lock).run perform service).result =
      refusal? none client := by
  unfold Dialect.releaseLock
  rw [Program.run]
  obtain ⟨absent, refused⟩ | ⟨found, present, connected, admitted⟩ := refusal?_none client
  · rw [absent, refused]
    rfl
  · rw [connected, admitted]
    exact (unrefusing.release lock found.id).run perform service

theorem refreshLock :
    refusalOf? ((dialect.refreshLock client lock).run perform service).result =
      refusal? (some lock.lease) client := by
  have verdict := checked lock.lease client
  generalize refusal? (some lock.lease) client = refused at verdict ⊢
  unfold Dialect.refreshLock
  rw [Program.run]
  cases verdict with
  | short below =>
    rw [below]
    rfl
  | unconnected long absent =>
    rw [long, absent]
    rfl
  | @passed millis found long present connected =>
    rw [long, connected]
    exact (unrefusing.refresh lock found.id millis).run perform service

theorem refreshLockFor (lease : Duration) :
    refusalOf? ((dialect.refreshLockFor client lock lease).run perform service).result.1 =
      refusal? (some lease) client := by
  have mapped := (Program.run_map perform (dialect.refreshLock client { lock with lease })
    (fun result => (result, { lock with lease })) service).1
  unfold Dialect.refreshLockFor
  rw [Program.run]
  dsimp only
  rw [mapped]
  exact unrefusing.refreshLock perform client { lock with lease } service

theorem inspectLock :
    refusalOf? ((dialect.inspectLock client lock).run perform service).result =
      refusal? none client := by
  unfold Dialect.inspectLock
  rw [Program.run]
  obtain ⟨absent, refused⟩ | ⟨found, present, connected, admitted⟩ := refusal?_none client
  · rw [absent, refused]
    rfl
  · rw [connected, admitted]
    exact (unrefusing.inspect lock).run perform service

end Dialect.Unrefusing

end Operations

/-! ### Steps -/

/-- The error for which a call was refused, if it was. -/
def StepResult.refusal? {Endpoint : Type} : StepResult Endpoint → Option LockError
  | .failed error => refusalOf? (.error error : Except LockError Unit)
  | _ => none

section Steps

variable {Settings Endpoint Service Action Request : Type} {Answer : Request → Type}

/-- The lock that a step operates on, if it is an operation on a lock. -/
def Step.lockCalled? : Step Settings Action → Option String
  | .acquire name _ | .release name | .refresh name | .refreshFor name _ | .inspect name =>
    some name
  | _ => none

/-- The lease that an operation on a lock checks before anything else, if it checks one. -/
def Step.leaseChecked? (lock : Lock) : Step Settings Action → Option Duration
  | .acquire _ lease | .refreshFor _ lease => some lease
  | .refresh _ => some lock.lease
  | _ => none

theorem StepResult.refusal?_eq_some_iff {result : StepResult Endpoint} {error : LockError} :
    result.refusal? = some error ↔ result = .failed error ∧ error.isRefusal = true := by
  cases result with
  | failed other =>
    simp only [StepResult.refusal?, refusalOf?, Option.ite_none_right_eq_some, Option.some.injEq,
      StepResult.failed.injEq]
    constructor
    · rintro ⟨refuses, rfl⟩
      exact ⟨rfl, refuses⟩
    · rintro ⟨rfl, refuses⟩
      exact ⟨refuses, rfl⟩
  | _ => exact ⟨fun same => (nomatch same), fun same => (nomatch same.1)⟩

theorem StepResult.eq_failed_iff {result : StepResult Endpoint} {error : LockError}
    (refuses : error.isRefusal = true) : result = .failed error ↔ result.refusal? = some error := by
  rw [StepResult.refusal?_eq_some_iff, and_iff_left refuses]

theorem StepResult.refusal?_resultOf (result : Except LockError Unit) :
    (Session.resultOf result : StepResult Endpoint).refusal? = refusalOf? result := by
  cases result <;> rfl

variable [Inhabited Endpoint]
  {backend : Backend Settings Endpoint Service Action Request Answer}
  {session : Session Endpoint Service}

/-- An operation on a lock is refused as its two checks have it, and for no other reason. -/
theorem Session.refusal?_step (unrefusing : backend.dialect.Unrefusing)
    {step : Step Settings Action} {name : String} (called : step.lockCalled? = some name)
    {lock : Lock} (found : session.locks.get? name = some lock) :
    (session.step backend step).result.refusal? =
      Leasehold.refusal? (step.leaseChecked? lock) (session.clientOf? lock.client) := by
  cases step with
  | acquire name lease =>
    cases called
    simp only [Session.step, onLock, found, StepResult.refusal?_resultOf]
    exact (unrefusing.acquireLock _ _ lock session.service lease).1
  | release name =>
    cases called
    simp only [Session.step, onLock, found, StepResult.refusal?_resultOf]
    exact unrefusing.releaseLock _ _ lock session.service
  | refresh name =>
    cases called
    simp only [Session.step, onLock, found, StepResult.refusal?_resultOf]
    exact unrefusing.refreshLock _ _ lock session.service
  | refreshFor name lease =>
    cases called
    simp only [Session.step, onLock, found, StepResult.refusal?_resultOf]
    exact unrefusing.refreshLockFor _ _ lock session.service lease
  | inspect name =>
    cases called
    have refused := unrefusing.inspectLock (backend.perform session.now
      (((session.clientOf? lock.client).map (·.endpoint)).getD default))
      (session.clientOf? lock.client) lock session.service
    simp only [Session.step, onLock, found]
    refine Eq.trans ?_ refused
    split
    next error failed => exact congrArg refusalOf? failed.symm
    next snapshot viewed => exact congrArg refusalOf? viewed.symm
  | _ => cases called

/-- The same goes for a lock that is made and taken at once. -/
theorem Session.refusal?_acquireNew (unrefusing : backend.dialect.Unrefusing) {name : String}
    {client : Client Endpoint} (found : session.clients.get? name = some client)
    (lockName resource : String) (lease : Duration) :
    (session.step backend (.acquireNew name lockName resource lease)).result.refusal? =
      Leasehold.refusal? (some lease) (some client) := by
  have refused := (unrefusing.acquireLock (backend.perform session.now client.endpoint)
    (some client) (client.newLock resource) session.service lease).1
  rw [← refused]
  simp only [Session.step, onClient, found, Session.run]
  split
  next error lock failed => rw [failed]; rfl
  next lock taken => rw [taken]; rfl

/-! ### What a step does to the locks -/

/-- The name under which a step may put a lock. -/
def Step.lockPut? : Step Settings Action → Option String
  | .newLock _ name _ | .acquireNew _ name _ _ | .setPayload name _ | .acquire name _
  | .refreshFor name _ => some name
  | _ => none

/-- What a step does to the locks of a session, with what it comes to and the session after
it. -/
inductive Session.Handles (session : Session Endpoint Service) :
    Step Settings Action → StepResult Endpoint → Session Endpoint Service → Prop where
  | unknown {step} : Handles session step .unknown session
  | untaken {name lockName resource lease error} {after : Session Endpoint Service} :
    after.locks = session.locks →
    Handles session (.acquireNew name lockName resource lease) (.failed error) after
  | made {name lockName resource client} {after : Session Endpoint Service} :
    session.clients.get? name = some client →
    after.locks = session.locks.insert lockName (client.newLock resource) →
    Handles session (.newLock name lockName resource) (.lock (client.newLock resource)) after
  | taken {name lockName resource lease client} {after : Session Endpoint Service} :
    session.clients.get? name = some client →
    after.locks = session.locks.insert lockName { client.newLock resource with lease } →
    Handles session (.acquireNew name lockName resource lease)
      (.lock { client.newLock resource with lease }) after
  | filled {name payload lock} {after : Session Endpoint Service} :
    session.locks.get? name = some lock →
    after.locks = session.locks.insert name { lock with payload } →
    Handles session (.setPayload name payload) .finished after
  | refused {name lease lock error} {after : Session Endpoint Service} :
    session.locks.get? name = some lock → error.isRefusal = true →
    after.locks = session.locks.insert name lock →
    Handles session (.acquire name lease) (.failed error) after
  | tried {name lease lock result} {after : Session Endpoint Service} :
    session.locks.get? name = some lock → refusalOf? result = none →
    after.locks = session.locks.insert name { lock with lease } →
    Handles session (.acquire name lease) (resultOf result) after
  | renewed {name lease lock result} {after : Session Endpoint Service} :
    session.locks.get? name = some lock →
    after.locks = session.locks.insert name { lock with lease } →
    Handles session (.refreshFor name lease) (resultOf result) after
  | spared {step result} {after : Session Endpoint Service} :
    step.lockPut? = none → after.locks = session.locks → Handles session step result after

namespace Session

theorem handles_acquire (unrefusing : backend.dialect.Unrefusing) (name : String)
    (lease : Duration) :
    session.Handles (.acquire name lease : Step Settings Action)
      (session.step backend (.acquire name lease)).result
      (session.step backend (.acquire name lease)).service := by
  refine onLock_cases (Handles session _) (fun _ => .unknown) fun lock found => ?_
  let outcome := session.runFor backend lock fun client =>
    backend.dialect.acquireLock client lock lease
  have refused : refusalOf? outcome.result.1 = _ ∧ outcome.result.2 = _ :=
    unrefusing.acquireLock _ (session.clientOf? lock.client) lock session.service lease
  show session.Handles _ (resultOf outcome.result.1)
    (outcome.service.putLock name outcome.result.2)
  rw [refused.2, ← refused.1]
  cases attempt : refusalOf? outcome.result.1 with
  | none => exact .tried found attempt rfl
  | some error =>
    have told : (resultOf outcome.result.1 : StepResult Endpoint) = .failed error ∧
        error.isRefusal = true :=
      StepResult.refusal?_eq_some_iff.mp
        ((StepResult.refusal?_resultOf outcome.result.1).trans attempt)
    rw [told.1]
    exact .refused found told.2 rfl

/-- Every step does one of these things to the locks. -/
theorem handles (unrefusing : backend.dialect.Unrefusing) (session : Session Endpoint Service)
    (step : Step Settings Action) :
    session.Handles step (session.step backend step).result
      (session.step backend step).service := by
  cases step with
  | acquire name lease => exact handles_acquire unrefusing name lease
  | newLock name lockName resource =>
    exact onClient_cases (Handles session _) (fun _ => .unknown) fun client found => .made found rfl
  | acquireNew name lockName resource lease =>
    refine onClient_cases (Handles session _) (fun _ => .unknown) fun client found => ?_
    obtain ⟨refused, left⟩ := unrefusing.acquireLock (backend.perform session.now client.endpoint)
      (some client) (client.newLock resource) session.service lease
    dsimp only
    split
    next error lock failed => exact .untaken rfl
    next lock taken =>
      simp only [Session.run] at taken
      rw [taken] at refused left
      rw [← refused] at left
      cases left
      exact .taken found rfl
  | setPayload name payload =>
    exact onLock_cases (Handles session _) (fun _ => .unknown) fun lock found => .filled found rfl
  | refreshFor name lease =>
    refine onLock_cases (Handles session _) (fun _ => .unknown) fun lock found => .renewed found ?_
    have refreshed := backend.dialect.run_refreshLockFor (backend.perform session.now
      (((session.clientOf? lock.client).map (·.endpoint)).getD default))
      (session.clientOf? lock.client) lock lease session.service
    exact congrArg (session.locks.insert name) refreshed
  | build name identity settings =>
    exact build_cases (Handles session _) name identity settings
      (fun _ _ _ => .spared rfl rfl) (fun _ _ _ _ _ _ => .spared rfl rfl)
      (fun _ _ _ _ _ _ => .spared rfl rfl)
  | copy | close | reconnect | drop | setId =>
    exact onClient_cases (Handles session _) (fun _ => .unknown) fun client found => .spared rfl rfl
  | release | refresh =>
    exact onLock_cases (Handles session _) (fun _ => .unknown) fun lock found => .spared rfl rfl
  | inspect name =>
    refine onLock_cases (Handles session _) (fun _ => .unknown) fun lock found => ?_
    dsimp only
    split <;> exact .spared rfl rfl
  | advance | interfere => exact .spared rfl rfl

namespace Handles

omit [Inhabited Endpoint]

variable {step : Step Settings Action} {result : StepResult Endpoint}
  {after : Session Endpoint Service} {name : String}

/-- A step touches no lock but the one under the name that it is told. -/
theorem get?_of_ne (handles : session.Handles step result after)
    (other : step.lockPut? ≠ some name) : after.locks.get? name = session.locks.get? name := by
  have put {key : String} {lock : Lock} (apart : some key ≠ some name)
      (puts : after.locks = session.locks.insert key lock) :
      after.locks.get? name = session.locks.get? name := by
    rw [puts, Table.get?_insert, if_neg fun same => apart (congrArg some same.symm)]
  cases handles with
  | unknown => rfl
  | untaken same | spared _ same => rw [same]
  | made _ puts | taken _ puts | filled _ puts | refused _ _ puts | tried _ _ puts
  | renewed _ puts => exact put other puts

/-- A lock that is there after a step was there before, with another lease or payload, or a client
has just made it. -/
theorem origin (handles : session.Handles step result after) {lock : Lock}
    (found : after.locks.get? name = some lock) :
    (∃ before, session.locks.get? name = some before ∧ lock.client = before.client ∧
        lock.keys = before.keys) ∨
      ∃ key client resource, session.clients.get? key = some client ∧
        lock.client = client.serial ∧ lock.keys = KeyPair.ofName client.space resource := by
  by_cases here : step.lockPut? = some name
  · cases handles with
    | unknown => exact Or.inl ⟨lock, found, rfl, rfl⟩
    | untaken same =>
      rw [same] at found
      exact Or.inl ⟨lock, found, rfl, rfl⟩
    | spared none =>
      rw [here] at none
      cases none
    | made maker puts | taken maker puts =>
      cases here
      rw [puts, Table.get?_insert, if_pos rfl] at found
      cases found
      exact Or.inr ⟨_, _, _, maker, rfl, rfl⟩
    | filled held puts | refused held _ puts | tried held _ puts | renewed held puts =>
      cases here
      rw [puts, Table.get?_insert, if_pos rfl] at found
      cases found
      exact Or.inl ⟨_, held, rfl, rfl⟩
  · rw [handles.get?_of_ne here] at found
    exact Or.inl ⟨lock, found, rfl, rfl⟩

end Handles

end Session

end Steps

end Leasehold
