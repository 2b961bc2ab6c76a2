/-
This file says what the operations on clients and locks come to, as far as it is the same for
every kind of store. What is left of a client or a lock does not depend on what the store
answers, except for whether a client is connected; and nothing that is asked of the store depends
on the serial numbers by which the locks are told whose they are.
-/

import Leasehold.Dialect

namespace Leasehold

section Operations

variable {Request : Type} {Answer : Request → Type} {Result Other Third Endpoint Service : Type}

namespace Program

theorem map_id (program : Program Request Answer Result) : program.map id = program := by
  induction program with
  | done result => rfl
  | note event next inductionHypothesis => exact congrArg (note event) inductionHypothesis
  | ask request next inductionHypothesis =>
    exact congrArg (ask request) (funext fun answer => inductionHypothesis answer)

theorem map_andThen (program : Program Request Answer Result)
    (continuation : Result → Program Request Answer Other) (change : Other → Third) :
    (program.andThen continuation).map change =
      program.andThen fun result => (continuation result).map change := by
  induction program with
  | done result => rfl
  | note event next inductionHypothesis => exact congrArg (note event) inductionHypothesis
  | ask request next inductionHypothesis =>
    exact congrArg (ask request) (funext fun answer => inductionHypothesis answer)

theorem andThen_map (program : Program Request Answer Result) (change : Result → Other)
    (continuation : Other → Program Request Answer Third) :
    (program.map change).andThen continuation =
      program.andThen fun result => continuation (change result) := by
  induction program with
  | done result => rfl
  | note event next inductionHypothesis => exact congrArg (note event) inductionHypothesis
  | ask request next inductionHypothesis =>
    exact congrArg (ask request) (funext fun answer => inductionHypothesis answer)

theorem map_map (program : Program Request Answer Result) (change : Result → Other)
    (alter : Other → Third) : (program.map change).map alter = program.map (alter ∘ change) :=
  program.andThen_map change fun other => done (alter other)

theorem run_map (perform : (request : Request) → Service → Answer request × Service)
    (program : Program Request Answer Result) (change : Result → Other) (service : Service) :
    ((program.map change).run perform service).result =
        change (program.run perform service).result ∧
      ((program.map change).run perform service).service =
        (program.run perform service).service := by
  rw [map, run_andThen]
  exact ⟨rfl, rfl⟩

end Program

namespace Dialect

variable (dialect : Dialect Request Answer)
  (perform : (request : Request) → Service → Answer request × Service)

/-- What closing a client asks of its store. -/
def closing (connected : Bool) : Program Request Answer Unit :=
  if connected then dialect.disconnect else .done ()

/-- What connecting a client anew asks of its store. -/
def redialling (connected : Bool) : Program Request Answer (Except LockError Unit) :=
  (dialect.closing connected).andThen fun _ => dialect.connect

theorem run_close (client : Client Endpoint) (service : Service) :
    ((dialect.close client).run perform service).result = { client with connected := false } ∧
      ((dialect.close client).run perform service).service =
        ((dialect.closing client.connected).run perform service).service := by
  obtain ⟨serial, id, space, connected, endpoint⟩ := client
  cases connected with
  | false => exact ⟨rfl, rfl⟩
  | true => exact Program.run_map perform dialect.disconnect _ service

/-- What connecting a client anew comes to depends on the client in nothing but whether it is
connected. -/
theorem run_reconnect (client : Client Endpoint) (service : Service) :
    let outcome := (dialect.redialling client.connected).run perform service
    ((dialect.reconnect client).run perform service).result =
        (outcome.result, { client with connected := outcome.result.isOk }) ∧
      ((dialect.reconnect client).run perform service).service = outcome.service := by
  obtain ⟨closed, left⟩ := dialect.run_close perform client service
  unfold reconnect redialling
  simp only [Program.run, Program.run_andThen, closed, left]
  exact Program.run_map perform dialect.connect _ _

/-- An attempt to take a lock changes no more of the lock than its lease. -/
theorem run_acquireLock (client : Option (Client Endpoint)) (lock : Lock) (lease : Duration)
    (service : Service) :
    ∃ later, ((dialect.acquireLock client lock lease).run perform service).result.2 =
      { lock with lease := later } := by
  unfold acquireLock
  rw [Program.run]
  cases lease.leaseMillis with
  | error error => exact ⟨lock.lease, rfl⟩
  | ok millis =>
    cases session client with
    | error error => exact ⟨lock.lease, rfl⟩
    | ok id =>
      refine ⟨lease, ?_⟩
      have mapped := (Program.run_map perform
        (dialect.acquire { lock with lease } id lease millis)
        (fun result => (result, { lock with lease })) service).1
      exact congrArg Prod.snd mapped

theorem run_refreshLockFor (client : Option (Client Endpoint)) (lock : Lock) (lease : Duration)
    (service : Service) :
    ((dialect.refreshLockFor client lock lease).run perform service).result.2 =
      { lock with lease } := by
  unfold refreshLockFor
  rw [Program.run]
  exact congrArg Prod.snd (Program.run_map perform (dialect.refreshLock client { lock with lease })
    (fun result => (result, { lock with lease })) service).1

/-! ### Clients and locks under other serial numbers -/

end Dialect

/-- The same client under another serial number. -/
def Client.enrolled (enrol : Nat → Nat) (client : Client Endpoint) : Client Endpoint :=
  { client with serial := enrol client.serial }

/-- The same lock, its client under another serial number. -/
def Lock.enrolled (enrol : Nat → Nat) (lock : Lock) : Lock :=
  { lock with client := enrol lock.client }

namespace Dialect

variable (dialect : Dialect Request Answer) (enrol : Nat → Nat)

theorem close_enrolled (client : Client Endpoint) :
    dialect.close (client.enrolled enrol) =
      (dialect.close client).map (Client.enrolled enrol) := by
  obtain ⟨serial, id, space, connected, endpoint⟩ := client
  refine congrArg (Program.note _) ?_
  cases connected with
  | false => rfl
  | true =>
    exact (dialect.disconnect.map_map
      (fun _ => (⟨serial, id, space, false, endpoint⟩ : Client Endpoint))
      (Client.enrolled enrol)).symm

theorem reconnect_enrolled (client : Client Endpoint) :
    dialect.reconnect (client.enrolled enrol) =
      (dialect.reconnect client).map fun opened => (opened.1, opened.2.enrolled enrol) := by
  unfold reconnect
  refine congrArg (Program.note _) ?_
  rw [close_enrolled, Program.andThen_map]
  have mapped := (dialect.close client).map_andThen
    (fun closed => dialect.connect.map fun result =>
      (result, { closed with connected := result.isOk }))
    (fun opened => (opened.1, opened.2.enrolled enrol))
  simp only [Program.map_map] at mapped
  exact mapped.symm

end Dialect

/-- What the operations ask does not depend on which client a lock belongs to. -/
structure Dialect.Anonymous (dialect : Dialect Request Answer) : Prop where
  acquire : ∀ lock client id lease millis,
    dialect.acquire { lock with client } id lease millis = dialect.acquire lock id lease millis
  release : ∀ lock client id, dialect.release { lock with client } id = dialect.release lock id
  refresh : ∀ lock client id millis,
    dialect.refresh { lock with client } id millis = dialect.refresh lock id millis
  inspect : ∀ lock client, dialect.inspect { lock with client } = dialect.inspect lock

namespace Dialect.Anonymous

variable {dialect : Dialect Request Answer} (enrol : Nat → Nat)

theorem session_enrolled (client : Option (Client Endpoint)) :
    session (client.map (Client.enrolled enrol)) = session client := by
  cases client <;> rfl

theorem acquireLock (anonymous : dialect.Anonymous) (client : Option (Client Endpoint))
    (lock : Lock) (lease : Duration) :
    dialect.acquireLock (client.map (Client.enrolled enrol)) (lock.enrolled enrol) lease =
      (dialect.acquireLock client lock lease).map fun taken =>
        (taken.1, taken.2.enrolled enrol) := by
  unfold Dialect.acquireLock
  rw [session_enrolled]
  refine congrArg (Program.note _) ?_
  cases lease.leaseMillis with
  | error error => rfl
  | ok millis =>
    cases session client with
    | error error => rfl
    | ok id =>
      have same := anonymous.acquire { lock with lease } (enrol lock.client) id lease millis
      have mapped := Program.map_map (dialect.acquire { lock with lease } id lease millis)
        (fun result => (result, { lock with lease }))
        (fun taken : Except LockError Unit × Lock => (taken.1, taken.2.enrolled enrol))
      exact (congrArg (Program.map fun result =>
        (result, { lock.enrolled enrol with lease })) same).trans mapped.symm

theorem releaseLock (anonymous : dialect.Anonymous) (client : Option (Client Endpoint))
    (lock : Lock) :
    dialect.releaseLock (client.map (Client.enrolled enrol)) (lock.enrolled enrol) =
      dialect.releaseLock client lock := by
  unfold Dialect.releaseLock
  rw [session_enrolled]
  cases session client with
  | error error => rfl
  | ok id => exact congrArg (Program.note _) (anonymous.release lock _ id)

theorem refreshLock (anonymous : dialect.Anonymous) (client : Option (Client Endpoint))
    (lock : Lock) :
    dialect.refreshLock (client.map (Client.enrolled enrol)) (lock.enrolled enrol) =
      dialect.refreshLock client lock := by
  unfold Dialect.refreshLock
  rw [session_enrolled]
  refine congrArg (Program.note _) ?_
  have leased : (lock.enrolled enrol).lease = lock.lease := rfl
  rw [leased]
  cases lock.lease.leaseMillis with
  | error error => rfl
  | ok millis =>
    cases session client with
    | error error => rfl
    | ok id => exact anonymous.refresh lock _ id millis

theorem refreshLockFor (anonymous : dialect.Anonymous) (client : Option (Client Endpoint))
    (lock : Lock) (lease : Duration) :
    dialect.refreshLockFor (client.map (Client.enrolled enrol)) (lock.enrolled enrol) lease =
      (dialect.refreshLockFor client lock lease).map fun refreshed =>
        (refreshed.1, refreshed.2.enrolled enrol) := by
  have same := anonymous.refreshLock enrol client { lock with lease }
  have mapped := Program.map_map (dialect.refreshLock client { lock with lease })
    (fun result => (result, { lock with lease }))
    (fun taken : Except LockError Unit × Lock => (taken.1, taken.2.enrolled enrol))
  exact congrArg (Program.note _) ((congrArg (Program.map fun result =>
    (result, { lock.enrolled enrol with lease })) same).trans mapped.symm)

theorem inspectLock (anonymous : dialect.Anonymous) (client : Option (Client Endpoint))
    (lock : Lock) :
    dialect.inspectLock (client.map (Client.enrolled enrol)) (lock.enrolled enrol) =
      dialect.inspectLock client lock := by
  unfold Dialect.inspectLock
  rw [session_enrolled]
  cases session client with
  | error error => rfl
  | ok id => exact congrArg (Program.note _) (anonymous.inspect lock _)

end Dialect.Anonymous

end Operations

end Leasehold
