/-
This file is about what a program may come to ask, whatever it is answered. What the operations
on clients and locks ask is what their dialect asks: nothing is asked before the checks are
passed, and nothing is added to it.
-/

import Leasehold.Dialect

namespace Leasehold

section Programs

variable {Request : Type} {Answer : Request → Type} {Result Other : Type}

namespace Program

/-- All requests that a program may come to make are of a kind, whatever it is answered. -/
def AllAsk (kind : Request → Prop) : Program Request Answer Result → Prop
  | done _ => True
  | note _ next => next.AllAsk kind
  | ask request next => kind request ∧ ∀ answer, (next answer).AllAsk kind

variable {kind : Request → Prop} {program : Program Request Answer Result}

theorem allAsk_of_forall (every : ∀ request, kind request)
    (program : Program Request Answer Result) : program.AllAsk kind := by
  induction program with
  | done result => trivial
  | note event next inductionHypothesis => exact inductionHypothesis
  | ask request next inductionHypothesis => exact ⟨every request, inductionHypothesis⟩

theorem AllAsk.andThen {continuation : Result → Program Request Answer Other}
    (first : program.AllAsk kind) (onward : ∀ result, (continuation result).AllAsk kind) :
    (program.andThen continuation).AllAsk kind := by
  induction program with
  | done result => exact onward result
  | note event next inductionHypothesis => exact inductionHypothesis first
  | ask request next inductionHypothesis =>
    exact ⟨first.1, fun answer => inductionHypothesis answer (first.2 answer)⟩

theorem AllAsk.map {change : Result → Other} (first : program.AllAsk kind) :
    (program.map change).AllAsk kind :=
  first.andThen fun _ => trivial

theorem AllAsk.mono {broader : Request → Prop} (all : program.AllAsk kind)
    (broaden : ∀ request, kind request → broader request) : program.AllAsk broader := by
  induction program with
  | done result => trivial
  | note event next inductionHypothesis => exact inductionHypothesis all
  | ask request next inductionHypothesis =>
    exact ⟨broaden request all.1, fun answer => inductionHypothesis answer (all.2 answer)⟩

variable {Service : Type}
  {perform : (request : Request) → Service → Answer request × Service}

/-- A service keeps whatever every request of the kind keeps. -/
theorem AllAsk.run_keeps {kept : Service → Prop} (all : program.AllAsk kind)
    (keeps : ∀ service request, kept service → kind request → kept (perform request service).2)
    {service : Service} (holds : kept service) : kept (program.run perform service).service := by
  induction program generalizing service with
  | done result => exact holds
  | note event next inductionHypothesis => exact inductionHypothesis all holds
  | ask request next inductionHypothesis =>
    rw [run_ask]
    exact inductionHypothesis _ (all.2 _) (keeps service request holds all.1)

end Program

end Programs

/-! ### The operations of a dialect -/

namespace Dialect

variable {Request : Type} {Answer : Request → Type} {Endpoint : Type}
  {dialect : Dialect Request Answer} {kind : Request → Prop}

theorem allAsk_close (closing : dialect.disconnect.AllAsk kind) (client : Client Endpoint) :
    (dialect.close client).AllAsk kind := by
  show Program.AllAsk kind (if client.connected then _ else _)
  split
  · exact closing.map
  · trivial

theorem allAsk_reconnect (closing : dialect.disconnect.AllAsk kind)
    (opening : dialect.connect.AllAsk kind) (client : Client Endpoint) :
    (dialect.reconnect client).AllAsk kind := by
  have closed : ((dialect.close client).andThen fun client =>
      dialect.connect.map fun result =>
        (result, { client with connected := result.isOk })).AllAsk kind :=
    (allAsk_close closing client).andThen fun _ => opening.map
  exact closed

theorem allAsk_acquireLock {lock : Lock} {lease : Duration}
    (taking : ∀ id millis, (dialect.acquire { lock with lease } id lease millis).AllAsk kind)
    (client : Option (Client Endpoint)) : (dialect.acquireLock client lock lease).AllAsk kind := by
  unfold acquireLock
  cases lease.leaseMillis with
  | error error => trivial
  | ok millis =>
    cases session client with
    | error error => trivial
    | ok id =>
      have all := taking id millis
      exact all.map

theorem allAsk_releaseLock {lock : Lock} (giving : ∀ id, (dialect.release lock id).AllAsk kind)
    (client : Option (Client Endpoint)) : (dialect.releaseLock client lock).AllAsk kind := by
  unfold releaseLock
  cases session client with
  | error error => trivial
  | ok id => exact giving id

theorem allAsk_refreshLock {lock : Lock}
    (renewing : ∀ id millis, (dialect.refresh lock id millis).AllAsk kind)
    (client : Option (Client Endpoint)) : (dialect.refreshLock client lock).AllAsk kind := by
  unfold refreshLock
  cases lock.lease.leaseMillis with
  | error error => trivial
  | ok millis =>
    cases session client with
    | error error => trivial
    | ok id => exact renewing id millis

theorem allAsk_refreshLockFor {lock : Lock} {lease : Duration}
    (renewing : ∀ id millis, (dialect.refresh { lock with lease } id millis).AllAsk kind)
    (client : Option (Client Endpoint)) :
    (dialect.refreshLockFor client lock lease).AllAsk kind := by
  have leased : (dialect.refreshLock client { lock with lease }).AllAsk kind :=
    allAsk_refreshLock renewing client
  have all : ((dialect.refreshLock client { lock with lease }).map fun result =>
      (result, { lock with lease })).AllAsk kind := leased.map
  exact all

theorem allAsk_inspectLock {lock : Lock} (viewing : (dialect.inspect lock).AllAsk kind)
    (client : Option (Client Endpoint)) : (dialect.inspectLock client lock).AllAsk kind := by
  unfold inspectLock
  cases session client with
  | error error => trivial
  | ok id => exact viewing

end Dialect

end Leasehold
