/-
This file is about attempts to take a lock in a store within the process. It writes down once what
an attempt may ask next after what it was answered so far, and what becomes of it: it ends as
refused, with the lock taken, or with the owner key given back after the payload was rejected. A
store that serves, which means that it can be reached and accepts payloads, leaves less open.
-/

import Leasehold.Proofs.Courses
import Leasehold.Proofs.Operations

namespace Leasehold.Store

/-- What passed between a call and a store. -/
abbrev Talk := List (Exchange Request Request.Answer)

/-! ### Courses -/

/-- What an attempt to take a lock for an ID may do next after a dialogue with a store. -/
inductive Attempt (lock : Lock) (id : String) (lease : Duration) :
    Talk → Request ⊕ StepResult Nat → Prop where
  | asking : Attempt lock id lease [] (.inl (.setIfAbsent lock.keys.owner id lease))
  | failed (fault : StoreFault) :
    Attempt lock id lease [⟨.setIfAbsent lock.keys.owner id lease, .error fault⟩]
      (.inr (.failed (failed fault)))
  | held :
    Attempt lock id lease [⟨.setIfAbsent lock.keys.owner id lease, .ok false⟩]
      (.inr (.failed (.heldByOtherClient lock.name)))
  | granted :
    Attempt lock id lease [⟨.setIfAbsent lock.keys.owner id lease, .ok true⟩]
      (.inl (.set lock.keys.data lock.payload))
  | taken :
    Attempt lock id lease [⟨.setIfAbsent lock.keys.owner id lease, .ok true⟩,
      ⟨.set lock.keys.data lock.payload, .ok ()⟩] (.inr .finished)
  | rejected (fault : StoreFault) :
    Attempt lock id lease [⟨.setIfAbsent lock.keys.owner id lease, .ok true⟩,
      ⟨.set lock.keys.data lock.payload, .error fault⟩]
      (.inl (.releaseIfOwner lock.keys id))
  | rolledBack (fault : StoreFault) (answer : Except StoreFault Bool) :
    Attempt lock id lease [⟨.setIfAbsent lock.keys.owner id lease, .ok true⟩,
      ⟨.set lock.keys.data lock.payload, .error fault⟩,
      ⟨.releaseIfOwner lock.keys id, answer⟩] (.inr (.failed (Store.failed fault)))

/-- A call that takes a lock is refused without contact with the store, or it attempts to take the
lock under the ID that its client had when it began. -/
theorem heeds_attempt (client : Option (Client Nat)) (lock : Lock) (lease : Duration) :
    ((Call.acquire client lock lease).program dialect).Heeds
      (fun talk upcoming =>
        (talk = [] ∧ ∃ error, Refused lease client error ∧ upcoming = .inr (.failed error)) ∨
          ∃ found, client = some found ∧ Attempt lock found.id lease talk upcoming) [] := by
  refine Dialect.heeds_acquire (fun error refused => Or.inl ⟨rfl, error, refused, rfl⟩) ?_
  rintro found millis rfl leased
  refine ⟨Or.inr ⟨found, rfl, .asking⟩, fun first => ?_⟩
  rcases first with fault | _ | _
  · exact Or.inr ⟨found, rfl, .failed fault⟩
  · exact Or.inr ⟨found, rfl, .held⟩
  · refine ⟨Or.inr ⟨found, rfl, .granted⟩, fun second => ?_⟩
    rcases second with fault | _
    · refine ⟨Or.inr ⟨found, rfl, .rejected fault⟩, fun third => ?_⟩
      cases third <;> exact Or.inr ⟨found, rfl, .rolledBack fault _⟩
    · exact Or.inr ⟨found, rfl, .taken⟩

/-! ### Stores that serve -/

/-- A store that can be reached and accepts payloads. -/
structure Serving (store : Store) : Prop where
  available : store.available = true
  accepting : store.failingWrites = false

namespace Serving

variable {now : Nat} {store : Store}

theorem perform_sight (serving : store.Serving) (request : Request) (sight : Sight) :
    sight.perform now store.switches request =
      (.ok (sight.act now request).1, (sight.act now request).2) := by
  refine Sight.perform_of_none ?_
  rw [Switches.fault?, switches, serving.available, serving.accepting, if_pos rfl, Bool.and_false]
  rfl

/-- A store that serves does what is asked of it to what is seen of it. -/
theorem answers (serving : store.Serving) (now : Nat) (request : Request) :
    (store.perform now request).1 = .ok ((store.entries.seen now).act now request).1 ∧
      (store.perform now request).2.entries.seen now =
        ((store.entries.seen now).act now request).2 := by
  have shows : store.Shows now store.switches (store.entries.seen now) := ⟨rfl, rfl⟩
  obtain ⟨answered, after⟩ := shows.perform request
  rw [serving.perform_sight] at answered after
  exact ⟨answered, after.seen⟩

theorem afterwards (serving : store.Serving) (now : Nat) (request : Request) :
    (store.perform now request).2.Serving := by
  rw [perform_of_available serving.available]
  exact ⟨serving.available, serving.accepting⟩

/-- Whoever is connected takes a lock that nobody holds, in a store that serves. -/
theorem acquireLock (serving : store.Serving) {client : Client Nat}
    (connected : client.connected = true) {lock : Lock}
    (free : store.entries.seen now lock.keys.owner = none) {lease : Duration}
    (long : Duration.shortestLease.nanos ≤ lease.nanos) :
    ((dialect.acquireLock (some client) lock lease).run (perform now) store).result.1 =
      .ok () := by
  have session : Dialect.session (some client) = .ok client.id := if_pos connected
  have absent : ¬ (store.entries.seen now lock.keys.owner).isSome = true := by
    rw [free]
    exact Bool.false_ne_true
  unfold Dialect.acquireLock
  rw [session, Program.run]
  cases leased : lease.leaseMillis with
  | error error => exact absurd (.lease leased) (not_refused connected long error)
  | ok millis =>
    refine (congrArg Prod.fst (Program.run_map _ _ _ store).1).trans ?_
    show ((acquiring { lock with lease } client.id lease).run (perform now) store).result = .ok ()
    unfold acquiring
    rw [Program.run_ask, (serving.answers now _).1]
    simp only [Sight.act, Sight.takeIfAbsent, if_neg absent]
    rw [Program.run_ask, ((serving.afterwards now _).answers now _).1]
    rfl

end Serving

end Leasehold.Store
