/-
This file proves that no lock of a store within the process stays stuck, whatever its holders did
or failed to do. All that an owner key can hold for long is an entry that somebody puts there time
and again, as every lease runs out within the longest one. The exception are payloads, which are
written without a lease. The owner key of `job:data` is the data key of `job`, and where a payload
of `job` lies, nobody ever takes `job:data`.
-/

import Leasehold.Proofs.Attempt
import Leasehold.Proofs.Payloads
import Leasehold.Proofs.Remains

namespace Leasehold

/-! ### Who writes payloads -/

section Calls

variable {Endpoint : Type} {call : Call Endpoint} {past : List Feat} {feat : Feat}

/-- The lock of which a call may write the payload. -/
def Call.writes? : Call Endpoint → Option Lock
  | acquire _ lock _ | refresh _ lock | refreshFor _ lock _ => some lock
  | close _ | reconnect _ | release .. | inspect .. => none

/-- An entry without a deadline is a payload, which is put under the data key of a lock. -/
theorem Call.May.exists_written (may : call.May past feat) {key payload : String}
    (put : feat.change? key = some (some ⟨payload, none⟩)) :
    ∃ lock, call.writes? = some lock ∧ lock.keys.data = key := by
  have renewal {keys : KeyPair} {id other : String} {deadline : Nat}
      (put : (Feat.renewed keys id deadline other).change? key = some (some ⟨payload, none⟩)) :
      keys.data = key := by
    simp only [Feat.change?] at put
    split at put
    next data => exact data
    next => obtain ⟨_, ⟨⟩⟩ := Option.ite_none_right_eq_some.mp put
  cases may with
  | acquire taking =>
    cases taking with
    | take | giveBack =>
      simp only [Feat.change?] at put
      split at put <;> simp at put
    | write =>
      obtain ⟨data, _⟩ := Option.ite_none_right_eq_some.mp put
      exact ⟨_, rfl, data⟩
  | release =>
    simp only [Feat.change?] at put
    split at put <;> simp at put
  | refresh => exact ⟨_, rfl, renewal put⟩
  | refreshFor => exact ⟨_, rfl, renewal put⟩
  | inspect => cases put

end Calls

namespace Store

/-! ### Locks that come free -/

/-- What remains under a key for good after a run is the payload of a lock that somebody writes. -/
theorem exists_written_of_remain {key payload : String} {moves : List (Move Nat Switching)}
    (left : ((Crowd.nobody empty).run desk moves).1.foldl (Contact.remain key) none =
      some ⟨payload, none⟩) :
    ∃ call, .begin call ∈ moves ∧ ∃ lock, call.writes? = some lock ∧ lock.keys.data = key := by
  have conducted := Crowd.conducted_run overview dialect_abides empty moves
  obtain none | ⟨contact, member, put⟩ := foldl_remain_cases left
  · cases none
  · obtain ⟨feat, achieved, changes⟩ := Option.bind_eq_some_iff.mp put
    obtain ⟨earlier, later, split⟩ := List.append_of_mem member
    obtain ⟨call, present, may⟩ := conducted.told earlier contact later feat split achieved
    exact ⟨call, conducted.begun _ call present, may.exists_written changes⟩

/-- Take any run of a crowd at a store that begins empty, in which nobody writes the payload of a
lock under the owner key of a resource. Once the longest lease has passed and nobody has put an
entry under that key meanwhile, a store that serves gives the resource to whoever is connected. -/
theorem resource_free_after_longest_lease (resource : Resource)
    (moves waiting : List (Move Nat Switching))
    (apart : ∀ call, .begin call ∈ moves → ∀ lock, call.writes? = some lock →
      lock.keys.data ≠ resource.keys.owner) :
    let before := ((Crowd.nobody empty).run desk moves).2
    let waited := before.run desk waiting
    (∀ contact ∈ waited.1, ∀ entry,
      Contact.change? resource.keys.owner contact ≠ some (some entry)) →
    before.now + Duration.longestLease.nanos ≤ waited.2.now → waited.2.service.Serving →
    ∀ (client : Client Nat) (lock : Lock) (lease : Duration), client.connected = true →
      lock.keys = resource.keys → Duration.shortestLease.nanos ≤ lease.nanos →
      ((dialect.acquireLock (some client) lock lease).run (perform waited.2.now)
        waited.2.service).result.1 = .ok () := by
  intro before waited idle passed serving client lock lease connected wanted long
  have account := remains_run resource.keys.owner moves
  have later := account.run waiting
  refine serving.acquireLock connected ?_ long
  rw [wanted]
  cases held : Entries.seen _ _ resource.keys.owner with
  | none => rfl
  | some entry =>
    exfalso
    obtain ⟨found, live⟩ := Option.filter_eq_some_iff.mp held
    obtain remained | ⟨contact, member, put⟩ := foldl_remain_cases (later.holds entry found)
    · obtain ⟨value, _ | deadline⟩ := entry
      · -- an entry that does not expire is a payload
        obtain ⟨call, begun, other, writes, data⟩ := exists_written_of_remain remained
        exact apart call begun other writes data
      · have bounded : deadline ≤ before.now + Duration.longestLease.nanos :=
          account.bounded value deadline remained
        have ahead : waited.2.now < deadline := of_decide_eq_true live
        omega
    · exact idle contact member entry put

/-- The client that takes a lock and is not heard of again. -/
def vanished : Client Nat := ⟨0, "A", "app", true, 0⟩

/-- A client that is served as long as it likes. -/
def survivor : Client Nat := ⟨1, "B", "app", true, 0⟩

/-- A client begins to take a lock, and gets so many turns. -/
def taking (turns : Nat) : List (Move Nat Switching) :=
  .begin (.acquire (some vanished) (vanished.newLock "job") .longestLease) ::
    List.replicate turns (.serve 0)

theorem resource_free_after_longest_lease_vanished :
    let before := ((Crowd.nobody empty).run desk (taking 1)).2
    let waited := (before.run desk [.pass Duration.longestLease.nanos]).2
    before.service.entries.get? "app:job" = some ⟨"A", some Duration.longestLease.nanos⟩ ∧
      ((dialect.acquireLock (some survivor) (survivor.newLock "job") .shortestLease).run
        (perform waited.now) waited.service).result.1 = .ok () := by
  refine ⟨rfl, resource_free_after_longest_lease ⟨"app", "job"⟩ (taking 1)
    [.pass Duration.longestLease.nanos] ?_ (fun contact member => (nomatch member)) (by decide)
    ⟨rfl, rfl⟩ survivor _ _ rfl rfl (Nat.le_refl _)⟩
  intro call begun lock writes
  simp only [taking, List.replicate, List.mem_cons, Move.begin.injEq, reduceCtorEq,
    List.not_mem_nil, or_false] at begun
  subst begun
  cases writes
  decide

/-- Where the payload of a lock lies, the lock that has its data key as owner key is not free, even
once the longest lease has passed with nobody doing anything, and although the store serves. -/
theorem payload_sticks :
    let before := ((Crowd.nobody empty).run desk (taking 2)).2
    let waited := before.run desk [.pass Duration.longestLease.nanos]
    waited.1 = [] ∧ before.now + Duration.longestLease.nanos ≤ waited.2.now ∧
      waited.2.service.Serving ∧ survivor.connected = true ∧
      ((dialect.acquireLock (some survivor) (survivor.newLock "job:data") .shortestLease).run
        (perform waited.2.now) waited.2.service).result.1 =
          .error (.heldByOtherClient "job:data") :=
  ⟨rfl, by decide, ⟨rfl, rfl⟩, rfl, rfl⟩

end Store

end Leasehold
