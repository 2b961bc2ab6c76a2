/-
This file says which courses calls take before their dialect comes into it. A call about a lock
first looks at the lease and then at the client, and one that is refused there ends with the
refusal and has made no request. All others take the course that the dialect gives to the
operation, under the ID that the client had when the call began.
-/

import Leasehold.Proofs.Dialogue

namespace Leasehold

/-! ### Refusals -/

/-- Whether an error refuses a call without contact with the store. -/
def LockError.isRefusal : LockError → Bool
  | invalidTtl _ | notConnected => true
  | _ => false

section Calls

variable {Endpoint : Type}

/-- An error for which a call is refused: its lease is too short, or its client is not
connected. -/
inductive Refused (lease : Duration) (client : Option (Client Endpoint)) (error : LockError) :
    Prop where
  | lease : lease.leaseMillis = .error error → Refused lease client error
  | session : Dialect.session client = .error error → Refused lease client error

theorem isRefusal_of_session {client : Option (Client Endpoint)} {error : LockError}
    (refused : Dialect.session client = .error error) : error.isRefusal = true := by
  unfold Dialect.session at refused
  split at refused
  · split at refused <;> cases refused
    rfl
  · cases refused
    rfl

theorem Refused.isRefusal {lease : Duration} {client : Option (Client Endpoint)}
    {error : LockError} (refused : Refused lease client error) : error.isRefusal = true := by
  cases refused with
  | lease short =>
    unfold Duration.leaseMillis at short
    split at short <;> cases short
    rfl
  | session absent => exact isRefusal_of_session absent

/-- A connected client with a lease that is long enough is not refused. -/
theorem not_refused {client : Client Endpoint} (connected : client.connected = true)
    {lease : Duration} (long : Duration.shortestLease.nanos ≤ lease.nanos) (error : LockError) :
    ¬ Refused lease (some client) error := by
  rintro (short | absent)
  · rw [Duration.leaseMillis, Duration.leaseMillis?, if_neg (Nat.not_lt.mpr long)] at short
    cases short
  · have present : Dialect.session (some client) = .ok client.id := if_pos connected
    rw [present] at absent
    cases absent

/-- A lease in whole milliseconds is at least one and at most the largest count. -/
theorem leaseMillis_bounds {lease : Duration} {millis : Nat}
    (accepted : lease.leaseMillis = .ok millis) : 1 ≤ millis ∧ millis ≤ Duration.largestMillis := by
  have counted : lease.leaseMillis? = some millis := by
    unfold Duration.leaseMillis at accepted
    split at accepted <;> cases accepted
    assumption
  unfold Duration.leaseMillis? at counted
  obtain ⟨long, ⟨⟩⟩ := Option.ite_none_left_eq_some.mp counted
  have enough : 1 ≤ lease.millis := by
    unfold Duration.millis
    rw [Nat.one_le_div_iff (by decide)]
    exact Nat.le_of_not_lt long
  exact ⟨Nat.le_min.mpr ⟨enough, by decide⟩, Nat.min_le_right _ _⟩

/-! ### Calls -/

/-- What the caller is told who looked at a lock. -/
def StepResult.ofView : Except LockError Snapshot → StepResult Endpoint
  | .error error => .failed error
  | .ok view => .snapshot view

namespace Dialect

variable {Request : Type} {Answer : Request → Type} {dialect : Dialect Request Answer}
  {course : List (Exchange Request Answer) → Request ⊕ StepResult Endpoint → Prop}
  {client : Option (Client Endpoint)} {lock : Lock} {lease : Duration}

/-- The course of an operation of which the result is told to the caller of a call. -/
def Told {Result : Type} (tell : Result → StepResult Endpoint)
    (course : List (Exchange Request Answer) → Request ⊕ StepResult Endpoint → Prop) :
    List (Exchange Request Answer) → Request ⊕ Result → Prop :=
  fun past upcoming => course past (upcoming.map id tell)

theorem heeds_acquire
    (refused : ∀ error, Refused lease client error → course [] (.inr (.failed error)))
    (taking : ∀ found millis, client = some found → lease.leaseMillis = .ok millis →
      (dialect.acquire { lock with lease } found.id lease millis).Heeds
        (Told Session.resultOf course) []) :
    ((Call.acquire client lock lease).program dialect).Heeds course [] := by
  refine Program.Heeds.map ?_
  unfold Dialect.acquireLock
  cases leased : lease.leaseMillis with
  | error error => exact refused error (.lease leased)
  | ok millis =>
    cases connected : session client with
    | error error => exact refused error (.session connected)
    | ok id =>
      obtain ⟨found, rfl, rfl⟩ := Abides.exists_of_session connected
      refine Program.Heeds.map ((taking found millis rfl leased).mono ?_)
      rintro past (request | result) allowed <;> exact allowed

theorem heeds_release
    (refused : ∀ error, session client = .error error → course [] (.inr (.failed error)))
    (giving : ∀ found, client = some found →
      (dialect.release lock found.id).Heeds (Told Session.resultOf course) []) :
    ((Call.release client lock).program dialect).Heeds course [] := by
  refine Program.Heeds.map ?_
  unfold Dialect.releaseLock
  cases connected : session client with
  | error error => exact refused error connected
  | ok id =>
    obtain ⟨found, rfl, rfl⟩ := Abides.exists_of_session connected
    exact giving found rfl

theorem heeds_refreshLock
    (refused : ∀ error, Refused lock.lease client error → course [] (.inr (.failed error)))
    (renewing : ∀ found millis, client = some found → lock.lease.leaseMillis = .ok millis →
      (dialect.refresh lock found.id millis).Heeds (Told Session.resultOf course) []) :
    (dialect.refreshLock client lock).Heeds (Told Session.resultOf course) [] := by
  unfold Dialect.refreshLock
  cases leased : lock.lease.leaseMillis with
  | error error => exact refused error (.lease leased)
  | ok millis =>
    cases connected : session client with
    | error error => exact refused error (.session connected)
    | ok id =>
      obtain ⟨found, rfl, rfl⟩ := Abides.exists_of_session connected
      exact renewing found millis rfl leased

theorem heeds_refresh
    (refused : ∀ error, Refused lock.lease client error → course [] (.inr (.failed error)))
    (renewing : ∀ found millis, client = some found → lock.lease.leaseMillis = .ok millis →
      (dialect.refresh lock found.id millis).Heeds (Told Session.resultOf course) []) :
    ((Call.refresh client lock).program dialect).Heeds course [] :=
  (heeds_refreshLock refused renewing).map

theorem heeds_refreshFor
    (refused : ∀ error, Refused lease client error → course [] (.inr (.failed error)))
    (renewing : ∀ found millis, client = some found → lease.leaseMillis = .ok millis →
      (dialect.refresh { lock with lease } found.id millis).Heeds
        (Told Session.resultOf course) []) :
    ((Call.refreshFor client lock lease).program dialect).Heeds course [] := by
  have leased : (dialect.refreshLock client { lock with lease }).Heeds
      (Told Session.resultOf course) [] := heeds_refreshLock refused renewing
  refine Program.Heeds.map (Program.Heeds.map (leased.mono ?_))
  rintro past (request | result) allowed <;> exact allowed

theorem heeds_inspect
    (refused : ∀ error, session client = .error error → course [] (.inr (.failed error)))
    (viewing : ∀ found, client = some found →
      (dialect.inspect lock).Heeds (Told StepResult.ofView course) []) :
    ((Call.inspect client lock).program dialect).Heeds course [] := by
  refine Program.Heeds.map ?_
  unfold Dialect.inspectLock
  cases connected : session client with
  | error error => exact refused error connected
  | ok id =>
    obtain ⟨found, rfl, rfl⟩ := Abides.exists_of_session connected
    refine (viewing found rfl).mono ?_
    rintro past (request | error | view) allowed <;> exact allowed

end Dialect

end Calls

end Leasehold
