/-
This file is about which keys belong to which lock. Locks are told apart by their namespace and
their name, while a store only knows keys. Both parts of a lock's name may contain colons, so
that two locks can share a key. Where the keys of different locks are apart, what is done to one
lock leaves the keys of all others as they were.
-/

import Leasehold.Proofs.Simulation

namespace Leasehold

/-- No key of one pair is a key of the other. -/
def KeyPair.Disjoint (one other : KeyPair) : Prop :=
  (one.owner ≠ other.owner ∧ one.owner ≠ other.data) ∧
    one.data ≠ other.owner ∧ one.data ≠ other.data

instance (one other : KeyPair) : Decidable (one.Disjoint other) :=
  inferInstanceAs (Decidable ((_ ∧ _) ∧ _ ∧ _))

/-- What clients contend for: a name within a namespace. -/
structure Resource where
  space : String
  name : String
  deriving DecidableEq

/-- The keys of a resource. -/
def Resource.keys (resource : Resource) : KeyPair := KeyPair.ofName resource.space resource.name

/-- The keys of different resources are apart. -/
def Separate (resources : List Resource) : Prop :=
  ∀ one ∈ resources, ∀ other ∈ resources, one ≠ other → one.keys.Disjoint other.keys

instance (resources : List Resource) : Decidable (Separate resources) :=
  inferInstanceAs (Decidable (∀ one ∈ resources, ∀ other ∈ resources, one ≠ other → _))

/-- The two keys of a resource differ: the data key is the longer one. -/
theorem Resource.data_ne_owner (resource : Resource) :
    resource.keys.data ≠ resource.keys.owner := by
  intro equal
  have lengths := congrArg String.length equal
  simp only [Resource.keys, KeyPair.ofName, dataKey_eq, String.length_append] at lengths
  have longer : ":data".length = 5 := by decide
  omega

/-! ### The resource of a lock -/

/-- The resource that a lock is for. The owner key of a lock is its namespace, a colon and its
name. -/
def Lock.resource (lock : Lock) : Resource where
  space := String.ofList
    (lock.keys.owner.toList.take (lock.keys.owner.length - (lock.name.length + 1)))
  name := lock.name

/-- A lock has the keys of its resource, which is one of some resources. -/
structure Lock.IsFor (resources : List Resource) (lock : Lock) : Prop where
  keys : lock.keys = lock.resource.keys
  member : lock.resource ∈ resources

theorem Lock.IsFor.withPayload {resources : List Resource} {lock : Lock}
    (isFor : lock.IsFor resources) (payload : String) :
    Lock.IsFor resources { lock with payload } :=
  ⟨isFor.keys, isFor.member⟩

theorem Lock.IsFor.withLease {resources : List Resource} {lock : Lock}
    (isFor : lock.IsFor resources) (lease : Duration) : Lock.IsFor resources { lock with lease } :=
  ⟨isFor.keys, isFor.member⟩

theorem Client.resource_newLock {Endpoint : Type} (client : Client Endpoint) (name : String) :
    (client.newLock name).resource = ⟨client.space, name⟩ := by
  have colon : ":".length = 1 := by decide
  have count : (client.space ++ ":" ++ name).length - (name.length + 1) =
      client.space.toList.length := by
    rw [String.length_append, String.length_append, String.length_toList]
    omega
  unfold Lock.resource Client.newLock KeyPair.ofName ownerKey
  simp only [Resource.mk.injEq, and_true]
  rw [count, String.toList_append, String.toList_append, List.append_assoc, List.take_left,
    String.ofList_toList]

theorem Client.isFor_newLock {Endpoint : Type} {resources : List Resource}
    {client : Client Endpoint} {name : String} (member : ⟨client.space, name⟩ ∈ resources) :
    (client.newLock name).IsFor resources := by
  have resource := client.resource_newLock name
  constructor
  · rw [resource]
    rfl
  · rw [resource]
    exact member

/-! ### The resources of a run -/

section Runs

variable {Settings Action Endpoint Elsewhere Service Host Request Demand : Type}
  {Answer : Request → Type} {Response : Demand → Type} [Inhabited Endpoint]

/-- The resource of the lock that a step makes, if it makes one. -/
def Session.resourceMade (session : Session Endpoint Service) :
    Step Settings Action → Option Resource
  | .newLock client _ name | .acquireNew client _ name _ =>
    (session.clients.get? client).map fun found => ⟨found.space, name⟩
  | _ => none

/-- The resources of the locks that are made in a run. -/
def Session.resources (backend : Backend Settings Endpoint Service Action Request Answer) :
    Session Endpoint Service → List (Step Settings Action) → List Resource
  | _, [] => []
  | session, step :: rest =>
    (session.resourceMade step).toList ++
      Session.resources backend (session.step backend step).service rest

theorem Session.resources_translate {Setup Deed : Type} (settings : Settings → Setup)
    (action : Action → Deed) (backend : Backend Setup Endpoint Service Deed Request Answer)
    (session : Session Endpoint Service) (steps : List (Step Settings Action)) :
    session.resources backend (steps.map (Step.translate settings action)) =
      session.resources (backend.told settings action) steps := by
  induction steps generalizing session with
  | nil => rfl
  | cons step rest inductionHypothesis =>
    have made : session.resourceMade (step.translate settings action) =
        session.resourceMade step := by
      cases step <;> rfl
    simp only [List.map_cons, Session.resources, made, Session.step_translate,
      inductionHypothesis]

variable {backend : Backend Settings Endpoint Service Action Request Answer}
  {model : Backend Settings Elsewhere Host Action Demand Response}

/-- A run is permitted if the locks for its resources are good, no lease is unfair and every
payload is apt. -/
theorem Simulation.permitsAll_of_resources (simulation : Simulation backend model)
    {resources : List Resource} (fair : ∀ lease, simulation.fair lease)
    (apt : ∀ service payload, simulation.apt service payload)
    (good : ∀ (client : Client Endpoint) name, ⟨client.space, name⟩ ∈ resources →
      simulation.good (client.newLock name))
    (session : Session Endpoint Service) (steps : List (Step Settings Action))
    (among : session.resources backend steps ⊆ resources) :
    simulation.PermitsAll session steps := by
  induction steps generalizing session with
  | nil => trivial
  | cons step rest inductionHypothesis =>
    obtain ⟨first, others⟩ := List.append_subset.mp among
    refine ⟨?_, inductionHypothesis _ others⟩
    have made (client name : String) (found : Client Endpoint)
        (present : session.clients.get? client = some found)
        (makes : session.resourceMade step =
          (session.clients.get? client).map fun found => ⟨found.space, name⟩) :
        simulation.good (found.newLock name) := by
      refine good found name (first ?_)
      rw [makes, present]
      exact List.mem_singleton_self _
    cases step with
    | newLock client lock name => exact fun found present => made client name found present rfl
    | acquireNew client lock name lease =>
      exact ⟨fair lease, fun found present => ⟨made client name found present rfl, apt _ _⟩⟩
    | acquire lock lease => exact ⟨fair lease, fun _ _ => apt _ _⟩
    | refreshFor lock lease => exact fair lease
    | _ => trivial

end Runs

end Leasehold
