/-
This file says what it means to leave part of a run out: the operations of some clients, or those
on some locks. It also says what is told of a run, with or without them, and which IDs are used up
by the clients that remain.
-/

import Leasehold.Proofs.Register

namespace Leasehold

/-- What is left out of a run: the operations of clients of some namespaces, and those on locks
for some resources. -/
structure Omission where
  space : String → Bool
  resource : Resource → Bool

section Steps

variable {Settings Action : Type}

/-- Whether a step is left out. -/
def Omission.covers (omission : Omission) (register : Register) (step : Step Settings Action) :
    Bool :=
  match step.subject with
  | .client name => omission.space (register.space name)
  | .lock name => omission.resource (register.resource name)
  | .service => false

/-- Whether a step is an operation on a lock for some resource that the store answers. -/
def Register.tells (register : Register) (told : Resource → Bool) : Step Settings Action → Bool
  | .acquireNew _ name _ _ | .acquire name _ | .release name | .refresh name
  | .refreshFor name _ | .inspect name => told (register.resource name)
  | _ => false

/-- Whoever is told something is told it of a lock. -/
theorem Register.exists_of_tells {register : Register} {told : Resource → Bool}
    {step : Step Settings Action} (tells : register.tells told step = true) :
    ∃ name, step.subject = .lock name ∧ told (register.resource name) = true := by
  cases step with
  | acquireNew | acquire | release | refresh | refreshFor | inspect => exact ⟨_, rfl, tells⟩
  | _ => cases tells

end Steps

/-- What a step came to without the serial numbers, which nobody is told. -/
def StepResult.anonymous {Endpoint : Type} : StepResult Endpoint → StepResult Endpoint
  | .client made => .client { made with serial := 0 }
  | .lock made => .lock { made with client := 0 }
  | result => result

/-- The clients of a name are not left out. -/
def Omission.spares (omission : Omission) (register : Register) (name : String) : Bool :=
  !omission.space (register.space name)

/-- The owner keys of the locks left out lie in a region, and with a client its locks are left
out. -/
structure Omission.Inside (omission : Omission) (region : String → Prop) : Prop where
  resource : ∀ resource, omission.resource resource = true → region resource.keys.owner
  space : ∀ space name, omission.space space = true → omission.resource ⟨space, name⟩ = true

/-- The client that makes a lock outside the region is not left out. -/
theorem Omission.Inside.spares {omission : Omission} {region : String → Prop}
    (inside : omission.Inside region) {register : Register} {client name resource : String}
    (fits : register.resource name = ⟨register.space client, resource⟩)
    (outside : ¬ region (register.resource name).keys.owner) :
    omission.spares register client = true := by
  show (!omission.space (register.space client)) = true
  cases hidden : omission.space (register.space client) with
  | false => rfl
  | true =>
    rw [fits] at outside
    exact absurd (inside.resource _ (inside.space _ resource hidden)) outside

section Runs

variable {Settings Endpoint Service Action Request : Type} {Answer : Request → Type}

/-- The IDs of the supply that a step uses up: one if it builds a client that is given none. -/
def Session.issued (backend : Backend Settings Endpoint Service Action Request Answer)
    (session : Session Endpoint Service) : Step Settings Action → List String
  | .build _ identity settings =>
    match identity.id.filter (!·.isEmpty),
      (session.connectClient backend identity settings).result with
    | none, .ok _ => [session.supply session.drawn]
    | _, _ => []
  | _ => []

/-- The next IDs of the supply of a session are those of a list. -/
def Session.Supplies (session : Session Endpoint Service) (ids : List String) : Prop :=
  ∀ index id, ids[index]? = some id → session.supply (session.drawn + index) = id

theorem Session.Supplies.next {session : Session Endpoint Service} {id : String}
    {ids : List String} (supplies : session.Supplies (id :: ids)) :
    session.supply session.drawn = id ∧
      Session.Supplies { session with drawn := session.drawn + 1 } ids := by
  refine ⟨supplies 0 id rfl, fun index other drawing => ?_⟩
  have shifted := supplies (index + 1) other drawing
  have sum : session.drawn + 1 + index = session.drawn + (index + 1) := by omega
  rw [← shifted]
  exact congrArg session.supply sum

variable [Inhabited Endpoint]
  (backend : Backend Settings Endpoint Service Action Request Answer)

/-- What the operations on locks for some resources come to in a run. -/
def Session.heard (register : Register) (told : Resource → Bool) :
    Session Endpoint Service → List (Step Settings Action) → List (StepResult Endpoint)
  | _, [] => []
  | session, step :: rest =>
    let stepped := session.step backend step
    let others := Session.heard register told stepped.service rest
    if register.tells told step then stepped.result.anonymous :: others else others

/-- The IDs of the supply that the steps of a run use up which are not left out. -/
def Session.draws (register : Register) (omission : Omission) :
    Session Endpoint Service → List (Step Settings Action) → List String
  | _, [] => []
  | session, step :: rest =>
    (if omission.covers register step then [] else session.issued backend step) ++
      Session.draws register omission (session.step backend step).service rest

end Runs

end Leasehold
