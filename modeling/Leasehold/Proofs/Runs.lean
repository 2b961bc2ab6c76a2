/-
This file is about whole runs of a session: what each step of one comes to and the session
after it. A run may be said in other words than those of its service, for instance without the
settings that make no difference to it; what it comes to is what it comes to once translated.
-/

import Leasehold.Session

namespace Leasehold

/-! ### What is said to a service of one kind and meant for another -/

section Told

variable {Settings Setup Endpoint Service Action Deed Request : Type} {Answer : Request → Type}

/-- A step with its settings and its interference put in other words. -/
def Step.translate (settings : Settings → Setup) (action : Action → Deed) :
    Step Settings Action → Step Setup Deed
  | .build client identity told => .build client identity (settings told)
  | .copy client copied => .copy client copied
  | .close client => .close client
  | .reconnect client => .reconnect client
  | .drop client => .drop client
  | .setId client id => .setId client id
  | .newLock client lock name => .newLock client lock name
  | .acquireNew client lock name lease => .acquireNew client lock name lease
  | .setPayload lock payload => .setPayload lock payload
  | .acquire lock lease => .acquire lock lease
  | .release lock => .release lock
  | .refresh lock => .refresh lock
  | .refreshFor lock lease => .refreshFor lock lease
  | .inspect lock => .inspect lock
  | .advance nanos => .advance nanos
  | .interfere told => .interfere (action told)

/-- A backend that is spoken to in other words. -/
def Backend.told (settings : Settings → Setup) (action : Action → Deed)
    (backend : Backend Setup Endpoint Service Deed Request Answer) :
    Backend Settings Endpoint Service Action Request Answer where
  dialect := backend.dialect
  prepare told := backend.prepare (settings told)
  perform := backend.perform
  interfere now service told := backend.interfere now service (action told)

theorem Session.step_translate [Inhabited Endpoint] (settings : Settings → Setup)
    (action : Action → Deed) (backend : Backend Setup Endpoint Service Deed Request Answer)
    (session : Session Endpoint Service) (step : Step Settings Action) :
    session.step backend (step.translate settings action) =
      session.step (backend.told settings action) step := by
  cases step <;> rfl

end Told

/-! ### Runs -/

section Follow

variable {Settings Setup Endpoint Service Action Deed Request : Type} {Answer : Request → Type}
  [Inhabited Endpoint]

/-- What the steps of a run come to, one after the other, with the session after each. -/
def Session.follow (backend : Backend Settings Endpoint Service Action Request Answer) :
    Session Endpoint Service → List (Step Settings Action) →
      List (Session.Stepped Endpoint Service)
  | _, [] => []
  | session, step :: rest =>
    let stepped := session.step backend step
    stepped :: Session.follow backend stepped.service rest

theorem Session.follow_translate (settings : Settings → Setup) (action : Action → Deed)
    (backend : Backend Setup Endpoint Service Deed Request Answer)
    (session : Session Endpoint Service) (steps : List (Step Settings Action)) :
    session.follow backend (steps.map (Step.translate settings action)) =
      session.follow (backend.told settings action) steps := by
  induction steps generalizing session with
  | nil => rfl
  | cons step rest inductionHypothesis =>
    simp only [List.map_cons, Session.follow, Session.step_translate, inductionHypothesis]

end Follow

end Leasehold
