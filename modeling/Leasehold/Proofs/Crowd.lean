/-
This file holds crowds: calls of many clients that take turns at one service, one request at a
time. Between any two requests of a call others may come, time may pass, and the service may be
interfered with. A call need not get another turn; this is the call of a client that crashed. A
property of crowds that one turn keeps is kept by every run, whatever the order of the turns.
-/

import Leasehold.Proofs.Asking
import Leasehold.Session

namespace Leasehold

section Programs

variable {Request : Type} {Answer : Request → Type} {Result Other : Type}

namespace Program

/-- The request that a program makes next, with what it does after that. Noting events does not
hold it up. -/
def next? : Program Request Answer Result →
    Option ((request : Request) × (Answer request → Program Request Answer Result))
  | done _ => none
  | note _ next => next.next?
  | ask request next => some ⟨request, next⟩

variable {kind : Request → Prop} {program : Program Request Answer Result}

/-- What comes next is of the kind, and so is all that comes after it. -/
theorem AllAsk.next (all : program.AllAsk kind)
    {step : (request : Request) × (Answer request → Program Request Answer Result)}
    (found : program.next? = some step) :
    kind step.1 ∧ ∀ answer, (step.2 answer).AllAsk kind := by
  induction program with
  | done result => cases found
  | note event next inductionHypothesis => exact inductionHypothesis all found
  | ask request next inductionHypothesis =>
    cases found
    exact all

end Program

end Programs

/-! ### Calls -/

section Calls

variable {Request : Type} {Answer : Request → Type} {Endpoint : Type}

/-- A call that somebody makes, with the client as it is when the call begins. -/
inductive Call (Endpoint : Type) where
  | close (client : Client Endpoint)
  | reconnect (client : Client Endpoint)
  | acquire (client : Option (Client Endpoint)) (lock : Lock) (lease : Duration)
  | release (client : Option (Client Endpoint)) (lock : Lock)
  | refresh (client : Option (Client Endpoint)) (lock : Lock)
  | refreshFor (client : Option (Client Endpoint)) (lock : Lock) (lease : Duration)
  | inspect (client : Option (Client Endpoint)) (lock : Lock)

namespace Call

/-- The lock that a call is about, if it is about one. -/
def lock? : Call Endpoint → Option Lock
  | close _ | reconnect _ => none
  | acquire _ lock _ | release _ lock | refresh _ lock | refreshFor _ lock _ | inspect _ lock =>
    some lock

/-- What a call does, up to what its caller is told. -/
def program (dialect : Dialect Request Answer) :
    Call Endpoint → Program Request Answer (StepResult Endpoint)
  | close client => (dialect.close client).map fun _ => .finished
  | reconnect client =>
    (dialect.reconnect client).map fun reconnected => Session.resultOf reconnected.1
  | acquire client lock lease =>
    (dialect.acquireLock client lock lease).map fun taken => Session.resultOf taken.1
  | release client lock => (dialect.releaseLock client lock).map Session.resultOf
  | refresh client lock => (dialect.refreshLock client lock).map Session.resultOf
  | refreshFor client lock lease =>
    (dialect.refreshLockFor client lock lease).map fun refreshed => Session.resultOf refreshed.1
  | inspect client lock =>
    (dialect.inspectLock client lock).map fun
      | .error error => .failed error
      | .ok snapshot => .snapshot snapshot

end Call

/-- The operations of a dialect only make requests of a kind, as long as they are about locks of
which the keys are good. -/
structure Dialect.AsksOnly (dialect : Dialect Request Answer) (kind : Request → Prop)
    (good : KeyPair → Prop) : Prop where
  disconnect : dialect.disconnect.AllAsk kind
  connect : dialect.connect.AllAsk kind
  acquire : ∀ lock id lease millis, good lock.keys →
    (dialect.acquire lock id lease millis).AllAsk kind
  release : ∀ lock id, good lock.keys → (dialect.release lock id).AllAsk kind
  refresh : ∀ lock id millis, good lock.keys → (dialect.refresh lock id millis).AllAsk kind
  inspect : ∀ lock, good lock.keys → (dialect.inspect lock).AllAsk kind

namespace Dialect.AsksOnly

variable {dialect : Dialect Request Answer} {kind : Request → Prop} {good : KeyPair → Prop}

/-- A call only makes requests of the kind if the keys of its lock are good. -/
theorem program (asks : dialect.AsksOnly kind good) (call : Call Endpoint)
    (sound : ∀ lock, call.lock? = some lock → good lock.keys) :
    (call.program dialect).AllAsk kind := by
  cases call with
  | close client => exact (Dialect.allAsk_close asks.disconnect client).map
  | reconnect client => exact (Dialect.allAsk_reconnect asks.disconnect asks.connect client).map
  | acquire client lock lease =>
    exact (Dialect.allAsk_acquireLock
      (fun id millis => asks.acquire { lock with lease } id lease millis (sound lock rfl))
      client).map
  | release client lock =>
    exact (Dialect.allAsk_releaseLock (fun id => asks.release lock id (sound lock rfl)) client).map
  | refresh client lock =>
    exact (Dialect.allAsk_refreshLock
      (fun id millis => asks.refresh lock id millis (sound lock rfl)) client).map
  | refreshFor client lock lease =>
    exact (Dialect.allAsk_refreshLockFor
      (fun id millis => asks.refresh { lock with lease } id millis (sound lock rfl)) client).map
  | inspect client lock =>
    exact (Dialect.allAsk_inspectLock (asks.inspect lock (sound lock rfl)) client).map

end Dialect.AsksOnly

end Calls

/-! ### Crowds -/

section Crowds

variable {Service Action Request Endpoint : Type} {Answer : Request → Type}

/-- A service at which calls take turns. -/
structure Desk (Service Action Request : Type) (Answer : Request → Type) where
  dialect : Dialect Request Answer
  perform : (now : Nat) → (request : Request) → Service → Answer request × Service
  interfere : (now : Nat) → Service → Action → Service

/-- A call and what is left of it. A call that is over stays on record. -/
structure Progress (Endpoint Request : Type) (Answer : Request → Type) where
  call : Call Endpoint
  rest : Program Request Answer (StepResult Endpoint)

/-- All calls made so far, the first one first, at a service. -/
structure Crowd (Endpoint Service Request : Type) (Answer : Request → Type) where
  now : Nat
  service : Service
  calls : List (Progress Endpoint Request Answer)

/-- What can happen to a crowd. -/
inductive Move (Endpoint Action : Type) where
  | begin (call : Call Endpoint)
  /-- The call of an index makes its next request. -/
  | serve (index : Nat)
  /-- Time passes, in nanoseconds. -/
  | pass (nanos : Nat)
  | interfere (action : Action)

/-- A request that was made: when, by the call of which index, and how it was answered. -/
structure Contact (Request : Type) (Answer : Request → Type) where
  now : Nat
  index : Nat
  request : Request
  answer : Answer request

namespace Crowd

/-- A crowd of nobody. -/
def nobody (service : Service) : Crowd Endpoint Service Request Answer := ⟨0, service, []⟩

variable (desk : Desk Service Action Request Answer)

/-- Lets the call of an index make its next request, if it has one. -/
def serve (crowd : Crowd Endpoint Service Request Answer) (index : Nat) :
    Option (Contact Request Answer) × Crowd Endpoint Service Request Answer :=
  match crowd.calls[index]? with
  | none => (none, crowd)
  | some progress =>
    match progress.rest.next? with
    | none => (none, crowd)
    | some step =>
      let answered := desk.perform crowd.now step.1 crowd.service
      (some ⟨crowd.now, index, step.1, answered.1⟩,
        { crowd with
          service := answered.2
          calls := crowd.calls.set index { progress with rest := step.2 answered.1 } })

/-- What a move does, with the request that is made in it, if one is. -/
def move (crowd : Crowd Endpoint Service Request Answer) :
    Move Endpoint Action → Option (Contact Request Answer) × Crowd Endpoint Service Request Answer
  | .begin call =>
    (none, { crowd with calls := crowd.calls ++ [⟨call, call.program desk.dialect⟩] })
  | .serve index => crowd.serve desk index
  | .pass nanos => (none, { crowd with now := crowd.now + nanos })
  | .interfere action =>
    (none, { crowd with service := desk.interfere crowd.now crowd.service action })

/-- The requests that are made in a run, the first one first, and the crowd after it. -/
def run : Crowd Endpoint Service Request Answer → List (Move Endpoint Action) →
    List (Contact Request Answer) × Crowd Endpoint Service Request Answer
  | crowd, [] => ([], crowd)
  | crowd, move :: moves =>
    let moved := crowd.move desk move
    let others := run moved.2 moves
    (moved.1.toList ++ others.1, others.2)

theorem move_serve (crowd : Crowd Endpoint Service Request Answer) (index : Nat) :
    crowd.move desk (.serve index) = crowd.serve desk index :=
  rfl

variable {desk} {crowd : Crowd Endpoint Service Request Answer}

/-- A call that is served makes one request, or there is nothing for it to do. -/
theorem serve_cases (desk : Desk Service Action Request Answer)
    (crowd : Crowd Endpoint Service Request Answer) (index : Nat) :
    crowd.serve desk index = (none, crowd) ∨
      ∃ progress step, crowd.calls[index]? = some progress ∧ progress.rest.next? = some step ∧
        crowd.serve desk index =
          (some ⟨crowd.now, index, step.1, (desk.perform crowd.now step.1 crowd.service).1⟩,
            { crowd with
              service := (desk.perform crowd.now step.1 crowd.service).2
              calls := crowd.calls.set index { progress with
                rest := step.2 (desk.perform crowd.now step.1 crowd.service).1 } }) := by
  unfold serve
  cases called : crowd.calls[index]? with
  | none => exact Or.inl rfl
  | some progress =>
    cases found : progress.rest.next? with
    | none =>
      refine Or.inl ?_
      simp only [found]
    | some step =>
      refine Or.inr ⟨progress, step, rfl, found, ?_⟩
      simp only [found]

/-! ### What every run keeps -/

/-- What holds of the requests made so far and the crowd holds after every run, if every move of the
run keeps it. -/
theorem run_induction
    (holds : List (Contact Request Answer) → Crowd Endpoint Service Request Answer → Prop)
    (contacts : List (Contact Request Answer)) (moves : List (Move Endpoint Action))
    (begun : holds contacts crowd)
    (step : ∀ move ∈ moves, ∀ contacts crowd, holds contacts crowd →
      holds (contacts ++ (crowd.move desk move).1.toList) (crowd.move desk move).2) :
    holds (contacts ++ (crowd.run desk moves).1) (crowd.run desk moves).2 := by
  induction moves generalizing crowd contacts with
  | nil =>
    rw [run, List.append_nil]
    exact begun
  | cons move moves inductionHypothesis =>
    obtain ⟨first, others⟩ := List.forall_mem_cons.mp step
    simp only [run, ← List.append_assoc]
    exact inductionHypothesis _ (first _ _ begun) others

/-- All requests that the calls of a crowd may come to make are of a kind. -/
def AllAsk (kind : Request → Prop) (crowd : Crowd Endpoint Service Request Answer) : Prop :=
  ∀ progress ∈ crowd.calls, progress.rest.AllAsk kind

theorem AllAsk.serve {kind : Request → Prop} (all : crowd.AllAsk kind) (index : Nat) :
    (crowd.serve desk index).2.AllAsk kind := by
  obtain served | ⟨progress, step, called, found, served⟩ := serve_cases desk crowd index
  · rw [served]
    exact all
  · rw [served]
    intro other member
    obtain before | rfl := List.mem_or_eq_of_mem_set member
    · exact all other before
    · exact ((all progress (List.mem_of_getElem? called)).next found).2 _

theorem AllAsk.begin {kind : Request → Prop} (all : crowd.AllAsk kind) {call : Call Endpoint}
    {dialect : Dialect Request Answer} (asks : (call.program dialect).AllAsk kind) :
    AllAsk kind { crowd with calls := crowd.calls ++ [⟨call, call.program dialect⟩] } := by
  intro progress member
  obtain before | added := List.mem_append.mp member
  · exact all progress before
  · cases List.mem_singleton.mp added
    exact asks

end Crowd

/-- What is kept at a desk whatever is asked there, as long as it is of a kind. It may speak of
something that is learned from the requests as they are made. -/
structure Desk.Keeps {Ghost : Type} (desk : Desk Service Action Request Answer)
    (kind : Request → Prop) (learn : Ghost → Contact Request Answer → Ghost)
    (kept : (now : Nat) → Ghost → Service → Prop) : Prop where
  serve : ∀ {now ghost service}, kept now ghost service → ∀ index request, kind request →
    kept now (learn ghost ⟨now, index, request, (desk.perform now request service).1⟩)
      (desk.perform now request service).2
  pass : ∀ {now ghost service}, kept now ghost service → ∀ nanos, kept (now + nanos) ghost service
  interfere : ∀ {now ghost service}, kept now ghost service → ∀ action,
    kept now ghost (desk.interfere now service action)

namespace Crowd

variable {Ghost : Type} {desk : Desk Service Action Request Answer} {kind : Request → Prop}
  {learn : Ghost → Contact Request Answer → Ghost} {kept : (now : Nat) → Ghost → Service → Prop}
  {crowd : Crowd Endpoint Service Request Answer} {ghost : Ghost}

/-- One move keeps what is kept at the desk. -/
theorem move_keeps (keeps : desk.Keeps kind learn kept) (all : crowd.AllAsk kind)
    (holds : kept crowd.now ghost crowd.service) (move : Move Endpoint Action)
    (asks : ∀ call, move = .begin call → (call.program desk.dialect).AllAsk kind) :
    (crowd.move desk move).2.AllAsk kind ∧
      kept (crowd.move desk move).2.now
        ((crowd.move desk move).1.toList.foldl learn ghost) (crowd.move desk move).2.service := by
  cases move with
  | begin call => exact ⟨all.begin (asks call rfl), holds⟩
  | serve index =>
    refine ⟨all.serve index, ?_⟩
    rw [move_serve]
    obtain served | ⟨progress, step, called, found, served⟩ := serve_cases desk crowd index
    · rw [served]
      exact holds
    · rw [served]
      have asked := ((all progress (List.mem_of_getElem? called)).next found).1
      exact keeps.serve holds index step.1 asked
  | pass nanos => exact ⟨all, keeps.pass holds nanos⟩
  | interfere action => exact ⟨all, keeps.interfere holds action⟩

/-- Every run keeps what is kept at the desk, whatever the order of its moves. -/
theorem run_keeps (keeps : desk.Keeps kind learn kept) (all : crowd.AllAsk kind)
    (holds : kept crowd.now ghost crowd.service) (moves : List (Move Endpoint Action))
    (asks : ∀ call, .begin call ∈ moves → (call.program desk.dialect).AllAsk kind) :
    (crowd.run desk moves).2.AllAsk kind ∧
      kept (crowd.run desk moves).2.now ((crowd.run desk moves).1.foldl learn ghost)
        (crowd.run desk moves).2.service := by
  refine run_induction (fun contacts crowd => crowd.AllAsk kind ∧
    kept crowd.now (contacts.foldl learn ghost) crowd.service) [] moves ⟨all, holds⟩ ?_
  rintro move member contacts crowd ⟨all, holds⟩
  rw [List.foldl_append]
  refine move_keeps keeps all holds move ?_
  rintro call rfl
  exact asks call member

end Crowd

end Crowds

end Leasehold
