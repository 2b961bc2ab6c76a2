/-
This file is about what is said to a service in the course of a run. A program that runs by itself
has a dialogue too: the requests that it made, each with the answer that it got. Every step of a
session that says anything to a server makes one call, and what it says is the dialogue of that
call. A client that closes says good-bye if it is connected; one that connects says good-bye first,
opens a connection, probes it, and says good-bye again if the probe failed.
-/

import Leasehold.Proofs.Discipline
import Leasehold.Proofs.Passages
import Leasehold.Server.Backend

namespace Leasehold

/-! ### Programs -/

section Programs

variable {Request Endpoint Service : Type} {Answer : Request → Type} {Result Other : Type}

namespace Program

variable (perform : (request : Request) → Service → Answer request × Service)

/-- What passes between a program and a service that performs one request after the other. -/
def talk : Program Request Answer Result → Service → List (Exchange Request Answer)
  | done _, _ => []
  | note _ next, service => next.talk service
  | ask request next, service =>
    let answered := perform request service
    ⟨request, answered.1⟩ :: (next answered.1).talk answered.2

theorem talk_andThen (program : Program Request Answer Result)
    (continuation : Result → Program Request Answer Other) (service : Service) :
    (program.andThen continuation).talk perform service =
      program.talk perform service ++
        (continuation (program.run perform service).result).talk perform
          (program.run perform service).service := by
  induction program generalizing service with
  | done result => rfl
  | note event next inductionHypothesis => exact inductionHypothesis service
  | ask request next inductionHypothesis =>
    exact congrArg (List.cons _) (inductionHypothesis _ _)

theorem talk_map (program : Program Request Answer Result) (change : Result → Other)
    (service : Service) :
    (program.map change).talk perform service = program.talk perform service := by
  rw [map, talk_andThen, talk, List.append_nil]

/-- A program that heeds a course ends as the course has it after its dialogue. -/
theorem Heeds.talk {program : Program Request Answer Result}
    {course : List (Exchange Request Answer) → Request ⊕ Result → Prop}
    {past : List (Exchange Request Answer)} (heeds : program.Heeds course past)
    (service : Service) :
    course (past ++ program.talk perform service) (.inr (program.run perform service).result) := by
  induction program generalizing past service with
  | done result =>
    rw [Program.talk, List.append_nil]
    exact heeds
  | note event next inductionHypothesis => exact inductionHypothesis heeds service
  | ask request next inductionHypothesis =>
    rw [Program.talk, List.append_cons]
    exact inductionHypothesis _ (heeds.2 _) _

end Program

namespace Dialect

variable (dialect : Dialect Request Answer)
  (perform : (request : Request) → Service → Answer request × Service)

theorem talk_close (client : Client Endpoint) (service : Service) :
    (dialect.close client).talk perform service =
      (dialect.closing client.connected).talk perform service := by
  obtain ⟨serial, id, space, connected, endpoint⟩ := client
  cases connected with
  | false => rfl
  | true => exact Program.talk_map perform dialect.disconnect _ service

theorem talk_reconnect (client : Client Endpoint) (service : Service) :
    (dialect.reconnect client).talk perform service =
      (dialect.redialling client.connected).talk perform service := by
  obtain ⟨_, left⟩ := dialect.run_close perform client service
  unfold reconnect redialling
  rw [Program.talk, Program.talk_andThen, Program.talk_andThen, talk_close, left, Program.talk_map]

end Dialect

end Programs

namespace Server

/-! ### Connections -/

/-- What is said by a client that gives up its connection, if it has one. -/
inductive Parting : (connected : Bool) → Talk → Prop where
  | unsaid : Parting false []
  | said (answer : Except CommandFailure Reply) : Parting true [⟨.send .quit, answer⟩]

/-- What is said by a client that opens a connection, and whether it then has it. -/
inductive Opening : Talk → (connected : Bool) → Prop where
  | answered (reply : Reply) : Opening [⟨.dial, .ok ()⟩, ⟨.send .ping, .ok reply⟩] true
  | mute (failure : CommandFailure) (answer : Except CommandFailure Reply) :
    Opening [⟨.dial, .ok ()⟩, ⟨.send .ping, .error failure⟩, ⟨.send .quit, answer⟩] false

theorem parting_closing (perform : (request : Request) → Server → request.Answer × Server)
    (connected : Bool) (server : Server) :
    Parting connected ((dialect.closing connected).talk perform server) := by
  cases connected with
  | false => exact .unsaid
  | true =>
    have said : (dialect.closing true).talk perform server =
        [⟨.send .quit, (perform (.send .quit) server).1⟩] := by
      show disconnecting.talk perform server = _
      unfold disconnecting
      rw [Program.talk]
      cases (perform (.send .quit) server).1 <;> rfl
    rw [said]
    exact .said _

theorem opening_connect (now : Nat) (endpoint : Endpoint) (server : Server) :
    Opening (dialect.connect.talk (perform now endpoint) server)
      (dialect.connect.run (perform now endpoint) server).result.isOk := by
  show Opening (connecting.talk (perform now endpoint) server)
    (connecting.run (perform now endpoint) server).result.isOk
  unfold connecting
  simp only [Program.talk, Program.run, perform]
  cases (answer now .ping { server with dialled := server.dialled ++ [endpoint] }).1 with
  | ok reply => exact .answered reply
  | error failure => exact .mute failure _

theorem talk_redialling (now : Nat) (endpoint : Endpoint) (connected : Bool) (server : Server) :
    ∃ farewell greeting,
      (dialect.redialling connected).talk (perform now endpoint) server = farewell ++ greeting ∧
        Parting connected farewell ∧
        Opening greeting
          ((dialect.redialling connected).run (perform now endpoint) server).result.isOk := by
  unfold Dialect.redialling
  rw [Program.talk_andThen, Program.run_andThen]
  exact ⟨_, _, rfl, parting_closing _ connected server, opening_connect now endpoint _⟩

/-- A call about a lock neither opens a connection nor probes one nor says good-bye. -/
theorem Course.aside {call : Call Endpoint} {talk : Talk} {result : StepResult Endpoint}
    (course : Course call talk (.inr result)) (about : call.lock?.isSome = true) :
    ∀ exchange ∈ talk, ∃ command, exchange.1 = .send command ∧ command ≠ .ping ∧
      command ≠ .quit := by
  cases course with
  | refused => exact fun _ member => (nomatch member)
  | absent | left | unreached | connected | abandoned => cases about
  | denied | acquired | rolledBack => simp
  | answered sole => cases sole <;> simp

/-! ### The calls of a session -/

/-- A call with the serial number of the client that makes it and what that client connects
to. -/
structure Calling where
  caller : Nat
  endpoint : Endpoint
  call : Call Endpoint

/-- The call about the lock of a name. -/
def lockCalling (session : Session Endpoint Server) (name : String)
    (call : Option (Client Endpoint) → Lock → Call Endpoint) : Option Calling :=
  (session.locks.get? name).map fun lock =>
    let client := session.clientOf? lock.client
    ⟨lock.client, (client.map (·.endpoint)).getD default, call client lock⟩

/-- The call that is made in a step, if any is. A client that is built connects as one does that
has no connection yet. -/
def calling (session : Session Endpoint Server) : Step Settings Action → Option Calling
  | .build _ identity settings =>
    settings.endpoint.toOption.map fun endpoint =>
      ⟨session.made, endpoint, .reconnect ⟨session.made, (session.identify identity.id).1,
        namespaceOrDefault identity.space, false, endpoint⟩⟩
  | .close name =>
    (session.clients.get? name).map fun client => ⟨client.serial, client.endpoint, .close client⟩
  | .reconnect name =>
    (session.clients.get? name).map fun client =>
      ⟨client.serial, client.endpoint, .reconnect client⟩
  | .acquireNew name _ resource lease =>
    (session.clients.get? name).map fun client =>
      ⟨client.serial, client.endpoint, .acquire (some client) (client.newLock resource) lease⟩
  | .acquire name lease => lockCalling session name fun client lock => .acquire client lock lease
  | .release name => lockCalling session name .release
  | .refresh name => lockCalling session name .refresh
  | .refreshFor name lease =>
    lockCalling session name fun client lock => .refreshFor client lock lease
  | .inspect name => lockCalling session name .inspect
  | .copy .. | .drop _ | .setId .. | .newLock .. | .setPayload .. | .advance _ | .interfere _ =>
    none

theorem calling_build (session : Session Endpoint Server) (name : String) (identity : Identity)
    {settings : Settings} {endpoint : Endpoint} (read : settings.endpoint = .ok endpoint) :
    calling session (.build name identity settings) =
      some ⟨session.made, endpoint, .reconnect ⟨session.made, (session.identify identity.id).1,
        namespaceOrDefault identity.space, false, endpoint⟩⟩ := by
  rw [calling, read]
  rfl

theorem calling_close {session : Session Endpoint Server} {name : String}
    {client : Client Endpoint} (found : session.clients.get? name = some client) :
    calling session (.close name) = some ⟨client.serial, client.endpoint, .close client⟩ := by
  rw [calling, found]
  rfl

theorem calling_reconnect {session : Session Endpoint Server} {name : String}
    {client : Client Endpoint} (found : session.clients.get? name = some client) :
    calling session (.reconnect name) =
      some ⟨client.serial, client.endpoint, .reconnect client⟩ := by
  rw [calling, found]
  rfl

/-- What is said to the server in a call. -/
def Calling.talk (calling : Calling) (session : Session Endpoint Server) : Talk :=
  (calling.call.program dialect).talk (perform session.now calling.endpoint) session.service

/-- A call of a session takes one of the courses, up to its end. -/
theorem Calling.course (calling : Calling) (session : Session Endpoint Server) :
    ∃ result, Course calling.call (calling.talk session) (.inr result) :=
  ⟨_, (heeds_course calling.call).talk _ session.service⟩

/-- A step that is not about clients makes a call about a lock, if any. -/
theorem isSome_lock {session : Session Endpoint Server} {step : Step Settings Action}
    {made : Calling} (called : calling session step = some made)
    (other : ∀ name, step.subject ≠ .client name) : made.call.lock?.isSome = true := by
  cases step with
  | build name | close name | reconnect name | copy name | drop name | setId name =>
    exact absurd rfl (other name)
  | acquireNew | acquire | release | refresh | refreshFor | inspect =>
    obtain ⟨found, _, rfl⟩ := Option.map_eq_some_iff.mp called
    rfl
  | newLock | setPayload | advance | interfere => cases called

theorem calling_eq_none {session : Session Endpoint Server} {step : Step Settings Action}
    (absent : session.finds step = false) : calling session step = none := by
  cases step with
  | build | advance | interfere => cases absent
  | copy | drop | setId | newLock | setPayload => rfl
  | close | reconnect | acquireNew | acquire | release | refresh | refreshFor | inspect =>
    have none := Option.isNone_iff_eq_none.mp (Option.isSome_eq_false_iff.mp absent)
    exact Option.map_eq_none_iff.mpr none

/-- A server notes every command that it receives, whatever it answers. -/
theorem received_answer (now : Nat) (command : Command) (server : Server) :
    (server.answer now command).2.received = server.received ++ [command] ∧
      (server.answer now command).2.dialled = server.dialled := by
  have own (server : Server) : (server.answerOwn now command).2.received = server.received ∧
      (server.answerOwn now command).2.dialled = server.dialled := by
    unfold answerOwn
    split <;> exact ⟨rfl, rfl⟩
  unfold answer
  dsimp only
  split
  · exact own _
  · exact own _
  · exact ⟨rfl, rfl⟩

/-- A building client leaves the server as its first connection left it. -/
theorem service_build {session : Session Endpoint Server} (name : String) (identity : Identity)
    {settings : Settings} {endpoint : Endpoint} (told : settings.endpoint = .ok endpoint)
    (client : Client Endpoint) (unconnected : client.connected = false) :
    (session.step backend (.build name identity settings)).service.service =
      (((Call.reconnect client).program dialect).run (perform session.now endpoint)
        session.service).service := by
  have mapped := (Program.run_map (perform session.now endpoint) (dialect.reconnect client)
    (fun reconnected => (Session.resultOf reconnected.1 : StepResult Endpoint))
    session.service).2
  have reconnected := (dialect.run_reconnect (perform session.now endpoint) client
    session.service).2
  have dialled : dialect.redialling client.connected = dialect.connect := by
    rw [unconnected]
    rfl
  rw [dialled] at reconnected
  have after := mapped.trans reconnected
  refine Session.build_cases (fun _ later => later.service = _) name identity settings ?_ ?_ ?_
  · intro error service prepared
    rw [show settings.endpoint = .error error from congrArg Prod.fst prepared] at told
    cases told
  · intro other service error prepared _ _
    obtain rfl : session.service = service := congrArg Prod.snd prepared
    rw [show settings.endpoint = .ok other from congrArg Prod.fst prepared] at told
    cases told
    exact after.symm
  · intro other service prepared _ _ _
    obtain rfl : session.service = service := congrArg Prod.snd prepared
    rw [show settings.endpoint = .ok other from congrArg Prod.fst prepared] at told
    cases told
    exact after.symm

/-- The server of a session after a step is as the call of the step left it. -/
theorem service_of_calling {session : Session Endpoint Server} {step : Step Settings Action}
    {made : Calling} (called : calling session step = some made) :
    (session.step backend step).service.service =
      ((made.call.program dialect).run (perform session.now made.endpoint)
        session.service).service := by
  cases step with
  | build name identity settings =>
    obtain ⟨endpoint, told, rfl⟩ := Option.map_eq_some_iff.mp called
    refine service_build name identity ?_ _ rfl
    cases known : settings.endpoint with
    | error error =>
      rw [known] at told
      cases told
    | ok other =>
      rw [known] at told
      cases told
      rfl
  | close name | reconnect name =>
    obtain ⟨client, found, rfl⟩ := Option.map_eq_some_iff.mp called
    simp only [Session.step, Session.onClient, found]
    exact (Program.run_map _ _ _ session.service).2.symm
  | acquireNew name lockName resource lease =>
    obtain ⟨client, found, rfl⟩ := Option.map_eq_some_iff.mp called
    simp only [Session.step, Session.onClient, found]
    refine Eq.trans ?_ (Program.run_map _ _ _ session.service).2.symm
    split <;> rfl
  | acquire name | release name | refresh name | refreshFor name =>
    obtain ⟨lock, found, rfl⟩ := Option.map_eq_some_iff.mp called
    simp only [Session.step, Session.onLock, found]
    exact (Program.run_map _ _ _ session.service).2.symm
  | inspect name =>
    obtain ⟨lock, found, rfl⟩ := Option.map_eq_some_iff.mp called
    simp only [Session.step, Session.onLock, found]
    refine Eq.trans ?_ (Program.run_map _ _ _ session.service).2.symm
    split <;> rfl
  | copy | drop | setId | newLock | setPayload | advance | interfere => cases called

/-- A server receives nothing in a step without a call. -/
theorem received_of_silent {session : Session Endpoint Server} {step : Step Settings Action}
    (silent : calling session step = none) :
    (session.step backend step).service.service.received = session.service.received ∧
      (session.step backend step).service.service.dialled = session.service.dialled := by
  cases step with
  | build name identity settings =>
    have unread : settings.endpoint.toOption = none := Option.map_eq_none_iff.mp silent
    refine Session.build_cases (fun _ (after : Session Endpoint Server) =>
      after.service.received = session.service.received ∧
        after.service.dialled = session.service.dialled) name identity settings ?_ ?_ ?_
    · intro error service prepared
      obtain rfl : session.service = service := congrArg Prod.snd prepared
      exact ⟨rfl, rfl⟩
    · intro endpoint service error prepared
      rw [show settings.endpoint = .ok endpoint from congrArg Prod.fst prepared] at unread
      cases unread
    · intro endpoint service prepared
      rw [show settings.endpoint = .ok endpoint from congrArg Prod.fst prepared] at unread
      cases unread
  | close name | reconnect name | acquireNew name =>
    have absent : session.clients.get? name = none := Option.map_eq_none_iff.mp silent
    simp only [Session.step, Session.onClient, absent, Session.quietly, and_self]
  | acquire name | release name | refresh name | refreshFor name | inspect name =>
    have absent : session.locks.get? name = none := Option.map_eq_none_iff.mp silent
    simp only [Session.step, Session.onLock, absent, Session.quietly, and_self]
  | copy name | drop name | setId name | newLock name =>
    simp only [Session.step, Session.onClient]
    split <;> exact ⟨rfl, rfl⟩
  | setPayload name =>
    simp only [Session.step, Session.onLock]
    split <;> exact ⟨rfl, rfl⟩
  | advance => exact ⟨rfl, rfl⟩
  | interfere action => cases action <;> exact ⟨rfl, rfl⟩

end Server

end Leasehold
