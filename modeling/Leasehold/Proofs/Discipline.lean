/-
This file proves that clients keep their discipline towards a server, whatever the server answers
and in whatever order calls are served. All courses that the dialogue of a call with a server may
take are written down once. A dialogue is short: taking a lock has at most three commands, any
other operation on a lock has one, and connecting has at most a farewell on the old connection and
three requests on the new one. What the discipline asks for is then read off the courses.
-/

import Leasehold.Proofs.Courses

namespace Leasehold.Server

/-- What passed between a call and a server. -/
abbrev Talk := List (Exchange Request Request.Answer)

/-- Whether an answer to the conditional write says that it took effect. A text and a number do,
and any other reply does if it can be read as a text. -/
def grants : Except CommandFailure Reply → Bool
  | .error _ | .ok .null => false
  | .ok (.text _) | .ok (.integer _) => true
  | .ok reply =>
    match reply.expectText with
    | .ok (some _) => true
    | _ => false

theorem grants_of_read {answer : Except CommandFailure Reply} {text : String}
    (read : answer.bind Reply.expectText = .ok (some text)) : grants answer = true := by
  unfold grants
  split
  · cases read
  · cases read
  · rfl
  · rfl
  next reply _ _ _ =>
    have expected : reply.expectText = .ok (some text) := read
    rw [expected]

theorem not_grants_of_read {answer : Except CommandFailure Reply}
    (unread : ∀ text, answer.bind Reply.expectText ≠ .ok (some text)) : grants answer = false := by
  unfold grants
  split
  · rfl
  · rfl
  · exact absurd rfl (unread _)
  · exact absurd rfl (unread _)
  next reply _ _ _ =>
    split
    next text read => exact absurd read (unread text)
    next => rfl

/-! ### Courses -/

/-- What was said on an old connection before a new one is opened. -/
inductive Farewell : Talk → Prop where
  | unsaid : Farewell []
  | said (answer : Except CommandFailure Reply) : Farewell [⟨.send .quit, answer⟩]

/-- The one command of a call that sends no more than one. -/
inductive Sole : Call Endpoint → Command → Prop where
  | release {client lock} : Sole (.release (some client) lock) (.release lock.keys client.id)
  | refresh {client lock millis} : lock.lease.leaseMillis = .ok millis →
    Sole (.refresh (some client) lock) (.refresh lock.keys client.id millis lock.payload)
  | refreshFor {client lock lease millis} : lease.leaseMillis = .ok millis →
    Sole (.refreshFor (some client) lock lease)
      (.refresh lock.keys client.id millis lock.payload)
  | inspect {client lock} : Sole (.inspect (some client) lock) (.inspect lock.keys)

/-- What a call may do next after a dialogue with a server. -/
inductive Course : Call Endpoint → Talk → Request ⊕ StepResult Endpoint → Prop where
  | refused {call error} : error.isRefusal = true → Course call [] (.inr (.failed error))
  | absent {client} : Course (.close client) [] (.inr .finished)
  | leaving {client} : Course (.close client) [] (.inl (.send .quit))
  | left {client answer} : Course (.close client) [⟨.send .quit, answer⟩] (.inr .finished)
  | parting {client} : Course (.reconnect client) [] (.inl (.send .quit))
  | dialling {client farewell} : Farewell farewell →
    Course (.reconnect client) farewell (.inl .dial)
  | unreached {client farewell failure} : Farewell farewell →
    Course (.reconnect client) (farewell ++ [⟨.dial, .error failure⟩])
      (.inr (.failed (.connection (.failure failure))))
  | probing {client farewell} : Farewell farewell →
    Course (.reconnect client) (farewell ++ [⟨.dial, .ok ()⟩]) (.inl (.send .ping))
  | connected {client farewell reply} : Farewell farewell →
    Course (.reconnect client) (farewell ++ [⟨.dial, .ok ()⟩, ⟨.send .ping, .ok reply⟩])
      (.inr .finished)
  | mute {client farewell failure} : Farewell farewell →
    Course (.reconnect client) (farewell ++ [⟨.dial, .ok ()⟩, ⟨.send .ping, .error failure⟩])
      (.inl (.send .quit))
  | abandoned {client farewell failure answer} : Farewell farewell →
    Course (.reconnect client)
      (farewell ++ [⟨.dial, .ok ()⟩, ⟨.send .ping, .error failure⟩, ⟨.send .quit, answer⟩])
      (.inr (.failed (.connection (.failure failure))))
  | claiming {client lock lease millis} : lease.leaseMillis = .ok millis →
    Course (.acquire (some client) lock lease) []
      (.inl (.send (.setIfAbsent lock.keys.owner client.id millis)))
  | denied {client lock lease millis first error} : lease.leaseMillis = .ok millis →
    grants first = false → error.isRefusal = false →
    Course (.acquire (some client) lock lease)
      [⟨.send (.setIfAbsent lock.keys.owner client.id millis), first⟩] (.inr (.failed error))
  | granted {client lock lease millis first} : lease.leaseMillis = .ok millis →
    grants first = true →
    Course (.acquire (some client) lock lease)
      [⟨.send (.setIfAbsent lock.keys.owner client.id millis), first⟩]
      (.inl (.send (.set lock.keys.data lock.payload)))
  | acquired {client lock lease millis first reply} : lease.leaseMillis = .ok millis →
    grants first = true →
    Course (.acquire (some client) lock lease)
      [⟨.send (.setIfAbsent lock.keys.owner client.id millis), first⟩,
        ⟨.send (.set lock.keys.data lock.payload), .ok reply⟩] (.inr .finished)
  | rejected {client lock lease millis first failure} : lease.leaseMillis = .ok millis →
    grants first = true →
    Course (.acquire (some client) lock lease)
      [⟨.send (.setIfAbsent lock.keys.owner client.id millis), first⟩,
        ⟨.send (.set lock.keys.data lock.payload), .error failure⟩]
      (.inl (.send (.release lock.keys client.id)))
  | rolledBack {client lock lease millis first failure answer} : lease.leaseMillis = .ok millis →
    grants first = true →
    Course (.acquire (some client) lock lease)
      [⟨.send (.setIfAbsent lock.keys.owner client.id millis), first⟩,
        ⟨.send (.set lock.keys.data lock.payload), .error failure⟩,
        ⟨.send (.release lock.keys client.id), answer⟩] (.inr (.failed (failed failure)))
  | asking {call command} : Sole call command → Course call [] (.inl (.send command))
  | answered {call command answer result} : Sole call command →
    (∀ error, result = .failed error → error.isRefusal = false) →
    Course call [⟨.send command, answer⟩] (.inr result)

/-- The result of an operation is no refusal. -/
def Unrefused : Except LockError Unit → Prop
  | .error error => error.isRefusal = false
  | .ok () => True

theorem Unrefused.resultOf {result : Except LockError Unit} (unrefused : Unrefused result)
    (error : LockError) (failed : (Session.resultOf result : StepResult Endpoint) = .failed error) :
    error.isRefusal = false := by
  cases result with
  | error other =>
    cases failed
    exact unrefused
  | ok done => cases failed

theorem heeds_acquiring {client : Client Endpoint} {lock : Lock} {lease : Duration} {millis : Nat}
    (leased : lease.leaseMillis = .ok millis) :
    (acquiring { lock with lease } client.id millis).Heeds
      (Dialect.Told Session.resultOf (Course (.acquire (some client) lock lease))) [] := by
  refine ⟨.claiming leased, fun first => ?_⟩
  dsimp only
  cases read : first.bind Reply.expectText with
  | error failure =>
    refine .denied leased (not_grants_of_read fun text same => ?_) rfl
    rw [read] at same
    cases same
  | ok taken =>
    cases taken with
    | none =>
      refine .denied leased (not_grants_of_read fun text same => ?_) rfl
      rw [read] at same
      cases same
    | some text =>
      have given := grants_of_read read
      refine ⟨.granted leased given, fun second => ?_⟩
      cases second with
      | ok reply => exact .acquired leased given
      | error failure =>
        refine ⟨.rejected leased given, fun third => ?_⟩
        dsimp only
        split
        · exact .rolledBack leased given
        · exact .rolledBack leased given

theorem heeds_releasing {call : Call Endpoint} {lock : Lock} {id : String}
    (sole : Sole call (.release lock.keys id)) :
    (releasing lock id).Heeds (Dialect.Told Session.resultOf (Course call)) [] := by
  refine ⟨.asking sole, fun answer => ?_⟩
  dsimp only
  split <;> exact .answered sole (Unrefused.resultOf (by trivial))

theorem heeds_refreshing {call : Call Endpoint} (lock : Lock) {id : String} {millis : Nat}
    (sole : Sole call (.refresh lock.keys id millis lock.payload)) :
    (refreshing lock id millis).Heeds (Dialect.Told Session.resultOf (Course call)) [] := by
  refine ⟨.asking sole, fun answer => ?_⟩
  dsimp only
  split <;> exact .answered sole (Unrefused.resultOf (by trivial))

theorem heeds_inspecting {client : Client Endpoint} {lock : Lock} :
    (inspecting lock).Heeds
      (Dialect.Told StepResult.ofView (Course (.inspect (some client) lock))) [] := by
  refine ⟨.asking .inspect, fun answer => ?_⟩
  cases answer with
  | error failure =>
    refine .answered .inspect fun error same => ?_
    cases same
    rfl
  | ok reply =>
    dsimp only
    split
    next fault _ =>
      refine .answered .inspect fun error same => ?_
      cases same
      rfl
    next snapshot _ => exact .answered .inspect fun error same => (nomatch same)

theorem heeds_connecting (client : Client Endpoint) {farewell : Talk} (bade : Farewell farewell) :
    connecting.Heeds (Dialect.Told Session.resultOf (Course (.reconnect client))) farewell := by
  refine ⟨.dialling bade, fun opened => ?_⟩
  cases opened with
  | error failure => exact .unreached bade
  | ok done =>
    refine ⟨.probing bade, fun probed => ?_⟩
    rw [List.append_assoc]
    cases probed with
    | ok reply => exact .connected bade
    | error failure =>
      refine ⟨.mute bade, fun answer => ?_⟩
      rw [List.append_assoc]
      exact .abandoned bade

theorem heeds_close (client : Client Endpoint) :
    ((Call.close client).program dialect).Heeds (Course (.close client)) [] := by
  obtain ⟨serial, id, space, connected, endpoint⟩ := client
  cases connected with
  | false => exact .absent
  | true =>
    refine ⟨.leaving, fun answer => ?_⟩
    cases answer <;> exact .left

theorem heeds_reconnect (client : Client Endpoint) :
    ((Call.reconnect client).program dialect).Heeds (Course (.reconnect client)) [] := by
  obtain ⟨serial, id, space, connected, endpoint⟩ := client
  have onward {farewell : Talk} (bade : Farewell farewell) :
      ((connecting.map fun result =>
          (result, (⟨serial, id, space, result.isOk, endpoint⟩ : Client Endpoint))).map
        fun reconnected => (Session.resultOf reconnected.1 : StepResult Endpoint)).Heeds
          (Course (.reconnect ⟨serial, id, space, connected, endpoint⟩)) farewell := by
    have heeds := heeds_connecting ⟨serial, id, space, connected, endpoint⟩ bade
    refine Program.Heeds.map (Program.Heeds.map (heeds.mono ?_))
    rintro past (request | result) allowed <;> exact allowed
  cases connected with
  | false => exact onward .unsaid
  | true =>
    refine ⟨.parting, fun answer => ?_⟩
    cases answer with
    | ok reply => exact onward (.said (.ok reply))
    | error failure => exact onward (.said (.error failure))

/-- Every call of a client of a server takes one of the courses, whatever the server answers. -/
theorem heeds_course (call : Call Endpoint) : (call.program dialect).Heeds (Course call) [] := by
  cases call with
  | close client => exact heeds_close client
  | reconnect client => exact heeds_reconnect client
  | acquire client lock lease =>
    refine Dialect.heeds_acquire (fun error why => .refused why.isRefusal) ?_
    rintro found millis rfl leased
    exact heeds_acquiring leased
  | release client lock =>
    refine Dialect.heeds_release (fun error why => .refused (isRefusal_of_session why)) ?_
    rintro found rfl
    exact heeds_releasing .release
  | refresh client lock =>
    refine Dialect.heeds_refresh (fun error why => .refused why.isRefusal) ?_
    rintro found millis rfl leased
    exact heeds_refreshing lock (.refresh leased)
  | refreshFor client lock lease =>
    refine Dialect.heeds_refreshFor (fun error why => .refused why.isRefusal) ?_
    rintro found millis rfl leased
    exact heeds_refreshing { lock with lease } (.refreshFor leased)
  | inspect client lock =>
    refine Dialect.heeds_inspect (fun error why => .refused (isRefusal_of_session why)) ?_
    rintro found rfl
    exact heeds_inspecting

/-! ### Discipline -/

/-- The words of a command that a call may send: a probe or a farewell, or one of the commands
about the keys of its lock under the ID of its client. -/
inductive Permitted (call : Call Endpoint) : (words : List String) → Prop where
  | ping : Permitted call ["PING"]
  | quit : Permitted call ["QUIT"]
  | claim {client lock millis} : call.party? = some (client, lock) → 1 ≤ millis →
    millis ≤ Duration.largestMillis →
    Permitted call ["SET", lock.keys.owner, client.id, "PX", toString millis, "NX"]
  | store {client lock} : call.party? = some (client, lock) →
    Permitted call ["SET", lock.keys.data, lock.payload]
  | eval {client lock} (script : Script) (further : List String) :
    call.party? = some (client, lock) →
    Permitted call (["EVAL", script.text, "2", lock.keys.owner, lock.keys.data] ++ further)

/-- A command that is sent has permitted words. -/
def Proper (call : Call Endpoint) (request : Request) : Prop :=
  ∀ command, request = .send command → Permitted call (command.words Script.text)

/-- Whether a call is an operation on a lock that needs one command only. -/
def asksOnce : Call Endpoint → Bool
  | .release .. | .refresh .. | .refreshFor .. | .inspect .. => true
  | .close _ | .reconnect _ | .acquire .. => false

/-- A request is made, if it has not been made yet. -/
def Makes (talk : Talk) (upcoming : Request ⊕ StepResult Endpoint) (request : Request) : Prop :=
  (∃ answer, ⟨request, answer⟩ ∈ talk) ∨ upcoming = .inl request

/-- No request is made twice, unless on a connection that was opened in between. -/
def Unrepeated : List Request → Prop
  | [] => True
  | request :: later =>
    (request ∈ later → .dial ∈ later.takeWhile (· ≠ request)) ∧ Unrepeated later

/-- A call keeps discipline, as far as it has come. -/
structure Disciplined (call : Call Endpoint) (talk : Talk)
    (upcoming : Request ⊕ StepResult Endpoint) : Prop where
  proper : ∀ exchange ∈ talk, Proper call exchange.1
  /-- A plain write is the second command of taking a lock, right after a conditional write that
  took effect. -/
  writing : ∀ earlier key payload answer later,
    talk = earlier ++ ⟨.send (.set key payload), answer⟩ :: later →
    ∃ client lock lease millis first, call = .acquire (some client) lock lease ∧
      earlier = [⟨.send (.setIfAbsent lock.keys.owner client.id millis), first⟩] ∧
      grants first = true
  /-- A lock is given back while it is taken if its payload was refused, and only then. -/
  undoing : ∀ client lock lease, call = .acquire client lock lease → ∀ keys id,
    Makes talk upcoming (.send (.release keys id)) ↔
      (∃ millis first, ⟨.send (.setIfAbsent keys.owner id millis), first⟩ ∈ talk) ∧
        ∃ payload failure, ⟨.send (.set keys.data payload), .error failure⟩ ∈ talk
  /-- A lock is taken if its conditional write took effect and its payload was accepted, and only
  then. -/
  succeeding : ∀ client lock lease, call = .acquire client lock lease →
    (upcoming = .inr .finished ↔
      ∃ owner id millis first data payload reply,
        talk = [⟨.send (.setIfAbsent owner id millis), first⟩,
          ⟨.send (.set data payload), .ok reply⟩] ∧ grants first = true)
  brief : asksOnce call = true → talk.length ≤ 1
  once : asksOnce call = true → ∀ result, upcoming = .inr result →
    (∃ error, result = .failed error ∧ error.isRefusal = true) ∨
      ∃ command answer, talk = [⟨.send command, answer⟩]
  refused : ∀ error, upcoming = .inr (.failed error) → error.isRefusal = true → talk = []
  unrepeated : Unrepeated (talk.map Sigma.fst)

/-! ### What the courses have in common -/

variable {call : Call Endpoint} {talk : Talk} {upcoming : Request ⊕ StepResult Endpoint}

theorem Farewell.proper {farewell : Talk} (bade : Farewell farewell) :
    ∀ exchange ∈ farewell, Proper call exchange.1 := by
  cases bade with
  | unsaid => exact fun exchange member => (nomatch member)
  | said answer =>
    rw [List.forall_mem_singleton]
    rintro command ⟨⟩
    exact .quit

theorem Sole.proper {command : Command} (sole : Sole call command) :
    Proper call (.send command) := by
  rintro _ ⟨⟩
  cases sole with
  | @release client lock => exact .eval .release [client.id] rfl
  | @refresh client lock millis leased =>
    exact .eval .refresh [client.id, toString millis, lock.payload] rfl
  | @refreshFor client lock lease millis leased =>
    exact .eval .refresh [client.id, toString millis, lock.payload] rfl
  | inspect => exact .eval .inspect [] rfl

theorem proper_claim {client : Client Endpoint} {lock : Lock} {lease : Duration} {millis : Nat}
    (leased : lease.leaseMillis = .ok millis) :
    Proper (.acquire (some client) lock lease)
      (.send (.setIfAbsent lock.keys.owner client.id millis)) := by
  rintro _ ⟨⟩
  obtain ⟨positive, bounded⟩ := leaseMillis_bounds leased
  exact .claim rfl positive bounded

theorem Course.proper (course : Course call talk upcoming) :
    ∀ exchange ∈ talk, Proper call exchange.1 := by
  have dial : Proper call .dial := fun command same => (nomatch same)
  have ping : Proper call (.send .ping) := by
    rintro _ ⟨⟩
    exact .ping
  have quit : Proper call (.send .quit) := by
    rintro _ ⟨⟩
    exact .quit
  have store {client : Client Endpoint} {lock : Lock} {lease : Duration} :
      Proper (.acquire (some client) lock lease) (.send (.set lock.keys.data lock.payload)) := by
    rintro _ ⟨⟩
    exact .store rfl
  have release {client : Client Endpoint} {lock : Lock} {lease : Duration} :
      Proper (.acquire (some client) lock lease) (.send (.release lock.keys client.id)) := by
    rintro _ ⟨⟩
    exact .eval .release [client.id] rfl
  cases course with
  | refused | absent | leaving | parting | claiming | asking =>
    exact fun exchange member => (nomatch member)
  | left => exact List.forall_mem_singleton.mpr quit
  | dialling bade => exact bade.proper
  | unreached bade | probing bade =>
    simp only [List.forall_mem_append, List.forall_mem_singleton]
    exact ⟨bade.proper, dial⟩
  | connected bade | mute bade =>
    simp only [List.forall_mem_append, List.forall_mem_cons]
    exact ⟨bade.proper, dial, ping, fun _ member => (nomatch member)⟩
  | abandoned bade =>
    simp only [List.forall_mem_append, List.forall_mem_cons]
    exact ⟨bade.proper, dial, ping, quit, fun _ member => (nomatch member)⟩
  | denied leased | granted leased => exact List.forall_mem_singleton.mpr (proper_claim leased)
  | acquired leased | rejected leased =>
    simp only [List.forall_mem_cons]
    exact ⟨proper_claim leased, store, fun _ member => (nomatch member)⟩
  | rolledBack leased =>
    simp only [List.forall_mem_cons]
    exact ⟨proper_claim leased, store, release, fun _ member => (nomatch member)⟩
  | answered sole => exact List.forall_mem_singleton.mpr sole.proper

/-- There is no plain write in a dialogue, or it is the second exchange and the only one. -/
theorem Course.write_cases (course : Course call talk upcoming) :
    (∀ key payload answer, ⟨.send (.set key payload), answer⟩ ∉ talk) ∨
      ∃ client lock lease millis first answer further,
        call = .acquire (some client) lock lease ∧ grants first = true ∧
        talk = ⟨.send (.setIfAbsent lock.keys.owner client.id millis), first⟩ ::
          ⟨.send (.set lock.keys.data lock.payload), answer⟩ :: further ∧
        ∀ key payload answer, ⟨.send (.set key payload), answer⟩ ∉ further := by
  have unsaid {farewell : Talk} (bade : Farewell farewell) (key payload : String)
      (answer : Except CommandFailure Reply) :
      ⟨.send (.set key payload), answer⟩ ∉ farewell := by
    cases bade <;> simp
  cases course with
  | acquired leased given =>
    exact Or.inr ⟨_, _, _, _, _, _, _, rfl, given, rfl, fun _ _ _ member => (nomatch member)⟩
  | rejected leased given =>
    exact Or.inr ⟨_, _, _, _, _, _, _, rfl, given, rfl, fun _ _ _ member => (nomatch member)⟩
  | rolledBack leased given =>
    refine Or.inr ⟨_, _, _, _, _, _, _, rfl, given, rfl, fun key payload answer => ?_⟩
    simp
  | answered sole =>
    refine Or.inl fun key payload answer => ?_
    cases sole <;> simp
  | dialling bade => exact Or.inl (unsaid bade)
  | unreached bade | probing bade | connected bade | mute bade | abandoned bade =>
    refine Or.inl fun key payload answer => ?_
    simp [unsaid bade key payload answer]
  | _ =>
    refine Or.inl fun key payload answer => ?_
    simp

theorem Course.writing (course : Course call talk upcoming) {earlier later : Talk}
    {key payload : String} {answer : Except CommandFailure Reply}
    (split : talk = earlier ++ ⟨.send (.set key payload), answer⟩ :: later) :
    ∃ client lock lease millis first, call = .acquire (some client) lock lease ∧
      earlier = [⟨.send (.setIfAbsent lock.keys.owner client.id millis), first⟩] ∧
      grants first = true := by
  obtain none | ⟨client, lock, lease, millis, first, second, further, rfl, given, rfl, none⟩ :=
    course.write_cases
  · exact absurd (split ▸ List.mem_append_cons_self) (none key payload answer)
  · refine ⟨client, lock, lease, millis, first, rfl, ?_, given⟩
    rcases earlier with _ | ⟨one, _ | ⟨two, earlier⟩⟩
    · cases split
    · cases split
      rfl
    · simp only [List.cons_append, List.cons.injEq] at split
      exact absurd (split.2.2 ▸ List.mem_append_cons_self) (none key payload answer)

theorem Course.undoing {client : Option (Client Endpoint)} {lock : Lock} {lease : Duration}
    (course : Course (.acquire client lock lease) talk upcoming) (keys : KeyPair) (id : String) :
    Makes talk upcoming (.send (.release keys id)) ↔
      (∃ millis first, ⟨.send (.setIfAbsent keys.owner id millis), first⟩ ∈ talk) ∧
        ∃ payload failure, ⟨.send (.set keys.data payload), .error failure⟩ ∈ talk := by
  have same (owner : keys.owner = lock.keys.owner) (data : keys.data = lock.keys.data) :
      keys = lock.keys := by
    show (⟨keys.owner, keys.data⟩ : KeyPair) = ⟨lock.keys.owner, lock.keys.data⟩
    rw [owner, data]
  cases course with
  | refused | claiming | denied | granted | acquired => simp [Makes]
  | rejected | rolledBack =>
    constructor
    · intro makes
      obtain ⟨rfl, rfl⟩ : keys = lock.keys ∧ id = _ := by simpa [Makes, eq_comm] using makes
      simp
    · rintro ⟨⟨millis, first, claimed⟩, payload, failure, stored⟩
      simp only [List.mem_cons, Sigma.mk.injEq, Request.send.injEq, Command.setIfAbsent.injEq,
        Command.set.injEq, reduceCtorEq, false_and, false_or, or_false, List.not_mem_nil]
        at claimed stored
      obtain ⟨⟨owner, rfl, _⟩, _⟩ := claimed
      rw [same owner stored.1.1]
      simp [Makes]
  | asking sole | answered sole => cases sole

theorem Course.succeeding {client : Option (Client Endpoint)} {lock : Lock} {lease : Duration}
    (course : Course (.acquire client lock lease) talk upcoming) :
    upcoming = .inr .finished ↔
      ∃ owner id millis first data payload reply,
        talk = [⟨.send (.setIfAbsent owner id millis), first⟩,
          ⟨.send (.set data payload), .ok reply⟩] ∧ grants first = true := by
  cases course with
  | acquired leased given => exact ⟨fun _ => ⟨_, _, _, _, _, _, _, rfl, given⟩, fun _ => rfl⟩
  | refused | claiming | denied | granted | rejected | rolledBack => simp
  | asking sole | answered sole => cases sole

theorem Course.brief (course : Course call talk upcoming) (once : asksOnce call = true) :
    talk.length ≤ 1 := by
  cases course with
  | refused | asking => exact Nat.zero_le 1
  | answered => exact Nat.le_refl 1
  | _ => cases once

theorem Course.once (course : Course call talk upcoming) (once : asksOnce call = true)
    {result : StepResult Endpoint} (ended : upcoming = .inr result) :
    (∃ error, result = .failed error ∧ error.isRefusal = true) ∨
      ∃ command answer, talk = [⟨.send command, answer⟩] := by
  cases course with
  | refused refusal =>
    cases ended
    exact Or.inl ⟨_, rfl, refusal⟩
  | answered sole => exact Or.inr ⟨_, _, rfl⟩
  | asking sole => cases ended
  | _ => cases once

theorem Course.refused_silent (course : Course call talk upcoming) {error : LockError}
    (ended : upcoming = .inr (.failed error)) (refusal : error.isRefusal = true) : talk = [] := by
  cases course with
  | refused => rfl
  | unreached | abandoned | rolledBack =>
    cases ended
    cases refusal
  | denied leased given unrefused =>
    cases ended
    exact absurd (unrefused.symm.trans refusal) Bool.false_ne_true
  | answered sole unrefused =>
    exact absurd ((unrefused error (Sum.inr.inj ended)).symm.trans refusal) Bool.false_ne_true
  | _ => cases ended

theorem Course.unrepeated (course : Course call talk upcoming) :
    Unrepeated (talk.map Sigma.fst) := by
  cases course with
  | dialling bade => cases bade <;> simp [Unrepeated]
  | unreached bade | probing bade | connected bade | mute bade | abandoned bade =>
    cases bade <;> simp [Unrepeated, List.takeWhile]
  | _ => simp [Unrepeated]

theorem Course.disciplined (course : Course call talk upcoming) :
    Disciplined call talk upcoming where
  proper := course.proper
  writing _ _ _ _ _ split := course.writing split
  undoing := by
    rintro client lock lease rfl
    exact course.undoing
  succeeding := by
    rintro client lock lease rfl
    exact course.succeeding
  brief := course.brief
  once once _ ended := course.once once ended
  refused _ ended refusal := course.refused_silent ended refusal
  unrepeated := course.unrepeated

/-! ### Crowds -/

/-- Every request of a run is one of a call, and all calls keep discipline. -/
structure DisciplinedRun {Service : Type}
    (run : List (Leasehold.Contact Request Request.Answer) ×
      Crowd Endpoint Service Request Request.Answer) : Prop where
  called : ∀ contact ∈ run.1, (run.2.call? contact.index).isSome = true
  calls : ∀ index (progress : Progress Endpoint Request Request.Answer),
    run.2.calls[index]? = some progress →
      Disciplined progress.call (dialogue index run.1) progress.rest.upcoming

/-- In every run of calls of clients of a server, whatever the server makes of their requests and
whatever happens to it in between, all calls keep discipline. The server is anything that answers:
it may have any state, and its answers need not have to do with that state. A client that is built
connects as one does anew that is not connected. -/
theorem commands_disciplined {Service Action : Type}
    (perform : (now : Nat) → (request : Request) → Service → request.Answer × Service)
    (interfere : (now : Nat) → Service → Action → Service) (service : Service)
    (moves : List (Move Endpoint Action)) :
    DisciplinedRun ((Crowd.nobody service).run ⟨dialect, perform, interfere⟩ moves) := by
  let desk : Desk Service Action Request Request.Answer := ⟨dialect, perform, interfere⟩
  have nobody : (Crowd.nobody service : Crowd Endpoint Service Request Request.Answer).Conversant
      desk [] := Crowd.conversant_nobody service
  have conversant := nobody.run moves
  refine ⟨fun contact member => ?_, fun index progress called => ?_⟩
  · have within := conversant.known contact member
    rw [Crowd.call?, List.getElem?_eq_getElem within]
    rfl
  · exact (conversant.upcoming (heeds_course progress.call) called).disciplined

end Leasehold.Server
