/-
This file takes a run and what is left of it when part of it is left out, step by step. A step
that is left out is taken in the longer run alone, and a step on a lock within the region in each
run for itself: whatever comes of it stays in the region. Every other step is taken in both runs
and comes to the same.
-/

import Leasehold.Proofs.Beside

namespace Leasehold

section Besides

variable {Settings Endpoint Service Action Request : Type} {Answer : Request → Type}
  {backend : Backend Settings Endpoint Service Action Request Answer} {region : String → Prop}

namespace Enclosure

variable {enclosure : Enclosure backend region} {register : Register} {omission : Omission}
  {enrol : Nat → Nat} {ids : List String} {session other : Session Endpoint Service}

namespace Beside

/-! ### Steps that are left out -/

theorem onClient_left (beside : enclosure.Beside register omission enrol ids session other)
    {name : String} {step : Client Endpoint → Session.Stepped Endpoint Service}
    (each : ∀ client, session.clients.get? name = some client →
      enclosure.Beside register omission enrol ids (step client).service other) :
    enclosure.Beside register omission enrol ids (session.onClient name step).service other := by
  let kept (after : Session Endpoint Service) : Prop :=
    enclosure.Beside register omission enrol ids after other
  have holds : kept session := beside
  exact Session.onClient_keeps holds each

variable [Inhabited Endpoint]

/-- Building a client that is left out. -/
theorem leave_build (beside : enclosure.Beside register omission enrol ids session other)
    {name : String} (left : omission.spares register name = false) (identity : Identity)
    (settings : Settings) :
    enclosure.Beside register omission enrol ids
      (session.step backend (.build name identity settings)).service other := by
  have prepared := enclosure.prepare_alone beside.agree settings
  simp only [Session.step, Session.connectClient_eq]
  generalize backend.prepare settings session.service = reached at prepared ⊢
  obtain ⟨reached, service⟩ := reached
  cases reached with
  | error error => exact beside.leftGrown prepared (Nat.le_refl _) session.drawn
  | ok endpoint =>
    obtain ⟨result, after⟩ :=
      Session.introduce_eq { session with service } backend identity endpoint
    have opened := enclosure.alone prepared endpoint
      (enclosure.within_of_le enclosure.confined.connect (Footprint.nothing_within region))
    have grown := beside.leftGrown opened (Nat.le_succ session.made)
    simp only [result, after]
    cases (backend.dialect.connect.run (backend.perform session.now endpoint) service).result with
    | error error => exact grown _
    | ok opened =>
      exact (grown _).leftPut left fun serial given => Nat.ne_of_lt (beside.below serial given)

/-- A step on a client that is left out is taken in the longer run alone. -/
theorem leave_client (beside : enclosure.Beside register omission enrol ids session other)
    {step : Step Settings Action} {name : String} (about : step.subject = .client name)
    (left : omission.spares register name = false) (fits : register.Fits step) :
    enclosure.Beside register omission enrol ids (session.step backend step).service other := by
  have within {Result : Type} {program : Program Request Answer Result}
      (all : program.AllAsk fun request => enclosure.footprint request ≤ .nothing) :=
    enclosure.within_of_le all (Footprint.nothing_within region)
  cases step with
  | build client identity settings =>
    cases about
    exact beside.leave_build left identity settings
  | copy client copied =>
    cases about
    refine beside.onClient_left fun found present => ?_
    have copiedLeft : omission.spares register copied = false := by
      unfold Omission.spares at left ⊢
      rw [fits]
      exact left
    have grown := beside.leftGrown beside.agree (Nat.le_succ session.made) session.drawn
    exact grown.leftPut copiedLeft fun serial given => Nat.ne_of_lt (beside.below serial given)
  | close client =>
    cases about
    refine beside.onClient_left fun found present => ?_
    obtain ⟨closed, service⟩ := backend.dialect.run_close
      (backend.perform session.now found.endpoint) found session.service
    have agree := enclosure.alone beside.agree found.endpoint
      (within (enclosure.closing_nothing found.connected))
    have apart := beside.apart present left
    simp only [Session.run, closed, service]
    exact (beside.leftGrown agree (Nat.le_refl _) session.drawn).leftPut left apart
  | reconnect client =>
    cases about
    refine beside.onClient_left fun found present => ?_
    obtain ⟨opened, service⟩ := backend.dialect.run_reconnect
      (backend.perform session.now found.endpoint) found session.service
    have agree := enclosure.alone beside.agree found.endpoint
      (within (enclosure.redialling_nothing found.connected))
    have apart := beside.apart present left
    simp only [Session.run, opened, service]
    exact (beside.leftGrown agree (Nat.le_refl _) session.drawn).leftPut left apart
  | drop client =>
    cases about
    exact beside.onClient_left fun found present => beside.leftDrop left
  | setId client id =>
    cases about
    refine beside.onClient_left fun found present => ?_
    have apart := beside.apart present left
    exact beside.leftPut left apart
  | _ => cases about

/-! ### Steps that are taken in both runs -/

end Beside

/-- Two steps come to the same, and leave the sessions beside each other. -/
structure Abreast (enclosure : Enclosure backend region) (register : Register)
    (omission : Omission) (enrol : Nat → Nat) (ids : List String)
    (stepped shadow : Session.Stepped Endpoint Service) : Prop where
  same : stepped.result.anonymous = shadow.result.anonymous
  beside : enclosure.Beside register omission enrol ids stepped.service shadow.service

namespace Beside

theorem onClient (beside : enclosure.Beside register omission enrol ids session other)
    {name : String} (spared : omission.spares register name = true)
    {step shadow : Client Endpoint → Session.Stepped Endpoint Service}
    (each : ∀ client, other.clients.get? name = some client →
      enclosure.Abreast register omission enrol ids (step (client.enrolled enrol))
        (shadow client)) :
    enclosure.Abreast register omission enrol ids (session.onClient name step)
      (other.onClient name shadow) := by
  unfold Session.onClient
  rw [beside.client spared]
  cases found : other.clients.get? name with
  | none => exact ⟨rfl, beside⟩
  | some client => exact each client found

theorem onLock (beside : enclosure.Beside register omission enrol ids session other)
    {name : String} (outside : ¬ region (register.resource name).keys.owner)
    {step shadow : Lock → Session.Stepped Endpoint Service}
    (each : ∀ lock, other.locks.get? name = some lock →
      enclosure.Abreast register omission enrol ids (step (lock.enrolled enrol)) (shadow lock)) :
    enclosure.Abreast register omission enrol ids (session.onLock name step)
      (other.onLock name shadow) := by
  unfold Session.onLock
  rw [beside.locks name outside]
  cases found : other.locks.get? name with
  | none => exact ⟨rfl, beside⟩
  | some lock => exact each lock found

/-- A program that consults nothing in the region is run in both. -/
theorem run {Result : Type} (beside : enclosure.Beside register omission enrol ids session other)
    (endpoint : Endpoint) {program shadow : Program Request Answer Result}
    {change : Result → Result} (same : program = shadow.map change)
    (clear : shadow.AllAsk fun request => (enclosure.footprint request).Clear region) :
    (session.run backend endpoint program).result =
        change (other.run backend endpoint shadow).result ∧
      enclosure.Beside register omission enrol ids (session.run backend endpoint program).service
        (other.run backend endpoint shadow).service := by
  obtain ⟨answered, after⟩ := enclosure.together beside.agree endpoint clear
  obtain ⟨result, service⟩ := Program.run_map (backend.perform session.now endpoint) shadow change
    session.service
  have served := beside.served after
  unfold Session.run
  rw [same]
  simp only [beside.now, result, service, answered] at served ⊢
  exact ⟨trivial, served⟩

/-- Taking a new lock comes to the same if the attempt does. -/
theorem taken {outcome shadow : Outcome (Session Endpoint Service) (Except LockError Unit × Lock)}
    (same : outcome.result = (shadow.result.1, shadow.result.2.enrolled enrol))
    (beside : enclosure.Beside register omission enrol ids outcome.service shadow.service)
    (name : String) :
    enclosure.Abreast register omission enrol ids
      (match outcome.result with
        | (.error error, _) => ⟨.failed error, outcome.events, outcome.service⟩
        | (.ok (), lock) => ⟨.lock lock, outcome.events, outcome.service.putLock name lock⟩)
      (match shadow.result with
        | (.error error, _) => ⟨.failed error, shadow.events, shadow.service⟩
        | (.ok (), lock) => ⟨.lock lock, shadow.events, shadow.service.putLock name lock⟩) := by
  rw [same]
  generalize shadow.result = result
  obtain ⟨result, lock⟩ := result
  cases result with
  | error error => exact ⟨rfl, beside⟩
  | ok taken => exact ⟨rfl, beside.putLock name lock⟩

variable [Inhabited Endpoint]

/-- A program of a lock is run in both, for the client that the lock belongs to. -/
theorem runFor {Result : Type}
    (beside : enclosure.Beside register omission enrol ids session other)
    (tidy : register.Tidy other) {lock : Lock} (known : lock.client < other.made)
    (program : Lock → Option (Client Endpoint) → Program Request Answer Result)
    {change : Result → Result}
    (same : ∀ client, program (lock.enrolled enrol) (client.map (Client.enrolled enrol)) =
      (program lock client).map change)
    (clear : ∀ client,
      (program lock client).AllAsk fun request => (enclosure.footprint request).Clear region) :
    (session.runFor backend (lock.enrolled enrol) (program (lock.enrolled enrol))).result =
        change (other.runFor backend lock (program lock)).result ∧
      enclosure.Beside register omission enrol ids
        (session.runFor backend (lock.enrolled enrol) (program (lock.enrolled enrol))).service
        (other.runFor backend lock (program lock)).service := by
  have found : session.clientOf? (lock.enrolled enrol).client =
      (other.clientOf? lock.client).map (Client.enrolled enrol) :=
    beside.clientOf? tidy known
  unfold Session.runFor
  simp only [found, Option.map_map]
  exact beside.run _ (same _) (clear _)

/-- The key that an operation on a lock claims is outside the region if that of its resource is. -/
theorem clear_claimed {name : String} (outside : ¬ region (register.resource name).keys.owner)
    {lock : Lock} (keys : lock.keys = (register.resource name).keys) :
    lock.keys.claimed.Clear region := by
  intro key member
  rw [List.mem_singleton.mp member, keys]
  exact outside

/-- A program that claims a lock outside the region is run in both. -/
theorem runOutside {Result : Type}
    (beside : enclosure.Beside register omission enrol ids session other)
    (tidy : register.Tidy other) {name : String}
    (outside : ¬ region (register.resource name).keys.owner) {lock : Lock}
    (found : other.locks.get? name = some lock)
    (program : Lock → Option (Client Endpoint) → Program Request Answer Result)
    {change : Result → Result}
    (same : ∀ client, program (lock.enrolled enrol) (client.map (Client.enrolled enrol)) =
      (program lock client).map change)
    (claims : ∀ client, (program lock client).AllAsk fun request =>
      enclosure.footprint request ≤ lock.keys.claimed) :
    (session.runFor backend (lock.enrolled enrol) (program (lock.enrolled enrol))).result =
        change (other.runFor backend lock (program lock)).result ∧
      enclosure.Beside register omission enrol ids
        (session.runFor backend (lock.enrolled enrol) (program (lock.enrolled enrol))).service
        (other.runFor backend lock (program lock)).service := by
  obtain ⟨keys, known⟩ := tidy.locks found
  exact beside.runFor tidy known program same fun client =>
    enclosure.clear_of_le (claims client) (clear_claimed outside keys)

/-- An operation that only answers comes to the same on a lock outside the region. -/
theorem keep_answer (beside : enclosure.Beside register omission enrol ids session other)
    (tidy : register.Tidy other) {name : String}
    (outside : ¬ region (register.resource name).keys.owner)
    (program : Lock → Option (Client Endpoint) → Program Request Answer (Except LockError Unit))
    (same : ∀ client lock, program (lock.enrolled enrol) (client.map (Client.enrolled enrol)) =
      program lock client)
    (claims : ∀ client lock, (program lock client).AllAsk fun request =>
      enclosure.footprint request ≤ lock.keys.claimed) :
    let step (session : Session Endpoint Service) := session.onLock name fun lock =>
      let outcome := session.runFor backend lock (program lock)
      ⟨Session.resultOf outcome.result, outcome.events, outcome.service⟩
    enclosure.Abreast register omission enrol ids (step session) (step other) := by
  refine beside.onLock outside fun lock found => ?_
  obtain ⟨agreed, after⟩ := beside.runOutside tidy outside found program
    (fun client => (same client lock).trans (Program.map_id _).symm) (claims · lock)
  exact ⟨congrArg (fun result => (Session.resultOf result).anonymous) agreed, after⟩

/-- So does one that gives the lock back with another lease. -/
theorem keep_leased (beside : enclosure.Beside register omission enrol ids session other)
    (tidy : register.Tidy other) {name : String}
    (outside : ¬ region (register.resource name).keys.owner)
    (program : Lock → Option (Client Endpoint) →
      Program Request Answer (Except LockError Unit × Lock))
    (same : ∀ client lock, program (lock.enrolled enrol) (client.map (Client.enrolled enrol)) =
      (program lock client).map fun outcome => (outcome.1, outcome.2.enrolled enrol))
    (claims : ∀ client lock, (program lock client).AllAsk fun request =>
      enclosure.footprint request ≤ lock.keys.claimed) :
    let step (session : Session Endpoint Service) := session.onLock name fun lock =>
      let outcome := session.runFor backend lock (program lock)
      ⟨Session.resultOf outcome.result.1, outcome.events,
        outcome.service.putLock name outcome.result.2⟩
    enclosure.Abreast register omission enrol ids (step session) (step other) := by
  refine beside.onLock outside fun lock found => ?_
  obtain ⟨agreed, after⟩ := beside.runOutside tidy outside found program
    (same · lock) (claims · lock)
  simp only [agreed]
  exact ⟨rfl, after.putLock name _⟩

/-- Building a client takes the next ID in both runs, if it takes one. -/
theorem keep_build {name : String} {identity : Identity} {settings : Settings}
    (beside : enclosure.Beside register omission enrol
      (session.issued backend (.build name identity settings) ++ ids) session other)
    (tidy : register.Tidy session) (otherTidy : register.Tidy other)
    (spared : omission.spares register name = true) :
    ∃ enrol, enclosure.Abreast register omission enrol ids
      (session.step backend (.build name identity settings))
      (other.step backend (.build name identity settings)) := by
  obtain ⟨prepared, agree⟩ := enclosure.prepare beside.agree settings
  simp only [Session.step, Session.issued, Session.connectClient_eq] at beside ⊢
  generalize backend.prepare settings session.service = reached at prepared agree beside ⊢
  generalize backend.prepare settings other.service = found at prepared agree ⊢
  obtain ⟨reached, service⟩ := reached
  obtain ⟨found, host⟩ := found
  simp only at prepared agree
  subst prepared
  cases reached with
  | error error =>
    have unissued : enclosure.Beside register omission enrol ids session other := by
      cases given : identity.id.filter (!·.isEmpty) <;>
        simp only [given, List.nil_append] at beside <;> exact beside
    exact ⟨enrol, rfl, unissued.served agree⟩
  | ok endpoint =>
    obtain ⟨answered, opened⟩ := enclosure.together agree endpoint
      (enclosure.clear_of_le enclosure.confined.connect (Footprint.nothing_clear region))
    obtain ⟨moment, before, clients, locks, made, supply, drawn⟩ := other
    obtain rfl : moment = session.now := beside.now
    obtain ⟨result, after⟩ :=
      Session.introduce_eq { session with service } backend identity endpoint
    obtain ⟨shadow, afterwards⟩ := Session.introduce_eq
      ⟨session.now, host, clients, locks, made, supply, drawn⟩ backend identity endpoint
    simp only [result] at beside
    simp only [result, after, shadow, afterwards, ← answered]
    have grown := beside.grown tidy otherTidy opened
    generalize (backend.dialect.connect.run (backend.perform session.now endpoint) service).result =
      connected at beside ⊢
    cases given : identity.id.filter (!·.isEmpty) with
    | some id =>
      simp only [given, List.nil_append] at beside
      simp only [Session.identify, given]
      cases connected with
      | error error => exact ⟨_, rfl, grown session.drawn beside.supplies⟩
      | ok opened =>
        have placed := (grown session.drawn beside.supplies).put spared
          ⟨made, id, namespaceOrDefault identity.space, true, endpoint⟩
        simp only [Client.enrolled, Function.update_self] at placed
        exact ⟨_, rfl, placed⟩
    | none =>
      simp only [given] at beside
      simp only [Session.identify, given]
      cases connected with
      | error error => exact ⟨_, rfl, grown session.drawn beside.supplies⟩
      | ok opened =>
        obtain ⟨next, later⟩ := beside.supplies.next
        simp only at next later
        have placed := (grown (session.drawn + 1) later).put spared
          ⟨made, supply drawn, namespaceOrDefault identity.space, true, endpoint⟩
        simp only [Client.enrolled, Function.update_self] at placed
        rw [next] at placed ⊢
        exact ⟨_, rfl, placed⟩

/-- A step on a client that is not left out comes to the same in both runs. -/
theorem keep_client {step : Step Settings Action}
    (beside : enclosure.Beside register omission enrol (session.issued backend step ++ ids)
      session other)
    (tidy : register.Tidy session) (otherTidy : register.Tidy other) {name : String}
    (about : step.subject = .client name) (spared : omission.spares register name = true)
    (fits : register.Fits step) :
    ∃ enrol, enclosure.Abreast register omission enrol ids (session.step backend step)
      (other.step backend step) := by
  have clear {Result : Type} {program : Program Request Answer Result}
      (all : program.AllAsk fun request => enclosure.footprint request ≤ .nothing) :=
    enclosure.clear_of_le all (Footprint.nothing_clear region)
  cases step with
  | build client identity settings =>
    cases about
    exact beside.keep_build tidy otherTidy spared
  | copy client copied =>
    cases about
    have copiedSpared : omission.spares register copied = true := by
      unfold Omission.spares at spared ⊢
      rw [fits]
      exact spared
    simp only [Session.step, Session.onClient]
    rw [beside.client spared]
    cases other.clients.get? name with
    | none => exact ⟨enrol, rfl, beside⟩
    | some client =>
      have grown := beside.grown tidy otherTidy beside.agree session.drawn beside.supplies
      have placed := grown.put copiedSpared (client.disconnectedCopy other.made)
      have enrolled : (client.disconnectedCopy other.made).enrolled
            (Function.update enrol other.made session.made) =
          (client.enrolled enrol).disconnectedCopy session.made := by
        simp only [Client.enrolled, Client.disconnectedCopy, Function.update_self]
      rw [enrolled] at placed
      exact ⟨_, rfl, placed⟩
  | close client =>
    cases about
    refine ⟨enrol, beside.onClient spared fun client found => ?_⟩
    obtain ⟨closed, after⟩ := beside.run client.endpoint
      (backend.dialect.close_enrolled enrol client) (clear (enclosure.close_nothing client))
    have placed := after.put spared
      (other.run backend client.endpoint (backend.dialect.close client)).result
    rw [← closed] at placed
    exact ⟨rfl, placed⟩
  | reconnect client =>
    cases about
    refine ⟨enrol, beside.onClient spared fun client found => ?_⟩
    obtain ⟨opened, after⟩ := beside.run client.endpoint
      (backend.dialect.reconnect_enrolled enrol client) (clear (enclosure.reconnect_nothing client))
    have placed := after.put spared
      (other.run backend client.endpoint (backend.dialect.reconnect client)).result.2
    have connected := congrArg Prod.snd opened
    have answered := congrArg Prod.fst opened
    simp only at connected answered
    rw [← connected] at placed
    exact ⟨congrArg (fun result => (Session.resultOf result).anonymous) answered, placed⟩
  | drop client =>
    cases about
    exact ⟨enrol, beside.onClient spared fun client found => ⟨rfl, beside.drop name⟩⟩
  | setId client id =>
    cases about
    exact ⟨enrol, beside.onClient spared fun client found =>
      ⟨rfl, beside.put spared { client with id }⟩⟩
  | _ => cases about

/-- A step on a lock outside the region comes to the same in both runs. Only what is seen of its
payload may differ, if the data key lies within. -/
theorem keep_lock (beside : enclosure.Beside register omission enrol ids session other)
    (tidy : register.Tidy other) (inside : omission.Inside region) {step : Step Settings Action}
    {name : String} (about : step.subject = .lock name)
    (outside : ¬ region (register.resource name).keys.owner)
    (unseen : step = .inspect name → ¬ region (register.resource name).keys.data)
    (fits : register.Fits step) :
    enclosure.Abreast register omission enrol ids (session.step backend step)
      (other.step backend step) := by
  cases step with
  | newLock client lockName resource =>
    cases about
    exact beside.onClient (inside.spares fits outside) fun client found =>
      ⟨rfl, beside.putLock name (client.newLock resource)⟩
  | acquireNew client lockName resource lease =>
    cases about
    refine beside.onClient (inside.spares fits outside) fun client found => ?_
    have clear := enclosure.clear_of_le
      (enclosure.acquireLock_claimed (some client) (client.newLock resource) lease)
      (clear_claimed outside (tidy.fit_newLock found fits).1)
    obtain ⟨same, after⟩ := beside.run client.endpoint (enclosure.anonymous.acquireLock enrol
      (some client) (client.newLock resource) lease) clear
    exact taken same after name
  | setPayload lockName payload =>
    cases about
    exact beside.onLock outside fun lock found => ⟨rfl, beside.putLock name { lock with payload }⟩
  | acquire lockName lease =>
    cases about
    exact beside.keep_leased tidy outside
      (fun lock client => backend.dialect.acquireLock client lock lease)
      (fun client lock => enclosure.anonymous.acquireLock enrol client lock lease)
      (fun client lock => enclosure.acquireLock_claimed client lock lease)
  | release lockName =>
    cases about
    exact beside.keep_answer tidy outside
      (fun lock client => backend.dialect.releaseLock client lock)
      (enclosure.anonymous.releaseLock enrol) enclosure.releaseLock_claimed
  | refresh lockName =>
    cases about
    exact beside.keep_answer tidy outside
      (fun lock client => backend.dialect.refreshLock client lock)
      (enclosure.anonymous.refreshLock enrol) enclosure.refreshLock_claimed
  | refreshFor lockName lease =>
    cases about
    exact beside.keep_leased tidy outside
      (fun lock client => backend.dialect.refreshLockFor client lock lease)
      (fun client lock => enclosure.anonymous.refreshLockFor enrol client lock lease)
      (fun client lock => enclosure.refreshLockFor_claimed client lock lease)
  | inspect lockName =>
    cases about
    refine beside.onLock outside fun lock found => ?_
    obtain ⟨keys, known⟩ := tidy.locks found
    have viewed : lock.keys.viewed.Clear region := by
      intro key member
      rw [keys] at member
      obtain rfl | rfl := List.mem_pair.mp member
      · exact outside
      · exact unseen rfl
    obtain ⟨same, after⟩ := beside.runFor tidy known
      (fun lock client => backend.dialect.inspectLock client lock)
      (fun client => (enclosure.anonymous.inspectLock enrol client lock).trans
        (Program.map_id _).symm)
      (fun client => enclosure.clear_of_le (enclosure.inspectLock_viewed client lock) viewed)
    simp only [same, id]
    cases (other.runFor backend lock fun client =>
      backend.dialect.inspectLock client lock).result with
    | error error => exact ⟨rfl, after⟩
    | ok snapshot => exact ⟨rfl, after⟩
  | _ => cases about

/-! ### Whole runs -/

/-- A step that is left out is taken in the longer run alone. -/
theorem leave (beside : enclosure.Beside register omission enrol ids session other)
    (tidy : register.Tidy session) (deep : Deep region) (inside : omission.Inside region)
    {step : Step Settings Action} (covered : omission.covers register step = true)
    (fits : register.Fits step) :
    enclosure.Beside register omission enrol ids (session.step backend step).service other := by
  unfold Omission.covers at covered
  cases about : step.subject with
  | client name =>
    rw [about] at covered
    have left : omission.spares register name = false := congrArg Bool.not covered
    exact beside.leave_client about left fits
  | lock name =>
    rw [about] at covered
    exact beside.left (aside_step deep tidy about (inside.resource _ covered) fits)
  | service =>
    rw [about] at covered
    cases covered

/-- A step that is not left out leaves the sessions beside each other, and it comes to the same
unless it is about a lock that has a key in the region. -/
theorem keep {step : Step Settings Action}
    (beside : enclosure.Beside register omission enrol (session.issued backend step ++ ids)
      session other)
    (tidy : register.Tidy session) (otherTidy : register.Tidy other) (deep : Deep region)
    (inside : omission.Inside region) (uncovered : omission.covers register step = false)
    (fits : register.Fits step) :
    ∃ enrol,
      enclosure.Beside register omission enrol ids (session.step backend step).service
          (other.step backend step).service ∧
        ∀ name, step.subject = .lock name → ¬ region (register.resource name).keys.owner →
          ¬ region (register.resource name).keys.data →
          (session.step backend step).result.anonymous =
            (other.step backend step).result.anonymous := by
  cases about : step.subject with
  | client name =>
    have spared : omission.spares register name = true := by
      unfold Omission.covers at uncovered
      rw [about] at uncovered
      exact congrArg Bool.not uncovered
    obtain ⟨enrol, same, after⟩ := beside.keep_client tidy otherTidy about spared fits
    exact ⟨enrol, after, fun _ _ _ _ => same⟩
  | lock name =>
    have unissued : session.issued backend step = [] := by
      cases step <;> first | rfl | cases about
    rw [unissued] at beside
    by_cases murky : region (register.resource name).keys.owner
    · -- whatever comes of the step stays in the region, in either run
      have left := beside.left (aside_step deep tidy about murky fits)
      refine ⟨enrol, left.right (aside_step deep otherTidy about murky fits), ?_⟩
      rintro _ ⟨⟩ outside
      exact absurd murky outside
    · by_cases looking : step = .inspect name ∧ region (register.resource name).keys.data
      · obtain ⟨rfl, seen⟩ := looking
        have left := beside.left (aside_inspect name)
        refine ⟨enrol, left.right (aside_inspect name), ?_⟩
        rintro _ ⟨⟩ _ unseen
        exact absurd seen unseen
      · obtain ⟨same, after⟩ := beside.keep_lock otherTidy inside about murky
          (fun looks seen => looking ⟨looks, seen⟩) fits
        exact ⟨enrol, after, fun _ _ _ _ => same⟩
  | service =>
    cases step with
    | advance nanos =>
      have later := enclosure.later beside.agree nanos
      refine ⟨enrol, ⟨congrArg (· + nanos) beside.now, later, beside.clients, beside.locks,
        beside.below, beside.injective, beside.apart, beside.supplies⟩, ?_⟩
      rintro _ ⟨⟩
    | interfere action =>
      have disturbed : enclosure.agree session.now
          (backend.interfere session.now session.service action)
          (backend.interfere other.now other.service action) := by
        rw [beside.now]
        exact enclosure.interfere beside.agree action
      refine ⟨enrol, beside.served disturbed, ?_⟩
      rintro _ ⟨⟩
    | _ => cases about

/-- What is told of locks that have no key in the region is the same if part of the run is left
out. -/
theorem heard (beside : enclosure.Beside register omission enrol ids session other)
    (tidy : register.Tidy session) (otherTidy : register.Tidy other) (deep : Deep region)
    (inside : omission.Inside region) (steps : List (Step Settings Action))
    (drawn : ids = session.draws backend register omission steps)
    (fits : ∀ step ∈ steps, register.Fits step) {told : Resource → Bool}
    (outside : ∀ resource, told resource = true →
      ¬ region resource.keys.owner ∧ ¬ region resource.keys.data) :
    session.heard backend register told steps =
      other.heard backend register told
        (steps.filter fun step => !omission.covers register step) := by
  induction steps generalizing enrol ids session other with
  | nil => rfl
  | cons step rest inductionHypothesis =>
    obtain ⟨fit, others⟩ := List.forall_mem_cons.mp fits
    subst drawn
    rw [Session.draws] at beside
    rw [List.filter_cons, Session.heard]
    cases covered : omission.covers register step with
    | true =>
      rw [covered] at beside
      have silent : ¬ register.tells told step = true := by
        intro tells
        obtain ⟨name, about, named⟩ := Register.exists_of_tells tells
        unfold Omission.covers at covered
        rw [about] at covered
        exact (outside _ named).1 (inside.resource _ covered)
      rw [if_neg silent]
      exact inductionHypothesis (beside.leave tidy deep inside covered fit) (tidy.step fit)
        otherTidy rfl others
    | false =>
      rw [covered] at beside
      obtain ⟨enrol, after, same⟩ :=
        beside.keep tidy otherTidy deep inside covered fit
      have onward := inductionHypothesis after (tidy.step fit) (otherTidy.step fit) rfl others
      show _ = other.heard backend register told (step :: rest.filter _)
      rw [Session.heard, onward]
      by_cases tells : register.tells told step = true
      · obtain ⟨name, about, named⟩ := Register.exists_of_tells tells
        obtain ⟨owner, data⟩ := outside _ named
        rw [if_pos tells, if_pos tells, same name about owner data]
      · rw [if_neg tells, if_neg tells]

end Beside

end Enclosure

end Besides

end Leasehold
