/-
This file says how calls conduct themselves: which feats a call may achieve, given those it has
achieved so far, and what a snapshot that it returns rests upon. Only a call that takes a lock
achieves more than one feat. It takes the owner key first and then either writes the payload or
gives the lock back, and it does not look at the owner key in between. In a crowd all feats that
were ever achieved are told by what the calls may achieve.
-/

import Leasehold.Proofs.Feats

namespace Leasehold

/-! ### Programs -/

section Programs

variable {Request : Type} {Answer : Request → Type} {Result Other : Type}

/-- A program that has achieved some feats achieves further ones only as it may, whatever it is
answered, and ends as it should. -/
def Program.Abides (feat? : Nat → (request : Request) → Answer request → Option Feat)
    (may : List Feat → Feat → Prop) (ends : List Feat → Result → Prop) :
    Program Request Answer Result → (past : List Feat) → Prop
  | done result, past => ends past result
  | note _ next, past => next.Abides feat? may ends past
  | ask request next, past => ∀ now answer,
      (∀ feat, feat? now request answer = some feat → may past feat) ∧
        (next answer).Abides feat? may ends (past ++ (feat? now request answer).toList)

/-- What a program ends with that asks nothing more. -/
def Program.result? : Program Request Answer Result → Option Result
  | done result => some result
  | note _ next => next.result?
  | ask .. => none

/-- A request that achieves nothing. -/
def Idle (feat? : Nat → (request : Request) → Answer request → Option Feat) (request : Request) :
    Prop :=
  ∀ now answer, feat? now request answer = none

variable {feat? : Nat → (request : Request) → Answer request → Option Feat}
  {may : List Feat → Feat → Prop} {ends : List Feat → Result → Prop} {past : List Feat}
  {program : Program Request Answer Result}

namespace Program.Abides

theorem map {change : Result → Other} {concludes : List Feat → Other → Prop}
    (abides : program.Abides feat? may (fun past result => concludes past (change result)) past) :
    (program.map change).Abides feat? may concludes past := by
  induction program generalizing past with
  | done result => exact abides
  | note event next inductionHypothesis => exact inductionHypothesis abides
  | ask request next inductionHypothesis =>
    intro now answer
    obtain ⟨first, onward⟩ := abides now answer
    exact ⟨first, inductionHypothesis answer onward⟩

theorem mono {broader : List Feat → Feat → Prop} {looser : List Feat → Result → Prop}
    (abides : program.Abides feat? may ends past)
    (broaden : ∀ past feat, may past feat → broader past feat)
    (loosen : ∀ past result, ends past result → looser past result) :
    program.Abides feat? broader looser past := by
  induction program generalizing past with
  | done result => exact loosen past result abides
  | note event next inductionHypothesis => exact inductionHypothesis abides
  | ask request next inductionHypothesis =>
    intro now answer
    obtain ⟨first, onward⟩ := abides now answer
    exact ⟨fun feat found => broaden past feat (first feat found),
      inductionHypothesis answer onward⟩

/-- What comes next is as it may be, and so is all that comes after it. -/
theorem next (abides : program.Abides feat? may ends past)
    {step : (request : Request) × (Answer request → Program Request Answer Result)}
    (found : program.next? = some step) (now : Nat) (answer : Answer step.1) :
    (∀ feat, feat? now step.1 answer = some feat → may past feat) ∧
      (step.2 answer).Abides feat? may ends (past ++ (feat? now step.1 answer).toList) := by
  induction program with
  | done result => cases found
  | note event next inductionHypothesis => exact inductionHypothesis abides found
  | ask request next inductionHypothesis =>
    cases found
    exact abides now answer

/-- What a program ends with is as it should be. -/
theorem result (abides : program.Abides feat? may ends past) {result : Result}
    (found : program.result? = some result) : ends past result := by
  induction program with
  | done other =>
    cases found
    exact abides
  | note event next inductionHypothesis => exact inductionHypothesis abides found
  | ask request next => cases found

end Program.Abides

/-- A program that only makes idle requests achieves nothing. -/
theorem Program.AllAsk.abides (all : program.AllAsk (Idle feat?))
    (ending : ∀ result, ends past result) : program.Abides feat? may ends past := by
  induction program with
  | done result => exact ending result
  | note event next inductionHypothesis => exact inductionHypothesis all
  | ask request next inductionHypothesis =>
    intro now answer
    rw [all.1 now answer, Option.toList_none, List.append_nil]
    exact ⟨fun feat found => (nomatch found), inductionHypothesis answer (all.2 answer)⟩

end Programs

/-! ### Calls -/

/-- The feats of a call that takes a lock for an ID: it takes the owner key, and then writes the
payload or gives the lock back. -/
inductive Taking (keys : KeyPair) (payload id : String) : (past : List Feat) → Feat → Prop where
  | take (deadline : Nat) : Taking keys payload id [] (.took keys.owner id deadline)
  | write (deadline : Nat) :
    Taking keys payload id [.took keys.owner id deadline] (.stored keys.data payload)
  | giveBack (deadline : Nat) :
    Taking keys payload id [.took keys.owner id deadline] (.freed keys id)

/-- A snapshot of a held lock is that of the reading which was the only feat. -/
def ShowsLooked (name : String) (keys : KeyPair) (past : List Feat) (snapshot : Snapshot) : Prop :=
  snapshot.acquired = true →
    ∃ reading, past = [.looked keys reading] ∧ snapshot = Snapshot.ofReading name reading

namespace Call

variable {Endpoint : Type}

/-- What a call may achieve that has achieved some feats. -/
inductive May : Call Endpoint → (past : List Feat) → Feat → Prop where
  | acquire {client lock lease past feat} :
    Taking lock.keys lock.payload client.id past feat →
      May (acquire (some client) lock lease) past feat
  | release {client lock past} : May (release (some client) lock) past (.freed lock.keys client.id)
  | refresh {client lock past deadline} :
    May (refresh (some client) lock) past (.renewed lock.keys client.id deadline lock.payload)
  | refreshFor {client lock lease past deadline} :
    May (refreshFor (some client) lock lease) past
      (.renewed lock.keys client.id deadline lock.payload)
  | inspect {client lock past reading} : May (inspect client lock) past (.looked lock.keys reading)

/-- The client that makes a call about a lock, with the lock. -/
def party? : Call Endpoint → Option (Client Endpoint × Lock)
  | close _ | reconnect _ => none
  | acquire client lock _ | release client lock | refresh client lock | refreshFor client lock _
  | inspect client lock => client.map (·, lock)

/-- What the snapshot rests upon that a call returns. Only a call that looks at a lock returns
one. -/
def Ends (call : Call Endpoint) (past : List Feat) (result : StepResult Endpoint) : Prop :=
  ∀ snapshot, result = .snapshot snapshot →
    ∃ client lock, call = .inspect client lock ∧ ShowsLooked lock.name lock.keys past snapshot

variable {call : Call Endpoint} {past : List Feat} {key id payload : String} {deadline : Nat}

/-- Owner keys are taken by calls that take a lock, first of all. -/
theorem May.took (may : call.May past (.took key id deadline)) :
    past = [] ∧ ∃ client lock lease, call = .acquire (some client) lock lease ∧
      key = lock.keys.owner ∧ id = client.id := by
  cases may with
  | acquire taking =>
    cases taking
    exact ⟨rfl, _, _, _, rfl, rfl, rfl⟩

/-- Plain writes are made by calls that take a lock, once they have taken the owner key. -/
theorem May.stored (may : call.May past (.stored key payload)) :
    ∃ client lock lease deadline, call = .acquire (some client) lock lease ∧
      key = lock.keys.data ∧ payload = lock.payload ∧
        past = [.took lock.keys.owner client.id deadline] := by
  cases may with
  | acquire taking =>
    cases taking
    exact ⟨_, _, _, _, rfl, rfl, rfl, rfl⟩

/-- Leases are renewed with the payload and under the ID of the caller. -/
theorem May.renewed {keys : KeyPair} (may : call.May past (.renewed keys id deadline payload)) :
    ∃ client lock, call.party? = some (client, lock) ∧ keys = lock.keys ∧ id = client.id ∧
      payload = lock.payload := by
  cases may with
  | acquire taking => cases taking
  | refresh | refreshFor => exact ⟨_, _, rfl, rfl, rfl, rfl⟩

theorem ends_resultOf (call : Call Endpoint) (past : List Feat) (result : Except LockError Unit) :
    call.Ends past (Session.resultOf result) := by
  intro snapshot same
  cases result <;> cases same

end Call

/-! ### The operations of a dialect -/

section Dialects

variable {Request : Type} {Answer : Request → Type} {Endpoint : Type}

/-- The operations of a dialect achieve what calls may achieve. -/
structure Dialect.Abides (dialect : Dialect Request Answer)
    (feat? : Nat → (request : Request) → Answer request → Option Feat) : Prop where
  disconnect : dialect.disconnect.AllAsk (Idle feat?)
  connect : dialect.connect.AllAsk (Idle feat?)
  acquire : ∀ lock id lease millis, (dialect.acquire lock id lease millis).Abides feat?
    (Taking lock.keys lock.payload id) (fun _ _ => True) []
  release : ∀ lock id, (dialect.release lock id).Abides feat?
    (fun _ feat => feat = .freed lock.keys id) (fun _ _ => True) []
  refresh : ∀ lock id millis, (dialect.refresh lock id millis).Abides feat?
    (fun _ feat => ∃ deadline, feat = .renewed lock.keys id deadline lock.payload)
    (fun _ _ => True) []
  inspect : ∀ lock, (dialect.inspect lock).Abides feat?
    (fun _ feat => ∃ reading, feat = .looked lock.keys reading)
    (fun past result => ∀ snapshot, result = .ok snapshot →
      ShowsLooked lock.name lock.keys past snapshot) []

namespace Dialect.Abides

variable {dialect : Dialect Request Answer}
  {feat? : Nat → (request : Request) → Answer request → Option Feat}

/-- A client that has a session is there. -/
theorem exists_of_session {client : Option (Client Endpoint)} {id : String}
    (connected : session client = .ok id) : ∃ found, client = some found ∧ found.id = id := by
  cases client with
  | none => cases connected
  | some found =>
    unfold session at connected
    dsimp only at connected
    split at connected
    · exact ⟨found, rfl, Except.ok.inj connected⟩
    · cases connected

theorem acquireLock (abides : dialect.Abides feat?) (client : Option (Client Endpoint))
    (lock : Lock) (lease : Duration) :
    (dialect.acquireLock client lock lease).Abides feat? (Call.acquire client lock lease).May
      (fun _ _ => True) [] := by
  unfold Dialect.acquireLock
  cases lease.leaseMillis with
  | error error => trivial
  | ok millis =>
    cases connected : session client with
    | error error => trivial
    | ok id =>
      obtain ⟨found, rfl, rfl⟩ := exists_of_session connected
      have taking := abides.acquire { lock with lease } found.id lease millis
      refine (taking.mono (fun past feat taken => ?_) fun _ _ _ => trivial).map
      exact .acquire taken

theorem releaseLock (abides : dialect.Abides feat?) (client : Option (Client Endpoint))
    (lock : Lock) :
    (dialect.releaseLock client lock).Abides feat? (Call.release client lock).May
      (fun _ _ => True) [] := by
  unfold Dialect.releaseLock
  cases connected : session client with
  | error error => trivial
  | ok id =>
    obtain ⟨found, rfl, rfl⟩ := exists_of_session connected
    refine (abides.release lock found.id).mono (fun past feat freed => ?_) fun _ _ _ => trivial
    cases freed
    exact .release

theorem refreshLock (abides : dialect.Abides feat?) (client : Option (Client Endpoint))
    (lock : Lock) :
    (dialect.refreshLock client lock).Abides feat? (Call.refresh client lock).May
      (fun _ _ => True) [] := by
  unfold Dialect.refreshLock
  cases lock.lease.leaseMillis with
  | error error => trivial
  | ok millis =>
    cases connected : session client with
    | error error => trivial
    | ok id =>
      obtain ⟨found, rfl, rfl⟩ := exists_of_session connected
      refine (abides.refresh lock found.id millis).mono (fun past feat renewed => ?_)
        fun _ _ _ => trivial
      obtain ⟨deadline, rfl⟩ := renewed
      exact .refresh

theorem refreshLockFor (abides : dialect.Abides feat?) (client : Option (Client Endpoint))
    (lock : Lock) (lease : Duration) :
    (dialect.refreshLockFor client lock lease).Abides feat?
      (Call.refreshFor client lock lease).May (fun _ _ => True) [] := by
  have leased := abides.refreshLock client { lock with lease }
  refine (leased.mono (fun past feat may => ?_) fun _ _ _ => trivial).map
  cases may
  exact .refreshFor

theorem inspectLock (abides : dialect.Abides feat?) (client : Option (Client Endpoint))
    (lock : Lock) :
    (dialect.inspectLock client lock).Abides feat? (Call.inspect client lock).May
      (fun past result => ∀ snapshot, result = .ok snapshot →
        ShowsLooked lock.name lock.keys past snapshot) [] := by
  unfold Dialect.inspectLock
  cases session client with
  | error error => exact fun snapshot same => by cases same
  | ok id =>
    refine (abides.inspect lock).mono (fun past feat looked => ?_) fun _ _ ends => ends
    obtain ⟨reading, rfl⟩ := looked
    exact .inspect

/-- A call achieves what it may, and ends as it should. -/
theorem program (abides : dialect.Abides feat?) (call : Call Endpoint) :
    (call.program dialect).Abides feat? call.May call.Ends [] := by
  cases call with
  | close client =>
    have all := Dialect.allAsk_close abides.disconnect client
    exact (all.abides fun _ => Call.ends_resultOf _ [] (.ok ())).map
  | reconnect client =>
    have all := Dialect.allAsk_reconnect abides.disconnect abides.connect client
    exact (all.abides fun reconnected => Call.ends_resultOf _ [] reconnected.1).map
  | acquire client lock lease =>
    exact ((abides.acquireLock client lock lease).mono (fun _ _ may => may)
      fun past taken _ => Call.ends_resultOf _ past taken.1).map
  | release client lock =>
    exact ((abides.releaseLock client lock).mono (fun _ _ may => may)
      fun past result _ => Call.ends_resultOf _ past result).map
  | refresh client lock =>
    exact ((abides.refreshLock client lock).mono (fun _ _ may => may)
      fun past result _ => Call.ends_resultOf _ past result).map
  | refreshFor client lock lease =>
    exact ((abides.refreshLockFor client lock lease).mono (fun _ _ may => may)
      fun past refreshed _ => Call.ends_resultOf _ past refreshed.1).map
  | inspect client lock =>
    refine ((abides.inspectLock client lock).mono (fun _ _ may => may) ?_).map
    intro past result looked
    cases result with
    | error error => exact fun snapshot same => by cases same
    | ok shown =>
      intro snapshot same
      cases same
      exact ⟨client, lock, rfl, looked shown rfl⟩

end Dialect.Abides

end Dialects

/-! ### Stores and servers -/

theorem Store.dialect_abides : dialect.Abides Request.feat? where
  disconnect := trivial
  connect := by
    refine ⟨fun _ _ => rfl, fun answer => ?_⟩
    cases answer <;> trivial
  acquire lock id lease millis now answer := by
    refine ⟨Feat.forall_confirmed (.take _), ?_⟩
    cases answer with
    | error fault => trivial
    | ok taken =>
      cases taken with
      | false => trivial
      | true =>
        intro later answer
        refine ⟨Feat.forall_confirmed (.write _), ?_⟩
        cases answer with
        | ok written => trivial
        | error fault =>
          intro latest answer
          refine ⟨Feat.forall_confirmed (.giveBack _), ?_⟩
          cases answer <;> trivial
  release lock id now answer := by
    refine ⟨Feat.forall_confirmed rfl, ?_⟩
    cases answer with
    | error fault => trivial
    | ok released => cases released <;> trivial
  refresh lock id millis now answer := by
    refine ⟨Feat.forall_confirmed ⟨_, rfl⟩, ?_⟩
    cases answer with
    | error fault => trivial
    | ok refreshed => cases refreshed <;> trivial
  inspect lock now answer := by
    cases answer with
    | error fault =>
      exact ⟨fun feat found => (nomatch found), fun snapshot same => (nomatch same)⟩
    | ok reading =>
      refine ⟨fun feat found => ⟨reading, (Option.some.inj found).symm⟩, ?_⟩
      intro snapshot same held
      cases same
      refine ⟨reading, rfl, ?_⟩
      unfold snapshotOf at held ⊢
      split
      next absent =>
        rw [if_pos absent] at held
        cases held
      next => rfl

/-- A snapshot of a held lock has its reading from the reply. -/
theorem Server.exists_reading {name : String} {reply : Reply} {snapshot : Snapshot}
    (shown : snapshotOfReply name reply = .ok snapshot) (held : snapshot.acquired = true) :
    ∃ reading, Reply.reading? reply = some reading ∧
      snapshot = Snapshot.ofReading name reading := by
  unfold snapshotOfReply at shown
  split at shown
  next owner remaining data =>
    cases read : readingOfParts owner remaining data with
    | error fault =>
      rw [read] at shown
      cases shown
    | ok reading =>
      have bound : (if reading.remaining = missingKey then
          Except.ok { Snapshot.unacquired name with data := reading.data }
          else .ok (Snapshot.ofReading name reading)) = (.ok snapshot : Except ReplyFault _) := by
        rw [read] at shown
        exact shown
      split at bound
      · cases bound
        cases held
      · cases bound
        exact ⟨reading, congrArg Except.toOption read, rfl⟩
  next =>
    cases shown
    cases held
  next => cases shown

theorem Server.dialect_abides : dialect.Abides Request.feat? where
  disconnect := by
    refine ⟨fun _ _ => rfl, fun answer => ?_⟩
    cases answer <;> trivial
  connect := by
    refine ⟨fun _ _ => rfl, fun answer => ?_⟩
    cases answer with
    | error failure => trivial
    | ok opened =>
      refine ⟨fun _ _ => rfl, fun answer => ?_⟩
      cases answer with
      | error failure => exact ⟨fun _ _ => rfl, fun _ => trivial⟩
      | ok reply => trivial
  acquire lock id lease millis now answer := by
    refine ⟨Feat.forall_confirmed (.take _), ?_⟩
    dsimp only [dialect, acquiring, Request.feat?, Command.feat?]
    cases answer.bind Reply.expectText with
    | error failure => trivial
    | ok taken =>
      cases taken with
      | none => trivial
      | some text =>
        intro later answer
        refine ⟨Feat.forall_confirmed (.write _), ?_⟩
        cases answer with
        | ok written => trivial
        | error failure =>
          intro latest answer
          refine ⟨Feat.forall_confirmed (.giveBack _), ?_⟩
          dsimp only
          split <;> trivial
  release lock id now answer := by
    refine ⟨Feat.forall_confirmed rfl, ?_⟩
    dsimp only [dialect, releasing]
    split <;> trivial
  refresh lock id millis now answer := by
    refine ⟨Feat.forall_confirmed ⟨_, rfl⟩, ?_⟩
    dsimp only [dialect, refreshing]
    split <;> trivial
  inspect lock now answer := by
    cases answer with
    | error failure =>
      exact ⟨fun feat found => (nomatch found), fun snapshot same => (nomatch same)⟩
    | ok reply =>
      refine ⟨fun feat found => ?_, ?_⟩
      · obtain ⟨reading, _, looked⟩ := Option.map_eq_some_iff.mp found
        exact ⟨reading, looked.symm⟩
      · dsimp only [dialect, inspecting]
        cases shown : snapshotOfReply lock.name reply with
        | error fault => exact fun snapshot same => (nomatch same)
        | ok snapshot =>
          intro other same held
          cases same
          obtain ⟨reading, told, rfl⟩ := exists_reading shown held
          refine ⟨reading, ?_, rfl⟩
          have looked : Request.feat? now (.send (.inspect lock.keys)) (.ok reply) =
              some (.looked lock.keys reading) := congrArg (Option.map (Feat.looked lock.keys)) told
          rw [looked]
          rfl

/-! ### Crowds -/

section Crowds

variable {Service Action Request Endpoint : Type} {Answer : Request → Type}
  {desk : Desk Service Action Request Answer}

/-- What the call of an index has achieved. -/
def Overview.past (overview : Overview desk) (index : Nat)
    (contacts : List (Contact Request Answer)) : List Feat :=
  overview.feats (contacts.filter (·.index = index))

/-- The call of an index. -/
def Crowd.call? (crowd : Crowd Endpoint Service Request Answer) (index : Nat) :
    Option (Call Endpoint) :=
  crowd.calls[index]?.map Progress.call

/-- The calls of a crowd conduct themselves: each goes on as it may after what it has achieved,
and all that was achieved was achieved by a call that might. -/
structure Crowd.Conducted (overview : Overview desk) (begun : Call Endpoint → Prop)
    (contacts : List (Contact Request Answer))
    (crowd : Crowd Endpoint Service Request Answer) : Prop where
  begun : ∀ index call, crowd.call? index = some call → begun call
  known : ∀ contact ∈ contacts, contact.index < crowd.calls.length
  onward : ∀ index (progress : Progress Endpoint Request Answer),
    crowd.calls[index]? = some progress →
      progress.rest.Abides overview.feat? progress.call.May progress.call.Ends
        (overview.past index contacts)
  told : ∀ earlier contact later feat, contacts = earlier ++ contact :: later →
    overview.featOf contact = some feat →
      ∃ call, crowd.call? contact.index = some call ∧
        call.May (overview.past contact.index earlier) feat

variable {overview : Overview desk} {contacts : List (Contact Request Answer)}

theorem Overview.past_append (index : Nat) (others : List (Contact Request Answer)) :
    overview.past index (contacts ++ others) =
      overview.past index contacts ++ overview.past index others := by
  unfold Overview.past
  rw [List.filter_append, overview.feats_append]

theorem Overview.past_own {index : Nat} {contact : Contact Request Answer}
    (own : contact.index = index) :
    overview.past index [contact] = (overview.featOf contact).toList := by
  unfold Overview.past
  rw [List.filter_singleton, decide_eq_true own, cond_true, overview.feats_singleton]

theorem Overview.past_other {index : Nat} {contact : Contact Request Answer}
    (apart : contact.index ≠ index) : overview.past index [contact] = [] := by
  unfold Overview.past Overview.feats
  rw [List.filter_singleton, decide_eq_false apart, cond_false, List.filterMap_nil]

/-- What a call has achieved was achieved by one of its requests. -/
theorem Overview.exists_of_past {index : Nat} {feat : Feat}
    (achieved : feat ∈ overview.past index contacts) :
    ∃ contact ∈ contacts, contact.index = index ∧ overview.featOf contact = some feat := by
  obtain ⟨contact, member, done⟩ := List.mem_filterMap.mp achieved
  obtain ⟨there, own⟩ := List.mem_filter.mp member
  exact ⟨contact, there, of_decide_eq_true own, done⟩

namespace Crowd

variable {begun : Call Endpoint → Prop} {crowd : Crowd Endpoint Service Request Answer}

/-- Serving a call does not change which call it is. -/
theorem call?_set {index : Nat} {progress : Progress Endpoint Request Answer}
    (called : crowd.calls[index]? = some progress) (service : Service)
    (rest : Program Request Answer (StepResult Endpoint)) (other : Nat) :
    call? { crowd with service, calls := crowd.calls.set index { progress with rest } } other =
      crowd.call? other := by
  unfold call?
  by_cases same : index = other
  · subst same
    rw [List.getElem?_set_self (List.getElem?_eq_some_iff.mp called).1, called]
    rfl
  · rw [List.getElem?_set_ne same]

theorem call?_append_of_lt {index : Nat} (within : index < crowd.calls.length)
    (progress : Progress Endpoint Request Answer) :
    call? { crowd with calls := crowd.calls ++ [progress] } index = crowd.call? index :=
  congrArg (Option.map Progress.call) (List.getElem?_append_left within)

theorem Conducted.serve (conducted : crowd.Conducted overview begun contacts) (index : Nat) :
    (crowd.serve desk index).2.Conducted overview begun
      (contacts ++ (crowd.serve desk index).1.toList) := by
  obtain served | ⟨progress, step, called, found, served⟩ := Crowd.serve_cases desk crowd index
  · rw [served, Option.toList_none, List.append_nil]
    exact conducted
  · obtain ⟨first, onward⟩ := (conducted.onward index progress called).next found crowd.now
      (desk.perform crowd.now step.1 crowd.service).1
    have within : index < crowd.calls.length := (List.getElem?_eq_some_iff.mp called).1
    have unchanged := call?_set called (desk.perform crowd.now step.1 crowd.service).2
      (step.2 (desk.perform crowd.now step.1 crowd.service).1)
    let contact : Contact Request Answer :=
      ⟨crowd.now, index, step.1, (desk.perform crowd.now step.1 crowd.service).1⟩
    have own : overview.past index [contact] = (overview.featOf contact).toList :=
      Overview.past_own rfl
    rw [served]
    refine ⟨fun other call present => ?_, fun contact member => ?_, ?_, ?_⟩
    · rw [unchanged] at present
      exact conducted.begun other call present
    · rw [List.length_set]
      obtain before | last := List.mem_append.mp member
      · exact conducted.known contact before
      · cases List.mem_singleton.mp last
        exact within
    · intro other entry present
      rw [Option.toList_some, overview.past_append]
      by_cases same : index = other
      · subst same
        rw [List.getElem?_set_self within] at present
        cases present
        rw [own]
        exact onward
      · rw [List.getElem?_set_ne same] at present
        rw [Overview.past_other same, List.append_nil]
        exact conducted.onward other entry present
    · intro earlier contact later feat split achieved
      rw [unchanged]
      obtain ⟨rfl, rfl⟩ | ⟨between, before⟩ := split_concat split
      · exact ⟨progress.call, congrArg (Option.map Progress.call) called, first feat achieved⟩
      · exact conducted.told earlier contact between feat before achieved

/-- An item of a list that has one more at its end. -/
theorem getElem?_concat_cases {Item : Type} {items : List Item} {last item : Item} {index : Nat}
    (found : (items ++ [last])[index]? = some item) :
    items[index]? = some item ∨ index = items.length ∧ item = last := by
  rw [List.getElem?_append] at found
  split at found
  · exact Or.inl found
  next beyond =>
    obtain ⟨last', same⟩ := List.getElem?_eq_some_iff.mp found
    rw [List.length_singleton] at last'
    have first : index - items.length = 0 := by omega
    rw [List.getElem_singleton] at same
    exact Or.inr ⟨by omega, same.symm⟩

theorem Conducted.begin (conducted : crowd.Conducted overview begun contacts)
    (abides : desk.dialect.Abides overview.feat?) {call : Call Endpoint} (begins : begun call) :
    Conducted overview begun contacts
      { crowd with calls := crowd.calls ++ [⟨call, call.program desk.dialect⟩] } := by
  -- nothing was asked by a call of the new index so far
  have none : contacts.filter (·.index = crowd.calls.length) = [] :=
    List.filter_eq_nil_iff.mpr fun contact member same =>
      absurd (of_decide_eq_true same) (Nat.ne_of_lt (conducted.known contact member))
  refine ⟨fun index other present => ?_, fun contact member => ?_, fun index entry present => ?_,
    fun earlier contact later feat split achieved => ?_⟩
  · obtain ⟨entry, there, rfl⟩ := Option.map_eq_some_iff.mp present
    obtain before | ⟨_, rfl⟩ := getElem?_concat_cases there
    · exact conducted.begun index entry.call (congrArg (Option.map Progress.call) before)
    · exact begins
  · rw [List.length_append]
    exact Nat.lt_add_right _ (conducted.known contact member)
  · obtain before | ⟨rfl, rfl⟩ := getElem?_concat_cases present
    · exact conducted.onward index entry before
    · rw [Overview.past, none]
      exact abides.program call
  · have member : contact ∈ contacts := split ▸ List.mem_append_cons_self
    rw [call?_append_of_lt (conducted.known contact member)]
    exact conducted.told earlier contact later feat split achieved

theorem Conducted.move (conducted : crowd.Conducted overview begun contacts)
    (abides : desk.dialect.Abides overview.feat?) (move : Move Endpoint Action)
    (begins : ∀ call, move = .begin call → begun call) :
    (crowd.move desk move).2.Conducted overview begun
      (contacts ++ (crowd.move desk move).1.toList) := by
  cases move with
  | begin call =>
    rw [Crowd.move, Option.toList_none, List.append_nil]
    exact conducted.begin abides (begins call rfl)
  | serve index => exact conducted.serve index
  | pass | interfere =>
    rw [Crowd.move, Option.toList_none, List.append_nil]
    exact ⟨conducted.begun, conducted.known, conducted.onward, conducted.told⟩

/-- In every run all calls conduct themselves. -/
theorem conducted_run (overview : Overview desk) (abides : desk.dialect.Abides overview.feat?)
    (service : Service) (moves : List (Move Endpoint Action)) :
    ((nobody service).run desk moves).2.Conducted overview (.begin · ∈ moves)
      ((nobody service).run desk moves).1 := by
  have nobody : (nobody service : Crowd Endpoint Service Request Answer).Conducted overview
      (.begin · ∈ moves) [] := by
    refine ⟨fun index call present => ?_, fun contact member => ?_, fun index entry present => ?_,
      fun earlier contact later feat split => ?_⟩
    · cases present
    · cases member
    · cases present
    · exact absurd split.symm (List.append_ne_nil_of_right_ne_nil _ (List.cons_ne_nil _ _))
  refine run_induction (fun contacts crowd => crowd.Conducted overview (.begin · ∈ moves) contacts)
    [] moves nobody fun move member contacts crowd conducted => conducted.move abides move ?_
  rintro call rfl
  exact member

end Crowd

end Crowds

end Leasehold
