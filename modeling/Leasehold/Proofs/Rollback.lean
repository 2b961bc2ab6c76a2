/-
This file proves that an attempt to take a lock that fails leaks nothing. When its payload is
rejected, the attempt gives the owner key back under the ID that it took the key for, whatever has
become of its client by then. If the store can do that, no entry of the ID is left under the key,
however it was renewed or replaced in between. If it cannot, what is left is the entry of the grant,
which keeps its deadline, or the entry of a renewal for the ID, or something that others have put in
its place.
-/

import Leasehold.Proofs.Attempt
import Leasehold.Proofs.Payloads
import Leasehold.Proofs.Remains

namespace Leasehold

section Crowds

variable {Service Action Request Endpoint : Type} {Answer : Request → Type}
  {desk : Desk Service Action Request Answer} {crowd : Crowd Endpoint Service Request Answer}
  {index : Nat}

/-- A call that has returned did so after a dialogue that its course allows. -/
theorem Crowd.Conversant.returned {contacts : List (Contact Request Answer)} {call : Call Endpoint}
    {course : List (Exchange Request Answer) → Request ⊕ StepResult Endpoint → Prop}
    {result : StepResult Endpoint} (conversant : crowd.Conversant desk contacts)
    (calls : crowd.call? index = some call) (heeds : (call.program desk.dialect).Heeds course [])
    (returned : crowd.returned? index = some result) :
    course (dialogue index contacts) (.inr result) := by
  obtain ⟨progress, called, ends⟩ := Option.bind_eq_some_iff.mp returned
  obtain ⟨other, present, rfl⟩ := Option.map_eq_some_iff.mp calls
  cases called.symm.trans present
  rw [← Program.upcoming_of_result ends]
  exact conversant.upcoming heeds called

end Crowds

namespace Store

variable {key id : String} {now index expiry deadline : Nat} {contact : Contact}
  {later : List Contact}

/-! ### Giving back -/

/-- An attempt that fails after it has been granted the owner key gives the key back last. -/
theorem Attempt.rollback {lock : Lock} {lease : Duration} {talk : Talk}
    {grant final : Exchange Request Request.Answer} {error : LockError}
    (attempt : Attempt lock id lease (talk ++ [final]) (.inr (.failed error)))
    (granted : grant ∈ talk) :
    ∃ fault answer, talk = [⟨.setIfAbsent lock.keys.owner id lease, .ok true⟩,
        ⟨.set lock.keys.data lock.payload, .error fault⟩] ∧
      final = ⟨.releaseIfOwner lock.keys id, answer⟩ := by
  have asked : 0 < talk.length := List.length_pos_of_mem granted
  generalize whole : talk ++ [final] = dialogue at attempt
  have length : talk.length + 1 = dialogue.length := by rw [← whole, List.length_append]; rfl
  cases attempt with
  | failed | held =>
    rw [List.length_singleton] at length
    omega
  | rolledBack fault answer =>
    have parts : talk ++ [final] = [_, _] ++ [_] := whole
    obtain ⟨front, back⟩ := List.append_inj' parts rfl
    exact ⟨fault, answer, front, List.singleton_inj.mp back⟩

/-- Of what an attempt asks for before it gives the owner key back, only the first request can have
taken a key, which is the owner key, and for the ID of the attempt. -/
theorem took_of_exchange {lock : Lock} {lease : Duration} {own : String} {fault : StoreFault}
    (asked : contact.exchange ∈ ([⟨.setIfAbsent lock.keys.owner own lease, .ok true⟩,
      ⟨.set lock.keys.data lock.payload, .error fault⟩] : Talk))
    (achieved : overview.featOf contact = some (.took key id expiry)) :
    key = lock.keys.owner ∧ id = own := by
  obtain ⟨now, index, request, answer⟩ := contact
  obtain first | second := List.mem_pair.mp asked
  · cases first
    cases achieved
    exact ⟨rfl, rfl⟩
  · cases second
    cases achieved

/-- A call that fails in its last turn, after it has taken a key, has just tried to give back the
lock of that key, under the ID that it took the key for. -/
theorem rollback_of_failed {crowd : Crowd Nat Store Request Request.Answer}
    {contacts : List Contact} {client : Option (Client Nat)} {lock : Lock} {lease : Duration}
    {error : LockError} {grant last : Contact} (conversant : crowd.Conversant desk contacts)
    (calls : crowd.call? index = some (.acquire client lock lease))
    (served : (crowd.serve desk index).1 = some last)
    (failed : (crowd.serve desk index).2.returned? index = some (.failed error))
    (member : grant ∈ contacts) (own : grant.index = index)
    (taken : overview.featOf grant = some (.took key id expiry)) :
    key = lock.keys.owner ∧
      ∃ answer, last.exchange = ⟨.releaseIfOwner lock.keys id, answer⟩ := by
  have final : dialogue index (contacts ++ (crowd.serve desk index).1.toList) =
      dialogue index contacts ++ [last.exchange] := by
    obtain ⟨_, ours, _⟩ := Crowd.contact_of_serve served
    rw [served, dialogue_append]
    exact congrArg _ (dialogue_own ours)
  have after := (Crowd.call?_serve desk crowd index index).trans calls
  have outcome := (conversant.serve index).returned after (heeds_attempt client lock lease) failed
  rw [final] at outcome
  obtain ⟨nothing, _⟩ | ⟨found, _, attempt⟩ := outcome
  · exact absurd nothing (List.append_ne_nil_of_right_ne_nil _ (List.cons_ne_nil _ _))
  · have granted : grant.exchange ∈ dialogue index contacts :=
      List.mem_map_of_mem (List.mem_filter.mpr ⟨member, decide_eq_true own⟩)
    obtain ⟨fault, answer, asked, gave⟩ := attempt.rollback granted
    rw [asked] at granted
    obtain ⟨rfl, rfl⟩ := took_of_exchange granted taken
    exact ⟨rfl, answer, gave⟩

/-- No entry of an ID is left under an owner key that the store has given back for it, whether or
not there was one. -/
theorem value_ne_of_released {keys : KeyPair} {store after : Store} {released : Bool}
    (performed : store.perform now (.releaseIfOwner keys id) = (.ok released, after))
    {entry : Entry} (found : after.entries.get? keys.owner = some entry) : entry.value ≠ id := by
  by_cases available : store.available = true
  · rw [perform_of_available available] at performed
    cases performed
    simp only [act, Entries.releaseIfHeld] at found
    split at found
    next held =>
      rw [Table.get?_erase, Table.get?_erase, if_pos rfl, ite_self] at found
      cases found
    next other =>
      intro same
      refine other ?_
      rw [Entries.isHeldBy, found]
      exact decide_eq_true same
  · rw [perform_of_unavailable available] at performed
    cases performed

/-! ### What is left -/

/-- A request renewed the entry under a key for an ID, up to a deadline. -/
def Contact.Renews (key id : String) (deadline : Nat) (contact : Contact) : Prop :=
  ∃ keys payload, keys.owner = key ∧ keys.data ≠ key ∧
    overview.featOf contact = some (.renewed keys id deadline payload)

theorem Contact.Renews.change (renews : contact.Renews key id deadline) :
    contact.change? key = some (some ⟨id, some deadline⟩) := by
  obtain ⟨keys, payload, owner, data, achieved⟩ := renews
  have feat : contact.request.feat? contact.now contact.answer =
      some (.renewed keys id deadline payload) := achieved
  rw [Contact.change?, feat]
  exact (if_neg data).trans (if_pos owner)

/-- What can have become of the entry under a key that was granted to an ID, after further
requests. Either the grant still stands, or one of the requests renewed the entry for the ID, or one
of them put something else there. -/
inductive Heir (key id : String) (expiry : Nat) (later : List Contact) : Entry → Prop where
  | granted : Heir key id expiry later ⟨id, some expiry⟩
  | renewed {contact : Contact} {deadline : Nat} : contact ∈ later →
    contact.Renews key id deadline → Heir key id expiry later ⟨id, some deadline⟩
  | replaced {contact : Contact} {entry : Entry} : contact ∈ later →
    contact.change? key = some (some entry) → (∀ deadline, ¬ contact.Renews key id deadline) →
    Heir key id expiry later entry

/-- What remains after a grant and further requests is an heir of the grant. -/
theorem heir_of_remain {entry : Entry}
    (left : later.foldl (Contact.remain key) (some ⟨id, some expiry⟩) = some entry) :
    Heir key id expiry later entry := by
  obtain same | ⟨contact, member, put⟩ := foldl_remain_cases left
  · cases same
    exact .granted
  · by_cases renewal : ∃ deadline, contact.Renews key id deadline
    · obtain ⟨deadline, renews⟩ := renewal
      cases put.symm.trans renews.change
      exact .renewed member renews
    · exact .replaced member put (not_exists.mp renewal)

/-- What remains at last after a grant is what further requests make of it. -/
theorem foldl_remain_of_took {grant : Contact}
    (taken : overview.featOf grant = some (.took key id expiry)) (earlier later : List Contact) :
    (earlier ++ grant :: later).foldl (Contact.remain key) none =
      later.foldl (Contact.remain key) (some ⟨id, some expiry⟩) := by
  have feat : grant.request.feat? grant.now grant.answer = some (.took key id expiry) := taken
  have put : grant.change? key = some (some ⟨id, some expiry⟩) := by
    rw [Contact.change?, feat]
    exact if_pos rfl
  rw [List.foldl_append, List.foldl_cons, Contact.remain, put]
  rfl

/-- A request that a store fails leaves the account of a key as it was. -/
theorem Remains.failed {remains : Option Entry} {request : Request} {fault : StoreFault}
    {store after : Store} (account : Remains key now remains store)
    (performed : store.perform now request = (.error fault, after)) :
    Remains key now remains after := by
  have next := account.perform 0 request
  rw [performed, Contact.remain, Contact.change?, request.feat?_error] at next
  exact next

/-! ### Clients that change -/

/-- The clients that there are, by serial number. -/
abbrev Clients := Nat → Option (Client Nat)

/-- What can happen where there are clients. A call is begun for a client as it is then; what
happens to the client after that is another matter. -/
inductive Incident where
  /-- A client comes into being, is renamed, closed, connected anew or dropped. -/
  | change (serial : Nat) (how : Option (Client Nat) → Option (Client Nat))
  | begin (serial : Nat) (operation : Option (Client Nat) → Call Nat)
  | serve (index : Nat)
  | pass (nanos : Nat)
  | interfere (switching : Switching)

/-- The moves that incidents come to at the store. -/
def movesOf : Clients → List Incident → List (Move Nat Switching)
  | _, [] => []
  | clients, .change serial how :: incidents =>
    movesOf (Function.update clients serial (how (clients serial))) incidents
  | clients, .begin serial operation :: incidents =>
    .begin (operation (clients serial)) :: movesOf clients incidents
  | clients, .serve index :: incidents => .serve index :: movesOf clients incidents
  | clients, .pass nanos :: incidents => .pass nanos :: movesOf clients incidents
  | clients, .interfere switching :: incidents => .interfere switching :: movesOf clients incidents

/-- Take any run in which clients change as they like and calls take turns at a store that begins
empty. Let a call that takes a lock fail in its last turn, after it has been granted the owner key.
Then it has just tried to give the key back, under the ID that it was granted for. If the store
did not fail that request, no entry of the ID is left under the key. If it did, whatever is left
there is an heir of the grant. -/
theorem failed_acquire_leaks_nothing (clients : Clients) (incidents : List Incident) (index : Nat)
    {client : Option (Client Nat)} {lock : Lock} {lease : Duration} {error : LockError}
    {grant last : Contact} (earlier later : List Contact) :
    let ongoing := (Crowd.nobody empty).run desk (movesOf clients incidents)
    let returned := ongoing.2.serve desk index
    ongoing.2.call? index = some (.acquire client lock lease) → returned.1 = some last →
    returned.2.returned? index = some (.failed error) →
    ongoing.1 = earlier ++ grant :: later → grant.index = index →
    overview.featOf grant = some (.took key id expiry) →
    key = lock.keys.owner ∧
      ((∃ released, last.exchange = ⟨.releaseIfOwner lock.keys id, .ok released⟩ ∧
          ∀ entry, returned.2.service.entries.get? key = some entry → entry.value ≠ id) ∨
        ∃ fault, last.exchange = ⟨.releaseIfOwner lock.keys id, .error fault⟩ ∧
          ∀ entry, returned.2.service.entries.get? key = some entry →
            Heir key id expiry later entry) := by
  intro ongoing returned calls served failed split own taken
  have conversant : ongoing.2.Conversant desk ongoing.1 :=
    (Crowd.conversant_nobody empty).run (movesOf clients incidents)
  have member : grant ∈ ongoing.1 := by
    rw [split]
    exact List.mem_append_right _ List.mem_cons_self
  obtain ⟨rfl, _, gave⟩ := rollback_of_failed conversant calls served failed member own taken
  obtain ⟨_, _, performed⟩ := Crowd.contact_of_serve served
  refine ⟨rfl, ?_⟩
  obtain ⟨moment, number, request, answer⟩ := last
  cases gave
  cases answer with
  | ok released => exact Or.inl ⟨released, rfl, fun entry => value_ne_of_released performed⟩
  | error fault =>
    refine Or.inr ⟨fault, rfl, fun entry left => heir_of_remain ?_⟩
    have account := (remains_run lock.keys.owner (movesOf clients incidents)).failed performed
    rw [← foldl_remain_of_took taken earlier later, ← split]
    exact account.holds entry left

/-- A client begins to take a lock. Before it writes the payload it is renamed and closed, and then
it is dropped. The payload is rejected, and before the lock is given back there is more trouble. -/
def mishap (trouble : Switching) : List Incident :=
  [.change 0 fun _ => some (rival 0 "A"),
    .begin 0 (.acquire · (disputed (rival 0 "A" : Client Nat) "a") .shortestLease), .serve 0,
    .change 0 (Option.map fun client => { client with id := "B", connected := false }),
    .change 0 fun _ => none, .interfere (.writeFailures true), .serve 0, .interfere trouble]

theorem failed_acquire_leaks_nothing_mishap :
    let returned (trouble : Switching) :=
      ((Crowd.nobody empty).run desk (movesOf (fun _ => none) (mishap trouble))).2.serve desk 0
    (∀ entry, (returned (.writeFailures true)).2.service.entries.get? "app:job" = some entry →
        entry.value ≠ "A") ∧
      ∀ entry, (returned (.available false)).2.service.entries.get? "app:job" = some entry →
        Heir "app:job" "A" nanosPerMilli
          [⟨0, 0, .set "app:job:data" "a", .error .writeRejected⟩] entry := by
  constructor
  · obtain ⟨_, ⟨_, _, gone⟩ | ⟨_, ⟨⟩, _⟩⟩ :=
      failed_acquire_leaks_nothing (fun _ => none) (mishap (.writeFailures true)) 0 [] _
        rfl rfl rfl rfl rfl rfl
    exact gone
  · obtain ⟨_, ⟨_, ⟨⟩, _⟩ | ⟨_, _, heirs⟩⟩ :=
      failed_acquire_leaks_nothing (fun _ => none) (mishap (.available false)) 0 [] _
        rfl rfl rfl rfl rfl rfl
    exact heirs

end Store

end Leasehold
