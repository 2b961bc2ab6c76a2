/-
This file proves that a lock that is held excludes others, in whatever order the requests of many
calls come. What carries the proof is one fact about the owner key: from the moment at which an
ID was given the key until it gives it back or its latest deadline comes, the live entry of the
key is that of the ID with that deadline. Each request either leaves this entry alone or is one
of the ID that gives it a new deadline. The one thing that could break it is a payload that some
other lock writes over the owner key, so the key must not be a data key.
-/

import Leasehold.Proofs.Crowd
import Leasehold.Proofs.StoreSight

namespace Leasehold.Store

/-- Ways to interfere with a store. -/
inductive Switching where
  | available (available : Bool)
  | writeFailures (failing : Bool)

/-- A store at which calls take turns. -/
def desk : Desk Store Switching Request Request.Answer where
  dialect := dialect
  perform := perform
  interfere _ store
    | .available available => store.setAvailable available
    | .writeFailures failing => store.setWriteFailures failing

/-! ### What a request did to an owner key -/

/-- Whether a request is answered with yes. -/
def Request.confirmed : (request : Request) → request.Answer → Bool
  | .setIfAbsent .., .ok done => done
  | .releaseIfOwner .., .ok done => done
  | .refreshIfOwner .., .ok done => done
  | _, _ => false

theorem Request.confirmed_error (request : Request) (fault : StoreFault) :
    request.confirmed (.error fault) = false := by
  cases request <;> rfl

/-- A request that was made of a store. -/
abbrev Contact := Leasehold.Contact Request Request.Answer

/-- Whether a request was answered with yes. -/
def Contact.confirmed (contact : Contact) : Bool := contact.request.confirmed contact.answer

/-- What an ID achieved for an owner key. -/
inductive Deed where
  /-- It has the key until a deadline. -/
  | armed (deadline : Nat)
  /-- It gave the key back. -/
  | ended
  deriving DecidableEq

/-- What a request achieved for an ID and an owner key. -/
def Contact.deed? (key id : String) (contact : Contact) : Option Deed :=
  if contact.confirmed then
    match contact.request with
    | .setIfAbsent owner value lease =>
      if owner = key ∧ value = id then some (.armed (deadline contact.now lease)) else none
    | .refreshIfOwner keys value lease _ =>
      if keys.owner = key ∧ value = id then some (.armed (deadline contact.now lease)) else none
    | .releaseIfOwner keys value =>
      if keys.owner = key ∧ value = id then some .ended else none
    | _ => none
  else none

/-- The latest deadline of an ID for an owner key after a request, if it has the key. -/
def Contact.arm (key id : String) (armed : Option Nat) (contact : Contact) : Option Nat :=
  match contact.deed? key id with
  | none => armed
  | some (.armed deadline) => some deadline
  | some .ended => none

/-- A request does not write the payload of a lock to a key. -/
def Request.Spares (key : String) : Request → Prop
  | .set data _ => data ≠ key
  | .releaseIfOwner keys _ | .refreshIfOwner keys _ _ _ | .read keys => keys.data ≠ key
  | .ping | .setIfAbsent .. => True

/-! ### What a request can do to an owner key -/

variable {key id : String} {now : Nat} {sight : Sight}

/-- What is seen of a key for which an ID achieved something. -/
def Deed.entry? (now : Nat) (id : String) : Deed → Option Entry
  | armed deadline => (some ⟨id, some deadline⟩).filter (·.isLive now)
  | ended => none

/-- A request left a key as it was, and nobody achieved anything for the key by it. -/
structure Idle (key : String) (contact : Contact) (sight after : Sight) : Prop where
  learned : ∀ id, contact.deed? key id = none
  same : after key = sight key

/-- An ID achieved something for a key by a request. It had the key before or nobody had. -/
structure Achieves (key id : String) (deed : Deed) (contact : Contact) (sight after : Sight) :
    Prop where
  learned : ∀ other, contact.deed? key other = if id = other then some deed else none
  fair : sight key = none ∨ sight.holds key id = true
  entry : after key = deed.entry? contact.now id

/-- A request either leaves a key as it was, or an ID achieves something for the key by it. -/
def Treats (key : String) (contact : Contact) (sight after : Sight) : Prop :=
  Idle key contact sight after ∨ ∃ id deed, Achieves key id deed contact sight after

/-- A request that achieves something for an owner key is idle for all other keys. -/
theorem treats_of_deed {contact : Contact} {after : Sight} {owner value : String} {deed : Deed}
    (learned : ∀ other, contact.deed? key other =
      if owner = key ∧ value = other then some deed else none)
    (fair : sight owner = none ∨ sight.holds owner value = true)
    (entry : owner = key → after key = deed.entry? contact.now value)
    (off : owner ≠ key → after key = sight key) : Treats key contact sight after := by
  by_cases same : owner = key
  · refine Or.inr ⟨value, deed, fun other => ?_, ?_, entry same⟩
    · rw [learned]
      simp only [same, true_and]
    · rw [← same]
      exact fair
  · refine Or.inl ⟨fun other => ?_, off same⟩
    rw [learned, if_neg fun both => same both.1]

theorem treats_takeIfAbsent (key : String) (now index : Nat) (owner value : String)
    (lease : Duration) (sight : Sight) :
    let taken := sight.takeIfAbsent now owner ⟨value, some (deadline now lease)⟩
    Treats key ⟨now, index, .setIfAbsent owner value lease, .ok taken.1⟩ sight taken.2 := by
  intro taken
  by_cases present : (sight owner).isSome = true
  · have refused : taken = (false, sight) := if_pos present
    rw [refused]
    exact Or.inl ⟨fun _ => rfl, rfl⟩
  · have accepted : taken = (true, sight.put now owner ⟨value, some (deadline now lease)⟩) :=
      if_neg present
    rw [accepted]
    refine treats_of_deed (fun _ => rfl) (Or.inl (Option.not_isSome_iff_eq_none.mp present))
      (fun same => ?_) fun apart => ?_
    · rw [same]
      exact Function.update_self ..
    · exact Function.update_of_ne apart.symm _ _

theorem treats_releaseIfHeld (now index : Nat) {keys : KeyPair} (spares : keys.data ≠ key)
    (value : String) (sight : Sight) :
    let released := sight.releaseIfHeld keys value
    Treats key ⟨now, index, .releaseIfOwner keys value, .ok released.1⟩ sight released.2 := by
  intro released
  by_cases held : sight.holds keys.owner value = true
  · have accepted : released = (true, (sight.drop keys.owner).drop keys.data) := if_pos held
    have off : (sight.drop keys.owner).drop keys.data key = sight.drop keys.owner key :=
      Function.update_of_ne spares.symm _ _
    rw [accepted]
    refine treats_of_deed (fun _ => rfl) (Or.inr held) (fun same => off.trans ?_)
      fun apart => off.trans ?_
    · rw [same]
      exact Function.update_self ..
    · exact Function.update_of_ne apart.symm _ _
  · have refused : released = (false, sight) := if_neg held
    rw [refused]
    exact Or.inl ⟨fun _ => rfl, rfl⟩

theorem treats_rearmIfHeld (now index : Nat) {keys : KeyPair} (spares : keys.data ≠ key)
    (value : String) (lease : Duration) (payload : String) (sight : Sight) :
    let rearmed := sight.rearmIfHeld now keys value (deadline now lease) payload
    Treats key ⟨now, index, .refreshIfOwner keys value lease payload, .ok rearmed.1⟩ sight
      rearmed.2 := by
  intro rearmed
  let owned := sight.put now keys.owner ⟨value, some (deadline now lease)⟩
  by_cases held : sight.holds keys.owner value = true
  · have accepted : rearmed = (true, owned.put now keys.data ⟨payload, none⟩) := if_pos held
    have off : owned.put now keys.data ⟨payload, none⟩ key = owned key :=
      Function.update_of_ne spares.symm _ _
    rw [accepted]
    refine treats_of_deed (fun _ => rfl) (Or.inr held) (fun same => off.trans ?_)
      fun apart => off.trans ?_
    · rw [← same]
      exact Function.update_self ..
    · exact Function.update_of_ne apart.symm _ _
  · have refused : rearmed = (false, sight) := if_neg held
    rw [refused]
    exact Or.inl ⟨fun _ => rfl, rfl⟩

/-- All that a request can do to a key which is not the data key of its lock. -/
theorem treats_perform (switches : Switches) (now index : Nat) {request : Request}
    (spares : request.Spares key) (sight : Sight) :
    Treats key ⟨now, index, request, (sight.perform now switches request).1⟩ sight
      (sight.perform now switches request).2 := by
  cases struck : switches.fault? request.isPlain with
  | some fault =>
    rw [Sight.perform_of_fault struck]
    refine Or.inl ⟨fun other => if_neg ?_, rfl⟩
    show ¬ request.confirmed (.error fault) = true
    rw [request.confirmed_error]
    exact Bool.false_ne_true
  | none =>
    rw [Sight.perform_of_none struck]
    cases request with
    | ping => exact Or.inl ⟨fun _ => rfl, rfl⟩
    | setIfAbsent owner value lease =>
      exact treats_takeIfAbsent key now index owner value lease sight
    | set data value => exact Or.inl ⟨fun _ => rfl, Function.update_of_ne (Ne.symm spares) _ _⟩
    | releaseIfOwner keys value => exact treats_releaseIfHeld now index spares value sight
    | refreshIfOwner keys value lease payload =>
      exact treats_rearmIfHeld now index spares value lease payload sight
    | read keys => exact Or.inl ⟨fun _ => rfl, rfl⟩

/-! ### The entry of an owner key -/

/-- As long as a deadline that was armed has not come, the key holds the ID with it. -/
def Guards (key id : String) (now : Nat) (armed : Option Nat) (sight : Sight) : Prop :=
  ∀ deadline, armed = some deadline → now < deadline → sight key = some ⟨id, some deadline⟩

variable {armed : Option Nat}

theorem Guards.treated (guards : Guards key id now armed sight) {contact : Contact}
    {after : Sight} (treats : Treats key contact sight after) (moment : contact.now = now) :
    Guards key id now (contact.arm key id armed) after := by
  intro latest arms ahead
  unfold Contact.arm at arms
  obtain ⟨learned, same⟩ | ⟨other, deed, learned, fair, entry⟩ := treats
  · rw [learned id] at arms
    rw [same]
    exact guards latest arms ahead
  · rw [learned id] at arms
    by_cases own : other = id
    · rw [if_pos own] at arms
      cases deed with
      | armed deadline =>
        cases arms
        rw [entry, own, moment]
        exact Option.filter_some_pos (decide_eq_true ahead)
      | ended => cases arms
    · -- nobody else can achieve anything while the entry is that of the ID
      rw [if_neg own] at arms
      have held := guards latest arms ahead
      rw [Sight.holds, held] at fair
      obtain absent | holds := fair
      · cases absent
      · exact absurd (of_decide_eq_true holds).symm own

theorem Guards.later (guards : Guards key id now armed sight) (passed : Nat) :
    Guards key id (now + passed) armed (sight.later (now + passed)) := by
  intro deadline arms ahead
  rw [Sight.later, guards deadline arms (by omega)]
  exact Option.filter_some_pos (decide_eq_true ahead)

/-- The entry of an owner key is guarded at a store, whatever is asked of it. -/
theorem keeps_guards (key id : String) :
    desk.Keeps (Request.Spares key) (Contact.arm key id)
      (fun now armed store => Guards key id now armed (store.entries.seen now)) where
  serve {now armed store} guards index request spares := by
    have shows : store.Shows now store.switches (store.entries.seen now) := ⟨rfl, rfl⟩
    obtain ⟨answered, after⟩ := shows.perform request
    have treats := treats_perform store.switches now index spares (store.entries.seen now)
    rw [← answered, ← after.seen] at treats
    exact guards.treated treats rfl
  pass {now armed store} guards nanos := by
    rw [Entries.seen_later (Nat.le_add_right now nanos)]
    exact guards.later nanos
  interfere guards switching := by
    cases switching <;> exact guards

/-- The operations on a lock leave a key alone, as far as payloads go, that is not its data
key. -/
theorem dialect_asksOnly (key : String) :
    dialect.AsksOnly (Request.Spares key) (fun keys => keys.data ≠ key) where
  disconnect := trivial
  connect := by
    refine ⟨trivial, fun answer => ?_⟩
    cases answer <;> trivial
  acquire lock id lease millis apart := by
    refine ⟨trivial, fun answer => ?_⟩
    cases answer with
    | error fault => trivial
    | ok taken =>
      cases taken with
      | false => trivial
      | true =>
        refine ⟨apart, fun answer => ?_⟩
        cases answer with
        | error fault =>
          refine ⟨apart, fun answer => ?_⟩
          cases answer <;> trivial
        | ok written => trivial
  release lock id apart := by
    refine ⟨apart, fun answer => ?_⟩
    cases answer with
    | error fault => trivial
    | ok released => cases released <;> trivial
  refresh lock id millis apart := by
    refine ⟨apart, fun answer => ?_⟩
    cases answer with
    | error fault => trivial
    | ok refreshed => cases refreshed <;> trivial
  inspect lock apart := by
    refine ⟨apart, fun answer => ?_⟩
    cases answer <;> trivial

/-! ### Exclusion -/

/-- A store after a request that at most dropped what had run out. That a store counts its
requests is of no account. -/
structure OnlyExpires (now : Nat) (before after : Store) : Prop where
  entries : after.entries = before.entries ∨ after.entries = before.entries.live now
  switches : after.switches = before.switches

/-- A request does nothing to an owner key against an ID that holds it: nobody takes the key, and
nobody else gives it back or gets a new lease for it, nor does their trying change the store. -/
structure Excludes (key id : String) (contact : Contact) (before after : Store) : Prop where
  taking : ∀ value lease, contact.request = .setIfAbsent key value lease →
    contact.confirmed = false
  releasing : ∀ keys other, contact.request = .releaseIfOwner keys other → keys.owner = key →
    other ≠ id → contact.confirmed = false ∧ OnlyExpires contact.now before after
  refreshing : ∀ keys other lease payload,
    contact.request = .refreshIfOwner keys other lease payload → keys.owner = key →
    other ≠ id → contact.confirmed = false ∧ OnlyExpires contact.now before after

/-- What a store does when it can be reached. -/
theorem perform_of_available {store : Store} (available : store.available = true) (now : Nat)
    (request : Request) :
    store.perform now request =
      ((act now store.failingWrites request (store.entries.live now)).1,
        { store with
          operations := store.operations + 1
          entries := (act now store.failingWrites request (store.entries.live now)).2 }) :=
  if_pos available

/-- A request that changes no entries unless it is confirmed changes nothing in a store that does
not confirm it. -/
theorem onlyExpires_of_refused {request : Request} {store : Store} {now : Nat}
    (idle : ∀ entries, request.confirmed (act now store.failingWrites request entries).1 = false →
      (act now store.failingWrites request entries).2 = entries)
    (refused : request.confirmed (store.perform now request).1 = false) :
    OnlyExpires now store (store.perform now request).2 := by
  by_cases available : store.available = true
  · rw [perform_of_available available] at refused ⊢
    exact ⟨Or.inr (idle _ refused), rfl⟩
  · have failed : store.perform now request =
        (.error .unavailable, { store with operations := store.operations + 1 }) :=
      if_neg available
    rw [failed]
    exact ⟨Or.inl rfl, rfl⟩

theorem releaseIfHeld_of_refused {keys : KeyPair} {id : String} {entries : Entries}
    (refused : (entries.releaseIfHeld keys id).1 = false) :
    (entries.releaseIfHeld keys id).2 = entries := by
  unfold Entries.releaseIfHeld at *
  split at refused
  · cases refused
  next stranger => rw [if_neg stranger]

theorem rearmIfHeld_of_refused {keys : KeyPair} {id payload : String} {deadline : Nat}
    {entries : Entries} (refused : (entries.rearmIfHeld keys id deadline payload).1 = false) :
    (entries.rearmIfHeld keys id deadline payload).2 = entries := by
  unfold Entries.rearmIfHeld at *
  split at refused
  · cases refused
  next stranger => rw [if_neg stranger]

/-- What is seen decides what is refused: a fault never confirms a request. -/
theorem refused_perform {switches : Switches} {request : Request}
    (refused : request.confirmed (.ok (sight.act now request).1) = false) :
    request.confirmed (sight.perform now switches request).1 = false := by
  cases struck : switches.fault? request.isPlain with
  | some fault =>
    rw [Sight.perform_of_fault struck]
    exact request.confirmed_error fault
  | none =>
    rw [Sight.perform_of_none struck]
    exact refused

/-- While the owner key is guarded no request is confirmed that takes it, or that only another
ID may make. -/
theorem excludes_of_guards {index deadline : Nat} {request : Request} {store : Store}
    (guards : Guards key id now (some deadline) (store.entries.seen now))
    (ahead : now < deadline) :
    Excludes key id ⟨now, index, request, (store.perform now request).1⟩ store
      (store.perform now request).2 := by
  have shows : store.Shows now store.switches (store.entries.seen now) := ⟨rfl, rfl⟩
  have answered := (shows.perform request).1
  have entry := guards deadline rfl ahead
  have others (other : String) (stranger : other ≠ id) :
      (store.entries.seen now).holds key other = false := by
    rw [Sight.holds, entry]
    exact decide_eq_false stranger.symm
  constructor
  · rintro value lease rfl
    have present : ((store.entries.seen now) key).isSome = true := by
      rw [entry]
      rfl
    show Request.confirmed _ (store.perform now (.setIfAbsent key value lease)).1 = false
    rw [answered]
    refine refused_perform ?_
    rw [Sight.act, Sight.takeIfAbsent, if_pos present]
    rfl
  · rintro keys other rfl rfl stranger
    have refused : Request.confirmed _ (store.perform now (.releaseIfOwner keys other)).1 =
        false := by
      rw [answered]
      refine refused_perform ?_
      rw [Sight.act, Sight.releaseIfHeld, others other stranger]
      rfl
    exact ⟨refused, onlyExpires_of_refused (fun _ => releaseIfHeld_of_refused) refused⟩
  · rintro keys other lease payload rfl rfl stranger
    have refused : Request.confirmed _
        (store.perform now (.refreshIfOwner keys other lease payload)).1 = false := by
      rw [answered]
      refine refused_perform ?_
      rw [Sight.act, Sight.rearmIfHeld, others other stranger]
      rfl
    exact ⟨refused, onlyExpires_of_refused (fun _ => rearmIfHeld_of_refused) refused⟩

/-- The latest deadline of an ID for an owner key, after a request, when it had one before. -/
def Contact.latest (key id : String) (deadline : Nat) (contact : Contact) : Nat :=
  match contact.deed? key id with
  | some (.armed later) => later
  | _ => deadline

/-- An ID that never gives a key back has the latest deadline it was given. -/
theorem foldl_arm {key id : String} (contacts : List Contact) (deadline : Nat)
    (kept : ∀ contact ∈ contacts, contact.deed? key id ≠ some .ended) :
    contacts.foldl (Contact.arm key id) (some deadline) =
      some (contacts.foldl (Contact.latest key id) deadline) := by
  induction contacts generalizing deadline with
  | nil => rfl
  | cons contact contacts inductionHypothesis =>
    obtain ⟨first, others⟩ := List.forall_mem_cons.mp kept
    rw [List.foldl_cons, List.foldl_cons, Contact.arm, Contact.latest]
    cases done : contact.deed? key id with
    | none => exact inductionHypothesis deadline others
    | some deed =>
      cases deed with
      | armed later => exact inductionHypothesis later others
      | ended => exact absurd done first

/-- Take any run of a crowd at a store, in which no lock has the key as its data key. Once an ID
was given the owner key, and as long as it has not given it back and its latest deadline has not
come, the next request of any call does nothing to the key against it. -/
theorem held_key_excludes {key id : String} {lease : Duration} (store : Store)
    (moves : List (Move Nat Switching))
    (apart : ∀ call, .begin call ∈ moves → ∀ lock, call.lock? = some lock → lock.keys.data ≠ key)
    {earlier later : List Contact} {grant : Contact}
    (contacts : ((Crowd.nobody store).run desk moves).1 = earlier ++ grant :: later)
    (taken : grant.request = .setIfAbsent key id lease) (granted : grant.confirmed = true)
    (kept : ∀ contact ∈ later, contact.deed? key id ≠ some .ended)
    (ahead : ((Crowd.nobody store).run desk moves).2.now <
      later.foldl (Contact.latest key id) (deadline grant.now lease))
    (index : Nat) {contact : Contact}
    (next : (((Crowd.nobody store).run desk moves).2.serve desk index).1 = some contact) :
    Excludes key id contact ((Crowd.nobody store).run desk moves).2.service
      (((Crowd.nobody store).run desk moves).2.serve desk index).2.service := by
  let crowd : Crowd Nat Store Request Request.Answer := Crowd.nobody store
  have all : crowd.AllAsk (Request.Spares key) := fun progress member => by cases member
  have unarmed : Guards key id crowd.now none (crowd.service.entries.seen crowd.now) :=
    fun deadline arms => by cases arms
  obtain ⟨_, guards⟩ := Crowd.run_keeps (keeps_guards key id) all unarmed moves fun call begun =>
    (dialect_asksOnly key).program call (apart call begun)
  have given : grant.deed? key id = some (.armed (deadline grant.now lease)) := by
    obtain ⟨moment, caller, request, answer⟩ := grant
    cases taken
    unfold Contact.deed?
    rw [if_pos granted]
    exact if_pos ⟨rfl, rfl⟩
  -- whatever came before, the grant arms the ID, and nothing after it ends that
  rw [contacts, List.foldl_append, List.foldl_cons, Contact.arm, given] at guards
  simp only at guards
  rw [foldl_arm later _ kept] at guards
  obtain served | ⟨progress, step, _, _, served⟩ :=
    Crowd.serve_cases desk (crowd.run desk moves).2 index
  · rw [served] at next
    cases next
  · rw [served] at next ⊢
    cases next
    exact excludes_of_guards guards ahead

/-- A connected client of an ID. -/
def contender (serial : Nat) (id : String) : Client Nat := ⟨serial, id, "app", true, 0⟩

/-- The lock that a contender wants. -/
def contended (client : Client Nat) : Call Nat :=
  .acquire (some client) (client.newLock "job") .longestLease

/-- Two clients begin to take one lock, and the first one gets its turn. -/
def contest : List (Move Nat Switching) :=
  [.begin (contended (contender 0 "A")), .begin (contended (contender 1 "B")), .serve 0, .pass 7]

theorem held_key_excludes_contest :
    ∃ contact, (((Crowd.nobody empty).run desk contest).2.serve desk 1).1 = some contact ∧
      Excludes "app:job" "A" contact ((Crowd.nobody empty).run desk contest).2.service
        (((Crowd.nobody empty).run desk contest).2.serve desk 1).2.service := by
  have apart : ∀ call, .begin call ∈ contest → ∀ lock, call.lock? = some lock →
      lock.keys.data ≠ "app:job" := by
    intro call begun lock same
    simp only [contest, List.mem_cons, Move.begin.injEq, reduceCtorEq, List.not_mem_nil, or_false]
      at begun
    obtain rfl | rfl := begun <;> cases same <;> decide
  have contacts : ((Crowd.nobody empty).run desk contest).1 =
      [] ++ ⟨0, 0, .setIfAbsent "app:job" "A" .longestLease, .ok true⟩ :: [] := rfl
  exact ⟨_, rfl, held_key_excludes empty contest apart contacts rfl rfl
    (fun contact member => by cases member) (by decide) 1 rfl⟩

end Leasehold.Store
