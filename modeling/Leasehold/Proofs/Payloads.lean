/-
This file says whose payload is seen and who may write one, in any run of a crowd. A call that
takes a lock writes the payload by a request of its own, after the one that gave it the lock, and
that second request asks nobody who holds the lock. So there are two windows. Until the payload is
written the lock is seen as held with what was left there before; and a call whose lease runs out
before it writes does so all the same, and lands on the payload of whoever has the lock by then.
Apart from these two windows the payload that is seen of a held lock is that of its holder.
-/

import Leasehold.Proofs.Tenure

namespace Leasehold

section Crowds

variable {Service Action Request Endpoint : Type} {Answer : Request → Type}
  {desk : Desk Service Action Request Answer}

/-- All locks of a run are for some resources. -/
def Among (resources : List Resource) (moves : List (Move Endpoint Action)) : Prop :=
  ∀ call, .begin call ∈ moves → ∀ lock, call.lock? = some lock → lock.IsFor resources

/-- Locks for separate resources have the same keys, or none in common. -/
theorem Separate.keys_cases {resources : List Resource} (separate : Separate resources)
    {one other : Lock} (isFor : one.IsFor resources) (otherIsFor : other.IsFor resources) :
    other.keys = one.keys ∨ one.keys.Disjoint other.keys := by
  rw [isFor.keys, otherIsFor.keys]
  by_cases same : one.resource = other.resource
  · exact Or.inl (congrArg Resource.keys same.symm)
  · exact Or.inr (separate _ isFor.member _ otherIsFor.member same)

theorem Lock.IsFor.distinct {resources : List Resource} {lock : Lock}
    (isFor : lock.IsFor resources) : lock.keys.owner ≠ lock.keys.data := by
  rw [isFor.keys]
  exact (lock.resource.data_ne_owner).symm

namespace Overview

variable (overview : Overview desk)

/-- A call that took an owner key for an ID has lost it by a moment: the ID gave the key back, or
the latest deadline it was given for the key has come. -/
def Lapsed (contacts : List (Contact Request Answer)) (now index : Nat) (key id : String) :
    Prop :=
  ∃ earlier grant later deadline, contacts = earlier ++ grant :: later ∧ grant.index = index ∧
    overview.featOf grant = some (.took key id deadline) ∧
      ∀ latest, (overview.feats later).foldl (Feat.arm key id) (some deadline) = some latest →
        latest ≤ now

/-- Whoever writes a payload next after a run is a client that holds the lock, or a call that took
the lock and has lost it again. -/
def WrittenByHolders
    (run : List (Contact Request Answer) × Crowd Endpoint Service Request Answer) : Prop :=
  ∀ index contact feat key payload, (run.2.serve desk index).1 = some contact →
    overview.featOf contact = some feat → feat.writes key = some payload →
    ∃ (call : Call Endpoint) (client : Client Endpoint) (lock : Lock),
      run.2.call? index = some call ∧ call.party? = some (client, lock) ∧
      lock.keys.data = key ∧ lock.payload = payload ∧
      ((overview.seen run.2.now run.2.service).holds lock.keys.owner client.id = true ∨
        ∃ lease, call = .acquire (some client) lock lease ∧
          overview.Lapsed run.1 run.2.now index lock.keys.owner client.id)

variable {overview} {resources : List Resource} {moves : List (Move Endpoint Action)}
  {contacts : List (Contact Request Answer)} {crowd : Crowd Endpoint Service Request Answer}

/-- What was achieved in a run either regards the lock of a call or is apart from it. -/
theorem regard_of_conducted (conducted : crowd.Conducted overview (.begin · ∈ moves) contacts)
    (separate : Separate resources) (among : Among resources moves) {lock : Lock}
    (isFor : lock.IsFor resources) : overview.Regard lock.keys contacts := by
  intro feat member
  obtain ⟨contact, there, achieved⟩ := List.mem_filterMap.mp member
  obtain ⟨earlier, later, split⟩ := List.append_of_mem there
  obtain ⟨call, present, may⟩ := conducted.told earlier contact later feat split achieved
  refine may.regards fun other about => ?_
  exact separate.keys_cases isFor (among call (conducted.begun _ call present) other about)

/-- A call that took the owner key for an ID either still has it for the ID, or has lost it. -/
theorem holds_or_lapsed {origin : Sight} (separate : Separate resources)
    (among : Among resources moves)
    (conducted : crowd.Conducted overview (.begin · ∈ moves) contacts)
    {now : Nat} {sight : Sight} (chronicle : overview.Chronicle origin now contacts sight)
    {lock : Lock} (isFor : lock.IsFor resources) {index : Nat} {id : String} {deadline : Nat}
    (past : overview.past index contacts = [.took lock.keys.owner id deadline]) :
    sight.holds lock.keys.owner id = true ∨
      overview.Lapsed contacts now index lock.keys.owner id := by
  have took : .took lock.keys.owner id deadline ∈ overview.past index contacts := by
    rw [past]
    exact List.mem_singleton_self _
  obtain ⟨grant, there, own, granted⟩ := Overview.exists_of_past took
  obtain ⟨earlier, later, rfl⟩ := List.append_of_mem there
  have regard := regard_of_conducted conducted separate among isFor
  have guards := chronicle.guards isFor.distinct regard id
  rw [overview.feats_split granted, List.foldl_append, List.foldl_cons, Feat.arm,
    if_pos ⟨rfl, rfl⟩] at guards
  by_cases held : ∃ latest, (overview.feats later).foldl (Feat.arm lock.keys.owner id)
      (some deadline) = some latest ∧ now < latest
  · obtain ⟨latest, arms, ahead⟩ := held
    refine Or.inl ?_
    rw [Sight.holds, guards latest arms ahead]
    exact decide_eq_true rfl
  · exact Or.inr ⟨earlier, grant, later, deadline, rfl, own, granted, fun latest arms =>
      Nat.le_of_not_lt fun ahead => held ⟨latest, arms, ahead⟩⟩

theorem writtenByHolders {origin : Sight} (separate : Separate resources)
    (among : Among resources moves) (sound : overview.sound crowd.service)
    (conducted : crowd.Conducted overview (.begin · ∈ moves) contacts)
    (chronicle : overview.Chronicle origin crowd.now contacts
      (overview.seen crowd.now crowd.service)) :
    overview.WrittenByHolders (contacts, crowd) := by
  intro index contact feat key payload next achieved writes
  obtain served | ⟨progress, step, called, found, served⟩ := Crowd.serve_cases desk crowd index
  · rw [served] at next
    cases next
  · rw [served] at next
    cases next
    have calls : crowd.call? index = some progress.call :=
      congrArg (Option.map Progress.call) called
    have may := ((conducted.onward index progress called).next found crowd.now
      (desk.perform crowd.now step.1 crowd.service).1).1 feat achieved
    have follows := overview.follows crowd.now step.1 sound
    have same : overview.feat? crowd.now step.1
        (desk.perform crowd.now step.1 crowd.service).1 = some feat := achieved
    rw [same] at follows
    cases feat with
    | took | freed | looked => cases writes
    | renewed keys id deadline stored =>
      obtain ⟨client, lock, party, rfl, rfl, rfl⟩ := may.renewed
      obtain ⟨rfl, ⟨⟩⟩ := Option.ite_none_right_eq_some.mp writes
      exact ⟨_, client, lock, calls, party, rfl, rfl, Or.inl follows.1⟩
    | stored other stored =>
      obtain ⟨client, lock, lease, deadline, taking, rfl, rfl, past⟩ := may.stored
      obtain ⟨rfl, ⟨⟩⟩ := Option.ite_none_right_eq_some.mp writes
      refine ⟨_, client, lock, calls, by rw [taking]; rfl, rfl, rfl, ?_⟩
      have isFor : lock.IsFor resources :=
        among _ (conducted.begun index _ calls) lock (by rw [taking]; rfl)
      exact (holds_or_lapsed separate among conducted chronicle isFor past).imp_right
        fun lapsed => ⟨lease, taking, lapsed⟩

/-! ### Payloads seen -/

/-- Where the payload comes from that is left under the data key of a lock, which an ID has had
since a request of a call with a payload granted it. -/
inductive Source (overview : Overview desk) (keys : KeyPair) (owner payload : String)
    (earlier : List (Contact Request Answer)) (grant : Contact Request Answer)
    (later : List (Contact Request Answer)) : Option String → Prop where
  /-- The call that took the lock wrote its payload, and nobody wrote after it. -/
  | own {write} : overview.LastWrite keys.data payload write later → write.index = grant.index →
    Source overview keys owner payload earlier grant later (some payload)
  /-- The holder renewed its lease, and nobody wrote after it. -/
  | renewed {write deadline other} : overview.LastWrite keys.data other write later →
    overview.featOf write = some (.renewed keys owner deadline other) →
    Source overview keys owner payload earlier grant later (some other)
  /-- A call wrote that had taken the lock before and lost it. -/
  | belated {write former id deadline other} : overview.LastWrite keys.data other write later →
    former ∈ earlier → former.index = write.index →
    overview.featOf former = some (.took keys.owner id deadline) →
    Source overview keys owner payload earlier grant later (some other)
  /-- Nobody has written yet, and what was left before is still there. -/
  | left : (∀ feat ∈ overview.feats later, feat.writes keys.data = none) →
    Source overview keys owner payload earlier grant later
      ((overview.feats earlier).foldl (Feat.leave keys.data) none)

/-- A call that returned a snapshot of a held lock read it at some moment, when the ID that is shown
as the holder's had the lock, and the payload that is shown was left there. -/
def ShownWithSource (overview : Overview desk)
    (run : List (Contact Request Answer) × Crowd Endpoint Service Request Answer) : Prop :=
  ∀ index (progress : Progress Endpoint Request Answer) snapshot,
    run.2.calls[index]? = some progress → progress.rest.result? = some (.snapshot snapshot) →
    snapshot.acquired = true →
    ∃ client lock owner, progress.call = .inspect client lock ∧ snapshot.owner = some owner ∧
      ∃ before look after reading, run.1 = before ++ look :: after ∧ look.index = index ∧
        overview.featOf look = some (.looked lock.keys reading) ∧
      ∃ earlier grant later, overview.Since lock.keys.owner owner before earlier grant later ∧
      ∃ holder taken lease,
        run.2.call? grant.index = some (.acquire (some holder) taken lease) ∧ holder.id = owner ∧
        taken.keys = lock.keys ∧
        overview.Source lock.keys owner taken.payload earlier grant later snapshot.data

/-- A plain write under the data key of a lock is the second one of a call that takes the lock. -/
theorem exists_former_of_stored (separate : Separate resources) (among : Among resources moves)
    (conducted : crowd.Conducted overview (.begin · ∈ moves) contacts) {lock : Lock}
    (isFor : lock.IsFor resources) {earlier later : List (Contact Request Answer)}
    {write : Contact Request Answer} (split : contacts = earlier ++ write :: later)
    {payload : String} (wrote : overview.featOf write = some (.stored lock.keys.data payload)) :
    ∃ client other lease, crowd.call? write.index = some (.acquire (some client) other lease) ∧
      other.payload = payload ∧
      ∃ former ∈ earlier, former.index = write.index ∧
        ∃ deadline, overview.featOf former = some (.took lock.keys.owner client.id deadline) := by
  obtain ⟨call, present, may⟩ := conducted.told earlier write later _ split wrote
  obtain ⟨client, other, lease, deadline, rfl, data, rfl, past⟩ := may.stored
  have otherIsFor : other.IsFor resources := among _ (conducted.begun _ _ present) other rfl
  obtain same | apart := separate.keys_cases isFor otherIsFor
  · refine ⟨client, other, lease, present, rfl, ?_⟩
    rw [same] at past
    have took : .took lock.keys.owner client.id deadline ∈ overview.past write.index earlier := by
      rw [past]
      exact List.mem_singleton_self _
    obtain ⟨former, member, own, achieved⟩ := Overview.exists_of_past took
    exact ⟨former, member, own, deadline, achieved⟩
  · exact absurd data apart.2.2

/-- What is left under a data key after a grant is what was there before, until somebody writes. -/
theorem Since.foldl_leave {keys : KeyPair} {owner : String}
    {earlier later : List (Contact Request Answer)} {grant : Contact Request Answer}
    (since : overview.Since keys.owner owner contacts earlier grant later) :
    (overview.feats contacts).foldl (Feat.leave keys.data) none =
      (overview.feats later).foldl (Feat.leave keys.data)
        ((overview.feats earlier).foldl (Feat.leave keys.data) none) := by
  obtain ⟨rfl, ⟨deadline, granted⟩, _⟩ := since
  rw [overview.feats_split granted, List.foldl_append, List.foldl_cons]
  rfl

theorem Since.source {owner : String} {lock taken : Lock} {lease : Duration}
    {holder : Client Endpoint} {before rest earlier later : List (Contact Request Answer)}
    {grant : Contact Request Answer} (separate : Separate resources)
    (among : Among resources moves)
    (conducted : crowd.Conducted overview (.begin · ∈ moves) (before ++ rest))
    (isFor : lock.IsFor resources)
    (since : overview.Since lock.keys.owner owner before earlier grant later)
    (calls : crowd.call? grant.index = some (.acquire (some holder) taken lease)) :
    overview.Source lock.keys owner taken.payload earlier grant later
      ((overview.feats before).foldl (Feat.leave lock.keys.data) none) := by
  rw [since.foldl_leave]
  obtain ⟨rfl, _, kept⟩ := since
  have regards : overview.Regard lock.keys later :=
    (regard_of_conducted conducted separate among isFor).mono fun contact there =>
      List.mem_append_left _ (List.mem_append_right _ (List.mem_cons_of_mem _ there))
  obtain ⟨write, payload, last, holds⟩ | ⟨idle, holds⟩ := Overview.left_cases lock.keys.data
    ((overview.feats earlier).foldl (Feat.leave lock.keys.data) none)
    fun feat member => (regards feat member).leave (kept feat member)
  · rw [holds]
    obtain ⟨between, feat, after, rfl, achieved, writes, _⟩ := id last
    have member : feat ∈ overview.feats (between ++ write :: after) :=
      List.mem_filterMap.mpr ⟨write, List.mem_append_cons_self, achieved⟩
    cases regards feat member with
    | take | free => cases writes
    | apart apart =>
      rw [apart.writes] at writes
      cases writes
    | renew id latest other =>
      obtain ⟨_, ⟨⟩⟩ := Option.ite_none_right_eq_some.mp writes
      obtain rfl : id = owner := kept _ member rfl
      exact .renewed last achieved
    | store other =>
      obtain ⟨_, ⟨⟩⟩ := Option.ite_none_right_eq_some.mp writes
      have split : earlier ++ grant :: (between ++ write :: after) ++ rest =
          (earlier ++ grant :: between) ++ write :: (after ++ rest) := by
        simp only [List.append_assoc, List.cons_append]
      obtain ⟨client, other, _, present, rfl, former, there, own, _, achieved⟩ :=
        exists_former_of_stored separate among conducted isFor split achieved
      by_cases same : write.index = grant.index
      · rw [same, calls] at present
        cases present
        exact .own last same
      · obtain before | late := List.mem_append.mp there
        · exact .belated last before own achieved
        · obtain rfl | during := List.mem_cons.mp late
          · exact absurd own.symm same
          · have took : .took lock.keys.owner client.id _ ∈
                overview.feats (between ++ write :: after) :=
              List.mem_filterMap.mpr ⟨former, List.mem_append_left _ during, achieved⟩
            exact absurd rfl (kept _ took)
  · rw [holds]
    exact .left idle

/-- A snapshot of a held lock comes from an entry under the owner key. -/
theorem exists_of_acquired {name : String} {keys : KeyPair} {now : Nat} {sight : Sight}
    (held : (Snapshot.ofReading name (sight.read now keys)).acquired = true) :
    ∃ entry, sight keys.owner = some entry := by
  cases found : sight keys.owner with
  | some entry => exact ⟨entry, rfl⟩
  | none =>
    have missing : (sight.read now keys).remaining = missingKey := by
      rw [Sight.read, found]
      rfl
    have absent : (Snapshot.ofReading name (sight.read now keys)).acquired = false := by
      rw [Snapshot.ofReading, missing]
      rfl
    exact absurd (absent.symm.trans held) Bool.false_ne_true

theorem shownWithSource {origin : Sight} (bare : ∀ key, origin key = none)
    (separate : Separate resources) (among : Among resources moves)
    (conducted : crowd.Conducted overview (.begin · ∈ moves) contacts)
    {now : Nat} {sight : Sight} (chronicle : overview.Chronicle origin now contacts sight) :
    overview.ShownWithSource (contacts, crowd) := by
  intro index progress snapshot called ended held
  have calls : crowd.call? index = some progress.call :=
    congrArg (Option.map Progress.call) called
  obtain ⟨client, lock, inspects, shows⟩ :=
    (conducted.onward index progress called).result ended snapshot rfl
  obtain ⟨reading, past, rfl⟩ := shows held
  have isFor : lock.IsFor resources :=
    among _ (conducted.begun index _ calls) lock (by rw [inspects]; rfl)
  have looked : .looked lock.keys reading ∈ overview.past index contacts := by
    rw [past]
    exact List.mem_singleton_self _
  obtain ⟨look, there, own, achieved⟩ := Overview.exists_of_past looked
  obtain ⟨before, after, rfl⟩ := List.append_of_mem there
  obtain ⟨seen, _, earlier, follows⟩ := chronicle.at rfl
  rw [achieved] at follows
  obtain ⟨rfl, _⟩ := follows
  obtain ⟨entry, found⟩ := exists_of_acquired held
  have regard : overview.Regard lock.keys before :=
    (regard_of_conducted conducted separate among isFor).mono (List.subset_append_left ..)
  have owner : (seen.read look.now lock.keys).owner = some entry.value := by
    rw [Sight.read, found]
    rfl
  have data : (seen.read look.now lock.keys).data =
      (overview.feats before).foldl (Feat.leave lock.keys.data) none := by
    rw [Sight.read, earlier.data isFor.distinct regard (bare _), Option.map_map]
    exact Option.map_id'
  obtain ⟨earlier, grant, later, since⟩ := earlier.tenure isFor.distinct regard (bare _) found
  obtain ⟨deadline, granted⟩ := since.granted
  have split : before ++ look :: after = earlier ++ grant :: (later ++ look :: after) := by
    rw [since.split, List.append_assoc, List.cons_append]
  obtain ⟨call, present, may⟩ := conducted.told _ grant _ _ split granted
  obtain ⟨_, holder, taken, lease, rfl, taking, holds⟩ := may.took
  refine ⟨client, lock, entry.value, inspects, owner, before, look, after, _, rfl, own, achieved,
    earlier, grant, later, since, holder, taken, lease, present, holds.symm, ?_, ?_⟩
  · have takenIsFor : taken.IsFor resources := among _ (conducted.begun _ _ present) taken rfl
    obtain same | apart := separate.keys_cases isFor takenIsFor
    · exact same
    · exact absurd taking apart.1.1
  · have source := since.source separate among conducted isFor present
    rw [← data] at source
    exact source

end Overview

end Crowds

/-! ### Both windows -/

/-- A connected client of an ID. -/
def rival {Endpoint : Type} [Inhabited Endpoint] (serial : Nat) (id : String) : Client Endpoint :=
  ⟨serial, id, "app", true, default⟩

/-- The lock that rivals contend for, with a payload of its own for each. -/
def disputed {Endpoint : Type} (client : Client Endpoint) (payload : String) : Lock :=
  { client.newLock "job" with payload }

/-- A rival that takes the lock for as short a time as possible. -/
def grasp {Endpoint : Type} (client : Client Endpoint) (payload : String) : Call Endpoint :=
  .acquire (some client) (disputed client payload) .shortestLease

/-- The rivals only have the lock that they contend for. -/
theorem among_disputed {Endpoint Action : Type} [Inhabited Endpoint]
    {moves : List (Move Endpoint Action)}
    (about : ∀ call, .begin call ∈ moves → ∀ lock, call.lock? = some lock →
      ∃ serial id payload, lock = disputed (rival serial id : Client Endpoint) payload) :
    Among [⟨"app", "job"⟩] moves := by
  intro call begun lock same
  obtain ⟨serial, id, payload, rfl⟩ := about call begun lock same
  have isFor : ((rival serial id : Client Endpoint).newLock "job").IsFor [⟨"app", "job"⟩] :=
    Client.isFor_newLock (List.mem_singleton_self _)
  exact isFor.withPayload payload

/-- One rival has the lock until its lease runs out. The other one takes the lock, and before it
writes its payload somebody looks. -/
def glimpse (Endpoint Action : Type) [Inhabited Endpoint] : List (Move Endpoint Action) :=
  [.begin (grasp (rival 1 "B") "b"), .serve 0, .serve 0, .pass nanosPerMilli,
    .begin (grasp (rival 0 "A") "a"), .serve 1,
    .begin (.inspect (some (rival 1 "B")) (disputed (rival 1 "B" : Client Endpoint) "b")), .serve 2]

theorem among_glimpse (Endpoint Action : Type) [Inhabited Endpoint] :
    Among [⟨"app", "job"⟩] (glimpse Endpoint Action) := by
  refine among_disputed fun call begun lock same => ?_
  simp only [glimpse, List.mem_cons, Move.begin.injEq, reduceCtorEq, List.not_mem_nil, or_false,
    false_or] at begun
  obtain rfl | rfl | rfl := begun <;> cases same <;> exact ⟨_, _, _, rfl⟩

/-- Every snapshot of a held lock, in any run of calls at a store or a server that begin empty,
shows as holder an ID that was given the lock by the first request of a call, and that nobody has
taken the lock from since. The payload it shows was written for the holder, by that call or when
a lease was renewed; or by a call that had lost the lock before; or nobody has written one since
the lock was given, and it is what was left there. -/
theorem shown_payloads_have_sources {resources : List Resource} (separate : Separate resources) :
    (∀ moves : List (Move Nat Store.Switching), Among resources moves →
        Store.overview.ShownWithSource ((Crowd.nobody .empty).run Store.desk moves)) ∧
      ∀ (endpoint : Server.Endpoint) (moves : List (Move Server.Endpoint Server.Disturbance)),
        Among resources moves → (Server.overview endpoint).ShownWithSource
          ((Crowd.nobody .empty).run (Server.desk endpoint) moves) := by
  constructor
  · intro moves among
    have sound : Store.overview.sound Store.empty := trivial
    obtain ⟨_, chronicle⟩ := Overview.chronicle_run sound moves
    exact Overview.shownWithSource (fun _ => rfl) separate among
      (Crowd.conducted_run _ Store.dialect_abides Store.empty moves) chronicle
  · intro endpoint moves among
    have sound : (Server.overview endpoint).sound Server.empty := ⟨[], rfl⟩
    obtain ⟨_, chronicle⟩ := Overview.chronicle_run sound moves
    exact Overview.shownWithSource (fun _ => rfl) separate among
      (Crowd.conducted_run _ Server.dialect_abides Server.empty moves) chronicle

theorem shown_payloads_have_sources_glimpse :
    Store.overview.ShownWithSource
        ((Crowd.nobody .empty).run Store.desk (glimpse Nat Store.Switching)) ∧
      (Server.overview default).ShownWithSource
        ((Crowd.nobody .empty).run (Server.desk default)
          (glimpse Server.Endpoint Server.Disturbance)) := by
  have separate : Separate [⟨"app", "job"⟩] := by decide
  obtain ⟨stores, servers⟩ := shown_payloads_have_sources separate
  exact ⟨stores _ (among_glimpse _ _), servers default _ (among_glimpse _ _)⟩

/-- What a call returned in a run, if it has. -/
def Crowd.returned? {Service Request Endpoint : Type} {Answer : Request → Type}
    (crowd : Crowd Endpoint Service Request Answer) (index : Nat) :
    Option (StepResult Endpoint) :=
  crowd.calls[index]?.bind (·.rest.result?)

/-- A lock is seen as held by an ID whose only request so far was given it, with the payload that
another one left. -/
theorem half_taken_seen :
    (∃ snapshot, ((Crowd.nobody .empty).run Store.desk
          (glimpse Nat Store.Switching)).2.returned? 2 = some (.snapshot snapshot) ∧
        snapshot.acquired = true ∧ snapshot.owner = some "A" ∧ snapshot.data = some "b" ∧
        Store.overview.past 1 ((Crowd.nobody .empty).run Store.desk
          (glimpse Nat Store.Switching)).1 = [.took "app:job" "A" (2 * nanosPerMilli)]) ∧
      ∃ snapshot, ((Crowd.nobody .empty).run (Server.desk default)
          (glimpse Server.Endpoint Server.Disturbance)).2.returned? 2 =
            some (.snapshot snapshot) ∧
        snapshot.acquired = true ∧ snapshot.owner = some "A" ∧ snapshot.data = some "b" ∧
        (Server.overview default).past 1 ((Crowd.nobody .empty).run (Server.desk default)
          (glimpse Server.Endpoint Server.Disturbance)).1 =
            [.took "app:job" "A" (2 * nanosPerMilli)] := by
  constructor
  · exact ⟨_, rfl, rfl, rfl, rfl, rfl⟩
  · exact ⟨_, rfl, rfl, rfl, rfl, rfl⟩

/-- One rival is given the lock and does not write its payload before its lease runs out. The
other one takes the lock and writes. -/
def overrun (Endpoint Action : Type) [Inhabited Endpoint] : List (Move Endpoint Action) :=
  [.begin (grasp (rival 0 "A") "a"), .begin (grasp (rival 1 "B") "b"), .serve 0,
    .pass nanosPerMilli, .serve 1, .serve 1]

theorem among_overrun (Endpoint Action : Type) [Inhabited Endpoint] :
    Among [⟨"app", "job"⟩] (overrun Endpoint Action) := by
  refine among_disputed fun call begun lock same => ?_
  simp only [overrun, List.mem_cons, Move.begin.injEq, reduceCtorEq, List.not_mem_nil, or_false]
    at begun
  obtain rfl | rfl := begun <;> cases same <;> exact ⟨_, _, _, rfl⟩

/-- Whoever writes the payload of a lock, in any run of calls at a store or a server, holds the
lock at that moment, or else is a call that was given the lock, was held up and lost it before it
wrote. No call that renews a lease writes unless the lock is held by its ID. -/
theorem payloads_written_by_holders {resources : List Resource} (separate : Separate resources) :
    (∀ (store : Store) (moves : List (Move Nat Store.Switching)), Among resources moves →
        Store.overview.WrittenByHolders ((Crowd.nobody store).run Store.desk moves)) ∧
      ∀ (endpoint : Server.Endpoint) (server : Server)
        (moves : List (Move Server.Endpoint Server.Disturbance)),
        (Server.overview endpoint).sound server → Among resources moves →
          (Server.overview endpoint).WrittenByHolders
            ((Crowd.nobody server).run (Server.desk endpoint) moves) := by
  constructor
  · intro store moves among
    have sound : Store.overview.sound store := trivial
    obtain ⟨sound, chronicle⟩ := Overview.chronicle_run sound moves
    exact Overview.writtenByHolders separate among sound
      (Crowd.conducted_run _ Store.dialect_abides store moves) chronicle
  · intro endpoint server moves sound among
    obtain ⟨sound, chronicle⟩ := Overview.chronicle_run sound moves
    exact Overview.writtenByHolders separate among sound
      (Crowd.conducted_run _ Server.dialect_abides server moves) chronicle

theorem payloads_written_by_holders_overrun :
    Store.overview.WrittenByHolders
        ((Crowd.nobody .empty).run Store.desk (overrun Nat Store.Switching)) ∧
      (Server.overview default).WrittenByHolders
        ((Crowd.nobody .empty).run (Server.desk default)
          (overrun Server.Endpoint Server.Disturbance)) := by
  have separate : Separate [⟨"app", "job"⟩] := by decide
  obtain ⟨stores, servers⟩ := payloads_written_by_holders separate
  exact ⟨stores .empty _ (among_overrun _ _),
    servers default .empty _ ⟨[], rfl⟩ (among_overrun _ _)⟩

/-- Whoever writes a payload next is a client that holds the lock. -/
def Overview.OnlyHoldersWrite {Service Action Request Endpoint : Type} {Answer : Request → Type}
    {desk : Desk Service Action Request Answer} (overview : Overview desk)
    (crowd : Crowd Endpoint Service Request Answer) : Prop :=
  ∀ index contact feat key payload, (crowd.serve desk index).1 = some contact →
    overview.featOf contact = some feat → feat.writes key = some payload →
    ∃ (call : Call Endpoint) (client : Client Endpoint) (lock : Lock),
      crowd.call? index = some call ∧ call.party? = some (client, lock) ∧
      lock.keys.data = key ∧
      (overview.seen crowd.now crowd.service).holds lock.keys.owner client.id = true

/-- A call that is held up between its two writes overwrites the payload of the one who has the
lock by then, and its caller is told that it has the lock. -/
theorem payload_overrun :
    (¬ Store.overview.OnlyHoldersWrite
        ((Crowd.nobody .empty).run Store.desk (overrun Nat Store.Switching)).2 ∧
      (((Crowd.nobody .empty).run Store.desk (overrun Nat Store.Switching)).2.serve Store.desk
        0).2.returned? 0 = some .finished) ∧
      ¬ (Server.overview default).OnlyHoldersWrite
        ((Crowd.nobody .empty).run (Server.desk default)
          (overrun Server.Endpoint Server.Disturbance)).2 := by
  constructor
  · refine ⟨fun only => ?_, rfl⟩
    obtain ⟨call, client, lock, calls, party, _, holds⟩ :=
      only 0 ⟨nanosPerMilli, 0, .set "app:job:data" "a", .ok ()⟩ (.stored "app:job:data" "a")
        "app:job:data" "a" rfl rfl rfl
    cases calls
    cases party
    cases holds
  · intro only
    obtain ⟨call, client, lock, calls, party, _, holds⟩ :=
      only 0 ⟨nanosPerMilli, 0, .send (.set "app:job:data" "a"), .ok (.text "OK")⟩
        (.stored "app:job:data" "a") "app:job:data" "a" rfl rfl rfl
    cases calls
    cases party
    cases holds

end Leasehold
