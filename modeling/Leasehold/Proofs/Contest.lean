/-
This file proves that of any number of clients that try to take one lock at one moment exactly one
succeeds. A contest is open until the first request for the owner key comes; the client that makes
it has won, and all others are refused from then on, whatever the order of the requests. The
winner's payload is written by its next request, and as the others are refused at their first one,
nobody else writes anything.
-/

import Leasehold.Proofs.Attempt
import Leasehold.Proofs.Payloads

namespace Leasehold.Store

/-- A connected client that tries to take the lock of a resource. -/
structure Contender (resource : Resource) where
  client : Client Nat
  lock : Lock
  lease : Duration
  connected : client.connected = true
  keys : lock.keys = resource.keys
  name : lock.name = resource.name
  long : Duration.shortestLease.nanos ≤ lease.nanos

variable {resource : Resource} {now index : Nat}

namespace Contender

/-- The call of a contender. -/
def call (contender : Contender resource) : Call Nat :=
  .acquire (some contender.client) contender.lock contender.lease

/-- The request for the owner key. -/
abbrev claim (contender : Contender resource) : Request :=
  .setIfAbsent contender.lock.keys.owner contender.client.id contender.lease

/-- The writing of the payload. -/
abbrev write (contender : Contender resource) : Request :=
  .set contender.lock.keys.data contender.lock.payload

/-- What the owner key holds when a contender has taken it. -/
def entry (contender : Contender resource) (now : Nat) : Entry :=
  ⟨contender.client.id, some (deadline now contender.lease)⟩

variable (contender : Contender resource)

theorem heeds : (contender.call.program dialect).Heeds
    (Attempt contender.lock contender.client.id contender.lease) [] := by
  refine (heeds_attempt (some contender.client) contender.lock contender.lease).mono ?_
  rintro talk upcoming (⟨_, error, refused, _⟩ | ⟨_, ⟨⟩, attempt⟩)
  · exact absurd refused (not_refused contender.connected contender.long error)
  · exact attempt

/-- No lease of a contender runs out at the moment at which it begins. -/
theorem isLive_entry (now : Nat) : (contender.entry now).isLive now = true := by
  have longest : 0 < Duration.longestLease.nanos := by decide
  have shortest : 0 < Duration.shortestLease.nanos := by decide
  have long := contender.long
  have ahead : now < deadline now contender.lease := by
    rw [deadline, Duration.nanos_shorter]
    omega
  exact decide_eq_true ahead

theorem put_entry (sight : Sight) :
    (sight.put now resource.keys.owner (contender.entry now)) resource.keys.owner =
      some (contender.entry now) := by
  rw [Sight.put_of_isLive (contender.isLive_entry now), Function.update_self]

end Contender

/-! ### Where a contest stands -/

/-- Where a contest stands: it is open, or one contender has the owner key, has perhaps written its
payload, and all others are refused or have not asked yet. -/
inductive Standing (contenders : List (Contender resource)) (now : Nat) (contacts : List Contact)
    (sight : Sight) : Prop where
  | undecided : (∀ index, dialogue index contacts = []) → sight resource.keys.owner = none →
    Standing contenders now contacts sight
  | decided {first : Nat} {winner : Contender resource} : contenders[first]? = some winner →
    sight resource.keys.owner = some (winner.entry now) →
    (dialogue first contacts = [⟨winner.claim, .ok true⟩] ∨
      dialogue first contacts = [⟨winner.claim, .ok true⟩, ⟨winner.write, .ok ()⟩] ∧
        sight resource.keys.data = some ⟨winner.lock.payload, none⟩) →
    (∀ other, other ≠ first → dialogue other contacts = [] ∨
      ∃ loser, contenders[other]? = some loser ∧
        dialogue other contacts = [⟨loser.claim, .ok false⟩]) →
    Standing contenders now contacts sight

variable {contenders : List (Contender resource)} {contacts : List Contact} {sight : Sight}

/-- A request of a contender leaves the contest open or decided. -/
theorem Standing.serve (standing : Standing contenders now contacts sight)
    {contender : Contender resource} (present : contenders[index]? = some contender)
    {request : Request}
    (attempt : Attempt contender.lock contender.client.id contender.lease
      (dialogue index contacts) (.inl request)) :
    Standing contenders now
      (contacts ++ [⟨now, index, request, .ok (sight.act now request).1⟩])
      (sight.act now request).2 := by
  have own : dialogue index (contacts ++ [⟨now, index, request, .ok (sight.act now request).1⟩]) =
      dialogue index contacts ++ [⟨request, .ok (sight.act now request).1⟩] := by
    rw [dialogue_append]
    exact congrArg _ (dialogue_own rfl)
  have others (other : Nat) (apart : other ≠ index) :
      dialogue other (contacts ++ [⟨now, index, request, .ok (sight.act now request).1⟩]) =
        dialogue other contacts := by
    rw [dialogue_append, dialogue_other apart.symm, List.append_nil]
  cases standing with
  | undecided none free =>
    rw [none index] at attempt own
    cases attempt
    have absent : ¬ (sight contender.lock.keys.owner).isSome = true := by
      rw [contender.keys, free]
      exact Bool.false_ne_true
    rw [Sight.act, Sight.takeIfAbsent, if_neg absent] at own others ⊢
    refine .decided present ?_ (Or.inl own) fun other apart => Or.inl ?_
    · rw [contender.keys]
      exact contender.put_entry sight
    · rw [others other apart, none]
  | @decided first winner won held wrote lost =>
    by_cases same : index = first
    · subst same
      cases won.symm.trans present
      obtain granted | ⟨both, _⟩ := wrote
      · rw [granted] at attempt own
        cases attempt
        refine .decided won ?_ (Or.inr ⟨own, ?_⟩) fun other apart => ?_
        · rw [Sight.act, contender.keys]
          exact (Function.update_of_ne resource.data_ne_owner.symm _ _).trans held
        · rw [Sight.act, contender.keys, Sight.put_of_isLive rfl]
          exact Function.update_self ..
        · rw [others other apart]
          exact lost other apart
      · rw [both] at attempt
        cases attempt
    · obtain unasked | ⟨loser, loses, refused⟩ := lost index same
      · rw [unasked] at attempt own
        cases attempt
        have taken : (sight contender.lock.keys.owner).isSome = true := by
          rw [contender.keys, held]
          rfl
        rw [Sight.act, Sight.takeIfAbsent, if_pos taken] at own others ⊢
        refine .decided won held ?_ fun other apart => ?_
        · rw [others first (Ne.symm same)]
          exact wrote
        · by_cases itself : other = index
          · subst itself
            exact Or.inr ⟨contender, present, own⟩
          · rw [others other itself]
            exact lost other apart
      · cases loses.symm.trans present
        rw [refused] at attempt
        cases attempt

/-! ### The crowd -/

/-- A crowd of contenders at one moment, in a store that serves. -/
structure Contest (contenders : List (Contender resource)) (now : Nat) (contacts : List Contact)
    (crowd : Crowd Nat Store Request Request.Answer) : Prop where
  moment : crowd.now = now
  calls : ∀ index, crowd.call? index = contenders[index]?.map Contender.call
  conversant : crowd.Conversant desk contacts
  serving : crowd.service.Serving
  standing : Standing contenders now contacts (crowd.service.entries.seen now)

namespace Contest

variable {crowd : Crowd Nat Store Request Request.Answer}

/-- What a contender does next is what its attempt has come to. -/
theorem attempt (contest : Contest contenders now contacts crowd)
    {progress : Progress Nat Request Request.Answer}
    (called : crowd.calls[index]? = some progress) :
    ∃ contender, contenders[index]? = some contender ∧
      Attempt contender.lock contender.client.id contender.lease (dialogue index contacts)
        progress.rest.upcoming := by
  have calls := contest.calls index
  rw [Crowd.call?, called] at calls
  obtain ⟨contender, present, same⟩ := Option.map_eq_some_iff.mp calls.symm
  refine ⟨contender, present, ?_⟩
  have comes := contest.conversant.comes index progress called
  rw [← same] at comes
  exact (contender.heeds.comes comes).upcoming

theorem serve (contest : Contest contenders now contacts crowd) (index : Nat) :
    Contest contenders now (contacts ++ (crowd.serve desk index).1.toList)
      (crowd.serve desk index).2 := by
  have conversant := contest.conversant.serve index
  obtain served | ⟨progress, step, called, found, served⟩ := Crowd.serve_cases desk crowd index
  · rw [served, Option.toList_none, List.append_nil]
    exact contest
  · obtain ⟨contender, present, attempt⟩ := contest.attempt called
    rw [Program.upcoming_of_next found] at attempt
    have standing := contest.standing.serve present attempt
    obtain ⟨answer, seen⟩ := contest.serving.answers now step.1
    rw [← answer, ← seen] at standing
    rw [served] at conversant ⊢
    refine ⟨contest.moment, fun other => ?_, conversant, contest.serving.afterwards _ _, ?_⟩
    · rw [Crowd.call?_set called]
      exact contest.calls other
    · rw [contest.moment]
      exact standing

theorem run (contest : Contest contenders now contacts crowd) (schedule : List Nat) :
    Contest contenders now (contacts ++ (crowd.run desk (schedule.map .serve)).1)
      (crowd.run desk (schedule.map .serve)).2 := by
  refine Crowd.run_induction (Contest contenders now) contacts _ contest ?_
  intro move member contacts crowd contest
  obtain ⟨index, _, rfl⟩ := List.mem_map.mp member
  exact contest.serve index

theorem gathered {store : Store} (serving : store.Serving)
    (free : store.entries.seen now resource.keys.owner = none) :
    Contest contenders now [] (Crowd.gathered desk now store (contenders.map Contender.call)) where
  moment := rfl
  calls index := by
    rw [Crowd.call?, Crowd.gathered, List.getElem?_map, Option.map_map, List.getElem?_map]
    exact Option.map_id'
  conversant := Crowd.conversant_gathered now store _
  serving := serving
  standing := .undecided (fun _ => rfl) free

/-- What a contender is told when its attempt has come to an end. -/
theorem ended (contest : Contest contenders now contacts crowd) {result : StepResult Nat}
    (returned : crowd.returned? index = some result) :
    ∃ contender, contenders[index]? = some contender ∧
      Attempt contender.lock contender.client.id contender.lease (dialogue index contacts)
        (.inr result) := by
  obtain ⟨progress, called, ends⟩ := Option.bind_eq_some_iff.mp returned
  obtain ⟨contender, present, attempt⟩ := contest.attempt called
  rw [Program.upcoming_of_result ends] at attempt
  exact ⟨contender, present, attempt⟩

theorem exists_progress (contest : Contest contenders now contacts crowd)
    (within : index < contenders.length) : ∃ progress, crowd.calls[index]? = some progress := by
  have calls := contest.calls index
  rw [List.getElem?_eq_getElem within] at calls
  obtain ⟨progress, called, _⟩ := Option.map_eq_some_iff.mp calls
  exact ⟨progress, called⟩

/-- No contender asks more than twice. -/
theorem returned_of_two_le (contest : Contest contenders now contacts crowd)
    {progress : Progress Nat Request Request.Answer}
    (called : crowd.calls[index]? = some progress)
    (twice : 2 ≤ (dialogue index contacts).length) : progress.rest.result?.isSome = true := by
  obtain ⟨contender, present, attempt⟩ := contest.attempt called
  cases contest.standing with
  | undecided none =>
    rw [none index] at twice
    cases twice
  | @decided first winner won held wrote lost =>
    by_cases same : index = first
    · subst same
      cases won.symm.trans present
      obtain granted | ⟨both, _⟩ := wrote
      · rw [granted, List.length_singleton] at twice
        omega
      · rw [both] at attempt
        generalize ends : progress.rest.upcoming = upcoming at attempt
        cases attempt
        rw [Program.result?_of_upcoming ends]
        rfl
    · obtain unasked | ⟨loser, _, refused⟩ := lost index same
      · rw [unasked] at twice
        cases twice
      · rw [refused, List.length_singleton] at twice
        omega

end Contest

/-- A contest that is over: one contender has the lock, with its own deadline and payload, and all
others are told that it is held. -/
structure Won (contenders : List (Contender resource)) (now : Nat)
    (crowd : Crowd Nat Store Request Request.Answer) (first : Nat) (winner : Contender resource) :
    Prop where
  contends : contenders[first]? = some winner
  wins : crowd.returned? first = some .finished
  loses : ∀ other < contenders.length, other ≠ first →
    crowd.returned? other = some (.failed (.heldByOtherClient resource.name))
  owner : crowd.service.entries.seen now resource.keys.owner = some (winner.entry now)
  data : crowd.service.entries.seen now resource.keys.data = some ⟨winner.lock.payload, none⟩

/-- A contest of which all calls have returned has one winner. -/
theorem Contest.won {crowd : Crowd Nat Store Request Request.Answer}
    (contest : Contest contenders now contacts crowd) (attended : contenders ≠ [])
    (complete : ∀ index < contenders.length, (crowd.returned? index).isSome = true) :
    ∃ first winner, Won contenders now crowd first winner := by
  cases contest.standing with
  | undecided none =>
    -- the first contender has returned, and cannot have done so without a request
    obtain ⟨result, returned⟩ :=
      Option.isSome_iff_exists.mp (complete 0 (List.length_pos_of_ne_nil attended))
    obtain ⟨contender, _, attempt⟩ := contest.ended returned
    rw [none 0] at attempt
    cases attempt
  | @decided first winner won held wrote lost =>
    obtain ⟨result, returned⟩ :=
      Option.isSome_iff_exists.mp (complete first (List.getElem?_eq_some_iff.mp won).1)
    obtain ⟨contender, present, attempt⟩ := contest.ended returned
    cases won.symm.trans present
    obtain granted | ⟨done, data⟩ := wrote
    · rw [granted] at attempt
      cases attempt
    · rw [done] at attempt
      cases attempt
      refine ⟨first, winner, won, returned, fun other within apart => ?_, held, data⟩
      obtain ⟨outcome, told⟩ := Option.isSome_iff_exists.mp (complete other within)
      obtain ⟨loser, loses, attempt⟩ := contest.ended told
      obtain unasked | ⟨loser, losing, refused⟩ := lost other apart
      · rw [unasked] at attempt
        cases attempt
      · cases loses.symm.trans losing
        rw [refused] at attempt
        cases attempt
        rw [told, loser.name]

/-- Any number of connected clients, at least one, try to take one lock at one moment, in a store
that serves and in which the lock is free. Whatever the order of their requests, every call returns
once it has had two turns; and once all have returned, exactly one of them has the lock, and all
others were told that it is held. -/
theorem contest_has_one_winner (contenders : List (Contender resource))
    (attended : contenders ≠ []) {store : Store} (serving : store.Serving)
    (free : store.entries.seen now resource.keys.owner = none) (schedule : List Nat) :
    let contested := ((Crowd.gathered desk now store (contenders.map Contender.call)).run desk
      (schedule.map .serve)).2
    (∀ index < contenders.length, 2 ≤ schedule.count index →
        (contested.returned? index).isSome = true) ∧
      ((∀ index < contenders.length, (contested.returned? index).isSome = true) →
        ∃ first winner, Won contenders now contested first winner) := by
  intro contested
  have gathered : Contest contenders now [] _ := .gathered serving free
  have contest := gathered.run schedule
  refine ⟨fun index within turns => ?_, contest.won attended⟩
  obtain ⟨progress, called⟩ := gathered.exists_progress within
  obtain ⟨last, present⟩ := contest.exists_progress within
  show (contested.calls[index]?.bind (·.rest.result?)).isSome = true
  rw [present]
  obtain ⟨other, same, ended⟩ | counted := Crowd.over_or_count_le schedule called
  · cases present.symm.trans same
    exact Program.isSome_result?_of_next? ended
  · exact contest.returned_of_two_le present (Nat.le_trans turns counted)

/-- Two clients of one ID that want the same lock, each with its own payload. -/
def twins : List (Contender ⟨"app", "job"⟩) :=
  ["a", "b"].map fun payload => ⟨rival 0 "A", disputed (rival 0 "A" : Client Nat) payload,
    .shortestLease, rfl, rfl, rfl, Nat.le_refl _⟩

theorem contest_has_one_winner_twins :
    ∃ first winner, Won twins 0
      ((Crowd.gathered desk 0 empty (twins.map Contender.call)).run desk
        ([1, 0, 1].map .serve)).2 first winner := by
  have free : empty.entries.seen 0 (Resource.keys ⟨"app", "job"⟩).owner = none := rfl
  obtain ⟨_, decided⟩ :=
    contest_has_one_winner twins (List.cons_ne_nil _ _) ⟨rfl, rfl⟩ free [1, 0, 1]
  refine decided fun index within => ?_
  have among : index = 0 ∨ index = 1 := by
    have : twins.length = 2 := rfl
    omega
  obtain rfl | rfl := among <;> rfl

end Leasehold.Store
