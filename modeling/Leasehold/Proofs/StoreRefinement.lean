/-
This file proves that stores within the process are ledgers, so that what is done over them is
done as in an office. What they add (keys, entries that have run out, a lock that is taken in two
or three requests) cannot be told from outside as long as every operation is made in full before
the next begins and the keys of different locks are apart.
-/

import Leasehold.Proofs.Bookkeeping
import Leasehold.Proofs.Shown
import Leasehold.Proofs.StoreSight

namespace Leasehold

namespace Stores

/-- Whether an errand is a plain write. -/
def isPlainErrand : Errand → Bool
  | .write _ => true
  | .take | .release | .refresh | .inspect => false

/-- The keeper of ledgers for stores within the process, which are places by their numbers.
Leases are cut down to the longest there is. -/
def keeper : Keeper Nat Nat (Nat → Store.Switches) Action where
  reach number := .ok number
  change weather
    | .setAvailable number available =>
      Function.update weather number { weather number with available }
    | .setWriteFailures number failingWrites =>
      Function.update weather number { weather number with failingWrites }
    | .name _ => weather
  connect number weather := (((weather number).fault? false).map Cause.fault, weather)
  disconnect _ weather := weather
  fate number errand weather :=
    (((weather number).fault? (isPlainErrand errand)).map Cause.fault, weather)
  deadline now lease := now + min lease.nanos Duration.longestLease.nanos

theorem keeper_connect (number : Nat) (weather : Nat → Store.Switches) :
    keeper.connect number weather = (((weather number).fault? false).map Cause.fault, weather) :=
  rfl

variable {now number millis : Nat} {weather : Nat → Store.Switches} {lease : Duration}

theorem deadline_eq (now : Nat) (lease : Duration) :
    keeper.deadline now lease = Store.deadline now lease := by
  rw [Store.deadline, Duration.nanos_shorter]
  rfl

theorem lt_deadline (valid : lease.leaseMillis? = some millis) :
    now < Store.deadline now lease := by
  have long : 0 < Duration.longestLease.nanos := by decide
  have short : 0 < Duration.shortestLease.nanos := by decide
  unfold Duration.leaseMillis? at valid
  split at valid
  · cases valid
  · rw [Store.deadline, Duration.nanos_shorter]
    omega

theorem deadline_le (now : Nat) (lease : Duration) :
    Store.deadline now lease ≤ now + longestRemaining := by
  have longest : Duration.longestLease.nanos ≤ longestRemaining := by decide
  rw [Store.deadline, Duration.nanos_shorter]
  omega

end Stores

namespace Sight

variable {now number : Nat} {resources : List Resource} {sight : Sight}
  {leases : Resource → Lease} {lock : Lock} {weather : Nat → Store.Switches}

/-- What an operation comes to for a sight is a turn of the lease. -/
structure Turns {Result : Type} (now : Nat) (resources : List Resource)
    (leases : Resource → Lease) (resource : Resource) (weather : Nat → Store.Switches)
    (outcome : Outcome Sight (Except LockError Result))
    (turn : Turn (Nat → Store.Switches) Result) : Prop where
  result : outcome.result = turn.result
  kept : Kept now resources outcome.service (Function.update leases resource turn.lease)
  weather : turn.weather = weather

theorem fate_eq (errand : Errand) {fault : Option StoreFault}
    (struck : (weather number).fault? (Stores.isPlainErrand errand) = fault) :
    Stores.keeper.fate number errand weather = (fault.map Cause.fault, weather) := by
  rw [← struck]
  rfl

theorem acquiring_turns (kept : Kept now resources sight leases) (separate : Separate resources)
    (isFor : lock.IsFor resources) (id : String) {millis : Nat}
    (valid : lock.lease.leaseMillis? = some millis) :
    Turns now resources leases lock.resource weather
      ((Store.acquiring lock id lock.lease).run (perform now (weather number)) sight)
      (Lease.acquire (Stores.keeper.fate number) now lock.name
        ⟨id, Stores.keeper.deadline now lock.lease⟩ lock.payload
        (leases lock.resource) weather) := by
  rw [Stores.deadline_eq]
  let holder : Holder := ⟨id, Store.deadline now lock.lease⟩
  have ahead : now < holder.deadline := Stores.lt_deadline valid
  have near : holder.deadline ≤ now + longestRemaining := Stores.deadline_le now lock.lease
  have given := kept.givenBack separate isFor ahead
  unfold Lease.acquire Store.acquiring
  rw [Program.run_ask]
  cases struck : (weather number).fault? false with
  | some fault =>
    rw [perform_of_fault struck, fate_eq .take struck]
    exact ⟨rfl, kept.untouched _, rfl⟩
  | none =>
    rw [perform_of_none struck, fate_eq .take struck, act, (kept.shown isFor).takeIfAbsent]
    by_cases held : ((leases lock.resource).holderAt now).isSome = true
    · rw [if_pos held]
      simp only [Option.map_none, if_pos held]
      exact ⟨rfl, kept.untouched _, rfl⟩
    · rw [if_neg held]
      simp only [Option.map_none, if_neg held]
      rw [Program.run_ask]
      cases refused : (weather number).fault? true with
      | none =>
        rw [perform_of_none refused, fate_eq (.write _) refused]
        exact ⟨rfl, kept.written separate isFor lock.payload near, rfl⟩
      | some fault =>
        rw [perform_of_fault refused, fate_eq (.write _) refused]
        simp only [Option.map_some]
        -- a store that could be reached for the first request can be reached for the last
        rw [Store.rollingBack, Program.run_ask, perform_of_none struck, fate_eq .release struck]
        exact ⟨rfl, given.2, rfl⟩

theorem releasing_turns (kept : Kept now resources sight leases) (separate : Separate resources)
    (isFor : lock.IsFor resources) (id : String) :
    Turns now resources leases lock.resource weather
      ((Store.releasing lock id).run (perform now (weather number)) sight)
      (Lease.release (Stores.keeper.fate number) now lock.name id (leases lock.resource)
        weather) := by
  unfold Lease.release Store.releasing
  rw [Program.run_ask]
  cases struck : (weather number).fault? false with
  | some fault =>
    rw [perform_of_fault struck, fate_eq .release struck]
    exact ⟨rfl, kept.untouched _, rfl⟩
  | none =>
    rw [perform_of_none struck, fate_eq .release struck, act,
      (kept.shown isFor).releaseIfHeld]
    by_cases held : (leases lock.resource).isHeldBy now id = true
    · rw [if_pos held]
      simp only [Option.map_none, if_pos held]
      exact ⟨rfl, kept.dropped separate isFor (SameOff.refl lock.keys sight), rfl⟩
    · rw [if_neg held]
      simp only [Option.map_none, if_neg held]
      exact ⟨rfl, kept.untouched _, rfl⟩

theorem refreshing_turns (kept : Kept now resources sight leases) (separate : Separate resources)
    (isFor : lock.IsFor resources) (id : String) :
    Turns now resources leases lock.resource weather
      ((Store.refreshing lock id).run (perform now (weather number)) sight)
      (Lease.refresh (Stores.keeper.fate number) now lock.name
        ⟨id, Stores.keeper.deadline now lock.lease⟩ lock.payload
        (leases lock.resource) weather) := by
  rw [Stores.deadline_eq]
  let holder : Holder := ⟨id, Store.deadline now lock.lease⟩
  have near : holder.deadline ≤ now + longestRemaining := Stores.deadline_le now lock.lease
  unfold Lease.refresh Store.refreshing
  rw [Program.run_ask]
  cases struck : (weather number).fault? false with
  | some fault =>
    rw [perform_of_fault struck, fate_eq .refresh struck]
    exact ⟨rfl, kept.untouched _, rfl⟩
  | none =>
    rw [perform_of_none struck, fate_eq .refresh struck, act, (kept.shown isFor).rearmIfHeld]
    by_cases held : (leases lock.resource).isHeldBy now id = true
    · rw [if_pos held]
      simp only [Option.map_none, if_pos held]
      exact ⟨rfl, kept.written separate isFor lock.payload near, rfl⟩
    · rw [if_neg held]
      simp only [Option.map_none, if_neg held]
      exact ⟨rfl, kept.untouched _, rfl⟩

theorem inspecting_turns (kept : Kept now resources sight leases)
    (isFor : lock.IsFor resources) :
    Turns now resources leases lock.resource weather
      ((Store.inspecting lock).run (perform now (weather number)) sight)
      (Lease.inspect (Stores.keeper.fate number) now lock.name (leases lock.resource)
        weather) := by
  unfold Lease.inspect Store.inspecting
  rw [Program.run_ask]
  cases struck : (weather number).fault? false with
  | some fault =>
    rw [perform_of_fault struck, fate_eq .inspect struck]
    exact ⟨rfl, kept.untouched _, rfl⟩
  | none =>
    rw [perform_of_none struck, fate_eq .inspect struck]
    have snapshot := (kept.shown isFor).snapshotOf lock.name
    exact ⟨congrArg Except.ok snapshot, kept.untouched _, rfl⟩

/-- Connecting only asks whether the store answers. -/
theorem run_connecting (now : Nat) (switches : Store.Switches) (sight : Sight) :
    (Store.connecting.run (perform now switches) sight).result =
        (match switches.fault? false with
          | some fault => .error (.connection (.fault fault))
          | none => .ok ()) ∧
      (Store.connecting.run (perform now switches) sight).service = sight := by
  unfold Store.connecting
  rw [Program.run_ask]
  cases struck : switches.fault? false with
  | some fault =>
    rw [perform_of_fault struck]
    exact ⟨rfl, rfl⟩
  | none =>
    rw [perform_of_none struck]
    exact ⟨rfl, rfl⟩

end Sight

/-! ### The simulation -/

namespace Stores

variable {now : Nat} {resources : List Resource} {stores : Stores}
  {ledger : Ledger Nat (Nat → Store.Switches)}

/-- Stores show what is in a ledger. -/
structure Mirrors (resources : List Resource) (now : Nat) (stores : Stores)
    (ledger : Ledger Nat (Nat → Store.Switches)) : Prop where
  switches : ∀ number, (stores.get number).switches = ledger.weather number
  kept : ∀ number, Kept now resources ((stores.get number).entries.seen now) (ledger.leases number)

/-- A ledger follows what is done to one store. -/
theorem Mirrors.follow (mirrors : Mirrors resources now stores ledger) {number : Nat}
    {sight : Sight} {after : Stores} (shows : Shows now number stores sight after)
    {leases : Resource → Lease} (kept : Kept now resources sight leases) :
    Mirrors resources now after
      { ledger with leases := Function.update ledger.leases number leases } where
  switches other := by
    by_cases same : other = number
    · rw [same, shows.shown.switches]
      exact mirrors.switches number
    · rw [shows.others other same]
      exact mirrors.switches other
  kept other := by
    show Kept _ _ _ (Function.update ledger.leases number leases other)
    by_cases same : other = number
    · rw [same, Function.update_self, shows.shown.seen]
      exact kept
    · rw [Function.update_of_ne same, shows.others other same]
      exact mirrors.kept other

/-- A program that turns a lease has a store do what is entered in the ledger. -/
theorem Mirrors.enter {Result : Type} (mirrors : Mirrors resources now stores ledger)
    (number : Nat) (lock : Lock) {program : Store.Steps (Except LockError Result)}
    {operation : Lease → (Nat → Store.Switches) → Turn (Nat → Store.Switches) Result}
    (turns : Sight.Turns now resources (ledger.leases number) lock.resource ledger.weather
      (program.run (Sight.perform now (ledger.weather number))
        ((stores.get number).entries.seen now))
      (operation (ledger.leases number lock.resource) ledger.weather)) :
    SameFor id (program.run (perform now number) stores).result
        (ledger.enter number lock.resource operation).1 ∧
      Mirrors resources now (program.run (perform now number) stores).service
        (ledger.enter number lock.resource operation).2 := by
  obtain ⟨same, shows⟩ := run_shows program now number stores
  rw [mirrors.switches number] at same shows
  refine ⟨congrArg (Except.mapError id) (same.trans turns.result), ?_⟩
  unfold Ledger.enter
  simp only [turns.weather]
  exact mirrors.follow shows turns.kept

/-- Making a store come into being changes none. -/
theorem Mirrors.upTo (mirrors : Mirrors resources now stores ledger) (number : Nat) :
    Mirrors resources now (stores.upTo number) ledger where
  switches other := by
    rw [get_upTo]
    exact mirrors.switches other
  kept other := by
    rw [get_upTo]
    exact mirrors.kept other

/-- Switching one store changes its weather and nothing that is seen. -/
theorem Mirrors.switch (mirrors : Mirrors resources now stores ledger) (number : Nat)
    {store : Store} {switches : Store.Switches} (switched : store.switches = switches)
    (same : store.entries = (stores.get number).entries) :
    Mirrors resources now (stores.put number store)
      { ledger with weather := Function.update ledger.weather number switches } where
  switches other := by
    show _ = Function.update ledger.weather number switches other
    rw [get_put, Function.update_apply]
    split
    · exact switched
    · exact mirrors.switches other
  kept other := by
    rw [get_put]
    split
    next equal =>
      rw [same, equal]
      exact mirrors.kept number
    next => exact mirrors.kept other

theorem Mirrors.interfere (mirrors : Mirrors resources now stores ledger) (action : Action) :
    Mirrors resources now (stores.interfere now action)
      { ledger with weather := keeper.change ledger.weather action } := by
  cases action with
  | setAvailable number available =>
    refine mirrors.switch number ?_ rfl
    rw [← mirrors.switches number]
    rfl
  | setWriteFailures number failingWrites =>
    refine mirrors.switch number ?_ rfl
    rw [← mirrors.switches number]
    rfl
  | name number => exact mirrors.upTo number

theorem Mirrors.later (mirrors : Mirrors resources now stores ledger) (passed : Nat) :
    Mirrors resources (now + passed) stores ledger where
  switches := mirrors.switches
  kept number := by
    rw [Entries.seen_later (Nat.le_add_right now passed)]
    exact (mirrors.kept number).later passed

theorem Mirrors.connect (mirrors : Mirrors resources now stores ledger) (number : Nat) :
    SameFor id (Store.connecting.run (perform now number) stores).result
        (ledger.connect keeper number).1 ∧
      Mirrors resources now (Store.connecting.run (perform now number) stores).service
        (ledger.connect keeper number).2 := by
  obtain ⟨same, shows⟩ := run_shows Store.connecting now number stores
  rw [mirrors.switches number] at same shows
  obtain ⟨result, service⟩ := Sight.run_connecting now (ledger.weather number)
    ((stores.get number).entries.seen now)
  rw [service] at shows
  have quiet := mirrors.follow shows (mirrors.kept number)
  rw [Function.update_eq_self] at quiet
  refine ⟨congrArg (Except.mapError id) (same.trans (result.trans ?_)), quiet⟩
  unfold Ledger.connect
  rw [keeper_connect]
  cases (ledger.weather number).fault? false <;> rfl

/-- Stores are ledgers as long as the keys of different locks are apart. -/
def refinement {resources : List Resource} (separate : Separate resources) :
    Simulation backend keeper.backend where
  elsewhere := id
  view := id
  matched := Mirrors resources
  good := Lock.IsFor resources
  fair _ := True
  apt _ _ := True
  good_payload := @Lock.IsFor.withPayload resources
  good_lease isFor _ := isFor.withLease _
  later mirrors passed := mirrors.later passed
  prepare mirrors number := ⟨rfl, mirrors.upTo number⟩
  interfere mirrors action := mirrors.interfere action
  disconnect _ _ := fun _ _ mirrors => ⟨trivial, mirrors⟩
  connect _ number := fun _ _ mirrors => mirrors.connect number
  acquire _ number _ lock _ id isFor valid _ := fun _ mirrors =>
    mirrors.enter number lock
      (Sight.acquiring_turns (mirrors.kept number) separate isFor id valid)
  release _ number lock id isFor := fun _ _ mirrors =>
    mirrors.enter number lock (Sight.releasing_turns (mirrors.kept number) separate isFor id)
  refresh _ number lock _ id isFor _ := fun _ _ mirrors =>
    mirrors.enter number lock
      (Sight.refreshing_turns (mirrors.kept number) separate isFor id)
  inspect _ number lock isFor := fun _ _ mirrors =>
    mirrors.enter number lock (Sight.inspecting_turns (mirrors.kept number) isFor)

/-! ### Runs -/

theorem mirrors_single (resources : List Resource) :
    Mirrors resources 0 single (.blank fun _ => .fresh) where
  switches number := by
    cases number <;> rfl
  kept number resource _ := by
    have nothing : ((single.get number).entries.seen 0) = fun _ => none := by
      cases number <;> rfl
    rw [nothing]
    exact ⟨rfl, rfl, fun holder held => by cases held⟩

/-- A step over stores comes to what a step of an office comes to. After it the locks are as the
office knows them, and the leases of some resources show in each store as they are written in the
ledger. -/
structure Refines (resources : List Resource) (stepped : Session.Stepped Nat Stores)
    (dealing : Dealing Nat (Nat → Store.Switches)) : Prop where
  result : stepped.result = dealing.result
  locks : ∀ name,
    stepped.service.locks.get? name = (dealing.office.titles name).map Title.lock
  shown : ∀ number, ∀ resource ∈ resources,
    (dealing.office.ledger.leases number resource).Shown stepped.service.now
      ((stepped.service.service.get number).entries.seen stepped.service.now) resource.keys

/-- Every run over stores within the process comes, step by step, to what it comes to in an
office, as long as the keys of different locks of the run are apart. -/
theorem stores_follow_ledger (supply : Nat → String) (steps : List (Step Nat Action))
    (separate : Separate ((Session.start single supply).resources backend steps)) :
    List.Forall₂ (Refines ((Session.start single supply).resources backend steps))
      ((Session.start single supply).follow backend steps)
      ((Office.opening (fun _ => .fresh) supply).follow keeper steps) := by
  have permitted := (refinement separate).permitsAll_of_resources (fun _ => trivial)
    (fun _ _ => trivial) (fun _ _ member => Client.isFor_newLock member)
    (Session.start single supply) steps (List.Subset.refl _)
  have followed := Office.follow_opening (mirrors_single _) supply steps permitted
  refine followed.imp fun stepped dealing settles => ⟨?_, settles.locks, settles.related.kept⟩
  have agreed : stepped.result.seen id id = dealing.result.seen id id := settles.result
  rw [StepResult.seen_id, StepResult.seen_id] at agreed
  exact agreed

/-- Two clients that want one lock, one of which also takes another lock. -/
def rivalry : List (Step Nat Action) :=
  [.build "a" ⟨some "A", some "app"⟩ 0, .build "b" ⟨some "B", some "app"⟩ 0,
    .newLock "a" "mine" "job", .newLock "b" "yours" "job", .newLock "b" "other" "report",
    .acquire "mine" .shortestLease, .acquire "yours" .shortestLease,
    .acquire "other" .longestLease, .interfere (.setWriteFailures 0 true),
    .advance nanosPerMilli, .acquire "yours" .longestLease, .inspect "mine"]

theorem stores_follow_ledger_rivalry :
    Separate ((Session.start single fun _ => "").resources backend rivalry) ∧
      List.Forall₂ (Refines ((Session.start single fun _ => "").resources backend rivalry))
        ((Session.start single fun _ => "").follow backend rivalry)
        ((Office.opening (fun _ => .fresh) fun _ => "").follow keeper rivalry) :=
  ⟨by decide, stores_follow_ledger _ rivalry (by decide)⟩

end Stores

end Leasehold
