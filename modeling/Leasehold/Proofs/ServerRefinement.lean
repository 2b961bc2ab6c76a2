/-
This file proves that a server is a ledger, whatever commands fail, so that what is done over it is
done as in an office. A command that fails does nothing else, so that an operation that has to give
up halfway leaves one of two things behind: a lock given back, or an owner key that stays until its
lease runs out, with the payload of the holder before.
-/

import Leasehold.Proofs.Bookkeeping
import Leasehold.Proofs.ServerSight
import Leasehold.Proofs.Shown
import Leasehold.Server.Backend

namespace Leasehold

namespace Server

/-- Ways to make commands fail. -/
inductive Disturbance where
  /-- Makes the commands of these names fail, and no others. -/
  | fail (names : List String)
  /-- Makes plain writes fail or succeed. -/
  | failWrites (failing : Bool)
  /-- Says of each command to come whether it fails in any case, and for which reason. -/
  | plan (failures : List (Option CommandFailure))

/-- A disturbance as it is made known to a server. -/
def Disturbance.action : Disturbance → Action
  | fail names => .fail names
  | failWrites failing => .failWrites failing
  | plan failures => .prepare (failures.map Faults.laidIn)

/-- The name of the command that runs an errand. -/
def errandName : Errand → String
  | .take | .write _ => "SET"
  | .release | .refresh | .inspect => "EVAL"

/-- Whether the command that runs an errand counts as a plain write. The server takes the payload
`NX` for a condition. -/
def isPlainErrand : Errand → Bool
  | .write payload => payload != "NX"
  | .take | .release | .refresh | .inspect => false

/-- The keeper of the ledger for a server. A client that cannot be greeted says good-bye. Leases
are counted in whole milliseconds, up to the largest count. -/
def keeper : Keeper Settings Unit Faults Disturbance where
  reach settings := settings.endpoint.map fun _ => ()
  change faults
    | .fail failing => { faults with failing }
    | .failWrites failingWrites => { faults with failingWrites }
    | .plan plan => { faults with plan }
  connect _ faults :=
    match faults.strike "PING" false with
    | (some failure, faults) => (some (.failure failure), (faults.strike "QUIT" false).2)
    | (none, faults) => (none, faults)
  disconnect _ faults := (faults.strike "QUIT" false).2
  fate _ errand faults :=
    let struck := faults.strike (errandName errand) (isPlainErrand errand)
    (struck.1.map Cause.failure, struck.2)
  deadline now lease :=
    now + min (lease.nanos / nanosPerMilli) Duration.largestMillis * nanosPerMilli

variable {now millis : Nat} {lease : Duration}

theorem lt_deadline (valid : lease.leaseMillis? = some millis) : now < deadline now millis := by
  have positive : 0 < millis := by
    unfold Duration.leaseMillis? at valid
    split at valid
    · cases valid
    next long =>
      cases valid
      have most : 0 < Duration.largestMillis := by decide
      have some : 0 < lease.millis :=
        Nat.div_pos (Nat.le_of_not_lt long) (by decide)
      omega
  have scale : 0 < nanosPerMilli := by decide
  have span := Nat.mul_pos positive scale
  unfold deadline
  omega

theorem deadline_le (valid : lease.leaseMillis? = some millis) :
    deadline now millis ≤ now + longestRemaining := by
  unfold Duration.leaseMillis? at valid
  split at valid
  · cases valid
  · cases valid
    exact Nat.add_le_add_left (Nat.mul_le_mul_right _ (Nat.min_le_right _ _)) now

theorem deadline_eq (valid : lease.leaseMillis? = some millis) (now : Nat) :
    keeper.deadline now lease = deadline now millis := by
  unfold Duration.leaseMillis? at valid
  split at valid
  · cases valid
  · cases valid
    rfl

theorem fate_eq {faults after : Faults} {errand : Errand} {failure : Option CommandFailure}
    (struck : faults.strike (errandName errand) (isPlainErrand errand) = (failure, after)) :
    keeper.fate () errand faults = (failure.map Cause.failure, after) := by
  show ((faults.strike (errandName errand) (isPlainErrand errand)).1.map Cause.failure,
    (faults.strike (errandName errand) (isPlainErrand errand)).2) = _
  rw [struck]

namespace Outlook

variable {resources : List Resource} {sight : Sight} {faults : Faults}
  {leases : Resource → Lease} {lock : Lock}

/-- What an operation comes to for the outlook on a server is a turn of the lease. -/
structure Turns {Result : Type} (now : Nat) (resources : List Resource)
    (leases : Resource → Lease) (resource : Resource)
    (outcome : Outcome Outlook (Except LockError Result)) (turn : Turn Faults Result) : Prop where
  result : outcome.result = turn.result
  kept : Kept now resources outcome.service.sight (Function.update leases resource turn.lease)
  faults : outcome.service.faults = turn.weather

theorem acquiring_turns (kept : Kept now resources sight leases) (separate : Separate resources)
    (isFor : lock.IsFor resources) (id : String)
    (valid : lock.lease.leaseMillis? = some millis) :
    Turns now resources leases lock.resource
      ((acquiring lock id millis).run (perform now) ⟨sight, faults⟩)
      (Lease.acquire (keeper.fate ()) now lock.name ⟨id, keeper.deadline now lock.lease⟩
        lock.payload (leases lock.resource) faults) := by
  rw [deadline_eq valid]
  let holder : Holder := ⟨id, deadline now millis⟩
  have ahead : now < holder.deadline := lt_deadline valid
  have near : holder.deadline ≤ now + longestRemaining := deadline_le valid
  have given := kept.givenBack separate isFor ahead
  have plain : (Command.set lock.keys.data lock.payload).isPlain =
      isPlainErrand (.write lock.payload) := by
    rw [isFor.keys]
    exact isPlain_set (data_ne_condition _ _) lock.payload
  unfold Lease.acquire acquiring
  rw [Program.run_ask, perform]
  cases struck : faults.strike "SET" false with
  | mk failure after =>
    cases failure with
    | some failure =>
      rw [obey_of_fault struck, fate_eq struck]
      exact ⟨rfl, kept.untouched _, rfl⟩
    | none =>
      rw [obey_of_none struck, fate_eq struck, Sight.answer, (kept.shown isFor).takeIfAbsent]
      by_cases held : ((leases lock.resource).holderAt now).isSome = true
      · rw [if_pos held]
        simp only [Option.map_none, if_pos held]
        exact ⟨rfl, kept.untouched _, rfl⟩
      · rw [if_neg held]
        simp only [Option.map_none, if_neg held]
        show Turns _ _ _ _
          (Program.run _ (.ask (Request.send (.set lock.keys.data lock.payload)) _) _) _
        rw [Program.run_ask, perform]
        cases refused : after.strike "SET" (isPlainErrand (.write lock.payload)) with
        | mk failure later =>
          cases failure with
          | none =>
            rw [obey_of_none (plain ▸ refused), fate_eq refused]
            exact ⟨rfl, kept.written separate isFor lock.payload near, rfl⟩
          | some failure =>
            rw [obey_of_fault (plain ▸ refused), fate_eq refused]
            simp only [Option.map_some]
            rw [rollingBack, Program.run_ask, perform]
            cases left : later.strike "EVAL" false with
            | mk rollback last =>
              -- the ID holds the lock, so that only a fault keeps it from giving the lock back
              cases rollback with
              | none =>
                rw [obey_of_none left, fate_eq left, Sight.answer, succeeded_verdict]
                exact ⟨rfl, given.2, rfl⟩
              | some rollback =>
                rw [obey_of_fault left, fate_eq left]
                exact ⟨rfl, kept.taken separate isFor near, rfl⟩

theorem releasing_turns (kept : Kept now resources sight leases) (separate : Separate resources)
    (isFor : lock.IsFor resources) (id : String) :
    Turns now resources leases lock.resource
      ((releasing lock id).run (perform now) ⟨sight, faults⟩)
      (Lease.release (keeper.fate ()) now lock.name id (leases lock.resource) faults) := by
  unfold Lease.release releasing
  rw [Program.run_ask, perform]
  cases struck : faults.strike "EVAL" false with
  | mk failure after =>
    cases failure with
    | some failure =>
      rw [obey_of_fault struck, fate_eq struck]
      exact ⟨rfl, kept.untouched _, rfl⟩
    | none =>
      rw [obey_of_none struck, fate_eq struck, Sight.answer, (kept.shown isFor).releaseIfHeld,
        succeeded_verdict]
      by_cases held : (leases lock.resource).isHeldBy now id = true
      · rw [if_pos held]
        simp only [Option.map_none, if_pos held]
        exact ⟨rfl, kept.dropped separate isFor (Sight.SameOff.refl lock.keys sight), rfl⟩
      · rw [if_neg held]
        simp only [Option.map_none, if_neg held]
        exact ⟨rfl, kept.untouched _, rfl⟩

theorem refreshing_turns (kept : Kept now resources sight leases) (separate : Separate resources)
    (isFor : lock.IsFor resources) (id : String)
    (valid : lock.lease.leaseMillis? = some millis) :
    Turns now resources leases lock.resource
      ((refreshing lock id millis).run (perform now) ⟨sight, faults⟩)
      (Lease.refresh (keeper.fate ()) now lock.name ⟨id, keeper.deadline now lock.lease⟩
        lock.payload (leases lock.resource) faults) := by
  rw [deadline_eq valid]
  let holder : Holder := ⟨id, deadline now millis⟩
  have near : holder.deadline ≤ now + longestRemaining := deadline_le valid
  unfold Lease.refresh refreshing
  rw [Program.run_ask, perform]
  cases struck : faults.strike "EVAL" false with
  | mk failure after =>
    cases failure with
    | some failure =>
      rw [obey_of_fault struck, fate_eq struck]
      exact ⟨rfl, kept.untouched _, rfl⟩
    | none =>
      rw [obey_of_none struck, fate_eq struck, Sight.answer, (kept.shown isFor).rearmIfHeld,
        succeeded_verdict]
      by_cases held : (leases lock.resource).isHeldBy now id = true
      · rw [if_pos held]
        simp only [Option.map_none, if_pos held]
        exact ⟨rfl, kept.written separate isFor lock.payload near, rfl⟩
      · rw [if_neg held]
        simp only [Option.map_none, if_neg held]
        exact ⟨rfl, kept.untouched _, rfl⟩

theorem inspecting_turns (kept : Kept now resources sight leases)
    (isFor : lock.IsFor resources) :
    Turns now resources leases lock.resource
      ((inspecting lock).run (perform now) ⟨sight, faults⟩)
      (Lease.inspect (keeper.fate ()) now lock.name (leases lock.resource) faults) := by
  unfold Lease.inspect inspecting
  rw [Program.run_ask, perform]
  cases struck : faults.strike "EVAL" false with
  | mk failure after =>
    cases failure with
    | some failure =>
      rw [obey_of_fault struck, fate_eq struck]
      exact ⟨rfl, kept.untouched _, rfl⟩
    | none =>
      have snapshot := snapshotOfReply_reading (remaining_read now lock.keys sight) lock.name
      rw [(kept.shown isFor).snapshotOf] at snapshot
      rw [obey_of_none struck, fate_eq struck, Sight.answer]
      simp only [snapshot]
      exact ⟨rfl, kept.untouched _, rfl⟩

/-- Saying good-bye leaves what is seen as it is. -/
theorem obey_quit (now : Nat) (outlook : Outlook) :
    (outlook.obey now .quit).2 =
      { outlook with faults := (outlook.faults.strike "QUIT" false).2 } := by
  unfold obey
  show (meet _ _ _ (outlook.faults.strike "QUIT" false).1).2 = _
  cases (outlook.faults.strike "QUIT" false).1 <;> rfl

theorem run_disconnecting (now : Nat) (outlook : Outlook) :
    (disconnecting.run (perform now) outlook).service =
      { outlook with faults := keeper.disconnect () outlook.faults } := by
  unfold disconnecting
  rw [Program.run_ask, perform]
  have left := obey_quit now outlook
  cases (outlook.obey now .quit).1 <;> exact left

/-- Connecting greets the server, and says good-bye if that fails. -/
theorem run_connecting (now : Nat) (outlook : Outlook) :
    (connecting.run (perform now) outlook).result =
        (match (keeper.connect () outlook.faults).1 with
          | some cause => .error (.connection cause)
          | none => .ok ()) ∧
      (connecting.run (perform now) outlook).service =
        { outlook with faults := (keeper.connect () outlook.faults).2 } := by
  unfold connecting
  rw [Program.run_ask, perform]
  simp only [Program.run_ask, perform, keeper]
  cases struck : outlook.faults.strike "PING" false with
  | mk failure after =>
    cases failure with
    | some failure =>
      rw [obey_of_fault struck]
      exact ⟨rfl, obey_quit now ⟨outlook.sight, after⟩⟩
    | none =>
      rw [obey_of_none struck]
      exact ⟨rfl, rfl⟩

end Outlook

/-! ### The simulation -/

variable {resources : List Resource} {server : Server} {ledger : Ledger Unit Faults}

/-- A server shows what is in a ledger. -/
structure Mirrors (resources : List Resource) (now : Nat) (server : Server)
    (ledger : Ledger Unit Faults) : Prop where
  shows : server.Shows now ⟨server.entries.seen now, ledger.weather⟩
  kept : Kept now resources (server.entries.seen now) (ledger.leases ())

/-- A ledger follows what is done to a server. -/
theorem Shows.mirrors {outlook : Outlook} {leases : Resource → Lease}
    (shows : server.Shows now outlook) (kept : Kept now resources outlook.sight leases) :
    Mirrors resources now server ⟨fun _ => leases, outlook.faults⟩ := by
  obtain ⟨failing, failingWrites, prepared, seen⟩ := shows
  refine ⟨⟨failing, failingWrites, prepared, rfl⟩, ?_⟩
  rw [seen]
  exact kept

/-- A program that turns a lease has a server do what is entered in the ledger. -/
theorem Mirrors.enter {Result : Type} (mirrors : Mirrors resources now server ledger)
    (endpoint : Endpoint) (lock : Lock) {program : Steps (Except LockError Result)}
    {operation : Lease → Faults → Turn Faults Result}
    (turns : Outlook.Turns now resources (ledger.leases ()) lock.resource
      (program.run (Outlook.perform now) ⟨server.entries.seen now, ledger.weather⟩)
      (operation (ledger.leases () lock.resource) ledger.weather)) :
    SameFor id (program.run (perform now endpoint) server).result
        (ledger.enter () lock.resource operation).1 ∧
      Mirrors resources now (program.run (perform now endpoint) server).service
        (ledger.enter () lock.resource operation).2 := by
  obtain ⟨same, shows⟩ := mirrors.shows.run endpoint program
  refine ⟨congrArg (Except.mapError id) (same.trans turns.result), ?_⟩
  have after := shows.mirrors turns.kept
  rw [turns.faults] at after
  exact after

theorem Mirrors.connect (mirrors : Mirrors resources now server ledger) (endpoint : Endpoint) :
    SameFor id (connecting.run (perform now endpoint) server).result
        (ledger.connect keeper ()).1 ∧
      Mirrors resources now (connecting.run (perform now endpoint) server).service
        (ledger.connect keeper ()).2 := by
  obtain ⟨same, shows⟩ := mirrors.shows.run endpoint connecting
  obtain ⟨result, service⟩ := Outlook.run_connecting now
    ⟨server.entries.seen now, ledger.weather⟩
  refine ⟨congrArg (Except.mapError id) (same.trans result), ?_⟩
  rw [service] at shows
  exact shows.mirrors mirrors.kept

theorem Mirrors.disconnect (mirrors : Mirrors resources now server ledger)
    (endpoint : Endpoint) :
    Mirrors resources now (disconnecting.run (perform now endpoint) server).service
      { ledger with weather := keeper.disconnect () ledger.weather } := by
  obtain ⟨_, shows⟩ := mirrors.shows.run endpoint disconnecting
  rw [Outlook.run_disconnecting] at shows
  exact shows.mirrors mirrors.kept

theorem Mirrors.later (mirrors : Mirrors resources now server ledger) (passed : Nat) :
    Mirrors resources (now + passed) server ledger := by
  obtain ⟨⟨failing, failingWrites, prepared, _⟩, kept⟩ := mirrors
  refine ⟨⟨failing, failingWrites, prepared, rfl⟩, ?_⟩
  rw [Entries.seen_later (Nat.le_add_right now passed)]
  exact kept.later passed

theorem Mirrors.disturb (mirrors : Mirrors resources now server ledger)
    (disturbance : Disturbance) :
    Mirrors resources now (server.interfere now disturbance.action)
      { ledger with weather := keeper.change ledger.weather disturbance } := by
  obtain ⟨⟨failing, failingWrites, prepared, _⟩, kept⟩ := mirrors
  cases disturbance with
  | fail names => exact ⟨⟨rfl, failingWrites, prepared, rfl⟩, kept⟩
  | failWrites writes => exact ⟨⟨failing, rfl, prepared, rfl⟩, kept⟩
  | plan failures => exact ⟨⟨failing, failingWrites, rfl, rfl⟩, kept⟩

/-- A server to which disturbances are made known is a ledger as long as the keys of different
locks are apart. -/
def refinement {resources : List Resource} (separate : Separate resources) :
    Simulation (backend.told id Disturbance.action) keeper.backend where
  elsewhere _ := ()
  view := id
  matched := Mirrors resources
  good := Lock.IsFor resources
  fair _ := True
  apt _ _ := True
  good_payload := @Lock.IsFor.withPayload resources
  good_lease isFor _ := isFor.withLease _
  later mirrors passed := mirrors.later passed
  prepare mirrors _ := ⟨rfl, mirrors⟩
  interfere mirrors disturbance := mirrors.disturb disturbance
  disconnect _ endpoint := fun _ _ mirrors => ⟨trivial, mirrors.disconnect endpoint⟩
  connect _ endpoint := fun _ _ mirrors => mirrors.connect endpoint
  acquire _ endpoint _ lock _ id isFor valid _ := fun _ mirrors =>
    mirrors.enter endpoint lock
      (Outlook.acquiring_turns mirrors.kept separate isFor id valid)
  release _ endpoint lock id isFor := fun _ _ mirrors =>
    mirrors.enter endpoint lock (Outlook.releasing_turns mirrors.kept separate isFor id)
  refresh _ endpoint lock _ id isFor valid := fun _ _ mirrors =>
    mirrors.enter endpoint lock
      (Outlook.refreshing_turns mirrors.kept separate isFor id valid)
  inspect _ endpoint lock isFor := fun _ _ mirrors =>
    mirrors.enter endpoint lock (Outlook.inspecting_turns mirrors.kept isFor)

/-! ### Runs -/

theorem mirrors_empty (resources : List Resource) :
    Mirrors resources 0 empty (.blank .calm) where
  shows := ⟨rfl, rfl, rfl, rfl⟩
  kept _ _ := ⟨rfl, rfl, fun holder held => by cases held⟩

/-- A step over a server comes to what a step of an office comes to. After it the locks are as the
office knows them, and the leases of some resources show in the server as they are written in the
ledger. -/
structure Refines (resources : List Resource) (stepped : Session.Stepped Endpoint Server)
    (dealing : Dealing Unit Faults) : Prop where
  result : stepped.result.seen (fun _ => ()) id = dealing.result
  locks : ∀ name,
    stepped.service.locks.get? name = (dealing.office.titles name).map Title.lock
  shown : ∀ resource ∈ resources,
    (dealing.office.ledger.leases () resource).Shown stepped.service.now
      (stepped.service.service.entries.seen stepped.service.now) resource.keys

/-- The steps of a run as they are said to a server. -/
def told (steps : List (Step Settings Disturbance)) : List (Step Settings Action) :=
  steps.map (Step.translate id Disturbance.action)

/-- Every run over a server comes, step by step, to what it comes to in an office, whatever
commands are made to fail, as long as the keys of different locks of the run are apart. -/
theorem server_follows_ledger (supply : Nat → String) (steps : List (Step Settings Disturbance))
    (separate : Separate ((Session.start empty supply).resources backend (told steps))) :
    List.Forall₂ (Refines ((Session.start empty supply).resources backend (told steps)))
      ((Session.start empty supply).follow backend (told steps))
      ((Office.opening .calm supply).follow keeper steps) := by
  unfold told at separate ⊢
  rw [Session.resources_translate] at separate
  rw [Session.resources_translate, Session.follow_translate]
  have permitted := (refinement separate).permitsAll_of_resources (fun _ => trivial)
    (fun _ _ => trivial) (fun _ _ member => Client.isFor_newLock member)
    (Session.start empty supply) steps (List.Subset.refl _)
  have followed := Office.follow_opening (mirrors_empty _) supply steps permitted
  refine followed.imp fun stepped dealing settles => ⟨?_, settles.locks, settles.related.kept⟩
  have agreed : stepped.result.seen (fun _ => ()) id = dealing.result.seen id id := settles.result
  rw [StepResult.seen_id] at agreed
  exact agreed

/-- Two clients that want one lock. The first one takes it only by halves: its payload is refused,
and then the lock cannot be given back. -/
def halfTaken : List (Step Settings Disturbance) :=
  [.build "a" ⟨some "A", some "app"⟩ ⟨none, some .loopback, none, none, false⟩,
    .build "b" ⟨some "B", some "app"⟩ ⟨none, some .loopback, none, none, false⟩,
    .newLock "a" "mine" "job", .newLock "b" "yours" "job", .newLock "b" "other" "report",
    .interfere (.plan [none, some ⟨.timeout, "late"⟩, some ⟨.inputOutput, "lost"⟩]),
    .acquire "mine" .shortestLease, .acquire "yours" .shortestLease,
    .acquire "other" .longestLease, .advance nanosPerMilli, .acquire "yours" .longestLease,
    .inspect "mine"]

theorem server_follows_ledger_halfTaken :
    Separate ((Session.start empty fun _ => "").resources backend (told halfTaken)) ∧
      List.Forall₂ (Refines ((Session.start empty fun _ => "").resources backend (told halfTaken)))
        ((Session.start empty fun _ => "").follow backend (told halfTaken))
        ((Office.opening .calm fun _ => "").follow keeper halfTaken) :=
  ⟨by decide, server_follows_ledger _ halfTaken (by decide)⟩

end Server

end Leasehold
