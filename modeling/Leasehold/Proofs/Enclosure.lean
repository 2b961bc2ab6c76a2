/-
This file is about services of which only a part is looked at: the keys outside a region. An
enclosure relates services that agree there. What stays within the region can be done to one of
them alone, and what consults nothing in the region comes to the same on both. Each operation is
of one of these two kinds by the keys of its lock, and an operation on a client is of both.
-/

import Leasehold.Proofs.Footprint
import Leasehold.Proofs.Operations
import Leasehold.Proofs.Runs
import Leasehold.Server.Backend
import Leasehold.Store.Backend

namespace Leasehold

section Enclosures

variable {Settings Endpoint Service Action Request : Type} {Answer : Request → Type}

/-- Services that agree outside a region of keys. A request that changes nothing but in the region
keeps a service in agreement with others, and one that consults nothing in the region is answered
alike by services that agree. -/
structure Enclosure (backend : Backend Settings Endpoint Service Action Request Answer)
    (region : String → Prop) where
  footprint : Request → Footprint
  agree : (now : Nat) → Service → Service → Prop
  confined : backend.dialect.Confined footprint
  anonymous : backend.dialect.Anonymous
  symm : ∀ {now one other}, agree now one other → agree now other one
  later : ∀ {now one other}, agree now one other → ∀ passed, agree (now + passed) one other
  prepare : ∀ {now one other}, agree now one other → ∀ settings,
    (backend.prepare settings one).1 = (backend.prepare settings other).1 ∧
      agree now (backend.prepare settings one).2 (backend.prepare settings other).2
  prepare_alone : ∀ {now one other}, agree now one other → ∀ settings,
    agree now (backend.prepare settings one).2 other
  interfere : ∀ {now one other}, agree now one other → ∀ action,
    agree now (backend.interfere now one action) (backend.interfere now other action)
  perform : ∀ {now one other}, agree now one other → ∀ endpoint {request},
    (footprint request).Clear region →
      (backend.perform now endpoint request one).1 =
          (backend.perform now endpoint request other).1 ∧
        agree now (backend.perform now endpoint request one).2
          (backend.perform now endpoint request other).2
  perform_alone : ∀ {now one other}, agree now one other → ∀ endpoint {request},
    (footprint request).Within region → agree now (backend.perform now endpoint request one).2 other

namespace Enclosure

variable {backend : Backend Settings Endpoint Service Action Request Answer}
  {region : String → Prop} (enclosure : Enclosure backend region) {Result : Type} {now : Nat}
  {one other : Service} {program : Program Request Answer Result}

/-- A program that changes nothing but in the region cannot be told from outside. -/
theorem alone (agree : enclosure.agree now one other) (endpoint : Endpoint)
    (all : program.AllAsk fun request => (enclosure.footprint request).Within region) :
    enclosure.agree now (program.run (backend.perform now endpoint) one).service other := by
  have keeps (service : Service) (request : Request) (related : enclosure.agree now service other)
      (within : (enclosure.footprint request).Within region) :
      enclosure.agree now (backend.perform now endpoint request service).2 other :=
    enclosure.perform_alone related endpoint within
  exact all.run_keeps keeps agree

/-- A program that consults nothing in the region comes to the same over services that agree. -/
theorem together (agree : enclosure.agree now one other) (endpoint : Endpoint)
    (all : program.AllAsk fun request => (enclosure.footprint request).Clear region) :
    (program.run (backend.perform now endpoint) one).result =
        (program.run (backend.perform now endpoint) other).result ∧
      enclosure.agree now (program.run (backend.perform now endpoint) one).service
        (program.run (backend.perform now endpoint) other).service := by
  have tracks : Tracks (backend.perform now endpoint) (backend.perform now endpoint)
      (enclosure.agree now) Eq program program :=
    all.tracks fun _ _ _ related clear => enclosure.perform related endpoint clear
  exact tracks _ _ agree

/-! ### The operations -/

theorem closing_nothing (connected : Bool) :
    (backend.dialect.closing connected).AllAsk fun request =>
      enclosure.footprint request ≤ .nothing := by
  cases connected with
  | false => trivial
  | true => exact enclosure.confined.disconnect

theorem redialling_nothing (connected : Bool) :
    (backend.dialect.redialling connected).AllAsk fun request =>
      enclosure.footprint request ≤ .nothing :=
  (enclosure.closing_nothing connected).andThen fun _ => enclosure.confined.connect

variable {footprint : Footprint}

theorem within_of_le
    (all : program.AllAsk fun request => enclosure.footprint request ≤ footprint)
    (within : footprint.Within region) :
    program.AllAsk fun request => (enclosure.footprint request).Within region :=
  all.mono fun _ le => within.of_le le

theorem clear_of_le
    (all : program.AllAsk fun request => enclosure.footprint request ≤ footprint)
    (clear : footprint.Clear region) :
    program.AllAsk fun request => (enclosure.footprint request).Clear region :=
  all.mono fun _ le => clear.of_le le

theorem close_nothing (client : Client Endpoint) :
    (backend.dialect.close client).AllAsk fun request => enclosure.footprint request ≤ .nothing :=
  Dialect.allAsk_close enclosure.confined.disconnect client

theorem reconnect_nothing (client : Client Endpoint) :
    (backend.dialect.reconnect client).AllAsk fun request =>
      enclosure.footprint request ≤ .nothing :=
  Dialect.allAsk_reconnect enclosure.confined.disconnect enclosure.confined.connect client

theorem acquireLock_claimed (client : Option (Client Endpoint)) (lock : Lock) (lease : Duration) :
    (backend.dialect.acquireLock client lock lease).AllAsk fun request =>
      enclosure.footprint request ≤ lock.keys.claimed :=
  Dialect.allAsk_acquireLock
    (fun id millis => enclosure.confined.acquire { lock with lease } id lease millis) client

theorem releaseLock_claimed (client : Option (Client Endpoint)) (lock : Lock) :
    (backend.dialect.releaseLock client lock).AllAsk fun request =>
      enclosure.footprint request ≤ lock.keys.claimed :=
  Dialect.allAsk_releaseLock (fun id => enclosure.confined.release lock id) client

theorem refreshLock_claimed (client : Option (Client Endpoint)) (lock : Lock) :
    (backend.dialect.refreshLock client lock).AllAsk fun request =>
      enclosure.footprint request ≤ lock.keys.claimed :=
  Dialect.allAsk_refreshLock (fun id millis => enclosure.confined.refresh lock id millis) client

theorem refreshLockFor_claimed (client : Option (Client Endpoint)) (lock : Lock)
    (lease : Duration) :
    (backend.dialect.refreshLockFor client lock lease).AllAsk fun request =>
      enclosure.footprint request ≤ lock.keys.claimed :=
  Dialect.allAsk_refreshLockFor
    (fun id millis => enclosure.confined.refresh { lock with lease } id millis) client

theorem inspectLock_viewed (client : Option (Client Endpoint)) (lock : Lock) :
    (backend.dialect.inspectLock client lock).AllAsk fun request =>
      enclosure.footprint request ≤ lock.keys.viewed :=
  Dialect.allAsk_inspectLock (enclosure.confined.inspect lock) client

end Enclosure

end Enclosures

/-! ### Stores -/

theorem Store.dialect_anonymous : Store.dialect.Anonymous where
  acquire lock client id lease millis := by
    refine congrArg (Program.ask (Request.setIfAbsent lock.keys.owner id lease))
      (funext fun answer => ?_)
    cases answer with
    | error fault => rfl
    | ok taken =>
      cases taken with
      | false => rfl
      | true =>
        refine congrArg (Program.ask (Request.set lock.keys.data lock.payload))
          (funext fun answer => ?_)
        cases answer with
        | ok written => rfl
        | error fault =>
          refine congrArg (Program.ask (Request.releaseIfOwner lock.keys id))
            (funext fun answer => ?_)
          cases answer <;> rfl
  release lock client id := by
    refine congrArg (Program.ask (Request.releaseIfOwner lock.keys id)) (funext fun answer => ?_)
    cases answer with
    | error fault => rfl
    | ok released => cases released <;> rfl
  refresh lock client id millis := by
    refine congrArg (Program.ask (Request.refreshIfOwner lock.keys id lock.lease lock.payload))
      (funext fun answer => ?_)
    cases answer with
    | error fault => rfl
    | ok refreshed => cases refreshed <;> rfl
  inspect lock client := by
    refine congrArg (Program.ask (Request.read lock.keys)) (funext fun answer => ?_)
    cases answer <;> rfl

namespace Stores

variable {region : String → Prop} {now : Nat} {one other : Stores}

/-- Stores of which each two of a number have the same switches and agree outside a region. -/
def AgreeOff (region : String → Prop) (now : Nat) (one other : Stores) : Prop :=
  ∀ number, (one.get number).switches = (other.get number).switches ∧
    Sight.AgreeOff region ((one.get number).entries.seen now)
      ((other.get number).entries.seen now)

theorem AgreeOff.put (agree : AgreeOff region now one other) (number : Nat) {store host : Store}
    (switches : store.switches = host.switches)
    (seen : Sight.AgreeOff region (store.entries.seen now) (host.entries.seen now)) :
    AgreeOff region now (one.put number store) (other.put number host) := by
  intro key
  rw [get_put, get_put]
  split
  · exact ⟨switches, seen⟩
  · exact agree key

theorem AgreeOff.put_alone (agree : AgreeOff region now one other) {number : Nat} {store : Store}
    (switches : store.switches = (one.get number).switches)
    (seen : Sight.AgreeOff region (store.entries.seen now) ((other.get number).entries.seen now)) :
    AgreeOff region now (one.put number store) other := by
  intro key
  rw [get_put]
  split
  next same =>
    rw [same]
    exact ⟨switches.trans (agree number).1, seen⟩
  next => exact agree key

theorem AgreeOff.upTo (agree : AgreeOff region now one other) (number : Nat) :
    AgreeOff region now (one.upTo number) other := by
  intro key
  rw [get_upTo]
  exact agree key

theorem AgreeOff.symm (agree : AgreeOff region now one other) : AgreeOff region now other one :=
  fun number => ⟨(agree number).1.symm, (agree number).2.symm⟩

theorem AgreeOff.interfere (agree : AgreeOff region now one other) (action : Action) :
    AgreeOff region now (Stores.interfere now one action) (Stores.interfere now other action) := by
  cases action with
  | setAvailable number available =>
    obtain ⟨switches, seen⟩ := agree number
    have failing := congrArg Store.Switches.failingWrites switches
    exact agree.put number (congrArg (Store.Switches.mk available) failing) seen
  | setWriteFailures number failing =>
    obtain ⟨switches, seen⟩ := agree number
    have available := congrArg Store.Switches.available switches
    exact agree.put number (congrArg (Store.Switches.mk · failing) available) seen
  | name number => exact (agree.upTo number).symm.upTo number |>.symm

theorem AgreeOff.perform (agree : AgreeOff region now one other) (number : Nat)
    {request : Store.Request} (clear : request.footprint.Clear region) :
    (Stores.perform now number request one).1 = (Stores.perform now number request other).1 ∧
      AgreeOff region now (Stores.perform now number request one).2
        (Stores.perform now number request other).2 := by
  obtain ⟨switches, seen⟩ := agree number
  obtain ⟨answered, after⟩ := Store.Shows.perform
    (⟨rfl, rfl⟩ : (one.get number).Shows now (one.get number).switches _) request
  obtain ⟨replied, afterwards⟩ := Store.Shows.perform
    (⟨rfl, rfl⟩ : (other.get number).Shows now (other.get number).switches _) request
  rw [← switches] at replied afterwards
  obtain ⟨same, agreed⟩ := (Store.bounds_perform now (one.get number).switches
    request).together clear seen
  refine ⟨answered.trans (same.trans replied.symm), ?_⟩
  show AgreeOff region now (one.put number ((one.get number).perform now request).2)
    (other.put number ((other.get number).perform now request).2)
  refine agree.put number (after.switches.trans afterwards.switches.symm) ?_
  rw [after.seen, afterwards.seen]
  exact agreed

theorem AgreeOff.perform_alone (agree : AgreeOff region now one other) (number : Nat)
    {request : Store.Request} (within : request.footprint.Within region) :
    AgreeOff region now (Stores.perform now number request one).2 other := by
  obtain ⟨_, after⟩ := Store.Shows.perform
    (⟨rfl, rfl⟩ : (one.get number).Shows now (one.get number).switches _) request
  show AgreeOff region now (one.put number ((one.get number).perform now request).2) other
  refine agree.put_alone after.switches ?_
  rw [after.seen]
  exact (Store.bounds_perform now _ request).alone within (agree number).2

/-- Stores of which what is in a region of keys does not count. -/
def enclosure (region : String → Prop) : Enclosure backend region where
  footprint := Store.Request.footprint
  agree := AgreeOff region
  confined := Store.dialect_confined
  anonymous := Store.dialect_anonymous
  symm agree := agree.symm
  later {now _ _} agree passed number := by
    rw [Entries.seen_later (Nat.le_add_right now passed),
      Entries.seen_later (Nat.le_add_right now passed)]
    exact ⟨(agree number).1, (agree number).2.later _⟩
  prepare agree number := ⟨rfl, ((agree.upTo number).symm.upTo number).symm⟩
  prepare_alone agree number := agree.upTo number
  interfere agree action := agree.interfere action
  perform agree number _ clear := agree.perform number clear
  perform_alone agree number _ within := agree.perform_alone number within

end Stores

/-! ### Servers -/

namespace Server

/-- Ways to make commands fail that last until they are ended. -/
inductive Outage where
  /-- Makes the commands of these names fail, and no others. -/
  | fail (names : List String)
  /-- Makes plain writes fail or succeed. -/
  | failWrites (failing : Bool)

/-- An outage as it is made known to a server. -/
def Outage.action : Outage → Action
  | fail names => .fail names
  | failWrites failing => .failWrites failing

/-- A server as a service of which commands can be made to fail until further notice. -/
def unreliable : Backend Settings Endpoint Server Outage Request Request.Answer :=
  backend.told id Outage.action

variable {region : String → Prop} {now : Nat} {one other : Server}

/-- A command that nothing is planned for is an operation on what is seen. -/
theorem exists_operation (now : Nat) (failing : List String) (failingWrites : Bool)
    (request : Request) :
    ∃ operation : Sight → request.Answer × Sight,
      Sight.Bounds request.footprint operation ∧ ∀ sight,
        Outlook.perform now request ⟨sight, failing, failingWrites, []⟩ =
          ((operation sight).1, ⟨(operation sight).2, failing, failingWrites, []⟩) := by
  cases request with
  | dial => exact ⟨fun sight => (.ok (), sight), Sight.bounds_idle _, fun _ => rfl⟩
  | send command =>
    let faults : Faults := ⟨failing, failingWrites, []⟩
    cases standing : faults.standing command.name command.isPlain with
    | some failure =>
      refine ⟨fun sight => (.error failure, sight),
        (Sight.bounds_idle _).of_le (Footprint.nothing_le _), fun sight => ?_⟩
      exact Outlook.obey_of_fault (Prod.ext standing rfl)
    | none =>
      refine ⟨_, (bounds_answer now command).answered Except.ok, fun sight => ?_⟩
      exact Outlook.obey_of_none (Prod.ext standing rfl)

theorem dialect_anonymous : dialect.Anonymous where
  acquire lock client id lease millis := by
    refine congrArg (Program.ask (Request.send (.setIfAbsent lock.keys.owner id millis)))
      (funext fun answer => ?_)
    dsimp only
    cases answer.bind Reply.expectText with
    | error failure => rfl
    | ok taken =>
      cases taken with
      | none => rfl
      | some text =>
        refine congrArg (Program.ask (Request.send (.set lock.keys.data lock.payload)))
          (funext fun answer => ?_)
        cases answer <;> rfl
  release _ _ _ := rfl
  refresh _ _ _ _ := rfl
  inspect lock client := by
    refine congrArg (Program.ask (Request.send (.inspect lock.keys))) (funext fun answer => ?_)
    cases answer <;> rfl

/-- Servers that fail the same commands, have no answers laid in and agree outside a region. -/
def AgreeOff (region : String → Prop) (now : Nat) (one other : Server) : Prop :=
  ∃ failing failingWrites,
    one.Shows now ⟨one.entries.seen now, failing, failingWrites, []⟩ ∧
      other.Shows now ⟨other.entries.seen now, failing, failingWrites, []⟩ ∧
        Sight.AgreeOff region (one.entries.seen now) (other.entries.seen now)

/-- What a server shows is seen of its entries. -/
theorem Shows.anew {outlook : Outlook} {server : Server} (shows : server.Shows now outlook)
    (later : Nat) : server.Shows later { outlook with sight := server.entries.seen later } :=
  ⟨shows.failing, shows.failingWrites, shows.prepared, rfl⟩

/-- A server of which what is in a region of keys does not count. -/
def enclosure (region : String → Prop) : Enclosure unreliable region where
  footprint := Request.footprint
  agree := AgreeOff region
  confined := dialect_confined
  anonymous := dialect_anonymous
  symm := by
    rintro now one other ⟨failing, failingWrites, shown, shadowed, agree⟩
    exact ⟨failing, failingWrites, shadowed, shown, agree.symm⟩
  later := by
    rintro now one other ⟨failing, failingWrites, shown, shadowed, agree⟩ passed
    refine ⟨failing, failingWrites, shown.anew _, shadowed.anew _, ?_⟩
    rw [Entries.seen_later (Nat.le_add_right now passed),
      Entries.seen_later (Nat.le_add_right now passed)]
    exact agree.later _
  prepare agree settings := ⟨rfl, agree⟩
  prepare_alone agree settings := agree
  interfere := by
    rintro now one other ⟨failing, failingWrites, shown, shadowed, agree⟩ outage
    cases outage with
    | fail names =>
      exact ⟨names, failingWrites, ⟨rfl, shown.failingWrites, shown.prepared, rfl⟩,
        ⟨rfl, shadowed.failingWrites, shadowed.prepared, rfl⟩, agree⟩
    | failWrites writes =>
      exact ⟨failing, writes, ⟨shown.failing, rfl, shown.prepared, rfl⟩,
        ⟨shadowed.failing, rfl, shadowed.prepared, rfl⟩, agree⟩
  perform := by
    rintro now one other ⟨failing, failingWrites, shown, shadowed, agree⟩ endpoint request clear
    obtain ⟨operation, bounds, operates⟩ := exists_operation now failing failingWrites request
    obtain ⟨answered, after⟩ := shown.perform endpoint request
    obtain ⟨replied, afterwards⟩ := shadowed.perform endpoint request
    obtain ⟨same, agreed⟩ := bounds.together clear agree
    rw [operates] at answered after replied afterwards
    refine ⟨answered.trans (same.trans replied.symm), failing, failingWrites, after.anew now,
      afterwards.anew now, ?_⟩
    show Sight.AgreeOff region ((one.perform now endpoint request).2.entries.seen now)
      ((other.perform now endpoint request).2.entries.seen now)
    rw [after.seen, afterwards.seen]
    exact agreed
  perform_alone := by
    rintro now one other ⟨failing, failingWrites, shown, shadowed, agree⟩ endpoint request within
    obtain ⟨operation, bounds, operates⟩ := exists_operation now failing failingWrites request
    obtain ⟨_, after⟩ := shown.perform endpoint request
    rw [operates] at after
    refine ⟨failing, failingWrites, after.anew now, shadowed, ?_⟩
    show Sight.AgreeOff region ((one.perform now endpoint request).2.entries.seen now) _
    rw [after.seen]
    exact bounds.alone within agree

end Server

end Leasehold
