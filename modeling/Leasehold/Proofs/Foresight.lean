/-
This file proves what somebody who looks at a lock can tell about what others would get. At a moment
at which the service fails nothing, all that operations come to depends on the live entry of the
owner key. A view names an owner exactly if there is such an entry, and then nobody takes the lock.
It says that the lock is acquired only if a whole millisecond of the entry's lease is left, since
that is as finely as a lease is counted. In the last millisecond, and where the entry has no lease
at all, the lock is refused to everybody and can be given back although nobody is said to hold it.
-/

import Leasehold.Proofs.Attempt
import Leasehold.Proofs.Leases

namespace Leasehold

/-- Of the lease of an entry there is at least a whole millisecond left. An entry without deadline
has no lease. -/
def Entry.Lasts (now : Nat) (entry : Entry) : Prop :=
  ∃ deadline, entry.deadline = some deadline ∧ now + nanosPerMilli ≤ deadline

/-! ### Views -/

theorem Entry.ofRemaining_eq_zero_iff (now : Nat) (entry : Entry) :
    (Duration.ofRemaining (entry.remaining now)).nanos = 0 ↔ ¬ entry.Lasts now := by
  obtain ⟨value, deadline⟩ := entry
  cases deadline with
  | none =>
    have unleased : (Duration.ofRemaining neverExpires).nanos = 0 :=
      congrArg Duration.nanos (Duration.ofRemaining_of_neg (by decide))
    exact iff_of_true unleased (by simp [Entry.Lasts])
  | some deadline =>
    have counts : (deadline - now) / nanosPerMilli = 0 ↔ deadline - now < nanosPerMilli :=
      Nat.div_eq_zero_iff_lt (by decide)
    have positive : 0 < nanosPerMilli := by decide
    have bounded : 0 < Duration.largestMillis := by decide
    simp only [Entry.Lasts, Entry.remaining, Duration.ofRemaining, Int.ofNat_eq_natCast,
      Int.toNat_natCast, Duration.nanos_ofMillis_eq_zero, Option.some.injEq, exists_eq_left']
    omega

namespace Sight

variable {now : Nat} {sight : Sight} {keys : KeyPair}

/-- The owner key of a lock has an entry with at least a whole millisecond of its lease left. -/
def Lasts (now : Nat) (keys : KeyPair) (sight : Sight) : Prop :=
  ∃ entry, sight keys.owner = some entry ∧ entry.Lasts now

theorem owner_snapshotOf (name : String) (now : Nat) (sight : Sight) (keys : KeyPair) :
    (Store.snapshotOf name (sight.read now keys)).owner = (sight keys.owner).map (·.value) := by
  unfold Store.snapshotOf read
  cases sight keys.owner <;> rfl

theorem acquired_snapshotOf (name : String) :
    (Store.snapshotOf name (sight.read now keys)).acquired = true ↔ sight.Lasts now keys := by
  unfold Store.snapshotOf read Lasts
  cases sight keys.owner with
  | none => exact iff_of_false Bool.false_ne_true fun ⟨_, found, _⟩ => (nomatch found)
  | some entry =>
    have lasts : entry.Lasts now ↔ (Duration.ofRemaining (entry.remaining now)).nanos ≠ 0 := by
      rw [ne_eq, entry.ofRemaining_eq_zero_iff, not_not]
    simp [Snapshot.ofReading, lasts]

theorem holds_iff {key value : String} :
    sight.holds key value = true ↔ (sight key).map (·.value) = some value := by
  unfold holds
  cases sight key <;> simp

theorem isOwnedBy_snapshotOf (name id : String) :
    (Store.snapshotOf name (sight.read now keys)).isOwnedBy id = true ↔
      sight.holds keys.owner id = true ∧ sight.Lasts now keys := by
  rw [Snapshot.isOwnedBy, Bool.and_eq_true, acquired_snapshotOf, beq_iff_eq, owner_snapshotOf,
    holds_iff]
  exact and_comm

end Sight

/-! ### Services that fail nothing -/

section Candid

variable {Request : Type} {Answer : Request → Type} {Service Endpoint : Type}

/-- A service fails nothing at a moment, and answers by what is seen in it. -/
structure Dialect.Candid (dialect : Dialect Request Answer)
    (perform : (request : Request) → Service → Answer request × Service) (now : Nat)
    (sight : Sight) (service : Service) : Prop where
  inspect : ∀ lock, ((dialect.inspect lock).run perform service).result =
    .ok (Store.snapshotOf lock.name (sight.read now lock.keys))
  acquire : ∀ lock id lease millis,
    ((dialect.acquire lock id lease millis).run perform service).result =
      if (sight lock.keys.owner).isSome then .error (.heldByOtherClient lock.name) else .ok ()
  release : ∀ lock id, ((dialect.release lock id).run perform service).result =
    if sight.holds lock.keys.owner id then .ok () else .error (.notOwned lock.name)

namespace Dialect.Candid

variable {dialect : Dialect Request Answer}
  {perform : (request : Request) → Service → Answer request × Service} {now : Nat}
  {sight : Sight} {service : Service} {client : Client Endpoint}

theorem inspectLock (candid : dialect.Candid perform now sight service)
    (connected : client.connected = true) (lock : Lock) :
    ((dialect.inspectLock (some client) lock).run perform service).result =
      .ok (Store.snapshotOf lock.name (sight.read now lock.keys)) := by
  have session : Dialect.session (some client) = .ok client.id := if_pos connected
  rw [Dialect.inspectLock, session]
  exact candid.inspect lock

theorem acquireLock (candid : dialect.Candid perform now sight service)
    (connected : client.connected = true) (lock : Lock) {lease : Duration}
    (long : Duration.shortestLease.nanos ≤ lease.nanos) :
    ((dialect.acquireLock (some client) lock lease).run perform service).result.1 =
      if (sight lock.keys.owner).isSome then .error (.heldByOtherClient lock.name)
      else .ok () := by
  have session : Dialect.session (some client) = .ok client.id := if_pos connected
  rw [Dialect.acquireLock, session]
  cases leased : lease.leaseMillis with
  | error error => exact absurd (.lease leased) (not_refused connected long error)
  | ok millis =>
    refine (congrArg Prod.fst (Program.run_map perform _ _ service).1).trans ?_
    exact candid.acquire { lock with lease } client.id lease millis

theorem releaseLock (candid : dialect.Candid perform now sight service)
    (connected : client.connected = true) (lock : Lock) :
    ((dialect.releaseLock (some client) lock).run perform service).result =
      if sight.holds lock.keys.owner client.id then .ok () else .error (.notOwned lock.name) := by
  have session : Dialect.session (some client) = .ok client.id := if_pos connected
  rw [Dialect.releaseLock, session]
  exact candid.release lock client.id

end Dialect.Candid

end Candid

theorem Stores.candid {stores : Stores} {number : Nat} (serving : (stores.get number).Serving)
    (now : Nat) :
    Store.dialect.Candid (perform now number) now ((stores.get number).entries.seen now)
      stores where
  inspect lock := by
    rw [(run_shows _ now number stores).1]
    show ((Store.inspecting lock).run _ _).result = _
    rw [Store.inspecting, Program.run_ask, serving.perform_sight]
    rfl
  acquire lock id lease millis := by
    rw [(run_shows _ now number stores).1]
    show ((Store.acquiring lock id lease).run _ _).result = _
    rw [Store.acquiring, Program.run_ask, serving.perform_sight]
    simp only [Sight.act, Sight.takeIfAbsent]
    by_cases taken : ((stores.get number).entries.seen now lock.keys.owner).isSome = true
    · simp only [if_pos taken]
      rfl
    · simp only [if_neg taken]
      rw [Program.run_ask, serving.perform_sight]
      rfl
  release lock id := by
    rw [(run_shows _ now number stores).1]
    show ((Store.releasing lock id).run _ _).result = _
    rw [Store.releasing, Program.run_ask, serving.perform_sight]
    simp only [Sight.act, Sight.releaseIfHeld]
    by_cases held : ((stores.get number).entries.seen now).holds lock.keys.owner id = true
    · simp only [if_pos held]
      rfl
    · simp only [if_neg held]
      rfl

namespace Server

/-- No fault is to strike any command. -/
structure Faults.Harmless (faults : Faults) : Prop where
  failing : faults.failing = []
  failingWrites : faults.failingWrites = false
  planned : ∀ planned ∈ faults.plan, planned = none

theorem Faults.Harmless.strike {faults : Faults} (harmless : faults.Harmless) (name : String)
    (plain : Bool) : ∃ left, faults.strike name plain = (none, left) ∧ left.Harmless := by
  obtain ⟨failing, failingWrites, plan⟩ := faults
  obtain ⟨rfl, rfl, planned⟩ := harmless
  have standing (plan : List (Option CommandFailure)) :
      Faults.standing ⟨[], false, plan⟩ name plain = none := by
    cases plain <;> rfl
  cases plan with
  | nil => exact ⟨_, congrArg (·, _) (standing []), rfl, rfl, planned⟩
  | cons first plan =>
    obtain rfl := planned first List.mem_cons_self
    exact ⟨_, congrArg (·, _) (standing _), rfl, rfl,
      fun other among => planned other (List.mem_cons_of_mem none among)⟩

/-- No fault is to strike any command of a server: none is made to fail, and the answers laid in
are the server's own. -/
structure Faultless (server : Server) : Prop where
  failing : server.failing = []
  failingWrites : server.failingWrites = false
  prepared : ∀ answer ∈ server.prepared, answer = .own

theorem Faultless.shows {server : Server} (faultless : server.Faultless) (now : Nat) :
    ∃ faults : Faults, faults.Harmless ∧
      server.Shows now ⟨server.entries.seen now, faults⟩ := by
  have laid : server.prepared =
      (List.replicate server.prepared.length none).map Faults.laidIn := by
    rw [List.map_replicate]
    exact List.eq_replicate_of_mem faultless.prepared
  exact ⟨⟨[], false, List.replicate server.prepared.length none⟩,
    ⟨rfl, rfl, fun _ among => List.eq_of_mem_replicate among⟩,
    faultless.failing, faultless.failingWrites, laid, rfl⟩

/-- What is asked of a server that no fault is to strike is answered by what is seen. -/
theorem Faults.Harmless.perform {faults : Faults} (harmless : faults.Harmless) (now : Nat)
    (command : Command) (sight : Sight) :
    ∃ left : Faults, left.Harmless ∧
      Outlook.perform now (.send command) ⟨sight, faults⟩ =
        (.ok (sight.answer now command).1, ⟨(sight.answer now command).2, left⟩) := by
  obtain ⟨left, spared, after⟩ := harmless.strike command.name command.isPlain
  exact ⟨left, after, Outlook.obey_of_none spared⟩

theorem Faultless.candid {server : Server} (faultless : server.Faultless) (now : Nat)
    (endpoint : Endpoint) :
    dialect.Candid (perform now endpoint) now (server.entries.seen now) server := by
  obtain ⟨faults, harmless, shows⟩ := faultless.shows now
  refine ⟨fun lock => ?_, fun lock id lease millis => ?_, fun lock id => ?_⟩
  · obtain ⟨left, -, answered⟩ :=
      harmless.perform now (.inspect lock.keys) (server.entries.seen now)
    rw [(shows.run endpoint _).1]
    show ((inspecting lock).run _ _).result = _
    rw [inspecting, Program.run_ask, answered]
    simp only [Sight.answer, snapshotOfReply_reading (remaining_read now lock.keys _)]
    rfl
  · obtain ⟨left, spared, answered⟩ :=
      harmless.perform now (.setIfAbsent lock.keys.owner id millis) (server.entries.seen now)
    rw [(shows.run endpoint _).1]
    show ((acquiring lock id millis).run _ _).result = _
    rw [acquiring, Program.run_ask, answered]
    simp only [Sight.answer, Sight.takeIfAbsent]
    by_cases taken : (server.entries.seen now lock.keys.owner).isSome = true
    · simp only [if_pos taken]
      rfl
    · obtain ⟨_, -, written⟩ := spared.perform now (.set lock.keys.data lock.payload)
        ((server.entries.seen now).put now lock.keys.owner ⟨id, some (deadline now millis)⟩)
      simp only [if_neg taken]
      show (Program.run _ (.ask (Request.send (.set lock.keys.data lock.payload)) _) _).result = _
      rw [Program.run_ask, written]
      rfl
  · obtain ⟨left, -, answered⟩ :=
      harmless.perform now (.release lock.keys id) (server.entries.seen now)
    rw [(shows.run endpoint _).1]
    show ((releasing lock id).run _ _).result = _
    rw [releasing, Program.run_ask, answered]
    simp only [Sight.answer, succeeded_verdict, Sight.releaseIfHeld]
    by_cases held : (server.entries.seen now).holds lock.keys.owner id = true
    · simp only [if_pos held]
      rfl
    · simp only [if_neg held]
      rfl

end Server

/-! ### What views foretell -/

section Foretells

variable {Request : Type} {Answer : Request → Type} {Service Endpoint : Type}

/-- What a view of a lock tells at a moment about what calls for a lock of the same keys would
come to. -/
structure Snapshot.Foretells (dialect : Dialect Request Answer)
    (perform : (request : Request) → Service → Answer request × Service) (Endpoint : Type)
    (now : Nat) (sight : Sight) (service : Service) (keys : KeyPair) (snapshot : Snapshot) :
    Prop where
  /-- Nothing can happen to an attempt of a connected client for a valid lease but that it succeeds
  or is told that another client holds the lock. -/
  attempted : ∀ (rival : Client Endpoint) (lock : Lock) (lease : Duration),
    rival.connected = true → lock.keys = keys →
      Duration.shortestLease.nanos ≤ lease.nanos →
        let result := ((dialect.acquireLock (some rival) lock lease).run perform service).result.1
        result = .ok () ∨ result = .error (.heldByOtherClient lock.name)
  /-- An owner is named exactly if there is a live entry in the owner key. -/
  present : snapshot.owner.isSome = true ↔ (sight keys.owner).isSome = true
  named : ∀ (rival : Client Endpoint) (lock : Lock) (lease : Duration),
    rival.connected = true → lock.keys = keys →
      Duration.shortestLease.nanos ≤ lease.nanos →
        (snapshot.owner.isSome = true ↔
          ((dialect.acquireLock (some rival) lock lease).run perform service).result.1 =
            .error (.heldByOtherClient lock.name))
  acquired : ∀ (rival : Client Endpoint) (lock : Lock) (lease : Duration),
    rival.connected = true → lock.keys = keys →
      Duration.shortestLease.nanos ≤ lease.nanos →
        (snapshot.acquired = true ↔
          ((dialect.acquireLock (some rival) lock lease).run perform service).result.1 =
            .error (.heldByOtherClient lock.name) ∧ sight.Lasts now keys)
  owned : ∀ (holder : Client Endpoint) (lock : Lock),
    holder.connected = true → lock.keys = keys →
      (snapshot.isOwnedBy holder.id = true ↔
        ((dialect.releaseLock (some holder) lock).run perform service).result = .ok () ∧
          sight.Lasts now keys)

variable {dialect : Dialect Request Answer}
  {perform : (request : Request) → Service → Answer request × Service} {now : Nat}
  {sight : Sight} {service : Service}

theorem Sight.Lasts.isSome {keys : KeyPair} (lasts : sight.Lasts now keys) :
    (sight keys.owner).isSome = true := by
  obtain ⟨entry, found, -⟩ := lasts
  rw [found, Option.isSome_some]

theorem Dialect.Candid.foretells (candid : dialect.Candid perform now sight service)
    (name : String) (keys : KeyPair) :
    (Store.snapshotOf name (sight.read now keys)).Foretells dialect perform Endpoint now sight
      service keys where
  attempted rival lock lease connected _ long := by
    rw [candid.acquireLock connected lock long]
    split
    · exact Or.inr rfl
    · exact Or.inl rfl
  present := by rw [Sight.owner_snapshotOf, Option.isSome_map]
  named rival lock lease connected same long := by
    rw [candid.acquireLock connected lock long, same, Sight.owner_snapshotOf, Option.isSome_map]
    split <;> simp [*]
  acquired rival lock lease connected same long := by
    rw [candid.acquireLock connected lock long, same, Sight.acquired_snapshotOf]
    split
    · exact (and_iff_right rfl).symm
    next absent => exact iff_of_false (fun lasts => absent lasts.isSome) (by simp)
  owned holder lock connected same := by
    rw [candid.releaseLock connected lock, same, Sight.isOwnedBy_snapshotOf]
    split
    next held => rw [held, eq_self, eq_self]
    next missing => simp [missing]

end Foretells

/-- A look at a lock tells, in every state of either kind of service in which nothing fails, what
others would get at that moment. -/
theorem views_foretell :
    (∀ (now number : Nat) (stores : Stores), (stores.get number).Serving →
      ∀ (viewer : Client Nat) (lock : Lock), viewer.connected = true →
        ∃ snapshot,
          ((Store.dialect.inspectLock (some viewer) lock).run
            (Stores.perform now number) stores).result = .ok snapshot ∧
          snapshot.Foretells Store.dialect (Stores.perform now number) Nat now
            ((stores.get number).entries.seen now) stores lock.keys) ∧
    ∀ (now : Nat) (near far : Server.Endpoint) (server : Server), server.Faultless →
      ∀ (viewer : Client Server.Endpoint) (lock : Lock), viewer.connected = true →
        ∃ snapshot,
          ((Server.dialect.inspectLock (some viewer) lock).run
            (Server.perform now near) server).result = .ok snapshot ∧
          snapshot.Foretells Server.dialect (Server.perform now far) Server.Endpoint now
            (server.entries.seen now) server lock.keys := by
  constructor
  · intro now number stores serving viewer lock connected
    have candid := Stores.candid serving now
    exact ⟨_, candid.inspectLock connected lock, candid.foretells lock.name lock.keys⟩
  · intro now near far server faultless viewer lock connected
    exact ⟨_, (faultless.candid now near).inspectLock connected lock,
      (faultless.candid now far).foretells lock.name lock.keys⟩

/-- A connected client that wants the lock of the tenancy. -/
def onlooker (Endpoint : Type) [Inhabited Endpoint] : Client Endpoint :=
  ⟨1, "B", "app", true, default⟩

/-- The onlooker is told that the lock is taken, and cannot take it. -/
def TurnsAway {Request : Type} {Answer : Request → Type} {Service : Type} (Endpoint : Type)
    [Inhabited Endpoint] (dialect : Dialect Request Answer)
    (perform : (request : Request) → Service → Answer request × Service) (service : Service) :
    Prop :=
  let client := onlooker Endpoint
  let lock := client.newLock "job"
  (∃ snapshot, ((dialect.inspectLock (some client) lock).run perform service).result =
      .ok snapshot ∧ snapshot.acquired = true) ∧
    ((dialect.acquireLock (some client) lock .shortestLease).run perform service).result.1 =
      .error (.heldByOtherClient "job")

theorem views_foretell_tenancy :
    TurnsAway Nat Store.dialect (Stores.perform 0 0) Stores.tenanted.service ∧
      TurnsAway Server.Endpoint Server.dialect (Server.perform 0 default)
        Server.tenanted.service := by
  constructor
  · obtain ⟨snapshot, viewed, foretells⟩ := views_foretell.1 0 0 Stores.tenanted.service
      ⟨rfl, rfl⟩ (onlooker Nat) ((onlooker Nat).newLock "job") rfl
    have acquired : snapshot.acquired = true := by
      cases viewed
      rfl
    have refused := foretells.acquired (onlooker Nat) ((onlooker Nat).newLock "job")
      .shortestLease rfl rfl (Nat.le_refl _)
    exact ⟨⟨snapshot, viewed, acquired⟩, (refused.mp acquired).1⟩
  · obtain ⟨snapshot, viewed, foretells⟩ := views_foretell.2 0 default default
      Server.tenanted.service ⟨rfl, rfl, fun _ among => nomatch among⟩
      (onlooker Server.Endpoint) ((onlooker Server.Endpoint).newLock "job") rfl
    have acquired : snapshot.acquired = true := by
      cases viewed
      rfl
    have refused := foretells.acquired (onlooker Server.Endpoint)
      ((onlooker Server.Endpoint).newLock "job") .shortestLease rfl rfl (Nat.le_refl _)
    exact ⟨⟨snapshot, viewed, acquired⟩, (refused.mp acquired).1⟩

namespace Stores

/-- The client that has taken the lock for five milliseconds still has half a millisecond of the
lease, and there is another client. -/
def lateTenancy : List (Step Nat Action) :=
  tenancy 0 ++ [.build "b" ⟨some "B", some "app"⟩ 0, .newLock "b" "yours" "job",
    .advance 4500000]

/-- In the last millisecond of a lease nobody is said to hold the lock. All the same it is refused
to others, and its holder can give it back. -/
theorem last_millisecond_unseen :
    let session := (Session.start .single fun _ => "").after backend lateTenancy
    (session.service.get 0).Serving ∧
      (∃ snapshot, (session.step backend (.inspect "mine")).result = .snapshot snapshot ∧
        snapshot.acquired = false ∧ snapshot.isOwnedBy "A" = false) ∧
      (session.step backend (.acquire "yours" (.ofMillis 5))).result =
        .failed (.heldByOtherClient "job") ∧
      (session.step backend (.release "mine")).result = .finished :=
  ⟨⟨rfl, rfl⟩, ⟨_, rfl, by decide +kernel, by decide +kernel⟩, rfl, rfl⟩

end Stores

end Leasehold
