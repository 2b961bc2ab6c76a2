/-
This file proves that it makes no difference to a user which kind of store is behind a lock. A
store within the process and a server do the same things to what is seen, even where the keys of
different locks meet; they differ in how a lease that has run out disappears, in how a reading is
sent, and in what they say when they fail. Leases have to be such that both kinds of store count
them alike, in whole milliseconds and not beyond the longest, or else be too short to be taken. One
difference is left: a server that is made to fail plain writes takes a payload that reads `NX` for
the condition of a conditional write and lets it through.
-/

import Leasehold.Proofs.Passages
import Leasehold.Proofs.ServerSight
import Leasehold.Proofs.StoreSight
import Leasehold.Server.Backend

namespace Leasehold

/-- An error with nothing said about its cause. -/
def LockError.withoutCause : LockError → LockError
  | connection _ => connection (.words "")
  | store _ => store (.words "")
  | error => error

/-- A lease that is too short, or that is counted alike in milliseconds and in nanoseconds. -/
def Duration.IsEven (lease : Duration) : Prop :=
  lease.nanos < shortestLease.nanos ∨
    nanosPerMilli ∣ lease.nanos ∧ lease.nanos ≤ longestLease.nanos

instance (lease : Duration) : Decidable lease.IsEven :=
  inferInstanceAs (Decidable (_ < _ ∨ _ ∣ _ ∧ _ ≤ _))

/-- A lease that both kinds of store count alike runs out at the same moment in both. -/
theorem Duration.IsEven.deadline_eq {lease : Duration} (even : lease.IsEven) {millis : Nat}
    (valid : lease.leaseMillis? = some millis) (now : Nat) :
    Server.deadline now millis = Store.deadline now lease := by
  unfold Duration.leaseMillis? at valid
  split at valid
  · cases valid
  next long =>
    obtain short | ⟨⟨count, counted⟩, within⟩ := even
    · exact absurd short long
    · cases valid
      have whole : lease.millis = count := by
        rw [Duration.millis, counted, Nat.mul_div_cancel_left _ (by decide)]
      have few : count ≤ Duration.largestMillis := by
        have longest : Duration.longestLease.nanos ≤
            nanosPerMilli * Duration.largestMillis := by decide
        have scaled : nanosPerMilli * count ≤ nanosPerMilli * Duration.largestMillis := by
          omega
        exact Nat.le_of_mul_le_mul_left scaled (by decide)
      rw [Server.deadline, Store.deadline, Duration.nanos_shorter, Nat.min_eq_left within, whole,
        Nat.min_eq_left few, counted, Nat.mul_comm]

namespace Server

/-- The faults of a server of which nothing is made to fail but plain writes. -/
def Faults.writes (failing : Bool) : Faults := ⟨[], failing, []⟩

namespace Outlook

variable {now : Nat} {sight : Sight} {failing : Bool}

theorem strike_writes (name : String) (plain failing : Bool) :
    (Faults.writes failing).strike name plain =
      (if plain && failing then some ⟨.inputOutput, "injected data write failure"⟩ else none,
        .writes failing) :=
  rfl

/-- A server does what it is told unless that is a plain write. -/
theorem perform_spared {command : Command} (spared : (command.isPlain && failing) = false) :
    perform now (.send command) ⟨sight, .writes failing⟩ =
      (.ok (sight.answer now command).1, ⟨(sight.answer now command).2, .writes failing⟩) := by
  refine obey_of_none ?_
  rw [strike_writes, spared]
  rfl

/-- A server and a store of which the same is seen, and which fail plain writes alike. -/
def Same (failing : Bool) (outlook : Outlook) (sight : Sight) : Prop :=
  outlook = ⟨sight, .writes failing⟩

/-- Both make the same of two programs, up to the causes of errors. -/
abbrev Concur {Result : Type} (now : Nat) (failing : Bool)
    (program : Steps (Except LockError Result)) (shadow : Store.Steps (Except LockError Result)) :
    Prop :=
  Tracks (perform now) (Sight.perform now ⟨true, failing⟩) (Same failing)
    (SameFor LockError.withoutCause) program shadow

/-- Programs concur that ask the same of what is seen, if they go on alike after any answer. -/
theorem Concur.ask {Result : Type} {command : Command} {request : Store.Request}
    {next : Except CommandFailure Reply → Steps (Except LockError Result)}
    {follow : request.Answer → Store.Steps (Except LockError Result)}
    (spared : (command.isPlain && failing) = false)
    (alike : (request.isPlain && failing) = false)
    (seen : ∀ sight : Sight, (sight.answer now command).2 = (sight.act now request).2)
    (onward : ∀ sight : Sight, Concur now failing (next (.ok (sight.answer now command).1))
      (follow (.ok (sight.act now request).1))) :
    Concur now failing (.ask (.send command) next) (.ask request follow) := by
  refine Tracks.ask fun outlook sight same => ?_
  cases same
  have fault : Store.Switches.fault? ⟨true, failing⟩ request.isPlain = none := by
    rw [Store.Switches.fault?, if_pos rfl, alike]
    rfl
  rw [perform_spared spared, Sight.perform_of_none fault]
  exact ⟨congrArg (Outlook.mk · _) (seen sight), onward sight⟩

/-- Programs concur that write the same, if they go on alike whether or not that fails. A server
that fails plain writes must not take the value for a condition. -/
theorem Concur.write {Result : Type} {key value : String} (other : key ≠ "NX")
    (apt : failing = true → value ≠ "NX")
    {next : Except CommandFailure Reply → Steps (Except LockError Result)}
    {follow : Except StoreFault Unit → Store.Steps (Except LockError Result)}
    (written : Concur now failing (next (.ok (.text "OK"))) (follow (.ok ())))
    (refused : ∀ failure fault,
      Concur now failing (next (.error failure)) (follow (.error fault))) :
    Concur now failing (.ask (.send (.set key value)) next) (.ask (.set key value) follow) := by
  cases failing with
  | false => exact Concur.ask (Bool.and_false _) rfl (fun _ => rfl) fun _ => written
  | true =>
    -- both refuse the write, each with an error of its own
    refine Tracks.ask fun outlook sight same => ?_
    cases same
    have plain : (Command.set key value).isPlain = true := by
      rw [isPlain_set other, bne_iff_ne]
      exact apt rfl
    have struck : (Faults.writes true).strike "SET" (Command.set key value).isPlain =
        (some ⟨.inputOutput, "injected data write failure"⟩, .writes true) := by
      rw [strike_writes, plain]
      rfl
    rw [perform, obey_of_fault struck]
    exact ⟨rfl, refused _ _⟩

end Outlook

/-! ### The simulation -/

variable {now : Nat} {server : Server} {stores : Stores}

/-- The settings of a client that is given its endpoint. -/
def Endpoint.settings (endpoint : Endpoint) : Settings :=
  ⟨none, some endpoint.address, endpoint.commandTimeout, endpoint.connectionTimeout,
    endpoint.custom⟩

/-- A server and the first of some stores cannot be told apart. -/
structure Resembles (now : Nat) (server : Server) (stores : Stores) : Prop where
  shows : server.Shows now ⟨(stores.get 0).entries.seen now, .writes (stores.get 0).failingWrites⟩
  available : (stores.get 0).available = true

theorem Resembles.switches (resembles : server.Resembles now stores) :
    (stores.get 0).switches = ⟨true, (stores.get 0).failingWrites⟩ := by
  rw [Store.switches, resembles.available]

/-- What tracks on what is seen of a server and a store tracks on the server and the store. -/
theorem Resembles.tracksFrom {Result Shadowed : Type} {agree : Result → Shadowed → Prop}
    {program : Steps Result} {shadow : Store.Steps Shadowed} (endpoint : Endpoint)
    (tracks : Tracks (Outlook.perform now) (Sight.perform now ⟨true, server.failingWrites⟩)
      (Outlook.Same server.failingWrites) agree program shadow) :
    TracksFrom (perform now endpoint) (Stores.perform now 0) (Resembles now) agree server program
      shadow := by
  intro stores resembles
  have failing : server.failingWrites = (stores.get 0).failingWrites :=
    resembles.shows.failingWrites
  rw [failing] at tracks
  obtain ⟨ran, shows⟩ := resembles.shows.run endpoint program
  obtain ⟨followed, shown, _⟩ := Stores.run_shows shadow now 0 stores
  rw [resembles.switches] at followed shown
  obtain ⟨agreed, same⟩ := tracks _ _ (rfl : Outlook.Same (stores.get 0).failingWrites _ _)
  have writes : ((shadow.run (Stores.perform now 0) stores).service.get 0).failingWrites =
      (stores.get 0).failingWrites := congrArg Store.Switches.failingWrites shown.switches
  rw [same, ← shown.seen, ← writes] at shows
  rw [ran, followed]
  exact ⟨agreed, shows, congrArg Store.Switches.available shown.switches⟩

theorem Resembles.tracks {Result Shadowed : Type} {agree : Result → Shadowed → Prop}
    {program : Steps Result} {shadow : Store.Steps Shadowed} (endpoint : Endpoint)
    (tracks : ∀ failing, Tracks (Outlook.perform now) (Sight.perform now ⟨true, failing⟩)
      (Outlook.Same failing) agree program shadow) :
    Tracks (perform now endpoint) (Stores.perform now 0) (Resembles now) agree program shadow :=
  fun server => Resembles.tracksFrom endpoint (tracks server.failingWrites)

theorem Resembles.later (resembles : server.Resembles now stores) (passed : Nat) :
    server.Resembles (now + passed) stores := by
  obtain ⟨⟨failing, failingWrites, prepared, seen⟩, available⟩ := resembles
  refine ⟨⟨failing, failingWrites, prepared, ?_⟩, available⟩
  rw [Entries.seen_later (Nat.le_add_right now passed), seen,
    Entries.seen_later (Nat.le_add_right now passed)]

theorem Resembles.prepare (resembles : server.Resembles now stores) :
    server.Resembles now (stores.upTo 0) := by
  obtain ⟨shows, available⟩ := resembles
  rw [← Stores.get_upTo stores 0 0] at shows available
  exact ⟨shows, available⟩

theorem Resembles.failWrites (resembles : server.Resembles now stores) (failing : Bool) :
    (server.interfere now (.failWrites failing)).Resembles now
      (stores.interfere now (.setWriteFailures 0 failing)) := by
  obtain ⟨⟨failing, failingWrites, prepared, seen⟩, available⟩ := resembles
  constructor
  · rw [Stores.interfere, Stores.get_put, if_pos rfl]
    exact ⟨failing, rfl, prepared, seen⟩
  · rw [Stores.interfere, Stores.get_put, if_pos rfl]
    exact available

variable {command : Command}

end Server

end Leasehold
