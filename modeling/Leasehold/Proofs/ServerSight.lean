/-
This file proves that a server only acts on what is seen of its entries and on the faults that
are yet to strike. A fault takes the place of one command: the command fails and does nothing
else. What the server does to a command that no fault strikes is an operation on the sight.
-/

import Leasehold.Proofs.Sight
import Leasehold.Proofs.Tracks
import Leasehold.Server
import Leasehold.Server.Dialect
import Leasehold.Store.Dialect

namespace Leasehold

namespace Server

/-! ### Faults -/

/-- A write whose key does not read `NX` is plain unless its value does. -/
theorem isPlain_set {key : String} (other : key ≠ "NX") (value : String) :
    (Command.set key value).isPlain = (value != "NX") := by
  rw [Command.isPlain, List.all_cons, bne_iff_ne.mpr other, Bool.true_and, List.all_cons,
    List.all_nil, Bool.and_true]

/-- No data key reads `NX`: all of them are longer. -/
theorem data_ne_condition (space name : String) : (KeyPair.ofName space name).data ≠ "NX" := by
  intro equal
  have lengths := congrArg String.length equal
  simp only [KeyPair.ofName, dataKey_eq, String.length_append] at lengths
  have long : ":data".length = 5 := by decide
  have short : "NX".length = 2 := by decide
  omega

/-- What is to fail: the commands of some names, the plain writes, and single commands by the
order in which they come. The plan says of each command to come whether it fails in any case,
and for which reason. -/
structure Faults where
  failing : List String
  failingWrites : Bool
  plan : List (Option CommandFailure)

namespace Faults

/-- No faults. -/
def calm : Faults := ⟨[], false, []⟩

/-- Why a command of some name fails that is not planned to. -/
def standing (faults : Faults) (name : String) (plain : Bool) : Option CommandFailure :=
  if faults.failing.contains name then some ⟨.inputOutput, "injected failure"⟩
  else if plain && faults.failingWrites then
    some ⟨.inputOutput, "injected data write failure"⟩
  else none

/-- Why a command of some name fails, if it does, and the faults left for those after it. -/
def strike (faults : Faults) (name : String) (plain : Bool) : Option CommandFailure × Faults :=
  match faults.plan with
  | [] => (faults.standing name plain, faults)
  | none :: plan => (faults.standing name plain, { faults with plan })
  | some failure :: plan => (some failure, { faults with plan })

/-- The answer that a plan has a server lay in for one command. -/
def laidIn : Option CommandFailure → PreparedAnswer
  | none => .own
  | some failure => .fixed (.error failure)

end Faults

end Server

namespace Sight

/-- What a command does to what is seen. -/
def answer (now : Nat) : Server.Command → Sight → Reply × Sight
  | .ping, sight => (.text "PONG", sight)
  | .quit, sight => (.text "OK", sight)
  | .setIfAbsent key value millis, sight =>
    let taken := sight.takeIfAbsent now key ⟨value, some (Server.deadline now millis)⟩
    (if taken.1 then .text "OK" else .null, taken.2)
  | .set key value, sight => (.text "OK", sight.put now key ⟨value, none⟩)
  | .release keys id, sight =>
    let released := sight.releaseIfHeld keys id
    (Server.verdict released.1, released.2)
  | .refresh keys id millis payload, sight =>
    let refreshed := sight.rearmIfHeld now keys id (Server.deadline now millis) payload
    (Server.verdict refreshed.1, refreshed.2)
  | .inspect keys, sight => (Server.readingReply (sight.read now keys), sight)

end Sight

namespace Server

/-- What can be told of a server from outside: its live entries and its faults to come. -/
structure Outlook where
  sight : Sight
  faults : Faults

namespace Outlook

/-- A command that either fails for a reason or works on what is seen. -/
def meet (now : Nat) (command : Command) (outlook : Outlook) :
    Option CommandFailure → Except CommandFailure Reply × Outlook
  | some failure => (.error failure, outlook)
  | none =>
    let answered := outlook.sight.answer now command
    (.ok answered.1, { outlook with sight := answered.2 })

/-- A command that fails if a fault strikes it. -/
def obey (now : Nat) (command : Command) (outlook : Outlook) :
    Except CommandFailure Reply × Outlook :=
  let struck := outlook.faults.strike command.name command.isPlain
  { outlook with faults := struck.2 }.meet now command struck.1

theorem obey_of_fault {now : Nat} {command : Command} {outlook : Outlook} {faults : Faults}
    {failure : CommandFailure}
    (struck : outlook.faults.strike command.name command.isPlain = (some failure, faults)) :
    outlook.obey now command = (.error failure, ⟨outlook.sight, faults⟩) := by
  rw [obey, struck]
  rfl

theorem obey_of_none {now : Nat} {command : Command} {outlook : Outlook} {faults : Faults}
    (spared : outlook.faults.strike command.name command.isPlain = (none, faults)) :
    outlook.obey now command =
      (.ok (outlook.sight.answer now command).1,
        ⟨(outlook.sight.answer now command).2, faults⟩) := by
  rw [obey, spared]
  rfl

/-- What a server makes of a request, as far as can be seen. -/
def perform (now : Nat) : (request : Request) → Outlook → request.Answer × Outlook
  | .dial, outlook => (.ok (), outlook)
  | .send command, outlook => outlook.obey now command

end Outlook

/-- A server looks from outside, at a moment, as told. -/
structure Shows (now : Nat) (outlook : Outlook) (server : Server) : Prop where
  failing : server.failing = outlook.faults.failing
  failingWrites : server.failingWrites = outlook.faults.failingWrites
  prepared : server.prepared = outlook.faults.plan.map Faults.laidIn
  seen : server.entries.seen now = outlook.sight

variable {now : Nat}

/-! ### Commands -/

theorem act_fst {failingWrites : Bool} {command : Command}
    (unimpeded : (command.isPlain && failingWrites) = false) (entries : Entries) :
    (act now failingWrites command entries).1 =
      .ok ((entries.seen now).answer now command).1 := by
  cases command with
  | ping => rfl
  | quit => rfl
  | setIfAbsent key value millis =>
    simp only [act, Sight.answer, Entries.takeIfAbsent_fst (Entries.settled_expire key),
      Entries.seen_expire]
  | set key value =>
    rw [act, if_neg (Bool.eq_false_iff.mp unimpeded)]
    rfl
  | release keys id =>
    simp only [act, Sight.answer, Entries.releaseIfHeld_fst (Entries.settled_expire keys.owner),
      Entries.seen_expire]
  | refresh keys id millis payload =>
    simp only [act, Sight.answer, Entries.rearmIfHeld_fst (Entries.settled_expire keys.owner),
      Entries.seen_expire]
  | inspect keys =>
    have owner : ((entries.expire now keys.owner).expire now keys.data).Settled now keys.owner :=
      (Entries.settled_expire keys.owner).expire keys.data
    simp only [act, Sight.answer, Entries.read_eq owner (Entries.settled_expire keys.data),
      Entries.seen_expire]

theorem seen_act {failingWrites : Bool} {command : Command}
    (unimpeded : (command.isPlain && failingWrites) = false) (entries : Entries) :
    (act now failingWrites command entries).2.seen now =
      ((entries.seen now).answer now command).2 := by
  cases command with
  | ping => rfl
  | quit => rfl
  | setIfAbsent key value millis =>
    simp only [act, Sight.answer, Entries.seen_takeIfAbsent (Entries.settled_expire key),
      Entries.seen_expire]
  | set key value =>
    rw [act, if_neg (Bool.eq_false_iff.mp unimpeded)]
    exact Entries.seen_insert key _
  | release keys id =>
    simp only [act, Sight.answer, Entries.seen_releaseIfHeld (Entries.settled_expire keys.owner),
      Entries.seen_expire]
  | refresh keys id millis payload =>
    simp only [act, Sight.answer, Entries.seen_rearmIfHeld (Entries.settled_expire keys.owner),
      Entries.seen_expire]
  | inspect keys =>
    simp only [act, Sight.answer, Entries.seen_expire]

theorem act_of_impeded {failingWrites : Bool} {command : Command}
    (impeded : (command.isPlain && failingWrites) = true) (entries : Entries) :
    act now failingWrites command entries =
      (.error ⟨.inputOutput, "injected data write failure"⟩, entries) := by
  cases command with
  | set key value => exact if_pos impeded
  | _ => cases impeded

variable {outlook : Outlook} {server : Server}

/-- A command that the server answers by itself fails for a fault that stands against it, and
otherwise works on what is seen. -/
theorem Shows.answerOwn (shows : server.Shows now outlook) (command : Command) :
    (server.answerOwn now command).1 =
        (outlook.meet now command
          (outlook.faults.standing command.name command.isPlain)).1 ∧
      (server.answerOwn now command).2.Shows now
        (outlook.meet now command
          (outlook.faults.standing command.name command.isPlain)).2 := by
  obtain ⟨failing, failingWrites, laid, seen⟩ := id shows
  unfold Faults.standing Server.answerOwn
  rw [← failing, ← failingWrites]
  by_cases listed : server.failing.contains command.name = true
  · rw [if_pos listed, if_pos listed]
    exact ⟨rfl, shows⟩
  · rw [if_neg listed, if_neg listed]
    by_cases impeded : (command.isPlain && server.failingWrites) = true
    · rw [if_pos impeded, act_of_impeded impeded]
      exact ⟨rfl, shows⟩
    · have unimpeded := eq_false_of_ne_true impeded
      rw [if_neg impeded, Outlook.meet, ← seen]
      exact ⟨act_fst unimpeded _, failing, failingWrites, laid, seen_act unimpeded _⟩

theorem Shows.answer (shows : server.Shows now outlook) (command : Command) :
    (server.answer now command).1 = (outlook.obey now command).1 ∧
      (server.answer now command).2.Shows now (outlook.obey now command).2 := by
  obtain ⟨sight, ⟨failing, failingWrites, plan⟩⟩ := outlook
  obtain ⟨sameFailing, sameWrites, laid, seen⟩ := shows
  have ahead (plan : List (Option CommandFailure)) : { server with
      received := server.received ++ [command]
      prepared := plan.map Faults.laidIn }.Shows now ⟨sight, ⟨failing, failingWrites, plan⟩⟩ :=
    ⟨sameFailing, sameWrites, rfl, seen⟩
  unfold Server.answer
  rw [laid]
  cases plan with
  | nil => exact (ahead []).answerOwn command
  | cons planned plan =>
    cases planned with
    | none => exact (ahead plan).answerOwn command
    | some failure => exact ⟨rfl, ahead plan⟩

theorem Shows.perform (shows : server.Shows now outlook) (endpoint : Endpoint)
    (request : Request) :
    (server.perform now endpoint request).1 = (outlook.perform now request).1 ∧
      (server.perform now endpoint request).2.Shows now (outlook.perform now request).2 := by
  cases request with
  | dial => exact ⟨rfl, shows.failing, shows.failingWrites, shows.prepared, shows.seen⟩
  | send command => exact shows.answer command

/-- A program makes of a server what it makes of the outlook on it. -/
theorem Shows.run {Result : Type} (shows : server.Shows now outlook) (endpoint : Endpoint)
    (program : Steps Result) :
    (program.run (Server.perform now endpoint) server).result =
        (program.run (Outlook.perform now) outlook).result ∧
      (program.run (Server.perform now endpoint) server).service.Shows now
        (program.run (Outlook.perform now) outlook).service := by
  have tracks : Tracks (Server.perform now endpoint) (Outlook.perform now)
      (fun server outlook => server.Shows now outlook) Eq program program :=
    Tracks.same (fun _ _ request shows => Shows.perform shows endpoint request) program
  exact tracks _ _ shows

/-! ### What is asked of a server -/

/-- Taking a lock comes down to the two writes and to giving the owner key back. -/
theorem allAsk_acquiring {kind : Request → Prop} {lock : Lock} {id : String} {millis : Nat}
    (take : kind (.send (.setIfAbsent lock.keys.owner id millis)))
    (write : kind (.send (.set lock.keys.data lock.payload)))
    (giveBack : kind (.send (.release lock.keys id))) : (acquiring lock id millis).AllAsk kind := by
  refine ⟨take, fun answer => ?_⟩
  dsimp only
  cases answer.bind Reply.expectText with
  | error failure => trivial
  | ok taken =>
    cases taken with
    | none => trivial
    | some text =>
      refine ⟨write, fun answer => ?_⟩
      cases answer with
      | ok written => trivial
      | error failure =>
        refine ⟨giveBack, fun answer => ?_⟩
        dsimp only
        cases succeeded answer <;> trivial

/-! ### Answers as they are read -/

theorem succeeded_verdict (done : Bool) : succeeded (.ok (verdict done)) = .ok done := by
  cases done <;> rfl

theorem textOfPart_optionalText (part : String) (text : Option String) :
    textOfPart part (optionalText text) = .ok text := by
  cases text <;> rfl

/-- A reading comes through a reply as it was. -/
theorem readingOfParts_reading (reading : Reading) :
    readingOfParts (optionalText reading.owner) (.integer reading.remaining)
      (optionalText reading.data) = .ok reading := by
  unfold readingOfParts
  rw [textOfPart_optionalText, textOfPart_optionalText]
  rfl

/-- A lock without holder is told alike by the missing ID and by the missing lease. -/
theorem snapshotOfReply_reading {reading : Reading}
    (told : reading.remaining = missingKey ↔ reading.owner.isNone = true) (name : String) :
    snapshotOfReply name (readingReply reading) = .ok (Store.snapshotOf name reading) := by
  have read : snapshotOfReply name (readingReply reading) =
      (readingOfParts (optionalText reading.owner) (.integer reading.remaining)
        (optionalText reading.data)).bind fun reading =>
          if reading.remaining = missingKey then
            .ok { Snapshot.unacquired name with data := reading.data }
          else .ok (Snapshot.ofReading name reading) :=
    rfl
  rw [read, readingOfParts_reading]
  show (if reading.remaining = missingKey then _ else _) = _
  unfold Store.snapshotOf
  by_cases missing : reading.remaining = missingKey
  · rw [if_pos missing, if_pos (told.mp missing)]
  · rw [if_neg missing, if_neg fun absent => missing (told.mpr absent)]

/-- The lease of an entry, if there is one, is never counted as missing. -/
theorem remaining_read (now : Nat) (keys : KeyPair) (sight : Sight) :
    (sight.read now keys).remaining = missingKey ↔
      (sight.read now keys).owner.isNone = true := by
  unfold Sight.read
  cases sight keys.owner with
  | none => exact ⟨fun _ => rfl, fun _ => rfl⟩
  | some entry =>
    refine ⟨fun missing => ?_, fun absent => by cases absent⟩
    obtain ⟨value, deadline⟩ := entry
    cases deadline <;> cases missing

end Server

end Leasehold
