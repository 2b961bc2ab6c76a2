/-
This file proves what can be told of a lock from what a server answers to the script that reads it.
A server may answer anything. The answer either cannot be read, which is an error of the store, or
gives a snapshot of the lock in which some lease is left exactly if the lock is acquired. The three
parts of an answer are read one by one, and only a lease that counts as missing makes the lock free:
an answer with a lease but without a holder gives a lock that is held by nobody. No other answer
does, and a server does not give this one by itself.
-/

import Leasehold.Proofs.Passages
import Leasehold.Proofs.ServerSight
import Leasehold.Proofs.Shown
import Leasehold.Server.Backend

namespace Leasehold

namespace Server

/-! ### Parts of a reply -/

theorem textOfPart_eq_none_iff {part : String} {reply : Reply} :
    textOfPart part reply = .ok none ↔ reply = .null := by
  unfold textOfPart
  split
  · simp
  · split <;> simp
  · split <;> simp_all

theorem readingOfParts_eq_ok_iff {owner remaining data : Reply} {reading : Reading} :
    readingOfParts owner remaining data = .ok reading ↔
      textOfPart "owner" owner = .ok reading.owner ∧
        remaining.integer? = some reading.remaining ∧
        textOfPart "data" data = .ok reading.data := by
  obtain ⟨holder, count, payload⟩ := reading
  unfold readingOfParts
  cases textOfPart "owner" owner <;> cases remaining.integer? <;>
    cases textOfPart "data" data <;> simp [bind, Except.bind]

/-- A reading in which a missing lease leaves no holder either. -/
def settled (reading : Reading) : Reading :=
  if reading.remaining = missingKey then { reading with owner := none } else reading

theorem snapshotOfReply_parts (name : String) (owner remaining data : Reply) :
    snapshotOfReply name (.array [owner, remaining, data]) =
      (readingOfParts owner remaining data).map (Snapshot.ofReading name ∘ settled) := by
  have read : snapshotOfReply name (.array [owner, remaining, data]) =
      (readingOfParts owner remaining data).bind fun reading =>
        if reading.remaining = missingKey then
          .ok { Snapshot.unacquired name with data := reading.data }
        else .ok (Snapshot.ofReading name reading) :=
    rfl
  rw [read]
  cases readingOfParts owner remaining data with
  | error fault => rfl
  | ok reading =>
    obtain ⟨holder, count, payload⟩ := reading
    simp only [Except.bind, Except.map, Function.comp_apply, settled]
    split
    next missing =>
      obtain rfl : count = missingKey := missing
      simp only [Snapshot.unacquired, Snapshot.ofReading]
    next => rfl

/-- The replies that can be read are nothing at all, and arrays of three parts that can be read. -/
theorem snapshotOfReply_eq_ok_iff {name : String} {reply : Reply} {snapshot : Snapshot} :
    snapshotOfReply name reply = .ok snapshot ↔
      (reply = .null ∧ snapshot = .unacquired name) ∨
        ∃ owner remaining data reading, reply = .array [owner, remaining, data] ∧
          readingOfParts owner remaining data = .ok reading ∧
          snapshot = .ofReading name (settled reading) := by
  constructor
  · intro read
    have shaped : (∃ owner remaining data, reply = .array [owner, remaining, data]) ∨
        reply = .null := by
      unfold snapshotOfReply at read
      split at read
      · exact Or.inl ⟨_, _, _, rfl⟩
      · exact Or.inr rfl
      · cases read
    rcases shaped with ⟨owner, remaining, data, rfl⟩ | rfl
    · rw [snapshotOfReply_parts] at read
      cases parts : readingOfParts owner remaining data with
      | error fault =>
        rw [parts] at read
        cases read
      | ok reading =>
        rw [parts] at read
        exact Or.inr ⟨owner, remaining, data, reading, rfl, parts, (Except.ok.inj read).symm⟩
    · exact Or.inl ⟨rfl, (Except.ok.inj read).symm⟩
  · rintro (⟨rfl, rfl⟩ | ⟨owner, remaining, data, reading, rfl, parts, rfl⟩)
    · rfl
    · rw [snapshotOfReply_parts, parts]
      rfl

/-! ### Snapshots in replies -/

/-- A reply counts a lease but names no holder for it. -/
def Unclaimed (reply : Reply) : Prop :=
  ∃ remaining data count, reply = .array [.null, remaining, data] ∧
    remaining.integer? = some count ∧ 0 < count

/-- A snapshot tells of a lock what can be told from a reply. -/
structure Tells (lock : Lock) (reply : Reply) (snapshot : Snapshot) : Prop where
  name : snapshot.name = lock.name
  acquired : snapshot.acquired = true ↔ 0 < snapshot.ttl.nanos
  unclaimed : snapshot.acquired = true ∧ snapshot.owner = none ↔ Unclaimed reply
  absent : snapshot.owner = none → ¬ Unclaimed reply →
    snapshot.acquired = false ∧ snapshot.ttl = .zero

theorem acquired_ofReading (name : String) (reading : Reading) :
    (Snapshot.ofReading name reading).acquired = true ↔ 0 < reading.remaining := by
  have counted : (Duration.ofRemaining reading.remaining).nanos = 0 ↔
      reading.remaining.toNat = 0 := Duration.nanos_ofMillis_eq_zero _
  simp only [Snapshot.ofReading, ne_eq, decide_eq_true_eq, counted]
  omega

/-- An answer with a lease and without a holder is the only one that comes out so. -/
theorem tells_ofReading (lock : Lock) {reply : Reply} {reading : Reading}
    (unclaimed : 0 < reading.remaining ∧ reading.owner = none ↔ Unclaimed reply) :
    Tells lock reply (Snapshot.ofReading lock.name reading) where
  name := rfl
  acquired := by
    simp only [Snapshot.ofReading, ne_eq, decide_eq_true_eq]
    omega
  unclaimed := by
    rw [acquired_ofReading]
    exact unclaimed
  absent ownerless claimed := by
    have spent : ¬ 0 < reading.remaining := fun lasting =>
      claimed (unclaimed.mp ⟨lasting, ownerless⟩)
    have nothing : reading.remaining.toNat = 0 := by omega
    constructor
    · exact eq_false_of_ne_true fun acquired => spent ((acquired_ofReading _ _).mp acquired)
    · exact Duration.ext ((Duration.nanos_ofMillis_eq_zero _).mpr nothing)

theorem unclaimed_parts {owner remaining data : Reply} {reading : Reading}
    (parts : readingOfParts owner remaining data = .ok reading) :
    0 < (settled reading).remaining ∧ (settled reading).owner = none ↔
      Unclaimed (.array [owner, remaining, data]) := by
  obtain ⟨held, counted, -⟩ := readingOfParts_eq_ok_iff.mp parts
  have kept : (settled reading).remaining = reading.remaining := by
    unfold settled
    split <;> rfl
  have lasting (positive : 0 < reading.remaining) : settled reading = reading :=
    if_neg fun missing => by
      rw [missing] at positive
      exact absurd positive (by decide)
  constructor
  · rintro ⟨positive, ownerless⟩
    rw [kept] at positive
    rw [lasting positive] at ownerless
    rw [ownerless, textOfPart_eq_none_iff] at held
    exact ⟨remaining, data, reading.remaining, by rw [held], counted, positive⟩
  · rintro ⟨_, _, count, same, found, positive⟩
    simp only [Reply.array.injEq, List.cons.injEq, and_true] at same
    obtain ⟨rfl, rfl, rfl⟩ := same
    obtain rfl := Option.some.inj (counted.symm.trans found)
    refine ⟨kept.symm ▸ positive, ?_⟩
    rw [lasting positive]
    exact (Except.ok.inj held).symm

theorem tells_of_read {lock : Lock} {reply : Reply} {snapshot : Snapshot}
    (read : snapshotOfReply lock.name reply = .ok snapshot) : Tells lock reply snapshot := by
  rcases snapshotOfReply_eq_ok_iff.mp read with
    ⟨rfl, rfl⟩ | ⟨owner, remaining, data, reading, rfl, parts, rfl⟩
  · refine tells_ofReading lock (iff_of_false ?_ ?_)
    · rintro ⟨positive, -⟩
      exact absurd positive (by decide)
    · rintro ⟨_, _, _, same, -⟩
      cases same
  · exact tells_ofReading lock (unclaimed_parts parts)

/-- Whatever answers the script, a connected client that looks at a lock gets an error of the store
or a snapshot that tells what the answer says. -/
theorem inspection_tells_reply {Service : Type}
    (perform : (request : Request) → Service → request.Answer × Service) (service : Service)
    (client : Client Endpoint) (lock : Lock) (connected : client.connected = true) :
    let result := ((dialect.inspectLock (some client) lock).run perform service).result
    (∃ cause, result = .error (.store cause)) ∨
      ∃ reply snapshot, (perform (.send (.inspect lock.keys)) service).1 = .ok reply ∧
        result = .ok snapshot ∧ Tells lock reply snapshot := by
  intro result
  have session : Dialect.session (some client) = .ok client.id := if_pos connected
  have asked : result = ((inspecting lock).run perform service).result := by
    show ((dialect.inspectLock (some client) lock).run perform service).result = _
    rw [Dialect.inspectLock, session]
    rfl
  rw [asked, inspecting, Program.run_ask]
  cases (perform (.send (.inspect lock.keys)) service).1 with
  | error failure => exact Or.inl ⟨.failure failure, rfl⟩
  | ok reply =>
    cases read : snapshotOfReply lock.name reply with
    | error fault =>
      refine Or.inl ⟨.reply fault, ?_⟩
      simp only [read, Program.run]
    | ok snapshot =>
      refine Or.inr ⟨reply, snapshot, rfl, ?_, tells_of_read read⟩
      simp only [read, Program.run]

/-- A server that answers the script once as if a client held the lock. -/
def custodian : Server :=
  { empty with
    prepared := [.fixed (.ok (.array [.text "A", .integer 4200, .text "payload"]))] }

theorem inspection_tells_reply_custodian :
    let client : Client Endpoint := ⟨0, "A", "app", true, default⟩
    ∃ reply snapshot,
      (perform 0 default (.send (.inspect (client.newLock "job").keys)) custodian).1 = .ok reply ∧
        ((dialect.inspectLock (some client) (client.newLock "job")).run (perform 0 default)
          custodian).result = .ok snapshot ∧
        Tells (client.newLock "job") reply snapshot := by
  intro client
  rcases inspection_tells_reply (perform 0 default) custodian client (client.newLock "job") rfl
    with ⟨cause, failed⟩ | told
  · cases failed
  · exact told

/-- A client looks at a lock, and the server answers with a lease but without a holder. -/
def vacancy : List (Step Settings Action) :=
  [.build "a" ⟨some "A", some "app"⟩ ⟨none, some .loopback, none, none, false⟩,
    .newLock "a" "mine" "job",
    .interfere (.prepare [.fixed (.ok (.array [.null, .integer 5000, .null]))])]

/-- A lock can be reported as held although nobody is named that holds it. -/
theorem vacant_lock_acquired :
    let session := (Session.start .empty fun _ => "").after backend vacancy
    ∃ snapshot, (session.step backend (.inspect "mine")).result = .snapshot snapshot ∧
      snapshot.acquired = true ∧ snapshot.owner = none :=
  ⟨_, rfl, rfl, rfl⟩

/-! ### Replies of a server's own -/

theorem not_unclaimed_readingReply (now : Nat) (keys : KeyPair) (sight : Sight) :
    ¬ Unclaimed (readingReply (sight.read now keys)) := by
  rintro ⟨_, _, count, same, counted, positive⟩
  simp only [readingReply, Reply.array.injEq, List.cons.injEq, and_true] at same
  obtain ⟨ownerless, rfl, -⟩ := same
  have absent : (sight.read now keys).owner.isNone = true := by
    cases held : (sight.read now keys).owner with
    | none => rfl
    | some owner =>
      rw [held] at ownerless
      cases ownerless
  have missing := (remaining_read now keys sight).mpr absent
  obtain rfl := Option.some.inj counted
  rw [missing] at positive
  exact absurd positive (by decide)

/-- What a server answers by itself never has a lease without a holder. -/
theorem not_unclaimed_act {now : Nat} {failingWrites : Bool} {keys : KeyPair}
    {entries : Entries} {reply : Reply}
    (answered : (act now failingWrites (.inspect keys) entries).1 = .ok reply) :
    ¬ Unclaimed reply := by
  rw [act_fst rfl] at answered
  obtain rfl := Except.ok.inj answered
  exact not_unclaimed_readingReply now keys (entries.seen now)

end Server

end Leasehold
