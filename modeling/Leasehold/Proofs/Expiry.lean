/-
This file proves that every lease which a store within the process keeps runs out within the longest
one, however long a lease was asked for and whatever else was done to the store. What a reading says
of an owner key is therefore told by the way in which the key was written last: a value that is
there has no lease exactly if it was written as a payload, and otherwise the count is the time its
lease has left, in whole milliseconds. Where it counts, a store provides for a deadline that has
passed and for a time too long to be counted. Neither ever comes up: what has run out is dropped
before a reading, and the longest lease is far shorter than the largest count.
-/

import Leasehold.Proofs.Archive
import Leasehold.Proofs.Remains

namespace Leasehold

namespace Sight

variable {now : Nat} {sight : Sight} {keys : KeyPair}

theorem read_of_none (absent : sight keys.owner = none) :
    sight.read now keys = ⟨none, missingKey, (sight keys.data).map (·.value)⟩ := by
  rw [read, absent]
  rfl

theorem read_of_some {entry : Entry} (found : sight keys.owner = some entry) :
    sight.read now keys =
      ⟨some entry.value, entry.remaining now, (sight keys.data).map (·.value)⟩ := by
  rw [read, found]
  rfl

end Sight

namespace Store

/-! ### Writings -/

/-- How a value came to lie under a key. -/
inductive Writing where
  /-- With a lease that began at a moment. -/
  | leased (begun : Nat) (lease : Duration)
  /-- As a payload, which has no lease. -/
  | payload

/-- The moment from which what was written no longer counts, if there is one. -/
def Writing.deadline? : Writing → Option Nat
  | leased begun lease => some (deadline begun lease)
  | payload => none

/-- How a request wrote a key, going by its answer. Of the two keys of a lock the data key is
written last, which matters if they are one key. -/
def Request.writing? (now : Nat) (key : String) :
    (request : Request) → request.Answer → Option Writing
  | .setIfAbsent owner _ lease, .ok true => if owner = key then some (.leased now lease) else none
  | .set data _, .ok () => if data = key then some .payload else none
  | .refreshIfOwner keys _ lease _, .ok true =>
    if keys.data = key then some .payload
    else if keys.owner = key then some (.leased now lease)
    else none
  | _, _ => none

/-- How a use wrote a key, going by what came of it. -/
def Finding.writing? (now : Nat) (key : String) : Finding → Option Writing
  | .answer request told => request.writing? now key told
  | .number _ | .flag _ | .done => none

/-- An entry that a request puts under a key expires as the key was written, and a key that a
request leaves alone was not written. -/
theorem Request.map_writing? (now : Nat) (key : String) (request : Request)
    (answer : request.Answer) :
    (request.writing? now key answer).map Writing.deadline? =
      ((request.feat? now answer).bind (Feat.change? key)).join.map Entry.deadline := by
  cases request with
  | ping => rfl
  | setIfAbsent owner value lease =>
    obtain _ | (_ | _) := answer
    · rfl
    · rfl
    · simp only [writing?, feat?, Feat.confirmed, Option.bind_some, Feat.change?]
      split <;> rfl
  | set data value =>
    obtain _ | _ := answer
    · rfl
    · simp only [writing?, feat?, Feat.confirmed, Except.map, Option.bind_some, Feat.change?]
      split <;> rfl
  | releaseIfOwner keys id =>
    obtain _ | (_ | _) := answer
    · rfl
    · rfl
    · simp only [writing?, feat?, Feat.confirmed, Option.bind_some, Feat.change?]
      split
      · rfl
      · split <;> rfl
  | refreshIfOwner keys id lease payload =>
    obtain _ | (_ | _) := answer
    · rfl
    · rfl
    · simp only [writing?, feat?, Feat.confirmed, Option.bind_some, Feat.change?]
      split
      · rfl
      · split <;> rfl
  | read keys => obtain _ | _ := answer <;> rfl

/-- What a store holds under a key after a request lies there as the request wrote it, or the
request did not write the key and it lay there before. -/
theorem exists_writing_of_perform {key : String} {now : Nat} {request : Request} {store : Store}
    {entry : Entry} (found : (store.perform now request).2.entries.get? key = some entry) :
    (∃ writing, request.writing? now key (store.perform now request).1 = some writing ∧
        entry.deadline = writing.deadline?) ∨
      request.writing? now key (store.perform now request).1 = none ∧
        store.entries.get? key = some entry := by
  have written := request.map_writing? now key (store.perform now request).1
  rw [get?_perform key now 0 request store, Contact.remain, Contact.change?] at found
  cases changes : (request.feat? now (store.perform now request).1).bind (Feat.change? key) with
  | none =>
    rw [changes] at found written
    refine Or.inr ⟨Option.map_eq_none_iff.mp written, ?_⟩
    -- a store that can be reached has dropped what ran out, which puts nothing under the key
    split at found
    · exact get?_of_get?_live found
    · exact found
  | some put =>
    rw [changes] at found written
    obtain rfl : put = some entry := found
    obtain ⟨writing, wrote, deadline⟩ := Option.map_eq_some_iff.mp written
    exact Or.inl ⟨writing, wrote, deadline.symm⟩

/-- A lease that a request gave runs out within the longest one. -/
theorem Request.deadline_le {now : Nat} {key : String} {request : Request}
    {answer : request.Answer} {writing : Writing} {deadline : Nat}
    (wrote : request.writing? now key answer = some writing)
    (ends : writing.deadline? = some deadline) :
    deadline ≤ now + Duration.longestLease.nanos := by
  have written := request.map_writing? now key answer
  rw [wrote, Option.map_some, ends, eq_comm, Option.map_eq_some_iff] at written
  obtain ⟨⟨value, _⟩, put, rfl⟩ := written
  let contact : Contact := ⟨now, 0, request, answer⟩
  have changed : contact.change? key = some (some ⟨value, some deadline⟩) :=
    Option.join_eq_some_iff.mp put
  exact Contact.deadline_le changed

/-! ### Uses -/

section Uses

variable {key : String} {now : Nat} {use : Use} {store : Store}

theorem exists_writing_of_use {entry : Entry}
    (found : (store.use now use).2.entries.get? key = some entry) :
    (∃ writing, (store.use now use).1.writing? now key = some writing ∧
        entry.deadline = writing.deadline?) ∨
      (store.use now use).1.writing? now key = none ∧ store.entries.get? key = some entry := by
  cases use with
  | request request => exact exists_writing_of_perform found
  | count | isEmpty => exact Or.inr ⟨rfl, get?_of_get?_live found⟩
  | _ => exact Or.inr ⟨rfl, found⟩

theorem Use.deadline_le {writing : Writing} {deadline : Nat}
    (wrote : (store.use now use).1.writing? now key = some writing)
    (ends : writing.deadline? = some deadline) :
    deadline ≤ now + Duration.longestLease.nanos := by
  cases use with
  | request request => exact Request.deadline_le wrote ends
  | _ => cases wrote

end Uses

/-! ### Records -/

/-- A store at a moment, and how each key was written last, if it was. -/
structure Record where
  now : Nat
  store : Store
  last : String → Option Writing

namespace Record

/-- A store as it is made, in which no key was written yet. -/
def new (now : Nat) : Record := ⟨now, .empty, fun _ => none⟩

/-- The record after a use. -/
def use (record : Record) (use : Use) : Record :=
  let used := record.store.use record.now use
  { now := record.now + use.nanos
    store := used.2
    last := fun key => (used.1.writing? record.now key).or (record.last key) }

/-- The record after uses, one after the other. -/
def run (record : Record) (uses : List Use) : Record := uses.foldl use record

/-- Every entry expires as its key was written last, and no lease that was written last outlasts a
longest lease that begins now. -/
structure Kept (record : Record) : Prop where
  held : ∀ key entry, record.store.entries.get? key = some entry →
    ∃ writing, record.last key = some writing ∧ entry.deadline = writing.deadline?
  bounded : ∀ key writing deadline, record.last key = some writing →
    writing.deadline? = some deadline → deadline ≤ record.now + Duration.longestLease.nanos

theorem kept_new (now : Nat) : (new now).Kept where
  held _ _ found := nomatch found
  bounded _ _ _ written := nomatch written

theorem Kept.use {record : Record} (kept : record.Kept) (use : Use) : (record.use use).Kept where
  held key entry found := by
    obtain ⟨writing, wrote, expires⟩ | ⟨unwritten, before⟩ := exists_writing_of_use found
    · exact ⟨writing, Option.or_eq_some_iff.mpr (Or.inl wrote), expires⟩
    · obtain ⟨writing, wrote, expires⟩ := kept.held key entry before
      exact ⟨writing, Option.or_eq_some_iff.mpr (Or.inr ⟨unwritten, wrote⟩), expires⟩
  bounded key writing deadline last ends := by
    have later : record.now ≤ (record.use use).now := Nat.le_add_right record.now use.nanos
    have bound : deadline ≤ record.now + Duration.longestLease.nanos := by
      obtain wrote | ⟨-, before⟩ := Option.or_eq_some_iff.mp last
      · exact Use.deadline_le wrote ends
      · exact kept.bounded key writing deadline before ends
    exact Nat.le_trans bound (Nat.add_le_add_right later _)

theorem Kept.run {record : Record} (kept : record.Kept) (uses : List Use) :
    (record.run uses).Kept := by
  induction uses generalizing record with
  | nil => exact kept
  | cons first rest inductionHypothesis => exact inductionHypothesis (kept.use first)

/-! ### Readings -/

/-- A count is the time that is left until a deadline in whole milliseconds, rounded down. The
deadline is ahead, so that the time is not cut off at zero, and so near that the count is not cut
off at the largest one. -/
structure Counts (now deadline : Nat) (remaining : Int) : Prop where
  ahead : now < deadline
  fits : (deadline - now) / nanosPerMilli ≤ Duration.largestMillis
  nonneg : 0 ≤ remaining
  le_longest : remaining ≤ Duration.longestLease.millis
  within : remaining * nanosPerMilli ≤ (deadline : Int) - now
  near : (deadline : Int) - now < (remaining + 1) * nanosPerMilli

theorem counts_remaining {now deadline : Nat} (value : String) (ahead : now < deadline)
    (bounded : deadline ≤ now + Duration.longestLease.nanos) :
    Counts now deadline (Entry.remaining now ⟨value, some deadline⟩) := by
  have few : (deadline - now) / nanosPerMilli ≤ Duration.longestLease.millis :=
    Nat.div_le_div_right (Nat.sub_le_iff_le_add'.mpr bounded)
  have fits : (deadline - now) / nanosPerMilli ≤ Duration.largestMillis :=
    Nat.le_trans few (by decide)
  have counted : Entry.remaining now ⟨value, some deadline⟩ =
      ((deadline - now) / nanosPerMilli : Nat) :=
    congrArg Int.ofNat (Nat.min_eq_left fits)
  have span : (deadline : Int) - now = (deadline - now : Nat) := by omega
  have positive : (0 : Int) < nanosPerMilli := by decide
  rw [counted]
  constructor
  case ahead => exact ahead
  case fits => exact fits
  case nonneg => exact Int.natCast_nonneg _
  case le_longest => exact Int.ofNat_le.mpr few
  case within =>
    rw [span, Int.natCast_ediv]
    exact Int.ediv_mul_le _ (Int.ne_of_gt positive)
  case near =>
    rw [span, Int.natCast_ediv]
    exact Int.lt_ediv_add_one_mul_self _ positive

theorem Counts.ne_of_neg {now deadline : Nat} {remaining other : Int}
    (counts : Counts now deadline remaining) (negative : other < 0) : remaining ≠ other :=
  Int.ne_of_gt (Int.lt_of_lt_of_le negative counts.nonneg)

/-- What a reading says of an owner key is borne out by a record. -/
structure Confirms (record : Record) (keys : KeyPair) (reading : Reading) : Prop where
  owner : reading.owner = (record.store.entries.seen record.now keys.owner).map (·.value)
  missing : reading.remaining = missingKey ↔ reading.owner = none
  unleased : reading.remaining = neverExpires ↔
    reading.owner.isSome = true ∧ record.last keys.owner = some .payload
  leased : reading.remaining ≠ missingKey → reading.remaining ≠ neverExpires →
    ∃ value begun lease,
      record.store.entries.get? keys.owner = some ⟨value, some (deadline begun lease)⟩ ∧
        record.last keys.owner = some (.leased begun lease) ∧
        Counts record.now (deadline begun lease) reading.remaining

/-- A reading of what a record has kept is borne out by the record. -/
theorem Kept.confirms {record : Record} (kept : record.Kept) (keys : KeyPair) :
    record.Confirms keys ((record.store.entries.seen record.now).read record.now keys) := by
  have apart : missingKey ≠ neverExpires := by decide
  cases seen : record.store.entries.seen record.now keys.owner with
  | none =>
    rw [Sight.read_of_none seen]
    constructor
    case owner => rw [seen, Option.map_none]
    case missing => exact iff_of_true rfl rfl
    case unleased => exact iff_of_false apart (by simp)
    case leased => exact fun present => absurd rfl present
  | some entry =>
    obtain ⟨found, live⟩ := Option.filter_eq_some_iff.mp seen
    obtain ⟨writing, last, expires⟩ := kept.held keys.owner entry found
    rw [Sight.read_of_some seen]
    obtain ⟨value, _⟩ := entry
    obtain rfl := expires
    have present : some value ≠ none := Option.some_ne_none value
    -- whether the entry has a deadline is told by the last writing, which is on record
    cases writing with
    | payload =>
      constructor
      case owner => rw [seen, Option.map_some]
      case missing => exact iff_of_false apart.symm present
      case unleased => exact iff_of_true rfl ⟨rfl, last⟩
      case leased => exact fun _ leased => absurd rfl leased
    | leased begun lease =>
      have counts : Counts record.now (deadline begun lease) _ :=
        counts_remaining value (of_decide_eq_true live) (kept.bounded keys.owner _ _ last rfl)
      constructor
      case owner => rw [seen, Option.map_some]
      case missing => exact iff_of_false (counts.ne_of_neg (by decide)) present
      case unleased => exact iff_of_false (counts.ne_of_neg (by decide)) (by simp [last])
      case leased => exact fun _ _ => ⟨value, begun, lease, found, last, counts⟩

end Record

/-- A store that can be reached reads what is seen of it. -/
theorem perform_read {store : Store} (available : store.available = true) (now : Nat)
    (keys : KeyPair) :
    (store.perform now (.read keys)).1 = .ok ((store.entries.seen now).read now keys) := by
  have shows : store.Shows now store.switches (store.entries.seen now) := ⟨rfl, rfl⟩
  have spared : store.switches.fault? (Request.read keys).isPlain = none := by
    rw [Switches.fault?, switches, available, if_pos rfl]
    rfl
  rw [(shows.perform (.read keys)).1, Sight.perform_of_none spared]
  rfl

/-- Take any uses of a store that begins empty, for leases of any length, with any time passing
between them. Every entry that expires does so within the longest lease from now. A reading is given
if the store can be reached, and the record of the uses bears out what it says. -/
theorem stored_leases_bounded (start : Nat) (uses : List Use) :
    let record := (Record.new start).run uses
    (∀ key entry deadline, record.store.entries.get? key = some entry →
        entry.deadline = some deadline →
          deadline ≤ record.now + Duration.longestLease.nanos) ∧
      ∀ keys,
        (record.store.available = true → ∃ reading,
          (record.store.perform record.now (.read keys)).1 = .ok reading ∧
            record.Confirms keys reading) ∧
        (record.store.available = false →
          (record.store.perform record.now (.read keys)).1 = .error .unavailable) := by
  intro record
  have kept : record.Kept := (Record.kept_new start).run uses
  constructor
  · intro key entry deadline found ends
    obtain ⟨writing, last, expires⟩ := kept.held key entry found
    exact kept.bounded key writing deadline last (expires.symm.trans ends)
  · intro keys
    constructor
    · exact fun available => ⟨_, perform_read available record.now keys, kept.confirms keys⟩
    · intro unavailable
      rw [perform_of_unavailable (Bool.not_eq_true _ ▸ unavailable)]

/-- Somebody takes a lock for the longest span there is and then renews it for as long, and a moment
passes. -/
def capped : List Use :=
  [.request (.setIfAbsent "app:job" "A" .longest),
    .request (.refreshIfOwner ⟨"app:job", "app:job:data"⟩ "A" .longest "a"), .advance 1]

theorem stored_leases_bounded_capped :
    let record := (Record.new 0).run capped
    record.store.entries.get? "app:job" = some ⟨"A", some Duration.longestLease.nanos⟩ ∧
      Duration.longestLease.nanos ≤ record.now + Duration.longestLease.nanos ∧
      record.store.available = true ∧
      record.Confirms ⟨"app:job", "app:job:data"⟩
        ⟨some "A", Duration.longestLease.millis - 1, some "a"⟩ ∧
      record.Confirms ⟨"app:job:data", "app:job:data:data"⟩ ⟨some "a", neverExpires, none⟩ ∧
      record.Confirms ⟨"app:other", "app:other:data"⟩ ⟨none, missingKey, none⟩ := by
  intro record
  have entry : record.store.entries.get? "app:job" = some ⟨"A", some Duration.longestLease.nanos⟩ :=
    rfl
  have available : record.store.available = true := rfl
  obtain ⟨bounded, read⟩ := stored_leases_bounded 0 capped
  have confirmed {keys : KeyPair} {reading : Reading}
      (answered : (record.store.perform record.now (.read keys)).1 = .ok reading) :
      record.Confirms keys reading := by
    obtain ⟨given, told, confirms⟩ := (read keys).1 available
    obtain rfl := Except.ok.inj (told.symm.trans answered)
    exact confirms
  have counted : Entry.remaining 1 ⟨"A", some (deadline 0 .longest)⟩ =
      Duration.longestLease.millis - 1 := by decide
  have holder : record.Confirms ⟨"app:job", "app:job:data"⟩
      ⟨some "A", Entry.remaining 1 ⟨"A", some (deadline 0 .longest)⟩, some "a"⟩ := confirmed rfl
  rw [counted] at holder
  exact ⟨entry, bounded _ _ _ entry rfl, available, holder, confirmed rfl, confirmed rfl⟩

end Store

end Leasehold
