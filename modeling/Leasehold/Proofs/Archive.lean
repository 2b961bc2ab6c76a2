/-
This file proves that nobody can tell when a store within the process drops entries that have run
out. An archive is the store one would write down if it did not matter how many entries are kept:
it never drops an entry because of its age, takes one for absent from the moment of its deadline
on, and touches no keys but those that an operation names. A store drops expired entries of all
keys, at some operations and not at others, so that the two hold different entries most of the
time. What is seen of them at any moment is the same, and all answers depend on that alone.
-/

import Leasehold.Proofs.StoreSight
import Mathlib.Data.List.Nodup

namespace Leasehold

/-! ### Archives -/

/-- A store that keeps entries after they have run out. -/
structure Archive where
  entries : Entries
  available : Bool
  failingWrites : Bool
  operations : UInt64

/-- Whether the deadline of an entry has come. -/
def Entry.hasRunOut (now : Nat) (entry : Entry) : Bool := entry.deadline.any (· ≤ now)

namespace Archive

/-- An archive that begins as a store is. -/
def ofStore (store : Store) : Archive :=
  ⟨store.entries, store.available, store.failingWrites, store.operations⟩

/-- The entry that is read for a key: none if it has run out. -/
def find? (now : Nat) (key : String) (entries : Entries) : Option Entry :=
  (entries.get? key).filter fun entry => !entry.hasRunOut now

/-- Whether the entry that is read for a key has a value. -/
def holds (now : Nat) (key value : String) (entries : Entries) : Bool :=
  (find? now key entries).any (·.value = value)

/-- Removes the entry that is read for a key. One that has run out is not there to be removed. -/
def remove (now : Nat) (key : String) (entries : Entries) : Entries :=
  if (find? now key entries).isSome then entries.erase key else entries

/-- Reads both entries of a lock. -/
def read (now : Nat) (keys : KeyPair) (entries : Entries) : Reading where
  owner := (find? now keys.owner entries).map (·.value)
  remaining := ((find? now keys.owner entries).map (·.remaining now)).getD missingKey
  data := (find? now keys.data entries).map (·.value)

/-- What a request does to the entries of an archive that can be reached. -/
def act (now : Nat) (failingWrites : Bool) :
    (request : Store.Request) → Entries → request.Answer × Entries
  | .ping, entries => (.ok (), entries)
  | .setIfAbsent key value lease, entries =>
    if (find? now key entries).isSome then (.ok false, entries)
    else (.ok true, entries.insert key ⟨value, some (Store.deadline now lease)⟩)
  | .set key value, entries =>
    if failingWrites then (.error .writeRejected, entries)
    else (.ok (), entries.insert key ⟨value, none⟩)
  | .releaseIfOwner keys id, entries =>
    if holds now keys.owner id entries then
      (.ok true, remove now keys.data (remove now keys.owner entries))
    else (.ok false, entries)
  | .refreshIfOwner keys id lease payload, entries =>
    if holds now keys.owner id entries then
      (.ok true,
        (entries.insert keys.owner ⟨id, some (Store.deadline now lease)⟩).insert keys.data
          ⟨payload, none⟩)
    else (.ok false, entries)
  | .read keys, entries => (.ok (read now keys entries), entries)

/-- Performs a request at a moment. -/
def perform (now : Nat) (request : Store.Request) (archive : Archive) :
    request.Answer × Archive :=
  let counted := { archive with operations := archive.operations + 1 }
  if archive.available then
    let (answer, entries) := act now archive.failingWrites request archive.entries
    (answer, { counted with entries })
  else (.error .unavailable, counted)

/-- The number of keys for which an entry is read. -/
def count (now : Nat) (archive : Archive) : Nat :=
  (archive.entries.rows.filter fun row => !row.2.hasRunOut now).length

end Archive

/-! ### Uses -/

namespace Store

/-- What can be done to a store, and what can be asked about it. -/
inductive Use where
  | request (request : Request)
  | count
  | isEmpty
  | isAvailable
  /-- How many requests were counted. -/
  | operations
  | setAvailable (available : Bool)
  | setWriteFailures (failingWrites : Bool)
  /-- Time passes, in nanoseconds. -/
  | advance (nanos : Nat)

/-- What comes of a use. -/
inductive Finding where
  | answer (request : Request) (answer : request.Answer)
  | number (count : Nat)
  | flag (flag : Bool)
  | done

/-- The time that a use takes. -/
def Use.nanos : Use → Nat
  | advance nanos => nanos
  | _ => 0

/-- The keys that a use names. -/
def Use.keys : Use → List String
  | request (.setIfAbsent key ..) | request (.set key _) => [key]
  | request (.releaseIfOwner keys _) | request (.refreshIfOwner keys ..) | request (.read keys) =>
    [keys.owner, keys.data]
  | _ => []

/-- Uses a store at a moment. -/
def use (now : Nat) (store : Store) : Use → Finding × Store
  | .request request =>
    let (answer, store) := store.perform now request
    (.answer request answer, store)
  | .count =>
    let (count, store) := store.count now
    (.number count, store)
  | .isEmpty =>
    let (empty, store) := store.isEmpty now
    (.flag empty, store)
  | .isAvailable => (.flag store.available, store)
  | .operations => (.number store.operations.toNat, store)
  | .setAvailable available => (.done, store.setAvailable available)
  | .setWriteFailures failingWrites => (.done, store.setWriteFailures failingWrites)
  | .advance _ => (.done, store)

/-- What comes of uses, one after the other, beginning at a moment. -/
def findings {State : Type} (use : (now : Nat) → State → Use → Finding × State) :
    (now : Nat) → State → List Use → List Finding
  | _, _, [] => []
  | now, state, first :: rest =>
    let used := use now state first
    used.1 :: findings use (now + first.nanos) used.2 rest

end Store

namespace Archive

/-- Uses an archive at a moment. -/
def use (now : Nat) (archive : Archive) : Store.Use → Store.Finding × Archive
  | .request request =>
    let (answer, archive) := archive.perform now request
    (.answer request answer, archive)
  | .count => (.number (archive.count now), archive)
  | .isEmpty => (.flag (archive.count now == 0), archive)
  | .isAvailable => (.flag archive.available, archive)
  | .operations => (.number archive.operations.toNat, archive)
  | .setAvailable available => (.done, { archive with available })
  | .setWriteFailures failingWrites => (.done, { archive with failingWrites })
  | .advance _ => (.done, archive)

/-! ### What an archive keeps -/

variable {now : Nat} {entries : Entries} {key : String}

theorem get?_remove_of_ne {removed : String} (apart : key ≠ removed) :
    (remove now removed entries).get? key = entries.get? key := by
  unfold remove
  split
  · rw [Table.get?_erase, if_neg apart]
  · rfl

theorem get?_remove_of_hasRunOut {entry : Entry} (found : entries.get? key = some entry)
    (old : entry.hasRunOut now = true) (removed : String) :
    (remove now removed entries).get? key = some entry := by
  by_cases same : key = removed
  · subst same
    have unread : find? now key entries = none := by
      rw [find?, found, Option.filter_some_neg (by rw [old]; rfl)]
    rw [remove, unread]
    exact found
  · rw [get?_remove_of_ne same, found]

theorem get?_insert_of_ne {inserted : String} (apart : key ≠ inserted) (entry : Entry) :
    (entries.insert inserted entry).get? key = entries.get? key := by
  rw [Table.get?_insert, if_neg apart]

theorem isSome_get?_insert {entry : Entry} (found : (entries.get? key).isSome = true)
    (inserted : String) : ((entries.insert inserted entry).get? key).isSome = true := by
  rw [Table.get?_insert]
  split
  · rfl
  · exact found

/-- A request changes nothing under a key that it does not name. -/
theorem get?_act (failingWrites : Bool) {request : Store.Request}
    (unnamed : key ∉ (Store.Use.request request).keys) (entries : Entries) :
    (act now failingWrites request entries).2.get? key = entries.get? key := by
  cases request with
  | ping | read => rfl
  | setIfAbsent owner value lease =>
    have apart : key ≠ owner := fun same => unnamed (List.mem_singleton.mpr same)
    simp only [act]
    split
    · rfl
    · exact get?_insert_of_ne apart _
  | set data value =>
    have apart : key ≠ data := fun same => unnamed (List.mem_singleton.mpr same)
    simp only [act]
    split
    · rfl
    · exact get?_insert_of_ne apart _
  | releaseIfOwner keys id =>
    obtain ⟨owner, data⟩ : key ≠ keys.owner ∧ key ≠ keys.data := by
      simpa [Store.Use.keys] using unnamed
    simp only [act]
    split
    · rw [get?_remove_of_ne data, get?_remove_of_ne owner]
    · rfl
  | refreshIfOwner keys id lease payload =>
    obtain ⟨owner, data⟩ : key ≠ keys.owner ∧ key ≠ keys.data := by
      simpa [Store.Use.keys] using unnamed
    simp only [act]
    split
    · rw [get?_insert_of_ne data, get?_insert_of_ne owner]
    · rfl

/-- A request leaves an entry that has run out where it is, or puts another in its place. -/
theorem isSome_get?_act (failingWrites : Bool) (request : Store.Request) {entry : Entry}
    (found : entries.get? key = some entry) (old : entry.hasRunOut now = true) :
    ((act now failingWrites request entries).2.get? key).isSome = true := by
  have kept : (entries.get? key).isSome = true := by rw [found]; rfl
  cases request with
  | ping | read => exact kept
  | setIfAbsent owner value lease =>
    simp only [act]
    split
    · exact kept
    · exact isSome_get?_insert kept owner
  | set data value =>
    simp only [act]
    split
    · exact kept
    · exact isSome_get?_insert kept data
  | releaseIfOwner keys id =>
    simp only [act]
    split
    · rw [get?_remove_of_hasRunOut (get?_remove_of_hasRunOut found old _) old]
      rfl
    · exact kept
  | refreshIfOwner keys id lease payload =>
    simp only [act]
    split
    · exact isSome_get?_insert (isSome_get?_insert kept keys.owner) keys.data
    · exact kept

/-- An archive changes nothing under a key that a use does not name, and it removes no entry
because that has run out. -/
structure Retentive : Prop where
  unnamed : ∀ (now : Nat) (archive : Archive) (use : Store.Use) (key : String), key ∉ use.keys →
    (archive.use now use).2.entries.get? key = archive.entries.get? key
  kept : ∀ (now : Nat) (archive : Archive) (use : Store.Use) (key : String) (entry : Entry),
    archive.entries.get? key = some entry → entry.hasRunOut now = true →
      ((archive.use now use).2.entries.get? key).isSome = true

theorem retentive : Retentive where
  unnamed now archive use key unnamed := by
    cases use with
    | request request =>
      unfold Archive.use perform
      dsimp only
      split
      · exact get?_act _ unnamed archive.entries
      · rfl
    | _ => rfl
  kept now archive use key entry found old := by
    have kept : (archive.entries.get? key).isSome = true := by rw [found]; rfl
    cases use with
    | request request =>
      unfold Archive.use perform
      dsimp only
      split
      · exact isSome_get?_act _ request found old
      · exact kept
    | _ => exact kept

/-! ### What is seen of an archive -/

theorem isLive_eq (now : Nat) (entry : Entry) : entry.isLive now = !entry.hasRunOut now := by
  obtain ⟨value, deadline⟩ := entry
  cases deadline with
  | none => rfl
  | some deadline =>
    simp only [Entry.isLive, Entry.hasRunOut, Option.any_some]
    by_cases passed : deadline ≤ now
    · rw [decide_eq_true passed, decide_eq_false (Nat.not_lt.mpr passed)]
      rfl
    · rw [decide_eq_false passed, decide_eq_true (Nat.lt_of_not_le passed)]
      rfl

theorem find?_eq (now : Nat) (key : String) (entries : Entries) :
    find? now key entries = entries.seen now key := by
  rw [find?, Entries.seen]
  congr 1
  exact funext fun entry => (isLive_eq now entry).symm

theorem holds_eq (now : Nat) (key value : String) (entries : Entries) :
    holds now key value entries = (entries.seen now).holds key value := by
  rw [holds, find?_eq]
  rfl

theorem read_eq (now : Nat) (keys : KeyPair) (entries : Entries) :
    read now keys entries = (entries.seen now).read now keys := by
  rw [read, find?_eq, find?_eq]
  rfl

theorem seen_remove (now : Nat) (key : String) (entries : Entries) :
    (remove now key entries).seen now = (entries.seen now).drop key := by
  unfold remove
  split
  · exact Entries.seen_erase key
  next unread =>
    rw [find?_eq, Option.not_isSome_iff_eq_none] at unread
    rw [Sight.drop, ← unread, Function.update_eq_self]

/-- A request does to what is seen of an archive what it does to what is seen of a store. -/
theorem act_eq {failingWrites : Bool} {request : Store.Request}
    (unimpeded : (request.isPlain && failingWrites) = false) (entries : Entries) :
    (act now failingWrites request entries).1 = .ok ((entries.seen now).act now request).1 ∧
      (act now failingWrites request entries).2.seen now =
        ((entries.seen now).act now request).2 := by
  cases request with
  | ping => exact ⟨rfl, rfl⟩
  | setIfAbsent key value lease =>
    simp only [act, Sight.act, Sight.takeIfAbsent, find?_eq]
    split
    · exact ⟨rfl, rfl⟩
    · exact ⟨rfl, Entries.seen_insert key _⟩
  | set key value =>
    have writes : failingWrites = false := unimpeded
    rw [writes]
    exact ⟨rfl, Entries.seen_insert key _⟩
  | releaseIfOwner keys id =>
    simp only [act, Sight.act, Sight.releaseIfHeld, holds_eq]
    split
    · exact ⟨rfl, by rw [seen_remove, seen_remove]⟩
    · exact ⟨rfl, rfl⟩
  | refreshIfOwner keys id lease payload =>
    simp only [act, Sight.act, Sight.rearmIfHeld, holds_eq]
    split
    · exact ⟨rfl, by rw [Entries.seen_insert, Entries.seen_insert]⟩
    · exact ⟨rfl, rfl⟩
  | read keys => exact ⟨congrArg Except.ok (read_eq now keys entries), rfl⟩

theorem act_of_impeded {failingWrites : Bool} {request : Store.Request}
    (impeded : (request.isPlain && failingWrites) = true) (entries : Entries) :
    act now failingWrites request entries = (.error .writeRejected, entries) := by
  rw [Bool.and_eq_true] at impeded
  cases request with
  | set key value => exact if_pos impeded.2
  | _ => cases impeded.1

/-- As many entries are read in an archive as are live in a store of which the same is seen. -/
theorem size_live {entries kept : Entries} (same : entries.seen now = kept.seen now) :
    (entries.live now).size = (kept.rows.filter fun row => !row.2.hasRunOut now).length := by
  have reads : (kept.rows.filter fun row => !row.2.hasRunOut now) = (kept.live now).rows := by
    refine List.filter_congr fun row _ => ?_
    exact (isLive_eq now row.2).symm
  have nodup (table : Entries) : table.rows.Nodup := List.Nodup.of_map Prod.fst table.distinct
  have alike : (entries.live now).rows.Perm (kept.live now).rows := by
    rw [List.perm_ext_iff_of_nodup (nodup _) (nodup _)]
    intro row
    rw [← Table.get?_eq_some_iff, ← Table.get?_eq_some_iff, Entries.get?_live, Entries.get?_live,
      same]
  rw [reads]
  exact alike.length_eq

/-! ### Stores and archives -/

/-- A store and an archive of which the same is seen at a moment. -/
structure Matches (now : Nat) (store : Store) (archive : Archive) : Prop where
  seen : store.entries.seen now = archive.entries.seen now
  available : store.available = archive.available
  failingWrites : store.failingWrites = archive.failingWrites
  operations : store.operations = archive.operations

namespace Matches

variable {store : Store} {archive : Archive}

theorem later (alike : Matches now store archive) (passed : Nat) :
    Matches (now + passed) store archive := by
  refine { alike with seen := ?_ }
  rw [Entries.seen_later (Nat.le_add_right now passed), alike.seen,
    ← Entries.seen_later (Nat.le_add_right now passed)]

/-- A request is answered alike, and the same is seen after it. -/
theorem perform (alike : Matches now store archive) (request : Store.Request) :
    (store.perform now request).1 = (archive.perform now request).1 ∧
      Matches now (store.perform now request).2 (archive.perform now request).2 := by
  obtain ⟨seen, available, failingWrites, operations⟩ := alike
  have counted : store.operations + 1 = archive.operations + 1 := congrArg (· + 1) operations
  unfold Store.perform Archive.perform
  rw [available, failingWrites]
  split
  · by_cases impeded : (request.isPlain && archive.failingWrites) = true
    · rw [Store.act_of_impeded impeded, act_of_impeded impeded]
      exact ⟨rfl, Entries.seen_live.trans seen, rfl, rfl, counted⟩
    · have unimpeded := eq_false_of_ne_true impeded
      obtain ⟨answered, after⟩ := @act_eq now _ _ unimpeded archive.entries
      rw [← seen] at answered after
      exact ⟨(Store.act_fst unimpeded _).trans answered.symm,
        (Store.seen_act unimpeded _).trans after.symm, rfl, rfl, counted⟩
  · exact ⟨rfl, seen, rfl, rfl, counted⟩

/-- Counting the live entries of a store drops the others, which cannot be seen. -/
theorem count (alike : Matches now store archive) :
    (store.count now).1 = archive.count now ∧ Matches now (store.count now).2 archive :=
  ⟨size_live alike.seen, { alike with seen := Entries.seen_live.trans alike.seen }⟩

/-- The same comes of every use, and the same is seen after it. -/
theorem use (alike : Matches now store archive) (use : Store.Use) :
    (store.use now use).1 = (archive.use now use).1 ∧
      Matches (now + use.nanos) (store.use now use).2 (archive.use now use).2 := by
  cases use with
  | request request =>
    obtain ⟨answered, after⟩ := alike.perform request
    exact ⟨congrArg (Store.Finding.answer request) answered, after⟩
  | count => exact ⟨congrArg Store.Finding.number alike.count.1, alike.count.2⟩
  | isEmpty =>
    exact ⟨congrArg (fun count => Store.Finding.flag (count == 0)) alike.count.1, alike.count.2⟩
  | isAvailable => exact ⟨congrArg Store.Finding.flag alike.available, alike⟩
  | operations =>
    exact ⟨congrArg (fun count : UInt64 => Store.Finding.number count.toNat) alike.operations,
      alike⟩
  | setAvailable available => exact ⟨rfl, { alike with available := rfl }⟩
  | setWriteFailures failingWrites => exact ⟨rfl, { alike with failingWrites := rfl }⟩
  | advance nanos => exact ⟨rfl, alike.later nanos⟩

/-- The same comes of all uses, one after the other. -/
theorem findings (alike : Matches now store archive) (uses : List Store.Use) :
    Store.findings Store.use now store uses = Store.findings Archive.use now archive uses := by
  induction uses generalizing now store archive with
  | nil => rfl
  | cons first rest inductionHypothesis =>
    obtain ⟨found, after⟩ := alike.use first
    simp only [Store.findings, found, inductionHypothesis after]

end Matches

end Archive

/-- Whatever is done to a store and asked about it, with any time passing in between, the same
comes of it as of an archive that begins as the store is. -/
theorem sweeping_unobservable :
    Archive.Retentive ∧ ∀ (now : Nat) (store : Store) (uses : List Store.Use),
      Store.findings Store.use now store uses =
        Store.findings Archive.use now (Archive.ofStore store) uses := by
  refine ⟨Archive.retentive, fun now store uses => ?_⟩
  have alike : Archive.Matches now store (Archive.ofStore store) := ⟨rfl, rfl, rfl, rfl⟩
  exact alike.findings uses

end Leasehold
