/-
This file says what can be seen of the entries of a store at a moment: of each key its live
entry. One store drops all expired entries at every request and another only the one it looks
at, and neither can be told from a store that keeps them for ever: dropping expired entries
leaves what is seen as it was. Each operation on entries is an operation on what is seen.
-/

import Leasehold.Entries
import Mathlib.Logic.Function.Basic

namespace Leasehold

/-- The live entry of each key. -/
abbrev Sight := String → Option Entry

namespace Sight

/-- What is left at a moment of what was seen. -/
def later (now : Nat) (sight : Sight) : Sight := fun key => (sight key).filter (·.isLive now)

/-- An entry put for a key. One that has run out is not seen. -/
def put (now : Nat) (key : String) (entry : Entry) (sight : Sight) : Sight :=
  Function.update sight key ((some entry).filter (·.isLive now))

/-- A key without entry. -/
def drop (key : String) (sight : Sight) : Sight := Function.update sight key none

/-- Whether the entry of a key holds a value. -/
def holds (key value : String) (sight : Sight) : Bool := (sight key).any (·.value = value)

/-- Puts an entry where none is seen, and says whether it did. -/
def takeIfAbsent (now : Nat) (key : String) (entry : Entry) (sight : Sight) : Bool × Sight :=
  if (sight key).isSome then (false, sight) else (true, sight.put now key entry)

/-- Removes both entries of a lock that an ID holds, and says whether it did. -/
def releaseIfHeld (keys : KeyPair) (id : String) (sight : Sight) : Bool × Sight :=
  if sight.holds keys.owner id then (true, (sight.drop keys.owner).drop keys.data)
  else (false, sight)

/-- Gives a lock that an ID holds a new deadline and a new payload, and says whether it
did. -/
def rearmIfHeld (now : Nat) (keys : KeyPair) (id : String) (deadline : Nat) (payload : String)
    (sight : Sight) : Bool × Sight :=
  if sight.holds keys.owner id then
    (true, (sight.put now keys.owner ⟨id, some deadline⟩).put now keys.data ⟨payload, none⟩)
  else (false, sight)

/-- Reads both entries of a lock. -/
def read (now : Nat) (keys : KeyPair) (sight : Sight) : Reading where
  owner := (sight keys.owner).map (·.value)
  remaining := ((sight keys.owner).map (·.remaining now)).getD missingKey
  data := (sight keys.data).map (·.value)

/-- A live entry that is put is seen. -/
theorem put_of_isLive {now : Nat} {entry : Entry} (live : entry.isLive now = true)
    (key : String) (sight : Sight) : sight.put now key entry = Function.update sight key entry := by
  rw [put, Option.filter_some_pos live]

end Sight

namespace Entries

/-- What is seen of entries at a moment. -/
def seen (now : Nat) (entries : Entries) : Sight :=
  fun key => (entries.get? key).filter (·.isLive now)

/-- No expired entry is kept for a key. -/
def Settled (now : Nat) (key : String) (entries : Entries) : Prop :=
  entries.get? key = entries.seen now key

variable {now : Nat} {entries : Entries}

/-- An entry that still counts later counts now. -/
theorem isLive_of_later {later : Nat} (passed : now ≤ later) {entry : Entry}
    (live : entry.isLive later = true) : entry.isLive now = true := by
  obtain ⟨value, deadline⟩ := entry
  cases deadline with
  | none => rfl
  | some deadline =>
    simp only [Entry.isLive, decide_eq_true_eq] at live ⊢
    omega

/-- What is seen later is what is left by then of what is seen now. -/
theorem seen_later {later : Nat} (passed : now ≤ later) :
    entries.seen later = (entries.seen now).later later := by
  funext key
  simp only [seen, Sight.later, Option.filter_filter]
  congr 1
  funext entry
  cases live : entry.isLive later with
  | false => rw [Bool.and_false]
  | true => rw [isLive_of_later passed live, Bool.and_self]

/-! ### Dropping expired entries -/

theorem get?_live (key : String) : (entries.live now).get? key = entries.seen now key :=
  Table.get?_filter entries _ key

theorem seen_live : (entries.live now).seen now = entries.seen now := by
  funext key
  rw [seen, get?_live, seen, Option.filter_filter]
  simp only [Bool.and_self]

theorem settled_live (key : String) : (entries.live now).Settled now key := by
  rw [Settled, get?_live, seen_live]

theorem get?_expire (key other : String) :
    (entries.expire now key).get? other =
      if other = key then entries.seen now key else entries.get? other := by
  unfold expire seen
  split
  next missing =>
    rw [missing, Option.filter_none]
    by_cases same : other = key
    · rw [if_pos same, same, missing]
    · rw [if_neg same]
  next entry found =>
    rw [found]
    by_cases live : entry.isLive now = true
    · rw [if_pos live, Option.filter_some_pos live]
      by_cases same : other = key
      · rw [if_pos same, same, found]
      · rw [if_neg same]
    · rw [if_neg live, Table.get?_erase]
      by_cases same : other = key
      · rw [if_pos same, if_pos same, Option.filter_some_neg (eq_false_of_ne_true live)]
      · rw [if_neg same, if_neg same]

theorem seen_expire (key : String) : (entries.expire now key).seen now = entries.seen now := by
  funext other
  rw [seen, get?_expire]
  by_cases same : other = key
  · rw [if_pos same, same, seen, Option.filter_filter]
    simp only [Bool.and_self]
  · rw [if_neg same, seen]

theorem settled_expire (key : String) : (entries.expire now key).Settled now key := by
  rw [Settled, seen_expire, get?_expire, if_pos rfl]

/-- Dropping the expired entry of one key leaves other keys settled. -/
theorem Settled.expire {key : String} (settled : entries.Settled now key) (other : String) :
    (entries.expire now other).Settled now key := by
  rw [Settled, seen_expire, get?_expire]
  by_cases same : key = other
  · rw [if_pos same, same]
  · rw [if_neg same, settled]

/-! ### What the operations do to what is seen -/

theorem seen_insert (key : String) (entry : Entry) :
    seen now (entries.insert key entry) = (entries.seen now).put now key entry := by
  funext other
  rw [seen, Table.get?_insert, Sight.put, Function.update_apply]
  split <;> rfl

theorem seen_erase (key : String) :
    seen now (entries.erase key) = (entries.seen now).drop key := by
  funext other
  rw [seen, Table.get?_erase, Sight.drop, Function.update_apply]
  split <;> rfl

theorem isHeldBy_eq {key : String} (settled : entries.Settled now key) (id : String) :
    entries.isHeldBy key id = (entries.seen now).holds key id := by
  unfold isHeldBy Sight.holds
  rw [settled]
  cases entries.seen now key <;> rfl

theorem takeIfAbsent_fst {key : String} (settled : entries.Settled now key) (entry : Entry) :
    (entries.takeIfAbsent key entry).1 = ((entries.seen now).takeIfAbsent now key entry).1 := by
  unfold takeIfAbsent Sight.takeIfAbsent
  rw [settled]
  split <;> rfl

theorem seen_takeIfAbsent {key : String} (settled : entries.Settled now key) (entry : Entry) :
    (entries.takeIfAbsent key entry).2.seen now =
      ((entries.seen now).takeIfAbsent now key entry).2 := by
  unfold takeIfAbsent Sight.takeIfAbsent
  rw [settled]
  split
  · rfl
  · exact seen_insert key entry

theorem releaseIfHeld_fst {keys : KeyPair} (settled : entries.Settled now keys.owner)
    (id : String) :
    (entries.releaseIfHeld keys id).1 = ((entries.seen now).releaseIfHeld keys id).1 := by
  unfold releaseIfHeld Sight.releaseIfHeld
  rw [isHeldBy_eq settled]
  split <;> rfl

theorem seen_releaseIfHeld {keys : KeyPair} (settled : entries.Settled now keys.owner)
    (id : String) :
    (entries.releaseIfHeld keys id).2.seen now =
      ((entries.seen now).releaseIfHeld keys id).2 := by
  unfold releaseIfHeld Sight.releaseIfHeld
  rw [isHeldBy_eq settled]
  split
  · rw [seen_erase, seen_erase]
  · rfl

theorem rearmIfHeld_fst {keys : KeyPair} (settled : entries.Settled now keys.owner)
    (id : String) (deadline : Nat) (payload : String) :
    (entries.rearmIfHeld keys id deadline payload).1 =
      ((entries.seen now).rearmIfHeld now keys id deadline payload).1 := by
  unfold rearmIfHeld Sight.rearmIfHeld
  rw [isHeldBy_eq settled]
  split <;> rfl

theorem seen_rearmIfHeld {keys : KeyPair} (settled : entries.Settled now keys.owner)
    (id : String) (deadline : Nat) (payload : String) :
    (entries.rearmIfHeld keys id deadline payload).2.seen now =
      ((entries.seen now).rearmIfHeld now keys id deadline payload).2 := by
  unfold rearmIfHeld Sight.rearmIfHeld
  rw [isHeldBy_eq settled]
  split
  · rw [seen_insert, seen_insert]
  · rfl

theorem read_eq {keys : KeyPair} (owner : entries.Settled now keys.owner)
    (data : entries.Settled now keys.data) :
    entries.read now keys = (entries.seen now).read now keys := by
  rw [read, owner, data]
  rfl

end Entries

end Leasehold
