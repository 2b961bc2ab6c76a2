/-
This file relates leases to what is seen in a store. The owner key of a lock shows its holder
while there is one, and its data key shows the payload. As long as the keys of different locks
are apart, whatever is done to the keys of one lock shows for that lock alone.
-/

import Leasehold.Proofs.Ledger
import Leasehold.Proofs.Sight
import Leasehold.Store.Dialect

namespace Leasehold

/-- What the owner key of a lock holds while the lock is held. -/
def Holder.entry (holder : Holder) : Entry := ⟨holder.id, some holder.deadline⟩

/-- The longest time for which an owner key can be seen to live. -/
def longestRemaining : Nat := Duration.largestMillis * nanosPerMilli

theorem Duration.nanos_ofMillis_eq_zero (count : Nat) :
    (Duration.ofMillis count).nanos = 0 ↔ count = 0 := by
  have positive : 0 < Duration.longest.nanos := by decide
  have scale : 0 < nanosPerMilli := by decide
  rw [ofMillis, Nat.min_eq_zero_iff, Nat.mul_eq_zero]
  omega

namespace Lease

/-- A lease shows at the keys of its lock. -/
structure Shown (now : Nat) (sight : Sight) (keys : KeyPair) (lease : Lease) : Prop where
  owner : sight keys.owner = (lease.holderAt now).map Holder.entry
  data : sight keys.data = lease.payload.map fun payload => ⟨payload, none⟩
  bounded : ∀ holder, lease.holderAt now = some holder →
    holder.deadline ≤ now + longestRemaining

variable {now : Nat} {sight : Sight} {keys : KeyPair} {lease : Lease}

/-- Who holds a lock later is among those who hold it now. -/
theorem holderAt_later (lease : Lease) (passed : Nat) :
    (lease.holderAt now).filter (now + passed < ·.deadline) = lease.holderAt (now + passed) := by
  rw [holderAt, holderAt, Option.filter_filter]
  congr 1
  funext holder
  rw [← Bool.decide_and]
  exact decide_eq_decide.mpr ⟨fun both => both.2, fun ahead => ⟨by omega, ahead⟩⟩

/-! ### What can be told from what is seen -/

theorem Shown.isSome (shown : lease.Shown now sight keys) :
    (sight keys.owner).isSome = (lease.holderAt now).isSome := by
  rw [shown.owner, Option.isSome_map]

theorem Shown.holds (shown : lease.Shown now sight keys) (id : String) :
    sight.holds keys.owner id = lease.isHeldBy now id := by
  rw [Sight.holds, shown.owner, Option.any_map]
  rfl

theorem Shown.takeIfAbsent (shown : lease.Shown now sight keys) (entry : Entry) :
    sight.takeIfAbsent now keys.owner entry =
      if (lease.holderAt now).isSome then (false, sight)
      else (true, sight.put now keys.owner entry) := by
  rw [Sight.takeIfAbsent, shown.isSome]

theorem Shown.releaseIfHeld (shown : lease.Shown now sight keys) (id : String) :
    sight.releaseIfHeld keys id =
      if lease.isHeldBy now id then (true, (sight.drop keys.owner).drop keys.data)
      else (false, sight) := by
  rw [Sight.releaseIfHeld, shown.holds]

theorem Shown.rearmIfHeld (shown : lease.Shown now sight keys) (id : String) (deadline : Nat)
    (payload : String) :
    sight.rearmIfHeld now keys id deadline payload =
      if lease.isHeldBy now id then
        (true, (sight.put now keys.owner ⟨id, some deadline⟩).put now keys.data ⟨payload, none⟩)
      else (false, sight) := by
  rw [Sight.rearmIfHeld, shown.holds]

/-- The millisecond counts of a lease that shows are not cut down. -/
theorem Shown.remaining {holder : Holder} (shown : lease.Shown now sight keys)
    (held : lease.holderAt now = some holder) :
    holder.entry.remaining now = Int.ofNat ((holder.deadline - now) / nanosPerMilli) := by
  have near := shown.bounded holder held
  have span : holder.deadline - now ≤ nanosPerMilli * Duration.largestMillis := by
    rw [Nat.mul_comm]
    exact Nat.sub_le_iff_le_add'.mpr near
  exact congrArg Int.ofNat (Nat.min_eq_left (Nat.div_le_of_le_mul span))

/-- The snapshot of what is seen is that of the lease. -/
theorem Shown.snapshotOf (shown : lease.Shown now sight keys) (name : String) :
    Store.snapshotOf name (sight.read now keys) = lease.snapshot now name := by
  have payload : (lease.payload.map fun payload => (⟨payload, none⟩ : Entry)).map Entry.value =
      lease.payload := by
    rw [Option.map_map]
    exact Option.map_id'
  unfold Store.snapshotOf Sight.read snapshot
  rw [shown.owner, shown.data, payload]
  cases held : lease.holderAt now with
  | none => rfl
  | some holder =>
    have counted := shown.remaining held
    simp only [Option.map_some, Option.getD_some, counted]
    refine (Snapshot.mk.injEq ..).mpr ⟨rfl, ?_, rfl, rfl, rfl⟩
    exact decide_eq_decide.mpr (not_congr (Duration.nanos_ofMillis_eq_zero _))

/-! ### What is done to one lock -/

/-- An owner key that was written shows its holder, or nothing if the lease is over already. -/
theorem put_entry (now : Nat) (sight : Sight) (key : String) (holder : Holder)
    (payload : Option String) :
    sight.put now key holder.entry key =
      (holderAt now ⟨some holder, payload⟩).map Holder.entry := by
  rw [Sight.put, Function.update_self, holderAt, ← Option.map_some, Option.filter_map]
  rfl

theorem deadline_le {holder found : Holder} {payload : Option String}
    (held : holderAt now ⟨some holder, payload⟩ = some found)
    (near : holder.deadline ≤ now + longestRemaining) :
    found.deadline ≤ now + longestRemaining := by
  obtain ⟨same, _⟩ := Option.filter_eq_some_iff.mp held
  cases same
  exact near

/-- A lease of which only the owner key was written shows with the payload it had. -/
theorem Shown.taken (shown : lease.Shown now sight keys) {holder : Holder}
    (apart : keys.data ≠ keys.owner) (near : holder.deadline ≤ now + longestRemaining) :
    Lease.Shown now (sight.put now keys.owner holder.entry) keys ⟨some holder, lease.payload⟩ where
  owner := put_entry ..
  data := by
    rw [Sight.put, Function.update_of_ne apart, shown.data]
  bounded _ held := deadline_le held near

/-- A lease of which both keys were written shows. -/
theorem shown_written (sight : Sight) {holder : Holder} (payload : String)
    (apart : keys.data ≠ keys.owner) (near : holder.deadline ≤ now + longestRemaining) :
    Lease.Shown now ((sight.put now keys.owner holder.entry).put now keys.data ⟨payload, none⟩)
      keys ⟨some holder, some payload⟩ where
  owner := by
    rw [Sight.put, Function.update_of_ne apart.symm, put_entry]
  data := by
    rw [Sight.put, Function.update_self]
    rfl
  bounded _ held := deadline_le held near

/-- A lock of which both keys were dropped is free. -/
theorem shown_dropped (now : Nat) (sight : Sight) (keys : KeyPair) :
    Lease.free.Shown now ((sight.drop keys.owner).drop keys.data) keys where
  owner := by
    rw [Sight.drop, Function.update_apply]
    split
    · rfl
    · exact Function.update_self ..
  data := Function.update_self ..
  bounded holder held := by cases held

theorem Shown.congr (shown : lease.Shown now sight keys) {after : Sight}
    (owner : after keys.owner = sight keys.owner) (data : after keys.data = sight keys.data) :
    lease.Shown now after keys :=
  ⟨by rw [owner, shown.owner], by rw [data, shown.data], shown.bounded⟩

/-- A lease goes on to show while time passes. -/
theorem Shown.later (shown : lease.Shown now sight keys) (passed : Nat) :
    lease.Shown (now + passed) (sight.later (now + passed)) keys where
  owner := by
    rw [Sight.later, shown.owner, ← holderAt_later lease passed, Option.filter_map]
    rfl
  data := by
    rw [Sight.later, shown.data]
    cases lease.payload <;> rfl
  bounded holder held := by
    rw [← holderAt_later lease passed] at held
    have near := shown.bounded holder (Option.filter_eq_some_iff.mp held).1
    omega

end Lease

/-! ### All locks -/

namespace Sight

/-- Nothing differs between two sights but at the keys of one lock. -/
def SameOff (keys : KeyPair) (sight after : Sight) : Prop :=
  ∀ key, key ≠ keys.owner → key ≠ keys.data → after key = sight key

variable {keys : KeyPair} {sight after : Sight}

theorem SameOff.refl (keys : KeyPair) (sight : Sight) : SameOff keys sight sight :=
  fun _ _ _ => rfl

theorem SameOff.owner (off : SameOff keys sight after) (entry : Option Entry) :
    SameOff keys sight (Function.update after keys.owner entry) := by
  intro key owner data
  rw [Function.update_of_ne owner]
  exact off key owner data

theorem SameOff.data (off : SameOff keys sight after) (entry : Option Entry) :
    SameOff keys sight (Function.update after keys.data entry) := by
  intro key owner data
  rw [Function.update_of_ne data]
  exact off key owner data

end Sight

/-- Each of some leases shows. -/
def Kept (now : Nat) (resources : List Resource) (sight : Sight) (leases : Resource → Lease) :
    Prop :=
  ∀ resource ∈ resources, (leases resource).Shown now sight resource.keys

namespace Kept

variable {now : Nat} {resources : List Resource} {sight after : Sight}
  {leases : Resource → Lease} {resource : Resource}

/-- What is done to the keys of one lock shows in its lease and in no other. -/
theorem update (kept : Kept now resources sight leases) (separate : Separate resources)
    (member : resource ∈ resources) {lease : Lease}
    (shown : lease.Shown now after resource.keys) (off : Sight.SameOff resource.keys sight after) :
    Kept now resources after (Function.update leases resource lease) := by
  intro other among
  by_cases same : other = resource
  · subst same
    rw [Function.update_self]
    exact shown
  · have apart := separate other among resource member same
    rw [Function.update_of_ne same]
    exact (kept other among).congr (off _ apart.1.1 apart.1.2) (off _ apart.2.1 apart.2.2)

theorem untouched (kept : Kept now resources sight leases) (resource : Resource) :
    Kept now resources sight (Function.update leases resource (leases resource)) := by
  rw [Function.update_eq_self]
  exact kept

variable {lock : Lock}

theorem shown (kept : Kept now resources sight leases) (isFor : lock.IsFor resources) :
    (leases lock.resource).Shown now sight lock.keys := by
  rw [isFor.keys]
  exact kept lock.resource isFor.member

theorem taken (kept : Kept now resources sight leases) (separate : Separate resources)
    (isFor : lock.IsFor resources) {holder : Holder}
    (near : holder.deadline ≤ now + longestRemaining) :
    Kept now resources (sight.put now lock.keys.owner holder.entry)
      (Function.update leases lock.resource ⟨some holder, (leases lock.resource).payload⟩) := by
  have shown := kept lock.resource isFor.member
  rw [isFor.keys]
  exact kept.update separate isFor.member (shown.taken lock.resource.data_ne_owner near)
    ((Sight.SameOff.refl _ sight).owner _)

theorem written (kept : Kept now resources sight leases) (separate : Separate resources)
    (isFor : lock.IsFor resources) {holder : Holder} (payload : String)
    (near : holder.deadline ≤ now + longestRemaining) :
    Kept now resources
      ((sight.put now lock.keys.owner holder.entry).put now lock.keys.data ⟨payload, none⟩)
      (Function.update leases lock.resource ⟨some holder, some payload⟩) := by
  rw [isFor.keys]
  exact kept.update separate isFor.member
    (Lease.shown_written sight payload lock.resource.data_ne_owner near)
    (((Sight.SameOff.refl _ sight).owner _).data _)

theorem dropped (kept : Kept now resources sight leases) (separate : Separate resources)
    (isFor : lock.IsFor resources) (off : Sight.SameOff lock.keys sight after) :
    Kept now resources ((after.drop lock.keys.owner).drop lock.keys.data)
      (Function.update leases lock.resource .free) := by
  rw [isFor.keys] at off ⊢
  exact kept.update separate isFor.member (Lease.shown_dropped now after lock.resource.keys)
    ((off.owner none).data none)

/-- A lock that was just taken can be given back by its holder, and is free then. -/
theorem givenBack (kept : Kept now resources sight leases) (separate : Separate resources)
    (isFor : lock.IsFor resources) {holder : Holder} (ahead : now < holder.deadline) :
    let released := (sight.put now lock.keys.owner holder.entry).releaseIfHeld lock.keys holder.id
    released.1 = true ∧
      Kept now resources released.2 (Function.update leases lock.resource .free) := by
  have live : holder.entry.isLive now = true := decide_eq_true ahead
  have held : (sight.put now lock.keys.owner holder.entry).holds lock.keys.owner holder.id =
      true := by
    rw [Sight.holds, Sight.put_of_isLive live, Function.update_self]
    exact decide_eq_true rfl
  rw [Sight.releaseIfHeld, if_pos held]
  exact ⟨rfl, kept.dropped separate isFor ((Sight.SameOff.refl lock.keys sight).owner _)⟩

theorem later (kept : Kept now resources sight leases) (passed : Nat) :
    Kept (now + passed) resources (sight.later (now + passed)) leases :=
  fun resource member => (kept resource member).later passed

end Kept

end Leasehold
