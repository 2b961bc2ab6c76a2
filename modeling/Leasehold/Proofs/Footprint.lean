/-
This file says of each request which keys it consults and which it may change. A request leaves
every other key as it is, and what it answers and does depends on nothing but the keys it
consults and, key by key, on what was there before. The requests that an operation makes stay
within the two keys of its lock: taking a lock, giving it back and getting a new lease consult
the owner key alone, and looking at a lock changes nothing.
-/

import Leasehold.Proofs.Asking
import Leasehold.Proofs.ServerSight
import Leasehold.Proofs.StoreSight

namespace Leasehold

/-- The keys that a request consults and those that it may change. -/
structure Footprint where
  consults : List String
  changes : List String

namespace Footprint

/-- One footprint lies within another. -/
instance : LE Footprint where
  le one other := one.consults ⊆ other.consults ∧ one.changes ⊆ other.changes

/-- The footprint of what does not touch any key. -/
def nothing : Footprint := ⟨[], []⟩

theorem le_refl (footprint : Footprint) : footprint ≤ footprint :=
  ⟨List.Subset.refl _, List.Subset.refl _⟩

theorem nothing_le (footprint : Footprint) : nothing ≤ footprint :=
  ⟨List.nil_subset _, List.nil_subset _⟩

/-- All that may be changed lies in a region of keys. -/
def Within (region : String → Prop) (footprint : Footprint) : Prop :=
  ∀ key ∈ footprint.changes, region key

/-- Nothing is consulted that lies in a region of keys. -/
def Clear (region : String → Prop) (footprint : Footprint) : Prop :=
  ∀ key ∈ footprint.consults, ¬ region key

variable {region : String → Prop} {footprint larger : Footprint}

theorem nothing_within (region : String → Prop) : nothing.Within region := fun _ member => by
  cases member

theorem nothing_clear (region : String → Prop) : nothing.Clear region := fun _ member => by
  cases member

theorem Within.of_le (within : larger.Within region) (le : footprint ≤ larger) :
    footprint.Within region :=
  fun key member => within key (le.2 member)

theorem Clear.of_le (clear : larger.Clear region) (le : footprint ≤ larger) :
    footprint.Clear region :=
  fun key member => clear key (le.1 member)

end Footprint

/-- The footprint of an operation that claims a lock or gives it up. -/
def KeyPair.claimed (keys : KeyPair) : Footprint := ⟨[keys.owner], [keys.owner, keys.data]⟩

/-- The footprint of an operation that looks at a lock. -/
def KeyPair.viewed (keys : KeyPair) : Footprint := ⟨[keys.owner, keys.data], []⟩

/-! ### What is done to a sight -/

namespace Sight

variable {Answer Other : Type} {footprint larger : Footprint} {now : Nat}
  {operation : Sight → Answer × Sight}

/-- An operation stays within a footprint. -/
structure Bounds (footprint : Footprint) (operation : Sight → Answer × Sight) : Prop where
  frame : ∀ sight key, key ∉ footprint.changes → (operation sight).2 key = sight key
  /-- Sights that agree on the keys consulted are answered alike, and keys on which they agree
  come to the same. -/
  alike : ∀ one other : Sight, (∀ key ∈ footprint.consults, one key = other key) →
    (operation one).1 = (operation other).1 ∧
      ∀ key, one key = other key → (operation one).2 key = (operation other).2 key

theorem Bounds.of_le (bounds : Bounds footprint operation) (le : footprint ≤ larger) :
    Bounds larger operation where
  frame sight key free := bounds.frame sight key fun member => free (le.2 member)
  alike one other same := bounds.alike one other fun key member => same key (le.1 member)

/-- What is made of the answer does not matter. -/
theorem Bounds.answered (bounds : Bounds footprint operation) (change : Answer → Other) :
    Bounds footprint fun sight => (change (operation sight).1, (operation sight).2) where
  frame := bounds.frame
  alike one other same := by
    obtain ⟨answered, after⟩ := bounds.alike one other same
    exact ⟨congrArg change answered, after⟩

theorem bounds_idle (answer : Answer) : Bounds .nothing fun sight => (answer, sight) where
  frame _ _ _ := rfl
  alike _ _ _ := ⟨rfl, fun _ same => same⟩

theorem update_alike {one other : Sight} {key : String} (same : one key = other key)
    (updated : String) (entry : Option Entry) :
    Function.update one updated entry key = Function.update other updated entry key := by
  rw [Function.update_apply, Function.update_apply, same]

theorem bounds_put (now : Nat) (key : String) (entry : Entry) (answer : Answer) :
    Bounds ⟨[], [key]⟩ fun sight => (answer, sight.put now key entry) where
  frame _ _ free := Function.update_of_ne (fun same => free (List.mem_singleton.mpr same)) _ _
  alike _ _ _ := ⟨rfl, fun _ same => update_alike same _ _⟩

theorem bounds_takeIfAbsent (now : Nat) (key : String) (entry : Entry) :
    Bounds ⟨[key], [key]⟩ (takeIfAbsent now key entry) where
  frame sight other free := by
    unfold takeIfAbsent
    split
    · rfl
    · exact Function.update_of_ne (fun same => free (List.mem_singleton.mpr same)) _ _
  alike one other same := by
    unfold takeIfAbsent
    rw [same key List.mem_cons_self]
    split
    · exact ⟨rfl, fun _ same => same⟩
    · exact ⟨rfl, fun _ same => update_alike same _ _⟩

theorem update_update_of_free (sight : Sight) {keys : KeyPair} {key : String}
    (free : key ∉ keys.claimed.changes) (owner data : Option Entry) :
    Function.update (Function.update sight keys.owner owner) keys.data data key = sight key := by
  have apart : ¬ (key = keys.owner ∨ key = keys.data) := fun same =>
    free (List.mem_cons.mpr (same.imp id List.mem_singleton.mpr))
  rw [Function.update_of_ne fun same => apart (Or.inr same),
    Function.update_of_ne fun same => apart (Or.inl same)]

theorem holds_alike {one other : Sight} {key : String} (same : one key = other key)
    (value : String) : one.holds key value = other.holds key value := by
  rw [holds, holds, same]

/-- An operation that gives both keys of a lock new entries if an ID holds the lock. -/
theorem bounds_ifHeld (keys : KeyPair) (id : String) (owner data : Option Entry) :
    Bounds keys.claimed fun sight =>
      if sight.holds keys.owner id then
        (true, Function.update (Function.update sight keys.owner owner) keys.data data)
      else (false, sight) where
  frame sight other free := by
    split
    · exact update_update_of_free sight free _ _
    · rfl
  alike one other same := by
    rw [holds_alike (same keys.owner List.mem_cons_self)]
    split
    · exact ⟨rfl, fun _ same => update_alike (update_alike same _ _) _ _⟩
    · exact ⟨rfl, fun _ same => same⟩

theorem bounds_releaseIfHeld (keys : KeyPair) (id : String) :
    Bounds keys.claimed (releaseIfHeld keys id) :=
  bounds_ifHeld keys id none none

theorem bounds_rearmIfHeld (now : Nat) (keys : KeyPair) (id : String) (deadline : Nat)
    (payload : String) : Bounds keys.claimed (rearmIfHeld now keys id deadline payload) :=
  bounds_ifHeld keys id _ _

theorem bounds_read (now : Nat) (keys : KeyPair) :
    Bounds keys.viewed fun sight => (sight.read now keys, sight) where
  frame _ _ _ := rfl
  alike one other same := by
    have owner := same keys.owner List.mem_cons_self
    have data := same keys.data (List.mem_cons_of_mem _ List.mem_cons_self)
    refine ⟨?_, fun _ same => same⟩
    simp only [read, owner, data]

/-! ### Sights that agree off a region -/

/-- Sights that agree on all keys that do not lie in a region. -/
def AgreeOff (region : String → Prop) (one other : Sight) : Prop :=
  ∀ key, ¬ region key → one key = other key

variable {region : String → Prop} {one other : Sight}

theorem AgreeOff.symm (agree : AgreeOff region one other) : AgreeOff region other one :=
  fun key outside => (agree key outside).symm

theorem AgreeOff.later (agree : AgreeOff region one other) (now : Nat) :
    AgreeOff region (one.later now) (other.later now) :=
  fun key outside => congrArg (Option.filter _) (agree key outside)

/-- An operation that stays within a region cannot be told outside. -/
theorem Bounds.alone (bounds : Bounds footprint operation) (within : footprint.Within region)
    (agree : AgreeOff region one other) : AgreeOff region (operation one).2 other := by
  intro key outside
  rw [bounds.frame one key fun member => outside (within key member)]
  exact agree key outside

/-- An operation that consults nothing in a region does not notice what is there. -/
theorem Bounds.together (bounds : Bounds footprint operation) (clear : footprint.Clear region)
    (agree : AgreeOff region one other) :
    (operation one).1 = (operation other).1 ∧
      AgreeOff region (operation one).2 (operation other).2 := by
  obtain ⟨answered, after⟩ := bounds.alike one other fun key member => agree key (clear key member)
  exact ⟨answered, fun key outside => after key (agree key outside)⟩

end Sight

/-! ### Dialects -/

/-- The operations of a dialect stay within the keys of their lock. -/
structure Dialect.Confined {Request : Type} {Answer : Request → Type}
    (dialect : Dialect Request Answer) (footprint : Request → Footprint) : Prop where
  disconnect : dialect.disconnect.AllAsk fun request => footprint request ≤ .nothing
  connect : dialect.connect.AllAsk fun request => footprint request ≤ .nothing
  acquire : ∀ lock id lease millis, (dialect.acquire lock id lease millis).AllAsk fun request =>
    footprint request ≤ lock.keys.claimed
  release : ∀ lock id, (dialect.release lock id).AllAsk fun request =>
    footprint request ≤ lock.keys.claimed
  refresh : ∀ lock id millis, (dialect.refresh lock id millis).AllAsk fun request =>
    footprint request ≤ lock.keys.claimed
  inspect : ∀ lock, (dialect.inspect lock).AllAsk fun request =>
    footprint request ≤ lock.keys.viewed

namespace KeyPair

theorem owner_le_claimed (keys : KeyPair) : ⟨[keys.owner], [keys.owner]⟩ ≤ keys.claimed :=
  ⟨List.Subset.refl _, List.cons_subset_cons _ (List.nil_subset _)⟩

theorem data_le_claimed (keys : KeyPair) : ⟨[], [keys.data]⟩ ≤ keys.claimed :=
  ⟨List.nil_subset _, List.subset_cons_self _ _⟩

end KeyPair

/-! ### Requests of a store -/

namespace Store

/-- The footprint of a request. -/
def Request.footprint : Request → Footprint
  | ping => .nothing
  | setIfAbsent key _ _ => ⟨[key], [key]⟩
  | set key _ => ⟨[], [key]⟩
  | releaseIfOwner keys _ | refreshIfOwner keys _ _ _ => keys.claimed
  | read keys => keys.viewed

theorem bounds_act (now : Nat) (request : Request) :
    Sight.Bounds request.footprint (Sight.act now request) := by
  cases request with
  | ping => exact Sight.bounds_idle ()
  | setIfAbsent key value lease => exact Sight.bounds_takeIfAbsent now key _
  | set key value => exact Sight.bounds_put now key _ ()
  | releaseIfOwner keys id => exact Sight.bounds_releaseIfHeld keys id
  | refreshIfOwner keys id lease payload => exact Sight.bounds_rearmIfHeld now keys id _ payload
  | read keys => exact Sight.bounds_read now keys

theorem bounds_perform (now : Nat) (switches : Switches) (request : Request) :
    Sight.Bounds request.footprint (Sight.perform now switches request) := by
  unfold Sight.perform
  cases switches.fault? request.isPlain with
  | some fault => exact (Sight.bounds_idle _).of_le (Footprint.nothing_le _)
  | none => exact (bounds_act now request).answered Except.ok

theorem dialect_confined : dialect.Confined Request.footprint where
  disconnect := trivial
  connect := by
    refine ⟨Footprint.le_refl _, fun answer => ?_⟩
    cases answer <;> trivial
  acquire lock id lease millis := by
    refine ⟨lock.keys.owner_le_claimed, fun answer => ?_⟩
    cases answer with
    | error fault => trivial
    | ok taken =>
      cases taken with
      | false => trivial
      | true =>
        refine ⟨lock.keys.data_le_claimed, fun answer => ?_⟩
        cases answer with
        | error fault =>
          refine ⟨Footprint.le_refl _, fun answer => ?_⟩
          cases answer <;> trivial
        | ok written => trivial
  release lock id := by
    refine ⟨Footprint.le_refl _, fun answer => ?_⟩
    cases answer with
    | error fault => trivial
    | ok released => cases released <;> trivial
  refresh lock id millis := by
    refine ⟨Footprint.le_refl _, fun answer => ?_⟩
    cases answer with
    | error fault => trivial
    | ok refreshed => cases refreshed <;> trivial
  inspect lock := by
    refine ⟨Footprint.le_refl _, fun answer => ?_⟩
    cases answer <;> trivial

end Store

/-! ### Requests of a server -/

namespace Server

/-- The footprint of a command. -/
def Command.footprint : Command → Footprint
  | ping | quit => .nothing
  | setIfAbsent key _ _ => ⟨[key], [key]⟩
  | set key _ => ⟨[], [key]⟩
  | release keys _ | refresh keys _ _ _ => keys.claimed
  | inspect keys => keys.viewed

/-- The footprint of a request. -/
def Request.footprint : Request → Footprint
  | dial => .nothing
  | send command => command.footprint

theorem bounds_answer (now : Nat) (command : Command) :
    Sight.Bounds command.footprint (Sight.answer now command) := by
  cases command with
  | ping => exact Sight.bounds_idle _
  | quit => exact Sight.bounds_idle _
  | setIfAbsent key value millis =>
    exact (Sight.bounds_takeIfAbsent now key ⟨value, some (deadline now millis)⟩).answered
      fun taken => if taken then Reply.text "OK" else .null
  | set key value => exact Sight.bounds_put now key _ _
  | release keys id => exact (Sight.bounds_releaseIfHeld keys id).answered verdict
  | refresh keys id millis payload =>
    exact (Sight.bounds_rearmIfHeld now keys id _ payload).answered verdict
  | inspect keys => exact (Sight.bounds_read now keys).answered readingReply

theorem dialect_confined : dialect.Confined Request.footprint where
  disconnect := by
    refine ⟨Footprint.le_refl _, fun answer => ?_⟩
    cases answer <;> trivial
  connect := by
    refine ⟨Footprint.le_refl _, fun answer => ?_⟩
    cases answer with
    | error failure => trivial
    | ok opened =>
      refine ⟨Footprint.le_refl _, fun answer => ?_⟩
      cases answer with
      | error failure => exact ⟨Footprint.le_refl _, fun _ => trivial⟩
      | ok reply => trivial
  acquire lock id lease millis :=
    allAsk_acquiring lock.keys.owner_le_claimed lock.keys.data_le_claimed (Footprint.le_refl _)
  release lock id := by
    refine ⟨Footprint.le_refl _, fun answer => ?_⟩
    dsimp only
    cases succeeded answer with
    | error failure => trivial
    | ok released => cases released <;> trivial
  refresh lock id millis := by
    refine ⟨Footprint.le_refl _, fun answer => ?_⟩
    dsimp only
    cases succeeded answer with
    | error failure => trivial
    | ok refreshed => cases refreshed <;> trivial
  inspect lock := by
    refine ⟨Footprint.le_refl _, fun answer => ?_⟩
    cases answer with
    | error failure => trivial
    | ok reply =>
      dsimp only
      cases snapshotOfReply lock.name reply <;> trivial

end Server

end Leasehold
