/-
This file proves that a store within the process only acts on what is seen of its entries. Each
request is an operation on the sight, and so is each run of a program, however many requests it
makes. What is dropped, and when, is of no account.
-/

import Leasehold.Proofs.Sight
import Leasehold.Proofs.Tracks
import Leasehold.Store.Backend

namespace Leasehold

namespace Store

/-- Whether a request is a plain write. -/
def Request.isPlain : Request → Bool
  | set .. => true
  | _ => false

/-- Whether a store is reachable, and whether it fails plain writes. -/
structure Switches where
  available : Bool
  failingWrites : Bool

/-- A store as it is made is reachable and fails nothing. -/
def Switches.fresh : Switches := ⟨true, false⟩

/-- Why a request fails, if it does. -/
def Switches.fault? (switches : Switches) (plain : Bool) : Option StoreFault :=
  if switches.available then
    if plain && switches.failingWrites then some .writeRejected else none
  else some .unavailable

/-- The switches of a store. -/
def switches (store : Store) : Switches := ⟨store.available, store.failingWrites⟩

end Store

namespace Sight

/-- What a request does to what is seen. -/
def act (now : Nat) : (request : Store.Request) → Sight → request.Value × Sight
  | .ping, sight => ((), sight)
  | .setIfAbsent key value lease, sight =>
    sight.takeIfAbsent now key ⟨value, some (Store.deadline now lease)⟩
  | .set key value, sight => ((), sight.put now key ⟨value, none⟩)
  | .releaseIfOwner keys id, sight => sight.releaseIfHeld keys id
  | .refreshIfOwner keys id lease payload, sight =>
    sight.rearmIfHeld now keys id (Store.deadline now lease) payload
  | .read keys, sight => (sight.read now keys, sight)

/-- What a store makes of a request, as far as can be seen. -/
def perform (now : Nat) (switches : Store.Switches) (request : Store.Request) (sight : Sight) :
    request.Answer × Sight :=
  match switches.fault? request.isPlain with
  | some fault => (.error fault, sight)
  | none =>
    let answered := act now request sight
    (.ok answered.1, answered.2)

theorem perform_of_fault {now : Nat} {switches : Store.Switches} {request : Store.Request}
    {sight : Sight} {fault : StoreFault} (struck : switches.fault? request.isPlain = some fault) :
    sight.perform now switches request = (.error fault, sight) := by
  rw [perform, struck]

theorem perform_of_none {now : Nat} {switches : Store.Switches} {request : Store.Request}
    {sight : Sight} (spared : switches.fault? request.isPlain = none) :
    sight.perform now switches request =
      (.ok (act now request sight).1, (act now request sight).2) := by
  rw [perform, spared]

end Sight

namespace Store

variable {now : Nat}

theorem act_fst {failingWrites : Bool} {request : Request}
    (unimpeded : (request.isPlain && failingWrites) = false) (entries : Entries) :
    (act now failingWrites request (entries.live now)).1 =
      .ok ((entries.seen now).act now request).1 := by
  have settled (key : String) : (entries.live now).Settled now key := Entries.settled_live key
  cases request with
  | ping => rfl
  | setIfAbsent key value lease =>
    simp only [act, Sight.act, Entries.takeIfAbsent_fst (settled key), Entries.seen_live]
  | set key value =>
    have writes : failingWrites = false := unimpeded
    rw [writes]
    rfl
  | releaseIfOwner keys id =>
    simp only [act, Sight.act, Entries.releaseIfHeld_fst (settled keys.owner), Entries.seen_live]
  | refreshIfOwner keys id lease payload =>
    simp only [act, Sight.act, Entries.rearmIfHeld_fst (settled keys.owner), Entries.seen_live]
  | read keys =>
    simp only [act, Sight.act, Entries.read_eq (settled keys.owner) (settled keys.data),
      Entries.seen_live]

theorem seen_act {failingWrites : Bool} {request : Request}
    (unimpeded : (request.isPlain && failingWrites) = false) (entries : Entries) :
    (act now failingWrites request (entries.live now)).2.seen now =
      ((entries.seen now).act now request).2 := by
  have settled (key : String) : (entries.live now).Settled now key := Entries.settled_live key
  cases request with
  | ping => exact Entries.seen_live
  | setIfAbsent key value lease =>
    simp only [act, Sight.act, Entries.seen_takeIfAbsent (settled key), Entries.seen_live]
  | set key value =>
    have writes : failingWrites = false := unimpeded
    rw [writes]
    show Entries.seen now ((entries.live now).insert key ⟨value, none⟩) = _
    rw [Entries.seen_insert, Entries.seen_live]
    rfl
  | releaseIfOwner keys id =>
    simp only [act, Sight.act, Entries.seen_releaseIfHeld (settled keys.owner), Entries.seen_live]
  | refreshIfOwner keys id lease payload =>
    simp only [act, Sight.act, Entries.seen_rearmIfHeld (settled keys.owner), Entries.seen_live]
  | read keys => exact Entries.seen_live

theorem act_of_impeded {failingWrites : Bool} {request : Request}
    (impeded : (request.isPlain && failingWrites) = true) (entries : Entries) :
    act now failingWrites request entries = (.error .writeRejected, entries) := by
  rw [Bool.and_eq_true] at impeded
  cases request with
  | set key value => exact if_pos impeded.2
  | _ => cases impeded.1

/-- The state of a store as far as can be told from outside at a moment. -/
structure Shows (now : Nat) (switches : Switches) (sight : Sight) (store : Store) : Prop where
  switches : store.switches = switches
  seen : store.entries.seen now = sight

variable {switches : Switches} {sight : Sight} {store : Store}

theorem Shows.perform (shows : store.Shows now switches sight) (request : Request) :
    (store.perform now request).1 = (sight.perform now switches request).1 ∧
      (store.perform now request).2.Shows now switches (sight.perform now switches request).2 := by
  obtain ⟨rfl, rfl⟩ := shows
  unfold Store.perform Sight.perform Switches.fault? Store.switches
  by_cases available : store.available = true
  · rw [if_pos available, if_pos available]
    by_cases impeded : (request.isPlain && store.failingWrites) = true
    · rw [if_pos impeded, act_of_impeded impeded]
      exact ⟨rfl, rfl, Entries.seen_live⟩
    · have unimpeded := eq_false_of_ne_true impeded
      rw [if_neg impeded]
      exact ⟨act_fst unimpeded _, rfl, seen_act unimpeded _⟩
  · rw [if_neg available, if_neg available]
    exact ⟨rfl, rfl, rfl⟩

end Store

/-! ### Several stores -/

namespace Stores

variable {now number : Nat} {stores before : Stores}

theorem get_upTo (stores : Stores) (number other : Nat) :
    (stores.upTo number).get other = stores.get other := by
  unfold get upTo
  rw [List.getElem?_append]
  split
  · rfl
  next beyond =>
    rw [List.getElem?_eq_none (Nat.le_of_not_lt beyond), List.getElem?_replicate]
    split <;> rfl

theorem get_put (stores : Stores) (number other : Nat) (store : Store) :
    (stores.put number store).get other = if other = number then store else stores.get other := by
  by_cases same : other = number
  · have within : number < (stores.upTo number).all.length := by
      simp only [upTo, List.length_append, List.length_replicate]
      omega
    rw [if_pos same, same, get, put, List.getElem?_set_self within, Option.getD_some]
  · have apart : number ≠ other := fun equal => same equal.symm
    rw [if_neg same, ← get_upTo stores number other, get, put, List.getElem?_set_ne apart, get]

/-- Some stores after something was done to the one of a number: that store shows a sight, with
its switches as they were, and all other stores are as they were. -/
structure Shows (now number : Nat) (before : Stores) (sight : Sight) (stores : Stores) : Prop where
  shown : (stores.get number).Shows now (before.get number).switches sight
  others : ∀ other, other ≠ number → stores.get other = before.get other

theorem shows_seen (now number : Nat) (stores : Stores) :
    Shows now number stores ((stores.get number).entries.seen now) stores :=
  ⟨⟨rfl, rfl⟩, fun _ _ => rfl⟩

theorem Shows.perform {sight : Sight} (shows : Shows now number before sight stores)
    (request : Store.Request) :
    (stores.perform now number request).1 =
        (sight.perform now (before.get number).switches request).1 ∧
      Shows now number before (sight.perform now (before.get number).switches request).2
        (stores.perform now number request).2 := by
  obtain ⟨answered, after⟩ := shows.shown.perform request
  refine ⟨answered, ?_, fun other apart => ?_⟩
  · simp only [Stores.perform, get_put, if_pos]
    exact after
  · simp only [Stores.perform, get_put, if_neg apart]
    exact shows.others other apart

/-- A program makes of a store what it makes of the sight of it. -/
theorem run_shows {Result : Type} (program : Store.Steps Result) (now number : Nat)
    (stores : Stores) :
    (program.run (perform now number) stores).result =
        (program.run (Sight.perform now (stores.get number).switches)
          ((stores.get number).entries.seen now)).result ∧
      Shows now number stores
        (program.run (Sight.perform now (stores.get number).switches)
          ((stores.get number).entries.seen now)).service
        (program.run (perform now number) stores).service := by
  have tracks : Tracks (perform now number) (Sight.perform now (stores.get number).switches)
      (fun after sight => Shows now number stores sight after) Eq program program :=
    Tracks.same (fun _ _ request shows => Shows.perform shows request) program
  exact tracks _ _ (shows_seen now number stores)

end Stores

end Leasehold
