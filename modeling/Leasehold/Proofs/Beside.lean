/-
This file relates the session of a run to that of what is left of it when part of it is left out.
The two sessions have the same clients and locks as far as these are not left out, but a client
left out has used up a serial number and perhaps an ID, so that the numbers of the shorter run are
enrolled among those of the longer one. Their services agree outside the region of keys that the
locks left out may touch, and nothing is known of the locks in that region.
-/

import Leasehold.Proofs.Enclosure
import Leasehold.Proofs.Omission
import Mathlib.Data.List.Find

namespace Leasehold

/-! ### Tables of which some names are chosen -/

namespace Table

variable {Value : Type}

/-- The rows of the names chosen. -/
def among (chosen : String → Bool) (table : Table Value) : Table Value :=
  table.restrict fun row => chosen row.1

theorem get?_among {chosen : String → Bool} {key : String} (picked : chosen key = true)
    (table : Table Value) : (table.among chosen).get? key = table.get? key := by
  rw [among, get?_restrict]
  cases table.get? key with
  | none => rfl
  | some value => exact Option.filter_some_pos picked

theorem among_erase (chosen : String → Bool) (table : Table Value) (key : String) :
    (table.erase key).among chosen = (table.among chosen).erase key :=
  ext (List.filter_comm ..)

theorem among_erase_of_not {chosen : String → Bool} {key : String} (left : chosen key = false)
    (table : Table Value) : (table.erase key).among chosen = table.among chosen := by
  apply ext
  simp only [among, erase, restrict, List.filter_filter]
  refine List.filter_congr fun row _ => ?_
  cases picked : chosen row.1 with
  | false => rfl
  | true =>
    have apart : row.1 ≠ key := by
      intro same
      rw [same, left] at picked
      cases picked
    rw [Bool.true_and]
    exact decide_eq_true apart

theorem among_insert {chosen : String → Bool} {key : String} (picked : chosen key = true)
    (table : Table Value) (value : Value) :
    (table.insert key value).among chosen = (table.among chosen).insert key value := by
  apply ext
  have rest := congrArg Table.rows (among_erase chosen table key)
  show List.filter (fun row => chosen row.1) ((key, value) :: _) = _
  rw [List.filter_cons, if_pos picked]
  exact congrArg ((key, value) :: ·) rest

theorem among_insert_of_not {chosen : String → Bool} {key : String} (left : chosen key = false)
    (table : Table Value) (value : Value) :
    (table.insert key value).among chosen = table.among chosen := by
  apply ext
  have rest := congrArg Table.rows (among_erase_of_not left table)
  show List.filter (fun row => chosen row.1) ((key, value) :: _) = _
  rw [List.filter_cons, if_neg (Bool.eq_false_iff.mp left)]
  exact rest

theorem mem_rows {table : Table Value} {row : String × Value} (member : row ∈ table.rows) :
    table.get? row.1 = some row.2 :=
  get?_eq_some_iff.mpr member

end Table

/-! ### Steps that are taken aside -/

section Asides

variable {Settings Endpoint Service Action Request : Type} {Answer : Request → Type}
  {backend : Backend Settings Endpoint Service Action Request Answer} {region : String → Prop}

/-- A session after something that stays within the region. All that can change besides is what
stands under the names of locks of which the owner key lies in the region. -/
structure Enclosure.Aside (enclosure : Enclosure backend region) (register : Register)
    (session after : Session Endpoint Service) : Prop where
  same : after = { session with service := after.service, locks := after.locks }
  agree : ∀ {other}, enclosure.agree session.now session.service other →
    enclosure.agree session.now after.service other
  locks : ∀ name, ¬ region (register.resource name).keys.owner →
    after.locks.get? name = session.locks.get? name

/-- With a key the region holds the data key that is made from it. -/
def Deep (region : String → Prop) : Prop := ∀ key, region key → region (key ++ ":data")

theorem Deep.claimed_within (deep : Deep region) {resource : Resource}
    (inside : region resource.keys.owner) : resource.keys.claimed.Within region := by
  intro key member
  obtain rfl | rfl := List.mem_pair.mp member
  · exact inside
  · exact deep _ inside

namespace Enclosure

variable {enclosure : Enclosure backend region} {register : Register}
  {session after : Session Endpoint Service}

theorem Aside.refl (session : Session Endpoint Service) :
    enclosure.Aside register session session :=
  ⟨rfl, id, fun _ _ => rfl⟩

theorem aside_run {Result : Type} {program : Program Request Answer Result} (endpoint : Endpoint)
    (all : program.AllAsk fun request => (enclosure.footprint request).Within region) :
    enclosure.Aside register session (session.run backend endpoint program).service :=
  ⟨rfl, fun agree => enclosure.alone agree endpoint all, fun _ _ => rfl⟩

theorem Aside.putLock (aside : enclosure.Aside register session after) {name : String}
    (inside : region (register.resource name).keys.owner) (lock : Lock) :
    enclosure.Aside register session (after.putLock name lock) where
  same := by
    rw [Session.putLock, aside.same]
  agree := aside.agree
  locks key outside := by
    have apart : key ≠ name := by
      rintro rfl
      exact outside inside
    rw [Session.putLock, Table.get?_insert, if_neg apart]
    exact aside.locks key outside

/-- A program that claims a lock in the region stays there. -/
theorem aside_claiming (deep : Deep region) {name : String}
    (inside : region (register.resource name).keys.owner) {lock : Lock}
    (keys : lock.keys = (register.resource name).keys) {Result : Type} (endpoint : Endpoint)
    {program : Program Request Answer Result}
    (claims : program.AllAsk fun request => enclosure.footprint request ≤ lock.keys.claimed) :
    enclosure.Aside register session (session.run backend endpoint program).service := by
  refine aside_run endpoint (enclosure.within_of_le claims ?_)
  rw [keys]
  exact deep.claimed_within inside

variable [Inhabited Endpoint]

/-- Looking at a lock changes nothing at all. -/
theorem aside_inspect (name : String) :
    enclosure.Aside register session
      (session.step backend (Step.inspect name : Step Settings Action)).service := by
  refine Session.onLock_keeps (Aside.refl session) fun lock found => ?_
  have all := enclosure.within_of_le
    (enclosure.inspectLock_viewed (session.clientOf? lock.client) lock)
    (fun key member => by cases member)
  dsimp only
  split <;> exact aside_run _ all

/-- A step on a lock in the region stays there. -/
theorem aside_step (deep : Deep region) (tidy : register.Tidy session)
    {step : Step Settings Action} {name : String} (about : step.subject = .lock name)
    (inside : region (register.resource name).keys.owner) (fits : register.Fits step) :
    enclosure.Aside register session (session.step backend step).service := by
  have refl : enclosure.Aside register session session := Aside.refl session
  cases step with
  | newLock client lockName resource =>
    cases about
    exact Session.onClient_keeps refl fun client found => refl.putLock inside _
  | acquireNew client lockName resource lease =>
    cases about
    refine Session.onClient_keeps refl fun client found => ?_
    have ran : enclosure.Aside register session _ :=
      aside_claiming deep inside (tidy.fit_newLock found fits).1 client.endpoint
        (enclosure.acquireLock_claimed (some client) (client.newLock resource) lease)
    dsimp only
    split
    next => exact ran
    next => exact ran.putLock inside _
  | setPayload lockName payload =>
    cases about
    exact Session.onLock_keeps refl fun lock found => refl.putLock inside _
  | acquire lockName lease =>
    cases about
    exact Session.onLock_keeps refl fun lock found =>
      (aside_claiming deep inside (tidy.locks found).1 _
        (enclosure.acquireLock_claimed _ lock lease)).putLock inside _
  | release lockName =>
    cases about
    exact Session.onLock_keeps refl fun lock found =>
      aside_claiming deep inside (tidy.locks found).1 _ (enclosure.releaseLock_claimed _ lock)
  | refresh lockName =>
    cases about
    exact Session.onLock_keeps refl fun lock found =>
      aside_claiming deep inside (tidy.locks found).1 _ (enclosure.refreshLock_claimed _ lock)
  | refreshFor lockName lease =>
    cases about
    exact Session.onLock_keeps refl fun lock found =>
      (aside_claiming deep inside (tidy.locks found).1 _
        (enclosure.refreshLockFor_claimed _ lock lease)).putLock inside _
  | inspect lockName => exact aside_inspect lockName
  | _ => cases about

end Enclosure

end Asides

/-! ### Sessions beside each other -/

section Besides

variable {Settings Endpoint Service Action Request : Type} {Answer : Request → Type}
  {backend : Backend Settings Endpoint Service Action Request Answer} {region : String → Prop}

namespace Enclosure

/-- A session and what it is when part of its run was left out. The serial numbers of the shorter
run are enrolled among those of the longer one, and the next IDs of its supply are given. -/
structure Beside (enclosure : Enclosure backend region) (register : Register)
    (omission : Omission) (enrol : Nat → Nat) (ids : List String)
    (session other : Session Endpoint Service) : Prop where
  now : other.now = session.now
  agree : enclosure.agree session.now session.service other.service
  clients : session.clients.among (omission.spares register) =
    other.clients.map (Client.enrolled enrol)
  locks : ∀ name, ¬ region (register.resource name).keys.owner →
    session.locks.get? name = (other.locks.get? name).map (Lock.enrolled enrol)
  below : ∀ serial < other.made, enrol serial < session.made
  injective : ∀ one < other.made, ∀ another < other.made,
    enrol one = enrol another → one = another
  apart : ∀ {name client}, session.clients.get? name = some client →
    omission.spares register name = false → ∀ serial < other.made, enrol serial ≠ client.serial
  supplies : other.Supplies ids

variable {enclosure : Enclosure backend region} {register : Register} {omission : Omission}
  {enrol : Nat → Nat} {ids : List String} {session other : Session Endpoint Service}

namespace Beside

/-! ### What is found in both -/

theorem client (beside : enclosure.Beside register omission enrol ids session other)
    {name : String} (spared : omission.spares register name = true) :
    session.clients.get? name = (other.clients.get? name).map (Client.enrolled enrol) := by
  rw [← Table.get?_among spared, beside.clients, Table.get?_map]

/-- The client of a lock is found in the longer run if and only if it is found in the other. -/
theorem clientOf? (beside : enclosure.Beside register omission enrol ids session other)
    (tidy : register.Tidy other) {serial : Nat} (given : serial < other.made) :
    session.clientOf? (enrol serial) =
      (other.clientOf? serial).map (Client.enrolled enrol) := by
  have spared : session.clients.rows.find? (fun row => row.2.serial = enrol serial) =
      (session.clients.rows.filter fun row => omission.spares register row.1).find?
        fun row => row.2.serial = enrol serial := by
    rw [List.find?_filter]
    refine List.find?_congr fun row member => decide_eq_decide.mpr
      ⟨fun same => ⟨?_, decide_eq_true same⟩, fun both => of_decide_eq_true both.2⟩
    by_contra left
    exact beside.apart (Table.mem_rows member) (eq_false_of_ne_true left) serial given same.symm
  have enrolled (row : String × Client Endpoint) (member : row ∈ other.clients.rows) :
      decide (enrol row.2.serial = enrol serial) = decide (row.2.serial = serial) := by
    have known := (tidy.clients (Table.mem_rows member)).2
    exact decide_eq_decide.mpr ⟨beside.injective _ known _ given, congrArg enrol⟩
  have rows := congrArg Table.rows beside.clients
  simp only [Table.among, Table.restrict, Table.map] at rows
  unfold Session.clientOf?
  rw [spared, rows, List.find?_map]
  show Option.map _ (Option.map _ (other.clients.rows.find? fun row =>
    decide (enrol row.2.serial = enrol serial))) = _
  rw [List.find?_congr enrolled, Option.map_map, Option.map_map]
  rfl

/-! ### What is done on one side -/

theorem left (beside : enclosure.Beside register omission enrol ids session other)
    {after : Session Endpoint Service} (aside : enclosure.Aside register session after) :
    enclosure.Beside register omission enrol ids after other := by
  obtain ⟨same, agree, locks⟩ := aside
  rw [same] at locks ⊢
  exact ⟨beside.now, agree beside.agree, beside.clients,
    fun name outside => (locks name outside).trans (beside.locks name outside), beside.below,
    beside.injective, beside.apart, beside.supplies⟩

theorem right (beside : enclosure.Beside register omission enrol ids session other)
    {after : Session Endpoint Service} (aside : enclosure.Aside register other after) :
    enclosure.Beside register omission enrol ids session after := by
  obtain ⟨same, agree, locks⟩ := aside
  have reached : enclosure.agree session.now session.service after.service := by
    have turned := enclosure.symm beside.agree
    rw [← beside.now] at turned ⊢
    exact enclosure.symm (agree turned)
  rw [same] at locks ⊢
  refine ⟨beside.now, reached, beside.clients, fun name outside => ?_, beside.below,
    beside.injective, beside.apart, beside.supplies⟩
  exact (beside.locks name outside).trans
    (congrArg (Option.map (Lock.enrolled enrol)) (locks name outside).symm)

/-- Something is done to the service of the longer run that stays within the region, and some
serial numbers and IDs are used up. -/
theorem leftGrown (beside : enclosure.Beside register omission enrol ids session other)
    {service : Service} (agree : enclosure.agree session.now service other.service) {made : Nat}
    (more : session.made ≤ made) (drawn : Nat) :
    enclosure.Beside register omission enrol ids { session with service, made, drawn } other :=
  ⟨beside.now, agree, beside.clients, beside.locks,
    fun serial given => Nat.lt_of_lt_of_le (beside.below serial given) more, beside.injective,
    beside.apart, beside.supplies⟩

/-- A client that is left out is put under its name. -/
theorem leftPut (beside : enclosure.Beside register omission enrol ids session other)
    {name : String} (left : omission.spares register name = false) {client : Client Endpoint}
    (apart : ∀ serial < other.made, enrol serial ≠ client.serial) :
    enclosure.Beside register omission enrol ids (session.putClient name client) other where
  now := beside.now
  agree := beside.agree
  clients := (Table.among_insert_of_not left _ _).trans beside.clients
  locks := beside.locks
  below := beside.below
  injective := beside.injective
  apart {key found} held hidden := by
    simp only [Session.putClient, Table.get?_insert] at held
    split at held
    · cases held
      exact apart
    · exact beside.apart held hidden
  supplies := beside.supplies

theorem leftDrop (beside : enclosure.Beside register omission enrol ids session other)
    {name : String} (left : omission.spares register name = false) :
    enclosure.Beside register omission enrol ids
      { session with clients := session.clients.erase name } other where
  now := beside.now
  agree := beside.agree
  clients := (Table.among_erase_of_not left _).trans beside.clients
  locks := beside.locks
  below := beside.below
  injective := beside.injective
  apart {key found} held hidden := by
    simp only [Table.get?_erase] at held
    split at held
    · cases held
    · exact beside.apart held hidden
  supplies := beside.supplies

/-! ### What is done on both sides -/

theorem served (beside : enclosure.Beside register omission enrol ids session other)
    {service host : Service} (agree : enclosure.agree session.now service host) :
    enclosure.Beside register omission enrol ids { session with service }
      { other with service := host } :=
  ⟨beside.now, agree, beside.clients, beside.locks, beside.below, beside.injective, beside.apart,
    beside.supplies⟩

theorem put (beside : enclosure.Beside register omission enrol ids session other) {name : String}
    (spared : omission.spares register name = true) (client : Client Endpoint) :
    enclosure.Beside register omission enrol ids
      (session.putClient name (client.enrolled enrol)) (other.putClient name client) where
  now := beside.now
  agree := beside.agree
  clients := by
    simp only [Session.putClient]
    rw [Table.among_insert spared, beside.clients, Table.map_insert]
  locks := beside.locks
  below := beside.below
  injective := beside.injective
  apart {key found} held hidden := by
    simp only [Session.putClient, Table.get?_insert] at held
    split at held
    next same =>
      rw [same, spared] at hidden
      cases hidden
    next => exact beside.apart held hidden
  supplies := beside.supplies

theorem drop (beside : enclosure.Beside register omission enrol ids session other)
    (name : String) :
    enclosure.Beside register omission enrol ids
      { session with clients := session.clients.erase name }
      { other with clients := other.clients.erase name } where
  now := beside.now
  agree := beside.agree
  clients := by
    simp only
    rw [Table.among_erase, beside.clients, Table.map_erase]
  locks := beside.locks
  below := beside.below
  injective := beside.injective
  apart {key found} held hidden := by
    simp only [Table.get?_erase] at held
    split at held
    · cases held
    · exact beside.apart held hidden
  supplies := beside.supplies

theorem putLock (beside : enclosure.Beside register omission enrol ids session other)
    (name : String) (lock : Lock) :
    enclosure.Beside register omission enrol ids (session.putLock name (lock.enrolled enrol))
      (other.putLock name lock) where
  now := beside.now
  agree := beside.agree
  clients := beside.clients
  locks key outside := by
    simp only [Session.putLock, Table.get?_insert]
    split
    · rfl
    · exact beside.locks key outside
  below := beside.below
  injective := beside.injective
  apart := beside.apart
  supplies := beside.supplies

/-- A serial number is used up on both sides. -/
theorem grown (beside : enclosure.Beside register omission enrol ids session other)
    (tidy : register.Tidy session) (otherTidy : register.Tidy other) {service host : Service}
    (agree : enclosure.agree session.now service host) (drawn : Nat) {used : Nat}
    {further : List String} (supplies : Session.Supplies { other with drawn := used } further) :
    enclosure.Beside register omission (Function.update enrol other.made session.made) further
      { session with service, made := session.made + 1, drawn }
      { other with service := host, made := other.made + 1, drawn := used } where
  now := beside.now
  agree := agree
  clients := by
    rw [beside.clients]
    apply Table.ext
    refine List.map_congr_left fun row member => ?_
    have known := (otherTidy.clients (Table.mem_rows member)).2
    simp only [Client.enrolled, Function.update_of_ne (Nat.ne_of_lt known)]
  locks name outside := by
    rw [beside.locks name outside]
    cases found : other.locks.get? name with
    | none => rfl
    | some lock =>
      have known := (otherTidy.locks found).2
      simp only [Option.map_some, Lock.enrolled, Function.update_of_ne (Nat.ne_of_lt known)]
  below serial given := by
    obtain earlier | rfl := Nat.lt_succ_iff_lt_or_eq.mp given
    · rw [Function.update_of_ne (Nat.ne_of_lt earlier)]
      exact Nat.lt_succ_of_lt (beside.below serial earlier)
    · rw [Function.update_self]
      exact Nat.lt_succ_self _
  injective one below another bound same := by
    obtain earlier | rfl := Nat.lt_succ_iff_lt_or_eq.mp below
    · rw [Function.update_of_ne (Nat.ne_of_lt earlier)] at same
      have first := beside.below one earlier
      obtain later | rfl := Nat.lt_succ_iff_lt_or_eq.mp bound
      · rw [Function.update_of_ne (Nat.ne_of_lt later)] at same
        exact beside.injective one earlier another later same
      · rw [Function.update_self] at same
        omega
    · rw [Function.update_self] at same
      obtain later | rfl := Nat.lt_succ_iff_lt_or_eq.mp bound
      · rw [Function.update_of_ne (Nat.ne_of_lt later)] at same
        have second := beside.below another later
        omega
      · rfl
  apart {name client} held hidden serial given := by
    obtain earlier | rfl := Nat.lt_succ_iff_lt_or_eq.mp given
    · rw [Function.update_of_ne (Nat.ne_of_lt earlier)]
      exact beside.apart held hidden serial earlier
    · rw [Function.update_self]
      exact (Nat.ne_of_lt (tidy.clients held).2).symm
  supplies := supplies

end Beside

end Enclosure

end Besides

end Leasehold
