/-
This file says what the feats of the callers mean for one lock, whose keys no other lock has one of
without the other. There are two accounts. The owner key is accounted for by grants: whoever is
seen to hold the lock was given it by a request that took the key, and nobody took it or gave it
back since. The data key is accounted for by writes: since what is written there does not expire,
what is seen is what was last written. The two accounts are kept by different requests, and this
is why the payload that is seen need not be that of the holder.
-/

import Leasehold.Proofs.Conduct
import Leasehold.Proofs.Resource

namespace Leasehold

/-! ### Feats and one lock -/

namespace Feat

/-- A feat changes neither key of a lock. -/
def Apart (keys : KeyPair) : Feat → Prop
  | took key _ _ | stored key _ => keys.owner ≠ key ∧ keys.data ≠ key
  | renewed other _ _ _ | freed other _ => keys.Disjoint other
  | looked .. => True

/-- A feat is about a lock, or it changes neither of the lock's keys. -/
inductive Regards (keys : KeyPair) : Feat → Prop where
  | take (id : String) (deadline : Nat) : Regards keys (took keys.owner id deadline)
  | store (payload : String) : Regards keys (stored keys.data payload)
  | renew (id : String) (deadline : Nat) (payload : String) :
    Regards keys (renewed keys id deadline payload)
  | free (id : String) : Regards keys (freed keys id)
  | apart {feat : Feat} : feat.Apart keys → Regards keys feat

/-- The latest deadline of an ID for an owner key after a feat, if it has the key. -/
def arm (key id : String) (armed : Option Nat) : Feat → Option Nat
  | took owner value deadline => if owner = key ∧ value = id then some deadline else armed
  | renewed keys value deadline _ =>
    if keys.owner = key ∧ value = id then some deadline else armed
  | freed keys value => if keys.owner = key ∧ value = id then none else armed
  | stored .. | looked .. => armed

/-- The payload that a feat writes to a key, if it writes one. -/
def writes (key : String) : Feat → Option String
  | stored other payload => if other = key then some payload else none
  | renewed keys _ _ payload => if keys.data = key then some payload else none
  | took .. | freed .. | looked .. => none

/-- What is left of a payload under a key after a feat. -/
def leave (key : String) (left : Option String) : Feat → Option String
  | freed keys _ => if keys.data = key then none else left
  | feat => (feat.writes key).or left

/-- A feat does not end the time for which an ID has had an owner key: nobody takes the key or
gives it back, and nobody else is given a new lease. -/
def Keeps (key id : String) : Feat → Prop
  | took owner _ _ => owner ≠ key
  | freed keys _ => keys.owner ≠ key
  | renewed keys value _ _ => keys.owner = key → value = id
  | stored .. | looked .. => True

variable {keys : KeyPair} {feat : Feat} {now : Nat} {sight : Sight} {id : String}

theorem Apart.owner_effect (apart : feat.Apart keys) :
    feat.effect now sight keys.owner = sight keys.owner := by
  cases feat with
  | took | stored => exact Function.update_of_ne apart.1 _ _
  | renewed | freed =>
    exact (Function.update_of_ne apart.1.2 _ _).trans (Function.update_of_ne apart.1.1 _ _)
  | looked => rfl

theorem Apart.data_effect (apart : feat.Apart keys) :
    feat.effect now sight keys.data = sight keys.data := by
  cases feat with
  | took | stored => exact Function.update_of_ne apart.2 _ _
  | renewed | freed =>
    exact (Function.update_of_ne apart.2.2 _ _).trans (Function.update_of_ne apart.2.1 _ _)
  | looked => rfl

theorem Apart.arm (apart : feat.Apart keys) (armed : Option Nat) :
    feat.arm keys.owner id armed = armed := by
  cases feat with
  | took => exact if_neg fun same => apart.1 same.1.symm
  | renewed | freed => exact if_neg fun same => apart.1.1 same.1.symm
  | stored | looked => rfl

theorem Apart.writes (apart : feat.Apart keys) : feat.writes keys.data = none := by
  cases feat with
  | stored => exact if_neg apart.2.symm
  | renewed => exact if_neg apart.2.2.symm
  | took | freed | looked => rfl

theorem Apart.leave (apart : feat.Apart keys) (left : Option String) :
    feat.leave keys.data left = left := by
  cases feat with
  | freed => exact if_neg apart.2.2.symm
  | stored | renewed => exact congrArg (Option.or · left) apart.writes
  | took | looked => rfl

theorem Apart.keeps (apart : feat.Apart keys) : feat.Keeps keys.owner id := by
  cases feat with
  | took => exact apart.1.symm
  | freed => exact apart.1.1.symm
  | renewed => exact fun same => absurd same.symm apart.1.1
  | stored | looked => trivial

/-- A feat that does not end a tenure leaves the payload that it writes, or what there was. -/
theorem Regards.leave (regards : feat.Regards keys) (keeps : feat.Keeps keys.owner id)
    (left : Option String) : feat.leave keys.data left = (feat.writes keys.data).or left := by
  cases regards with
  | take | store | renew => rfl
  | free => exact absurd rfl keeps
  | apart apart =>
    rw [apart.leave, apart.writes]
    rfl

end Feat

/-- A lock that a call may do something to is either the lock in question or apart from it. -/
theorem Call.May.regards {Endpoint : Type} {call : Call Endpoint} {past : List Feat} {feat : Feat}
    {keys : KeyPair} (may : call.May past feat)
    (either : ∀ lock, call.lock? = some lock → lock.keys = keys ∨ keys.Disjoint lock.keys) :
    feat.Regards keys := by
  cases may with
  | acquire taking =>
    obtain rfl | apart := either _ rfl
    · cases taking with
      | take => exact .take _ _
      | write => exact .store _
      | giveBack => exact .free _
    · refine .apart ?_
      cases taking with
      | take => exact ⟨apart.1.1, apart.2.1⟩
      | write => exact ⟨apart.1.2, apart.2.2⟩
      | giveBack => exact apart
  | release =>
    obtain rfl | apart := either _ rfl
    · exact .free _
    · exact .apart apart
  | refresh | refreshFor =>
    obtain rfl | apart := either _ rfl
    · exact .renew _ _ _
    · exact .apart apart
  | inspect => exact .apart trivial

/-! ### The owner key -/

section OwnerKey

variable {keys : KeyPair} {feat : Feat} {now : Nat} {sight : Sight} {id : String}
  {armed : Option Nat}

/-- A feat that arms an ID leaves the entry of the ID with its deadline, as long as that has not
come. -/
theorem guards_put {key : String} {deadline : Nat} {after : Sight}
    (entry : after key = (some ⟨id, some deadline⟩).filter (·.isLive now)) :
    Store.Guards key id now (some deadline) after := by
  rintro latest arms ahead
  cases arms
  rw [entry]
  exact Option.filter_some_pos (decide_eq_true ahead)

/-- As long as an ID has an owner key, feats of others leave the entry of the key alone. -/
theorem Store.Guards.effect (guards : Store.Guards keys.owner id now armed sight)
    (distinct : keys.owner ≠ keys.data) (regards : feat.Regards keys)
    (fair : feat.Fair now sight) :
    Store.Guards keys.owner id now (feat.arm keys.owner id armed) (feat.effect now sight) := by
  cases regards with
  | take value deadline =>
    by_cases own : value = id
    · subst own
      rw [Feat.arm, if_pos ⟨rfl, rfl⟩]
      exact guards_put (Function.update_self ..)
    · rw [Feat.arm, if_neg fun same => own same.2]
      intro latest arms ahead
      have free : sight keys.owner = none := fair
      rw [guards latest arms ahead] at free
      cases free
  | store payload =>
    intro latest arms ahead
    rw [Feat.effect, Sight.put, Function.update_of_ne distinct]
    exact guards latest arms ahead
  | renew value deadline payload =>
    by_cases own : value = id
    · subst own
      rw [Feat.arm, if_pos ⟨rfl, rfl⟩]
      exact guards_put ((Function.update_of_ne distinct _ _).trans (Function.update_self ..))
    · rw [Feat.arm, if_neg fun same => own same.2]
      intro latest arms ahead
      have held : sight.holds keys.owner value = true := fair
      rw [Sight.holds, guards latest arms ahead] at held
      exact absurd (of_decide_eq_true held).symm own
  | free value =>
    by_cases own : value = id
    · rw [Feat.arm, if_pos ⟨rfl, own⟩]
      intro latest arms ahead
      cases arms
    · rw [Feat.arm, if_neg fun same => own same.2]
      intro latest arms ahead
      have held : sight.holds keys.owner value = true := fair
      rw [Sight.holds, guards latest arms ahead] at held
      exact absurd (of_decide_eq_true held).symm own
  | apart apart =>
    rw [apart.arm]
    intro latest arms ahead
    rw [apart.owner_effect]
    exact guards latest arms ahead

end OwnerKey

section Histories

variable {Service Action Request Endpoint : Type} {Answer : Request → Type}
  {desk : Desk Service Action Request Answer} {overview : Overview desk}
  {origin : Sight} {now : Nat} {contacts : List (Contact Request Answer)} {sight : Sight}
  {keys : KeyPair}

/-- All that requests achieved regards a lock or is apart from it. -/
def Overview.Regard (overview : Overview desk) (keys : KeyPair)
    (contacts : List (Contact Request Answer)) : Prop :=
  ∀ feat ∈ overview.feats contacts, feat.Regards keys

theorem Overview.Regard.mono {others : List (Contact Request Answer)}
    (regard : overview.Regard keys contacts) (among : others ⊆ contacts) :
    overview.Regard keys others := by
  intro feat member
  obtain ⟨contact, there, achieved⟩ := List.mem_filterMap.mp member
  exact regard feat (List.mem_filterMap.mpr ⟨contact, among there, achieved⟩)

theorem Overview.forall_feats_concat {contact : Contact Request Answer} {property : Feat → Prop} :
    (∀ feat ∈ overview.feats (contacts ++ [contact]), property feat) ↔
      (∀ feat ∈ overview.feats contacts, property feat) ∧
        ∀ feat, overview.featOf contact = some feat → property feat := by
  rw [overview.feats_append]
  constructor
  · intro all
    refine ⟨fun feat member => all feat (List.mem_append_left _ member),
      fun feat achieved => all feat (List.mem_append_right _ ?_)⟩
    exact List.mem_filterMap.mpr ⟨contact, List.mem_singleton_self _, achieved⟩
  · rintro ⟨before, last⟩ feat member
    obtain earlier | late := List.mem_append.mp member
    · exact before feat earlier
    · obtain ⟨other, same, achieved⟩ := List.mem_filterMap.mp late
      cases List.mem_singleton.mp same
      exact last feat achieved

/-- What is achieved by one more request comes after all else. -/
theorem Overview.foldl_feats {State : Type} (act : State → Feat → State) (state : State)
    (contact : Contact Request Answer) :
    (overview.feats (contacts ++ [contact])).foldl act state =
      (overview.featOf contact).elim ((overview.feats contacts).foldl act state)
        (act ((overview.feats contacts).foldl act state)) := by
  rw [overview.feats_append, List.foldl_append, overview.feats_singleton]
  cases overview.featOf contact <;> rfl

/-- What each feat and the passing of time keep is kept throughout. It may speak of something
that the feats add up to. -/
theorem Overview.Chronicle.keeps {State : Type} (kept : Nat → State → Sight → Prop)
    (act : State → Feat → State) {state : State}
    (chronicle : overview.Chronicle origin now contacts sight)
    (regard : overview.Regard keys contacts) (start : kept 0 state origin)
    (pass : ∀ {now state sight}, kept now state sight → ∀ passed,
      kept (now + passed) state (sight.later (now + passed)))
    (achieve : ∀ {now state sight feat}, kept now state sight → feat.Regards keys →
      feat.Fair now sight → kept now (act state feat) (feat.effect now sight)) :
    kept now ((overview.feats contacts).foldl act state) sight := by
  induction chronicle with
  | start => exact start
  | pass passed _ inductionHypothesis => exact pass (inductionHypothesis regard) passed
  | @serve contact contacts sight after _ follows inductionHypothesis =>
    obtain ⟨before, regards⟩ := Overview.forall_feats_concat.mp regard
    have holds := inductionHypothesis before
    rw [overview.foldl_feats]
    cases achieved : overview.featOf contact with
    | none =>
      rw [achieved] at follows
      cases follows
      exact holds
    | some feat =>
      rw [achieved] at follows
      obtain ⟨fair, rfl⟩ := follows
      exact achieve holds (regards feat achieved) fair

/-- An ID that was given an owner key until a deadline has it until then, unless it gives it
back. -/
theorem Overview.Chronicle.guards (chronicle : overview.Chronicle origin now contacts sight)
    (distinct : keys.owner ≠ keys.data) (regard : overview.Regard keys contacts) (id : String) :
    Store.Guards keys.owner id now ((overview.feats contacts).foldl (Feat.arm keys.owner id) none)
      sight :=
  chronicle.keeps (Store.Guards keys.owner id) (Feat.arm keys.owner id) regard
    (fun _ arms => nomatch arms) (fun guards passed => guards.later passed)
    fun guards regards fair => guards.effect distinct regards fair

/-! ### The data key -/

/-- What a feat leaves under a data key that holds what was left before. -/
theorem data_effect {feat : Feat} {left : Option String} (distinct : keys.owner ≠ keys.data)
    (holds : sight keys.data = left.map (⟨·, none⟩)) (regards : feat.Regards keys) :
    feat.effect now sight keys.data = (feat.leave keys.data left).map (⟨·, none⟩) := by
  cases regards with
  | take id deadline => exact (Function.update_of_ne distinct.symm _ _).trans holds
  | store payload | renew id deadline payload =>
    simp only [Feat.leave, Feat.writes, if_pos, Option.some_or, Option.map_some]
    exact Function.update_self ..
  | free id =>
    simp only [Feat.leave, if_pos, Option.map_none]
    exact Function.update_self ..
  | apart apart =>
    rw [apart.data_effect, apart.leave]
    exact holds

/-- What is seen of a data key is the payload that was left there. -/
theorem Overview.Chronicle.data (chronicle : overview.Chronicle origin now contacts sight)
    (distinct : keys.owner ≠ keys.data) (regard : overview.Regard keys contacts)
    (bare : origin keys.data = none) :
    sight keys.data =
      ((overview.feats contacts).foldl (Feat.leave keys.data) none).map (⟨·, none⟩) := by
  refine chronicle.keeps
    (fun _ (left : Option String) sight => sight keys.data = left.map (⟨·, none⟩))
    (Feat.leave keys.data) regard bare (fun {now left sight} holds passed => ?_)
    fun holds regards _ => data_effect distinct holds regards
  rw [Sight.later, holds]
  cases left <;> rfl

/-- The last of some requests that wrote a payload under a key. -/
def Overview.LastWrite (overview : Overview desk) (key payload : String)
    (write : Contact Request Answer) (contacts : List (Contact Request Answer)) : Prop :=
  ∃ before feat after, contacts = before ++ write :: after ∧ overview.featOf write = some feat ∧
    feat.writes key = some payload ∧ ∀ feat ∈ overview.feats after, feat.writes key = none

theorem Overview.LastWrite.cons {key payload : String} {write : Contact Request Answer}
    (last : overview.LastWrite key payload write contacts) (contact : Contact Request Answer) :
    overview.LastWrite key payload write (contact :: contacts) := by
  obtain ⟨before, feat, after, rfl, wrote⟩ := last
  exact ⟨contact :: before, feat, after, rfl, wrote⟩

/-- Requests that removed nothing left the payload that was written last, or what there was. -/
theorem Overview.left_cases (key : String) (left : Option String)
    (kept : ∀ feat ∈ overview.feats contacts, ∀ left,
      feat.leave key left = (feat.writes key).or left) :
    (∃ write payload, overview.LastWrite key payload write contacts ∧
        (overview.feats contacts).foldl (Feat.leave key) left = some payload) ∨
      (∀ feat ∈ overview.feats contacts, feat.writes key = none) ∧
        (overview.feats contacts).foldl (Feat.leave key) left = left := by
  induction contacts generalizing left with
  | nil => exact Or.inr ⟨List.forall_mem_nil _, rfl⟩
  | cons contact contacts inductionHypothesis =>
    cases achieved : overview.featOf contact with
    | none =>
      have same : overview.feats (contact :: contacts) = overview.feats contacts :=
        List.filterMap_cons_none achieved
      rw [same] at kept ⊢
      obtain ⟨write, payload, last, holds⟩ | idle := inductionHypothesis left kept
      · exact Or.inl ⟨write, payload, last.cons contact, holds⟩
      · exact Or.inr idle
    | some feat =>
      have more : overview.feats (contact :: contacts) = feat :: overview.feats contacts :=
        List.filterMap_cons_some achieved
      rw [more] at kept ⊢
      obtain ⟨first, others⟩ := List.forall_mem_cons.mp kept
      rw [List.foldl_cons, first]
      obtain ⟨write, payload, last, holds⟩ | ⟨idle, same⟩ :=
        inductionHypothesis ((feat.writes key).or left) others
      · exact Or.inl ⟨write, payload, last.cons contact, holds⟩
      · rw [same]
        cases writes : feat.writes key with
        | none => exact Or.inr ⟨List.forall_mem_cons.mpr ⟨writes, idle⟩, rfl⟩
        | some payload =>
          exact Or.inl ⟨contact, payload, ⟨[], feat, contacts, rfl, achieved, writes, idle⟩, rfl⟩

/-! ### Tenures -/

/-- An ID has had an owner key since it was granted the key by a request. -/
structure Overview.Since (overview : Overview desk) (key id : String)
    (contacts earlier : List (Contact Request Answer)) (grant : Contact Request Answer)
    (later : List (Contact Request Answer)) : Prop where
  split : contacts = earlier ++ grant :: later
  granted : ∃ deadline, overview.featOf grant = some (.took key id deadline)
  kept : ∀ feat ∈ overview.feats later, feat.Keeps key id

variable {key id : String} {earlier later : List (Contact Request Answer)}
  {grant contact : Contact Request Answer}

theorem Overview.Since.onward (since : overview.Since key id contacts earlier grant later)
    (kept : ∀ feat, overview.featOf contact = some feat → feat.Keeps key id) :
    overview.Since key id (contacts ++ [contact]) earlier grant (later ++ [contact]) where
  split := by rw [since.split, List.append_assoc, List.cons_append]
  granted := since.granted
  kept := Overview.forall_feats_concat.mpr ⟨since.kept, kept⟩

/-- Whoever is seen to have an owner key after a feat was granted it by the feat, or had it before
and keeps it. -/
theorem owner_effect_cases {feat : Feat} (distinct : keys.owner ≠ keys.data)
    (regards : feat.Regards keys) (fair : feat.Fair now sight) {entry : Entry}
    (found : feat.effect now sight keys.owner = some entry) :
    (∃ deadline, feat = .took keys.owner entry.value deadline) ∨
      feat.Keeps keys.owner entry.value ∧
        ∃ old, sight keys.owner = some old ∧ old.value = entry.value := by
  cases regards with
  | take id deadline =>
    rw [Feat.effect, Sight.put, Function.update_self] at found
    cases (Option.filter_eq_some_iff.mp found).1
    exact Or.inl ⟨deadline, rfl⟩
  | store payload =>
    rw [Feat.effect, Sight.put, Function.update_of_ne distinct] at found
    exact Or.inr ⟨trivial, entry, found, rfl⟩
  | renew id deadline payload =>
    obtain ⟨old, seen, same⟩ := (Option.any_eq_true ..).mp fair
    rw [Feat.effect, Sight.put, Function.update_of_ne distinct, Sight.put,
      Function.update_self] at found
    cases (Option.filter_eq_some_iff.mp found).1
    exact Or.inr ⟨fun _ => rfl, old, seen, of_decide_eq_true same⟩
  | free id =>
    rw [Feat.effect, Sight.drop, Function.update_of_ne distinct, Sight.drop,
      Function.update_self] at found
    cases found
  | apart apart =>
    rw [apart.owner_effect] at found
    exact Or.inr ⟨apart.keeps, entry, found, rfl⟩

/-- Whoever is seen to have an owner key was granted it, and has had it since. -/
theorem Overview.Chronicle.tenure (chronicle : overview.Chronicle origin now contacts sight)
    (distinct : keys.owner ≠ keys.data) (regard : overview.Regard keys contacts)
    (bare : origin keys.owner = none) {entry : Entry} (found : sight keys.owner = some entry) :
    ∃ earlier grant later, overview.Since keys.owner entry.value contacts earlier grant later := by
  induction chronicle generalizing entry with
  | start =>
    rw [bare] at found
    cases found
  | pass passed _ inductionHypothesis =>
    exact inductionHypothesis regard (Option.filter_eq_some_iff.mp found).1
  | @serve contact contacts sight after _ follows inductionHypothesis =>
    obtain ⟨before, regards⟩ := Overview.forall_feats_concat.mp regard
    cases achieved : overview.featOf contact with
    | none =>
      rw [achieved] at follows
      cases follows
      obtain ⟨earlier, grant, later, since⟩ := inductionHypothesis before found
      exact ⟨earlier, grant, _, since.onward fun feat done => by
        rw [achieved] at done
        cases done⟩
    | some feat =>
      rw [achieved] at follows
      obtain ⟨fair, rfl⟩ := follows
      obtain ⟨deadline, rfl⟩ | ⟨keeps, old, seen, same⟩ :=
        owner_effect_cases distinct (regards feat achieved) fair found
      · exact ⟨contacts, contact, [], rfl, ⟨deadline, achieved⟩, List.forall_mem_nil _⟩
      · obtain ⟨earlier, grant, later, since⟩ := inductionHypothesis before seen
        rw [same] at since
        exact ⟨earlier, grant, _, since.onward fun other done => by
          rw [achieved] at done
          cases done
          exact keeps⟩

end Histories

end Leasehold
