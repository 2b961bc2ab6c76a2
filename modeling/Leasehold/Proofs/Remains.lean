/-
This file keeps account of what remains under one key of a store within the process: the entry
that was put there last, unless it was removed since. A store drops entries that have run out, so
it may hold less than what remains, but it never holds anything else. As the account is kept by
the requests alone, it does not matter who made them, and in which order calls took their turns.
-/

import Leasehold.Proofs.Feats

namespace Leasehold

namespace Feat

/-- What a feat leaves under a key that it changes: an entry, or nothing. -/
def change? (key : String) : Feat → Option (Option Entry)
  | took owner id deadline => if owner = key then some (some ⟨id, some deadline⟩) else none
  | stored data payload => if data = key then some (some ⟨payload, none⟩) else none
  | renewed keys id deadline payload =>
    if keys.data = key then some (some ⟨payload, none⟩)
    else if keys.owner = key then some (some ⟨id, some deadline⟩)
    else none
  | freed keys _ =>
    if keys.data = key then some none else if keys.owner = key then some none else none
  | looked .. => none

/-- What a feat does to entries. -/
def apply : Feat → Entries → Entries
  | took key id deadline, entries => entries.insert key ⟨id, some deadline⟩
  | stored key payload, entries => entries.insert key ⟨payload, none⟩
  | renewed keys id deadline payload, entries =>
    (entries.insert keys.owner ⟨id, some deadline⟩).insert keys.data ⟨payload, none⟩
  | freed keys _, entries => (entries.erase keys.owner).erase keys.data
  | looked .., entries => entries

theorem get?_apply (feat : Feat) (entries : Entries) (key : String) :
    (feat.apply entries).get? key = (feat.change? key).getD (entries.get? key) := by
  cases feat with
  | took owner id deadline =>
    simp only [apply, change?, Table.get?_insert, eq_comm]
    split <;> rfl
  | stored data payload =>
    simp only [apply, change?, Table.get?_insert, eq_comm]
    split <;> rfl
  | renewed keys id deadline payload =>
    simp only [apply, change?, Table.get?_insert, eq_comm]
    split
    · rfl
    · split <;> rfl
  | freed keys id =>
    simp only [apply, change?, Table.get?_erase, eq_comm]
    split
    · rfl
    · split <;> rfl
  | looked => rfl

/-- A feat sets no deadline beyond a bound. -/
def Within (bound : Nat) : Feat → Prop
  | took _ _ deadline | renewed _ _ deadline _ => deadline ≤ bound
  | stored .. | freed .. | looked .. => True

theorem Within.change {bound deadline : Nat} {feat : Feat} {key value : String}
    (within : feat.Within bound)
    (put : feat.change? key = some (some ⟨value, some deadline⟩)) : deadline ≤ bound := by
  cases feat with
  | took owner id other =>
    obtain ⟨_, ⟨⟩⟩ := Option.ite_none_right_eq_some.mp put
    exact within
  | stored data payload =>
    obtain ⟨_, ⟨⟩⟩ := Option.ite_none_right_eq_some.mp put
  | renewed keys id other payload =>
    simp only [change?] at put
    split at put
    · cases put
    · obtain ⟨_, ⟨⟩⟩ := Option.ite_none_right_eq_some.mp put
      exact within
  | freed keys id =>
    simp only [change?] at put
    split at put
    · cases put
    · obtain ⟨_, ⟨⟩⟩ := Option.ite_none_right_eq_some.mp put
  | looked => cases put

end Feat

namespace Store

variable {key : String} {now : Nat}

/-- What a request left under a key that it changed. -/
def Contact.change? (key : String) (contact : Contact) : Option (Option Entry) :=
  (contact.request.feat? contact.now contact.answer).bind (Feat.change? key)

/-- What remains under a key after a request. -/
def Contact.remain (key : String) (remains : Option Entry) (contact : Contact) : Option Entry :=
  (contact.change? key).getD remains

/-! ### One request -/

theorem deadline_le_longest (now : Nat) (lease : Duration) :
    deadline now lease ≤ now + Duration.longestLease.nanos := by
  unfold deadline
  rw [Duration.nanos_shorter]
  exact Nat.add_le_add_left (Nat.min_le_right _ _) now

theorem Request.within_of_feat? {request : Request} {answer : request.Answer} {feat : Feat}
    (achieved : request.feat? now answer = some feat) :
    feat.Within (now + Duration.longestLease.nanos) := by
  cases request with
  | ping => cases achieved
  | setIfAbsent owner id lease =>
    have within : (Feat.took owner id (deadline now lease)).Within _ :=
      deadline_le_longest now lease
    exact Feat.forall_confirmed within feat achieved
  | refreshIfOwner keys id lease payload =>
    have within : (Feat.renewed keys id (deadline now lease) payload).Within _ :=
      deadline_le_longest now lease
    exact Feat.forall_confirmed within feat achieved
  | set data payload =>
    have within : (Feat.stored data payload).Within (now + Duration.longestLease.nanos) := trivial
    exact Feat.forall_confirmed within feat achieved
  | releaseIfOwner keys id =>
    have within : (Feat.freed keys id).Within (now + Duration.longestLease.nanos) := trivial
    exact Feat.forall_confirmed within feat achieved
  | read keys =>
    obtain ⟨reading, _, rfl⟩ := Option.map_eq_some_iff.mp achieved
    trivial

/-- An entry that a request puts under a key expires within the longest lease, if at all. -/
theorem Contact.deadline_le {contact : Contact} {value : String} {deadline : Nat}
    (put : contact.change? key = some (some ⟨value, some deadline⟩)) :
    deadline ≤ contact.now + Duration.longestLease.nanos := by
  obtain ⟨feat, achieved, changes⟩ := Option.bind_eq_some_iff.mp put
  exact (Request.within_of_feat? achieved).change changes

/-- A request does to entries what it achieves. -/
theorem act_snd (now : Nat) (failingWrites : Bool) (request : Request) (entries : Entries) :
    (act now failingWrites request entries).2 =
      ((request.feat? now (act now failingWrites request entries).1).map Feat.apply).getD id
        entries := by
  cases request with
  | ping | read => rfl
  | setIfAbsent owner value lease =>
    simp only [act, Entries.takeIfAbsent]
    split <;> rfl
  | set data payload => cases failingWrites <;> rfl
  | releaseIfOwner keys value =>
    simp only [act, Entries.releaseIfHeld]
    split <;> rfl
  | refreshIfOwner keys value lease payload =>
    simp only [act, Entries.rearmIfHeld]
    split <;> rfl

/-- What a store does when it cannot be reached. -/
theorem perform_of_unavailable {store : Store} (unavailable : ¬ store.available = true) (now : Nat)
    (request : Request) :
    store.perform now request =
      (.error .unavailable, { store with operations := store.operations + 1 }) :=
  if_neg unavailable

/-- What a store holds under a key after a request remains from what it held before. -/
theorem get?_perform (key : String) (now index : Nat) (request : Request) (store : Store) :
    (store.perform now request).2.entries.get? key =
      Contact.remain key
        ((if store.available then store.entries.live now else store.entries).get? key)
        ⟨now, index, request, (store.perform now request).1⟩ := by
  unfold Contact.remain Contact.change?
  by_cases available : store.available = true
  · rw [perform_of_available available, if_pos available]
    dsimp only
    rw [act_snd]
    cases request.feat? now _ with
    | none => rfl
    | some feat => exact feat.get?_apply _ key
  · rw [perform_of_unavailable available, if_neg available]
    dsimp only
    rw [request.feat?_error]
    rfl

/-! ### The account of a key -/

/-- What remains under a key is all that a store may hold there, and if it expires, it does so
within the longest lease. -/
structure Remains (key : String) (now : Nat) (remains : Option Entry) (store : Store) : Prop where
  holds : ∀ entry, store.entries.get? key = some entry → remains = some entry
  bounded : ∀ value deadline, remains = some ⟨value, some deadline⟩ →
    deadline ≤ now + Duration.longestLease.nanos

theorem get?_of_get?_live {entries : Entries} {entry : Entry}
    (found : (entries.live now).get? key = some entry) : entries.get? key = some entry := by
  rw [Entries.get?_live] at found
  exact (Option.filter_eq_some_iff.mp found).1

/-- What remains after a request is the more, the more was there before. -/
theorem Contact.remain_mono {contact : Contact} {less more : Option Entry}
    (broaden : ∀ entry, less = some entry → more = some entry) {entry : Entry}
    (left : contact.remain key less = some entry) : contact.remain key more = some entry := by
  unfold Contact.remain at left ⊢
  cases changes : contact.change? key with
  | some put =>
    rw [changes] at left
    exact left
  | none =>
    rw [changes] at left
    exact broaden entry left

theorem Contact.remain_cases {contact : Contact} {remains : Option Entry} {entry : Entry}
    (left : contact.remain key remains = some entry) :
    contact.change? key = some (some entry) ∨ remains = some entry := by
  unfold Contact.remain at left
  cases changes : contact.change? key with
  | some put =>
    rw [changes] at left
    exact Or.inl (congrArg some left)
  | none =>
    rw [changes] at left
    exact Or.inr left

theorem Remains.perform {remains : Option Entry} {store : Store}
    (account : Remains key now remains store) (index : Nat) (request : Request) :
    Remains key now
      (Contact.remain key remains ⟨now, index, request, (store.perform now request).1⟩)
      (store.perform now request).2 := by
  constructor
  · intro entry found
    refine Contact.remain_mono ?_ ((get?_perform key now index request store).symm.trans found)
    intro entry held
    split at held
    · exact account.holds entry (get?_of_get?_live held)
    · exact account.holds entry held
  · intro value deadline left
    obtain put | before := Contact.remain_cases left
    · exact Contact.deadline_le put
    · exact account.bounded value deadline before

/-- A store keeps the account of a key, whatever is asked of it. -/
theorem keeps_remains (key : String) :
    desk.Keeps (fun _ => True) (Contact.remain key) (Remains key) where
  serve account index request _ := account.perform index request
  pass account nanos :=
    ⟨account.holds, fun value deadline left =>
      Nat.le_trans (account.bounded value deadline left) (by omega)⟩
  interfere account switching := by
    cases switching <;> exact ⟨account.holds, account.bounded⟩

theorem Remains.run {crowd : Crowd Nat Store Request Request.Answer} {remains : Option Entry}
    (account : Remains key crowd.now remains crowd.service) (moves : List (Move Nat Switching)) :
    Remains key (crowd.run desk moves).2.now
      ((crowd.run desk moves).1.foldl (Contact.remain key) remains)
      (crowd.run desk moves).2.service := by
  have every (program : Steps (StepResult Nat)) : program.AllAsk fun _ => True :=
    Program.allAsk_of_forall (fun _ => trivial) program
  exact (Crowd.run_keeps (keeps_remains key) (fun progress _ => every progress.rest) account moves
    fun call _ => every (call.program dialect)).2

/-- Nothing remains under any key of a store that begins empty, but for what a run puts there. -/
theorem remains_run (key : String) (moves : List (Move Nat Switching)) :
    Remains key ((Crowd.nobody empty).run desk moves).2.now
      (((Crowd.nobody empty).run desk moves).1.foldl (Contact.remain key) none)
      ((Crowd.nobody empty).run desk moves).2.service := by
  let nobody : Crowd Nat Store Request Request.Answer := Crowd.nobody empty
  have account : Remains key nobody.now none nobody.service :=
    ⟨fun _ found => (nomatch found), fun _ _ left => (nomatch left)⟩
  exact account.run moves

/-- What remains after requests was there before, or one of the requests put it there. -/
theorem foldl_remain_cases {contacts : List Contact} {remains : Option Entry} {entry : Entry}
    (left : contacts.foldl (Contact.remain key) remains = some entry) :
    remains = some entry ∨ ∃ contact ∈ contacts, contact.change? key = some (some entry) := by
  induction contacts generalizing remains with
  | nil => exact Or.inl left
  | cons contact contacts inductionHypothesis =>
    obtain before | ⟨other, member, put⟩ := inductionHypothesis left
    · obtain put | earlier := Contact.remain_cases before
      · exact Or.inr ⟨contact, List.mem_cons_self, put⟩
      · exact Or.inl earlier
    · exact Or.inr ⟨other, List.mem_cons_of_mem _ member, put⟩

end Store

end Leasehold
