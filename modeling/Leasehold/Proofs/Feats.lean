/-
This file says what requests achieve, in words that are the same for every kind of store: a key
was taken for an ID, a payload was written, a lease was renewed, a lock was given back, a lock was
looked at. A request that achieves none of these leaves what is seen of the store as it was, and
one that does changes it in the one way that belongs to the feat. So the sight of a store is told
by the feats of its callers and the clock, however the store works inside.
-/

import Leasehold.Proofs.Exclusion
import Leasehold.Proofs.ServerRefinement

namespace Leasehold

/-- What a request achieved. -/
inductive Feat where
  /-- An owner key was given to an ID until a deadline. -/
  | took (key id : String) (deadline : Nat)
  /-- A value was written that does not expire. -/
  | stored (key payload : String)
  /-- A lock was given a new deadline for an ID that held it, and a payload. -/
  | renewed (keys : KeyPair) (id : String) (deadline : Nat) (payload : String)
  /-- Both keys of a lock were removed for an ID that held it. -/
  | freed (keys : KeyPair) (id : String)
  /-- A lock was read. -/
  | looked (keys : KeyPair) (reading : Reading)

namespace Feat

/-- What a feat does to what is seen. -/
def effect (now : Nat) : Feat → Sight → Sight
  | took key id deadline, sight => sight.put now key ⟨id, some deadline⟩
  | stored key payload, sight => sight.put now key ⟨payload, none⟩
  | renewed keys id deadline payload, sight =>
    (sight.put now keys.owner ⟨id, some deadline⟩).put now keys.data ⟨payload, none⟩
  | freed keys _, sight => (sight.drop keys.owner).drop keys.data
  | looked .., sight => sight

/-- What was seen when a feat was achieved: nobody had the key that is taken, and the lock that is
renewed or given back was held by the ID. -/
def Fair (now : Nat) (sight : Sight) : Feat → Prop
  | took key _ _ => sight key = none
  | stored .. => True
  | renewed keys id _ _ | freed keys id => sight.holds keys.owner id = true
  | looked keys reading => reading = sight.read now keys

/-- A feat that is achieved if a request is answered with yes. -/
def confirmed {Fault : Type} (feat : Feat) : Except Fault Bool → Option Feat
  | .ok true => some feat
  | _ => none

/-- A request is answered with yes for no other feat than its own. -/
theorem forall_confirmed {Fault : Type} {feat : Feat} {outcome : Except Fault Bool}
    {property : Feat → Prop} (own : property feat) (achieved : Feat)
    (found : feat.confirmed outcome = some achieved) : property achieved := by
  cases outcome with
  | error fault => cases found
  | ok done =>
    cases done with
    | false => cases found
    | true =>
      cases found
      exact own

end Feat

/-- What is seen after a request, which achieved a feat or none. -/
def Follows (now : Nat) (sight after : Sight) : Option Feat → Prop
  | none => after = sight
  | some feat => feat.Fair now sight ∧ after = feat.effect now sight

/-! ### Operations on what is seen -/

section Operations

variable {Fault : Type} {outcome : Except Fault Bool} {now : Nat} {sight : Sight}

/-- An attempt at a feat that either fails and does nothing or succeeds fairly. -/
theorem follows_attempt {feat : Feat} {attempt : Bool × Sight} (told : outcome = .ok attempt.1)
    (either : attempt = (false, sight) ∨
      attempt = (true, feat.effect now sight) ∧ feat.Fair now sight) :
    Follows now sight attempt.2 (feat.confirmed outcome) := by
  rw [told]
  obtain rfl | ⟨rfl, fair⟩ := either
  · rfl
  · exact ⟨fair, rfl⟩

theorem follows_takeIfAbsent {key id : String} {deadline : Nat}
    (told : outcome = .ok (sight.takeIfAbsent now key ⟨id, some deadline⟩).1) :
    Follows now sight (sight.takeIfAbsent now key ⟨id, some deadline⟩).2
      ((Feat.took key id deadline).confirmed outcome) := by
  refine follows_attempt told ?_
  by_cases present : (sight key).isSome = true
  · exact Or.inl (if_pos present)
  · exact Or.inr ⟨if_neg present, Option.not_isSome_iff_eq_none.mp present⟩

theorem follows_releaseIfHeld {keys : KeyPair} {id : String}
    (told : outcome = .ok (sight.releaseIfHeld keys id).1) :
    Follows now sight (sight.releaseIfHeld keys id).2
      ((Feat.freed keys id).confirmed outcome) := by
  refine follows_attempt told ?_
  by_cases held : sight.holds keys.owner id = true
  · exact Or.inr ⟨if_pos held, held⟩
  · exact Or.inl (if_neg held)

theorem follows_rearmIfHeld {keys : KeyPair} {id : String} {deadline : Nat} {payload : String}
    (told : outcome = .ok (sight.rearmIfHeld now keys id deadline payload).1) :
    Follows now sight (sight.rearmIfHeld now keys id deadline payload).2
      ((Feat.renewed keys id deadline payload).confirmed outcome) := by
  refine follows_attempt told ?_
  by_cases held : sight.holds keys.owner id = true
  · exact Or.inr ⟨if_pos held, held⟩
  · exact Or.inl (if_neg held)

end Operations

/-! ### Desks -/

/-- A list that ends in one more item, taken apart at an item. -/
theorem split_concat {Item : Type} {items earlier later : List Item} {last item : Item}
    (split : items ++ [last] = earlier ++ item :: later) :
    (items = earlier ∧ last = item) ∨ ∃ between, items = earlier ++ item :: between := by
  obtain rfl | ⟨between, final, rfl⟩ := List.eq_nil_or_concat later
  · obtain ⟨front, back⟩ := List.append_inj' split rfl
    exact Or.inl ⟨front, List.singleton_inj.mp back⟩
  · rw [List.concat_eq_append, ← List.cons_append, ← List.append_assoc] at split
    exact Or.inr ⟨between, (List.append_inj' split rfl).1⟩

section Desks

variable {Service Action Request Endpoint : Type} {Answer : Request → Type}

/-- How a desk looks from outside: what is seen of its service, and what a request achieved, going
by the answer to it. This is only promised for a service that is in order. -/
structure Overview (desk : Desk Service Action Request Answer) where
  sound : Service → Prop
  seen : (now : Nat) → Service → Sight
  feat? : (now : Nat) → (request : Request) → Answer request → Option Feat
  seen_later : ∀ now passed service,
    seen (now + passed) service = (seen now service).later (now + passed)
  follows : ∀ now request {service}, sound service →
    Follows now (seen now service) (seen now (desk.perform now request service).2)
      (feat? now request (desk.perform now request service).1)
  sound_perform : ∀ now request {service}, sound service →
    sound (desk.perform now request service).2
  seen_interfere : ∀ now service action,
    seen now (desk.interfere now service action) = seen now service
  sound_interfere : ∀ now action {service}, sound service →
    sound (desk.interfere now service action)

namespace Overview

variable {desk : Desk Service Action Request Answer} (overview : Overview desk)

/-- What was achieved by a request that was made. -/
def featOf (contact : Contact Request Answer) : Option Feat :=
  overview.feat? contact.now contact.request contact.answer

/-- What was achieved by requests, in the order in which they were made. -/
def feats (contacts : List (Contact Request Answer)) : List Feat :=
  contacts.filterMap overview.featOf

theorem feats_append (contacts others : List (Contact Request Answer)) :
    overview.feats (contacts ++ others) = overview.feats contacts ++ overview.feats others :=
  List.filterMap_append

theorem feats_singleton (contact : Contact Request Answer) :
    overview.feats [contact] = (overview.featOf contact).toList := by
  cases achieved : overview.featOf contact with
  | none => exact List.filterMap_cons_none achieved
  | some feat => exact List.filterMap_cons_some achieved

/-- What was achieved before, by and after a request. -/
theorem feats_split {contact : Contact Request Answer} {feat : Feat}
    (achieved : overview.featOf contact = some feat)
    (earlier later : List (Contact Request Answer)) :
    overview.feats (earlier ++ contact :: later) =
      overview.feats earlier ++ feat :: overview.feats later := by
  rw [overview.feats_append]
  exact congrArg _ (List.filterMap_cons_some achieved)

/-- The sight that is had after requests, starting from one at the beginning. Between any two
requests time may pass. -/
inductive Chronicle (origin : Sight) : Nat → List (Contact Request Answer) → Sight → Prop
  | start : Chronicle origin 0 [] origin
  | pass {now contacts sight} (passed : Nat) : Chronicle origin now contacts sight →
      Chronicle origin (now + passed) contacts (sight.later (now + passed))
  | serve {contact contacts sight after} : Chronicle origin contact.now contacts sight →
      Follows contact.now sight after (overview.featOf contact) →
      Chronicle origin contact.now (contacts ++ [contact]) after

variable {overview} {origin : Sight} {crowd : Crowd Endpoint Service Request Answer}
  {contacts : List (Contact Request Answer)}

theorem Chronicle.move (sound : overview.sound crowd.service)
    (chronicle : overview.Chronicle origin crowd.now contacts
      (overview.seen crowd.now crowd.service)) (move : Move Endpoint Action) :
    overview.sound (crowd.move desk move).2.service ∧
      overview.Chronicle origin (crowd.move desk move).2.now
        (contacts ++ (crowd.move desk move).1.toList)
        (overview.seen (crowd.move desk move).2.now (crowd.move desk move).2.service) := by
  cases move with
  | begin call =>
    refine ⟨sound, ?_⟩
    rw [Crowd.move, Option.toList_none, List.append_nil]
    exact chronicle
  | serve index =>
    rw [Crowd.move_serve]
    obtain served | ⟨progress, step, called, found, served⟩ := crowd.serve_cases desk index
    · rw [served, Option.toList_none, List.append_nil]
      exact ⟨sound, chronicle⟩
    · let contact : Contact Request Answer :=
        ⟨crowd.now, index, step.1, (desk.perform crowd.now step.1 crowd.service).1⟩
      have follows : Follows contact.now (overview.seen crowd.now crowd.service)
          (overview.seen crowd.now (desk.perform crowd.now step.1 crowd.service).2)
          (overview.featOf contact) := overview.follows crowd.now step.1 sound
      rw [served]
      exact ⟨overview.sound_perform _ _ sound, chronicle.serve follows⟩
  | pass nanos =>
    refine ⟨sound, ?_⟩
    rw [Crowd.move, Option.toList_none, List.append_nil, overview.seen_later]
    exact chronicle.pass nanos
  | interfere action =>
    refine ⟨overview.sound_interfere _ action sound, ?_⟩
    rw [Crowd.move, Option.toList_none, List.append_nil, overview.seen_interfere]
    exact chronicle

/-- What was seen when a request was made. -/
theorem Chronicle.at {now : Nat} {sight : Sight} {earlier later : List (Contact Request Answer)}
    {contact : Contact Request Answer} (chronicle : overview.Chronicle origin now contacts sight)
    (split : contacts = earlier ++ contact :: later) :
    ∃ before after, overview.Chronicle origin contact.now earlier before ∧
      Follows contact.now before after (overview.featOf contact) := by
  induction chronicle generalizing later with
  | start => exact absurd split.symm (List.append_ne_nil_of_right_ne_nil _ (List.cons_ne_nil _ _))
  | pass passed _ inductionHypothesis => exact inductionHypothesis split
  | @serve last contacts sight after chronicle follows inductionHypothesis =>
    obtain ⟨rfl, rfl⟩ | ⟨between, before⟩ := split_concat split
    · exact ⟨sight, after, chronicle, follows⟩
    · exact inductionHypothesis before

/-- What is seen after a run is what the requests made in it led to. -/
theorem chronicle_run {service : Service} (sound : overview.sound service)
    (moves : List (Move Endpoint Action)) :
    overview.sound ((Crowd.nobody service).run desk moves).2.service ∧
      overview.Chronicle (overview.seen 0 service) ((Crowd.nobody service).run desk moves).2.now
        ((Crowd.nobody service).run desk moves).1
        (overview.seen ((Crowd.nobody service).run desk moves).2.now
          ((Crowd.nobody service).run desk moves).2.service) :=
  Crowd.run_induction (fun contacts crowd => overview.sound crowd.service ∧
      overview.Chronicle (overview.seen 0 service) crowd.now contacts
        (overview.seen crowd.now crowd.service)) [] moves ⟨sound, .start⟩
    fun move _ _ _ ⟨sound, chronicle⟩ => chronicle.move sound move

end Overview

end Desks

/-! ### A store within the process -/

namespace Store

/-- What a request achieved. -/
def Request.feat? (now : Nat) : (request : Request) → request.Answer → Option Feat
  | .ping, _ => none
  | .setIfAbsent key id lease, answer => (Feat.took key id (deadline now lease)).confirmed answer
  | .set key payload, answer =>
    (Feat.stored key payload).confirmed (answer.map fun _ => true)
  | .releaseIfOwner keys id, answer => (Feat.freed keys id).confirmed answer
  | .refreshIfOwner keys id lease payload, answer =>
    (Feat.renewed keys id (deadline now lease) payload).confirmed answer
  | .read keys, answer => answer.toOption.map (Feat.looked keys)

theorem Request.feat?_error (now : Nat) (request : Request) (fault : StoreFault) :
    request.feat? now (.error fault) = none := by
  cases request <;> rfl

theorem follows_perform (now : Nat) (switches : Switches) (request : Request) (sight : Sight) :
    Follows now sight (sight.perform now switches request).2
      (request.feat? now (sight.perform now switches request).1) := by
  cases struck : switches.fault? request.isPlain with
  | some fault =>
    rw [Sight.perform_of_fault struck, request.feat?_error]
    rfl
  | none =>
    rw [Sight.perform_of_none struck]
    cases request with
    | ping => rfl
    | setIfAbsent key id lease => exact follows_takeIfAbsent rfl
    | set key payload => exact ⟨trivial, rfl⟩
    | releaseIfOwner keys id => exact follows_releaseIfHeld rfl
    | refreshIfOwner keys id lease payload => exact follows_rearmIfHeld rfl
    | read keys => exact ⟨rfl, rfl⟩

/-- How a store within the process looks from outside. -/
def overview : Overview desk where
  sound _ := True
  seen now store := store.entries.seen now
  feat? := Request.feat?
  seen_later now passed _ := Entries.seen_later (Nat.le_add_right now passed)
  follows now request store _ := by
    have shows : store.Shows now store.switches (store.entries.seen now) := ⟨rfl, rfl⟩
    obtain ⟨answered, after⟩ := shows.perform request
    have follows := follows_perform now store.switches request (store.entries.seen now)
    rw [← answered, ← after.seen] at follows
    exact follows
  sound_perform _ _ _ _ := trivial
  seen_interfere _ _ switching := by cases switching <;> rfl
  sound_interfere _ _ _ _ := trivial

end Store

/-! ### A server -/

namespace Server

/-- A server at which calls of clients that connect alike take turns. Commands may fail, by all
means, but the server makes up no answers. -/
def desk (endpoint : Endpoint) : Desk Server Disturbance Request Request.Answer where
  dialect := dialect
  perform now request := perform now endpoint request
  interfere now server disturbance := server.interfere now disturbance.action

/-- The reading in a reply. -/
def Reply.reading? : Reply → Option Reading
  | .array [owner, remaining, data] => (readingOfParts owner remaining data).toOption
  | _ => none

/-- What a command achieved. -/
def Command.feat? (now : Nat) : Command → Except CommandFailure Reply → Option Feat
  | .ping, _ | .quit, _ => none
  | .setIfAbsent key id millis, answer =>
    (Feat.took key id (deadline now millis)).confirmed
      ((answer.bind Reply.expectText).map Option.isSome)
  | .set key payload, answer => (Feat.stored key payload).confirmed (answer.map fun _ => true)
  | .release keys id, answer => (Feat.freed keys id).confirmed (succeeded answer)
  | .refresh keys id millis payload, answer =>
    (Feat.renewed keys id (deadline now millis) payload).confirmed (succeeded answer)
  | .inspect keys, answer => (answer.toOption.bind Reply.reading?).map (Feat.looked keys)

/-- What a request achieved. -/
def Request.feat? (now : Nat) : (request : Request) → request.Answer → Option Feat
  | .dial, _ => none
  | .send command, answer => command.feat? now answer

theorem Command.feat?_error (now : Nat) (command : Command) (failure : CommandFailure) :
    command.feat? now (.error failure) = none := by
  cases command <;> rfl

/-- Whether an owner key was taken is told by the reply as it is read. -/
theorem isSome_expectText (taken : Bool) :
    ((Except.ok (if taken then .text "OK" else .null) : Except CommandFailure Reply).bind
      Reply.expectText).map Option.isSome = .ok taken := by
  cases taken <;> rfl

theorem reading?_readingReply (reading : Reading) :
    Reply.reading? (readingReply reading) = some reading :=
  congrArg Except.toOption (readingOfParts_reading reading)

theorem follows_answer (now : Nat) (command : Command) (sight : Sight) :
    Follows now sight (sight.answer now command).2
      (command.feat? now (.ok (sight.answer now command).1)) := by
  cases command with
  | ping | quit => rfl
  | setIfAbsent key id millis => exact follows_takeIfAbsent (isSome_expectText _)
  | set key payload => exact ⟨trivial, rfl⟩
  | release keys id => exact follows_releaseIfHeld (succeeded_verdict _)
  | refresh keys id millis payload => exact follows_rearmIfHeld (succeeded_verdict _)
  | inspect keys =>
    have looked : Command.feat? now (.inspect keys) (.ok (sight.answer now (.inspect keys)).1) =
        some (.looked keys (sight.read now keys)) :=
      congrArg (Option.map (Feat.looked keys)) (reading?_readingReply _)
    rw [looked]
    exact ⟨rfl, rfl⟩

theorem follows_perform (now : Nat) (request : Request) (outlook : Outlook) :
    Follows now outlook.sight (outlook.perform now request).2.sight
      (request.feat? now (outlook.perform now request).1) := by
  cases request with
  | dial => rfl
  | send command =>
    show Follows now outlook.sight (outlook.obey now command).2.sight
      (command.feat? now (outlook.obey now command).1)
    cases struck : outlook.faults.strike command.name command.isPlain with
    | mk failure faults =>
      cases failure with
      | some failure =>
        rw [Outlook.obey_of_fault struck, command.feat?_error]
        rfl
      | none =>
        rw [Outlook.obey_of_none struck]
        exact follows_answer now command outlook.sight

/-- A server that makes up no answers shows some outlook. -/
theorem exists_shows {server : Server} {plan : List (Option CommandFailure)}
    (laid : server.prepared = plan.map Faults.laidIn) (now : Nat) :
    server.Shows now ⟨server.entries.seen now, server.failing, server.failingWrites, plan⟩ :=
  ⟨rfl, rfl, laid, rfl⟩

/-- How a server looks from outside that makes up no answers. -/
def overview (endpoint : Endpoint) : Overview (desk endpoint) where
  sound server := ∃ plan : List (Option CommandFailure), server.prepared = plan.map Faults.laidIn
  seen now server := server.entries.seen now
  feat? := Request.feat?
  seen_later now passed _ := Entries.seen_later (Nat.le_add_right now passed)
  follows := by
    rintro now request server ⟨plan, laid⟩
    obtain ⟨answered, after⟩ := (exists_shows laid now).perform endpoint request
    have follows := follows_perform now request
      ⟨server.entries.seen now, server.failing, server.failingWrites, plan⟩
    rw [← answered, ← after.seen] at follows
    exact follows
  sound_perform := by
    rintro now request server ⟨plan, laid⟩
    obtain ⟨_, after⟩ := (exists_shows laid now).perform endpoint request
    exact ⟨_, after.prepared⟩
  seen_interfere now server disturbance := by cases disturbance <;> rfl
  sound_interfere := by
    rintro now disturbance server ⟨plan, laid⟩
    cases disturbance with
    | fail | failWrites => exact ⟨plan, laid⟩
    | plan failures => exact ⟨failures, rfl⟩

end Server

end Leasehold
