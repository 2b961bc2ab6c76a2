/-
This file is about what passes between a call and its service: the requests that the call made,
each with the answer that it got. In a crowd the requests of many calls are mixed, but what one call
does next depends on its own dialogue alone. So whatever is true of all dialogues that a program
may have, with anybody who answers, is true of each call in every run of every crowd.
-/

import Leasehold.Proofs.Conduct

namespace Leasehold

/-! ### Programs -/

section Programs

variable {Request : Type} {Answer : Request → Type} {Result Other : Type}

/-- A request and the answer to it. -/
abbrev Exchange (Request : Type) (Answer : Request → Type) := (request : Request) × Answer request

namespace Program

/-- What a program does next, apart from noting events: it makes a request, or it ends. -/
def upcoming : Program Request Answer Result → Request ⊕ Result
  | done result => .inr result
  | note _ next => next.upcoming
  | ask request _ => .inl request

variable {program rest : Program Request Answer Result}

theorem upcoming_of_next
    {step : (request : Request) × (Answer request → Program Request Answer Result)}
    (found : program.next? = some step) : program.upcoming = .inl step.1 := by
  induction program with
  | done result => cases found
  | note event next inductionHypothesis => exact inductionHypothesis found
  | ask request next =>
    cases found
    rfl

theorem upcoming_of_result {result : Result} (found : program.result? = some result) :
    program.upcoming = .inr result := by
  induction program with
  | done other =>
    cases found
    rfl
  | note event next inductionHypothesis => exact inductionHypothesis found
  | ask request next => cases found

theorem result?_of_upcoming {result : Result} (ended : program.upcoming = .inr result) :
    program.result? = some result := by
  induction program with
  | done other =>
    cases ended
    rfl
  | note event next inductionHypothesis => exact inductionHypothesis ended
  | ask request next => cases ended

/-- A program that makes no further request has ended. -/
theorem isSome_result?_of_next? (ended : program.next? = none) :
    program.result?.isSome = true := by
  induction program with
  | done result => rfl
  | note event next inductionHypothesis => exact inductionHypothesis ended
  | ask request next => cases ended

/-- A program comes to what is left of it by a dialogue. -/
inductive Comes (program : Program Request Answer Result) :
    List (Exchange Request Answer) → Program Request Answer Result → Prop
  | start : Comes program [] program
  | ask {dialogue rest step} : Comes program dialogue rest → rest.next? = some step →
    ∀ answer, Comes program (dialogue ++ [⟨step.1, answer⟩]) (step.2 answer)

/-- A course says what may come next after a dialogue. A program heeds it if, whatever it is
answered, it only does what may come next. -/
def Heeds (course : List (Exchange Request Answer) → Request ⊕ Result → Prop) :
    Program Request Answer Result → (past : List (Exchange Request Answer)) → Prop
  | done result, past => course past (.inr result)
  | note _ next, past => next.Heeds course past
  | ask request next, past =>
    course past (.inl request) ∧ ∀ answer, (next answer).Heeds course (past ++ [⟨request, answer⟩])

namespace Heeds

variable {course looser : List (Exchange Request Answer) → Request ⊕ Result → Prop}
  {past dialogue : List (Exchange Request Answer)}

theorem mono (heeds : program.Heeds course past)
    (loosen : ∀ dialogue upcoming, course dialogue upcoming → looser dialogue upcoming) :
    program.Heeds looser past := by
  induction program generalizing past with
  | done result => exact loosen _ _ heeds
  | note event next inductionHypothesis => exact inductionHypothesis heeds
  | ask request next inductionHypothesis =>
    exact ⟨loosen _ _ heeds.1, fun answer => inductionHypothesis answer (heeds.2 answer)⟩

theorem map {change : Result → Other}
    {course : List (Exchange Request Answer) → Request ⊕ Other → Prop}
    (heeds : program.Heeds
      (fun dialogue upcoming => course dialogue (upcoming.map id change)) past) :
    (program.map change).Heeds course past := by
  induction program generalizing past with
  | done result => exact heeds
  | note event next inductionHypothesis => exact inductionHypothesis heeds
  | ask request next inductionHypothesis =>
    exact ⟨heeds.1, fun answer => inductionHypothesis answer (heeds.2 answer)⟩

/-- What comes next is as the course has it. -/
theorem upcoming (heeds : program.Heeds course past) : course past program.upcoming := by
  induction program with
  | done result => exact heeds
  | note event next inductionHypothesis => exact inductionHypothesis heeds
  | ask request next => exact heeds.1

theorem next (heeds : program.Heeds course past)
    {step : (request : Request) × (Answer request → Program Request Answer Result)}
    (found : program.next? = some step) (answer : Answer step.1) :
    (step.2 answer).Heeds course (past ++ [⟨step.1, answer⟩]) := by
  induction program with
  | done result => cases found
  | note event next inductionHypothesis => exact inductionHypothesis heeds found
  | ask request next =>
    cases found
    exact heeds.2 answer

/-- What is left of a program that heeds a course heeds it too. -/
theorem comes (heeds : program.Heeds course []) (comes : program.Comes dialogue rest) :
    rest.Heeds course dialogue := by
  induction comes with
  | start => exact heeds
  | ask _ found answer inductionHypothesis => exact inductionHypothesis.next found answer

end Heeds

end Program

end Programs

/-! ### Crowds -/

section Crowds

variable {Service Action Request Endpoint : Type} {Answer : Request → Type}
  {desk : Desk Service Action Request Answer}

/-- A request that was made, with its answer. -/
def Contact.exchange (contact : Contact Request Answer) : Exchange Request Answer :=
  ⟨contact.request, contact.answer⟩

/-- What passed between the call of an index and its service. -/
def dialogue (index : Nat) (contacts : List (Contact Request Answer)) :
    List (Exchange Request Answer) :=
  (contacts.filter (·.index = index)).map Contact.exchange

variable {contacts : List (Contact Request Answer)} {index : Nat}

theorem dialogue_append (index : Nat) (contacts others : List (Contact Request Answer)) :
    dialogue index (contacts ++ others) = dialogue index contacts ++ dialogue index others := by
  unfold dialogue
  rw [List.filter_append, List.map_append]

theorem dialogue_own {contact : Contact Request Answer} (own : contact.index = index) :
    dialogue index [contact] = [contact.exchange] := by
  unfold dialogue
  rw [List.filter_singleton, decide_eq_true own]
  rfl

theorem dialogue_other {contact : Contact Request Answer} (apart : contact.index ≠ index) :
    dialogue index [contact] = [] := by
  unfold dialogue
  rw [List.filter_singleton, decide_eq_false apart]
  rfl

/-- A call of an index that is not yet given out has had no dialogue. -/
theorem dialogue_eq_nil (unknown : ∀ contact ∈ contacts, contact.index ≠ index) :
    dialogue index contacts = [] := by
  unfold dialogue
  rw [List.filter_eq_nil_iff.mpr fun contact member same =>
    unknown contact member (of_decide_eq_true same)]
  rfl

namespace Crowd

/-- Each call of a crowd has come to where it is by its own dialogue. -/
structure Conversant (desk : Desk Service Action Request Answer)
    (contacts : List (Contact Request Answer))
    (crowd : Crowd Endpoint Service Request Answer) : Prop where
  known : ∀ contact ∈ contacts, contact.index < crowd.calls.length
  comes : ∀ index (progress : Progress Endpoint Request Answer),
    crowd.calls[index]? = some progress →
      (progress.call.program desk.dialect).Comes (dialogue index contacts) progress.rest

variable {crowd : Crowd Endpoint Service Request Answer}

theorem Conversant.serve (conversant : crowd.Conversant desk contacts) (index : Nat) :
    (crowd.serve desk index).2.Conversant desk (contacts ++ (crowd.serve desk index).1.toList) := by
  obtain served | ⟨progress, step, called, found, served⟩ := serve_cases desk crowd index
  · rw [served, Option.toList_none, List.append_nil]
    exact conversant
  · have within : index < crowd.calls.length := (List.getElem?_eq_some_iff.mp called).1
    let contact : Contact Request Answer :=
      ⟨crowd.now, index, step.1, (desk.perform crowd.now step.1 crowd.service).1⟩
    have own : dialogue index [contact] = [contact.exchange] := dialogue_own rfl
    rw [served, Option.toList_some]
    refine ⟨fun contact member => ?_, fun other entry present => ?_⟩
    · rw [List.length_set]
      obtain before | last := List.mem_append.mp member
      · exact conversant.known contact before
      · cases List.mem_singleton.mp last
        exact within
    · rw [dialogue_append]
      by_cases same : index = other
      · subst same
        rw [List.getElem?_set_self within] at present
        cases present
        rw [own]
        exact (conversant.comes index progress called).ask found _
      · rw [List.getElem?_set_ne same] at present
        rw [dialogue_other same, List.append_nil]
        exact conversant.comes other entry present

theorem Conversant.begin (conversant : crowd.Conversant desk contacts) (call : Call Endpoint) :
    Conversant desk contacts
      { crowd with calls := crowd.calls ++ [⟨call, call.program desk.dialect⟩] } := by
  refine ⟨fun contact member => ?_, fun index entry present => ?_⟩
  · rw [List.length_append]
    exact Nat.lt_add_right _ (conversant.known contact member)
  · obtain before | ⟨rfl, rfl⟩ := getElem?_concat_cases present
    · exact conversant.comes index entry before
    · rw [dialogue_eq_nil fun contact member => Nat.ne_of_lt (conversant.known contact member)]
      exact .start

theorem Conversant.move (conversant : crowd.Conversant desk contacts)
    (move : Move Endpoint Action) :
    (crowd.move desk move).2.Conversant desk (contacts ++ (crowd.move desk move).1.toList) := by
  cases move with
  | begin call =>
    rw [Crowd.move, Option.toList_none, List.append_nil]
    exact conversant.begin call
  | serve index => exact conversant.serve index
  | pass | interfere =>
    rw [Crowd.move, Option.toList_none, List.append_nil]
    exact ⟨conversant.known, conversant.comes⟩

theorem conversant_nobody (service : Service) :
    (nobody service : Crowd Endpoint Service Request Answer).Conversant desk [] :=
  ⟨fun _ member => (nomatch member), fun _ _ present => (nomatch present)⟩

/-- A crowd of which all calls have begun and none has been served. -/
def gathered (desk : Desk Service Action Request Answer) (now : Nat) (service : Service)
    (calls : List (Call Endpoint)) : Crowd Endpoint Service Request Answer :=
  ⟨now, service, calls.map fun call => ⟨call, call.program desk.dialect⟩⟩

theorem conversant_gathered (now : Nat) (service : Service) (calls : List (Call Endpoint)) :
    (gathered desk now service calls).Conversant desk [] := by
  refine ⟨fun _ member => (nomatch member), fun index progress present => ?_⟩
  obtain ⟨call, _, rfl⟩ := Option.map_eq_some_iff.mp ((List.getElem?_map ..).symm.trans present)
  exact .start

/-- In every run each call comes to where it is by its own dialogue. -/
theorem Conversant.run (conversant : crowd.Conversant desk contacts)
    (moves : List (Move Endpoint Action)) :
    (crowd.run desk moves).2.Conversant desk (contacts ++ (crowd.run desk moves).1) :=
  run_induction (fun contacts crowd => crowd.Conversant desk contacts) contacts moves conversant
    fun move _ _ _ conversant => conversant.move move

/-! ### Turns -/

/-- A request that a call makes when it is served is made now, and answered by the service. -/
theorem contact_of_serve {contact : Contact Request Answer}
    (served : (crowd.serve desk index).1 = some contact) :
    contact.now = crowd.now ∧ contact.index = index ∧
      desk.perform crowd.now contact.request crowd.service =
        (contact.answer, (crowd.serve desk index).2.service) := by
  obtain idle | ⟨progress, step, called, found, whole⟩ := serve_cases desk crowd index
  · rw [idle] at served
    cases served
  · rw [whole] at served ⊢
    cases served
    exact ⟨rfl, rfl, rfl⟩

theorem call?_serve (desk : Desk Service Action Request Answer)
    (crowd : Crowd Endpoint Service Request Answer) (index other : Nat) :
    (crowd.serve desk index).2.call? other = crowd.call? other := by
  obtain served | ⟨progress, step, called, found, served⟩ := serve_cases desk crowd index
  · rw [served]
  · rw [served, call?_set called]

/-- A call that is over stays as it is, whoever is served. -/
theorem serve_of_over {progress : Progress Endpoint Request Answer}
    (called : crowd.calls[index]? = some progress) (ended : progress.rest.next? = none)
    (other : Nat) : (crowd.serve desk other).2.calls[index]? = some progress := by
  obtain served | ⟨serving, step, serves, found, served⟩ := serve_cases desk crowd other
  · rw [served]
    exact called
  · have apart : other ≠ index := by
      rintro rfl
      rw [serves] at called
      cases called
      rw [found] at ended
      cases ended
    rw [served, List.getElem?_set_ne apart]
    exact called

theorem run_of_over {progress : Progress Endpoint Request Answer}
    (called : crowd.calls[index]? = some progress) (ended : progress.rest.next? = none)
    (schedule : List Nat) :
    (crowd.run desk (schedule.map .serve)).2.calls[index]? = some progress := by
  induction schedule generalizing crowd with
  | nil => exact called
  | cons first schedule inductionHypothesis =>
    exact inductionHypothesis (serve_of_over called ended first)

/-- A call that is served has one more exchange, unless it is over. -/
theorem dialogue_serve {progress : Progress Endpoint Request Answer}
    (called : crowd.calls[index]? = some progress)
    {step : (request : Request) × (Answer request → Program Request Answer (StepResult Endpoint))}
    (found : progress.rest.next? = some step) :
    (dialogue index (crowd.serve desk index).1.toList).length = 1 := by
  unfold serve
  rw [called]
  simp only [found, Option.toList_some]
  exact congrArg List.length (dialogue_own rfl)

theorem exists_of_serve {progress : Progress Endpoint Request Answer}
    (called : crowd.calls[index]? = some progress) (other : Nat) :
    ∃ after, (crowd.serve desk other).2.calls[index]? = some after := by
  have within : index < crowd.calls.length := (List.getElem?_eq_some_iff.mp called).1
  obtain served | ⟨_, _, _, _, served⟩ := serve_cases desk crowd other
  · rw [served]
    exact ⟨progress, called⟩
  · rw [served]
    exact ⟨_, List.getElem?_eq_getElem (by rwa [List.length_set])⟩

/-- As often as a call is served it has an exchange, or it is over. -/
theorem over_or_count_le (schedule : List Nat) {progress : Progress Endpoint Request Answer}
    (called : crowd.calls[index]? = some progress) :
    (∃ last : Progress Endpoint Request Answer,
        (crowd.run desk (schedule.map .serve)).2.calls[index]? = some last ∧
          last.rest.next? = none) ∨
      schedule.count index ≤ (dialogue index (crowd.run desk (schedule.map .serve)).1).length := by
  induction schedule generalizing crowd progress with
  | nil => exact Or.inr (Nat.zero_le _)
  | cons first schedule inductionHypothesis =>
    cases found : progress.rest.next? with
    | none => exact Or.inl ⟨progress, run_of_over called found (first :: schedule), found⟩
    | some step =>
      obtain ⟨after, present⟩ : ∃ after, (crowd.serve desk first).2.calls[index]? = some after :=
        exists_of_serve called first
      refine (inductionHypothesis present).imp_right fun counted => ?_
      show _ ≤ (dialogue index ((crowd.serve desk first).1.toList ++
        ((crowd.serve desk first).2.run desk (schedule.map .serve)).1)).length
      rw [dialogue_append, List.length_append]
      by_cases own : first = index
      · subst own
        rw [List.count_cons_self, dialogue_serve called found]
        omega
      · rw [List.count_cons_of_ne own]
        omega

/-- Wherever a call is, it goes on as its course has it, if its program heeds a course. -/
theorem Conversant.upcoming
    {course : List (Exchange Request Answer) → Request ⊕ StepResult Endpoint → Prop}
    (conversant : crowd.Conversant desk contacts) {progress : Progress Endpoint Request Answer}
    (heeds : (progress.call.program desk.dialect).Heeds course [])
    (called : crowd.calls[index]? = some progress) :
    course (dialogue index contacts) progress.rest.upcoming :=
  (heeds.comes (conversant.comes index progress called)).upcoming

end Crowd

end Crowds

end Leasehold
