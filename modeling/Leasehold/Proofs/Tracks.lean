/-
This file is about programs that are answered alike. Two programs for services of different
kinds may make different requests, one of them several where the other makes one; what counts
is that they come to results that agree and leave the services related as they were before.
-/

import Leasehold.Proofs.Asking

namespace Leasehold

variable {Request Demand : Type} {Answer : Request → Type} {Response : Demand → Type}
  {Service Host Result Shadowed Onward Followed : Type}

/-- One program tracks another from a service on: run against it and a related one they come to
results that agree and leave the services related. -/
def TracksFrom (perform : (request : Request) → Service → Answer request × Service)
    (serve : (demand : Demand) → Host → Response demand × Host)
    (matched : Service → Host → Prop) (agree : Result → Shadowed → Prop) (service : Service)
    (program : Program Request Answer Result) (shadow : Program Demand Response Shadowed) :
    Prop :=
  ∀ host, matched service host →
    agree (program.run perform service).result (shadow.run serve host).result ∧
      matched (program.run perform service).service (shadow.run serve host).service

/-- One program tracks another: it does from every service on. -/
def Tracks (perform : (request : Request) → Service → Answer request × Service)
    (serve : (demand : Demand) → Host → Response demand × Host)
    (matched : Service → Host → Prop) (agree : Result → Shadowed → Prop)
    (program : Program Request Answer Result) (shadow : Program Demand Response Shadowed) :
    Prop :=
  ∀ service, TracksFrom perform serve matched agree service program shadow

variable {perform : (request : Request) → Service → Answer request × Service}
  {serve : (demand : Demand) → Host → Response demand × Host}
  {matched : Service → Host → Prop} {agree : Result → Shadowed → Prop}
  {concur : Onward → Followed → Prop}
  {program : Program Request Answer Result} {shadow : Program Demand Response Shadowed}

namespace TracksFrom

variable {service : Service}

theorem done {result : Result} {shadowed : Shadowed} (agreed : agree result shadowed) :
    TracksFrom perform serve matched agree service (.done result) (.done shadowed) :=
  fun _ related => ⟨agreed, related⟩

/-- Events that one of the programs notes do not matter to the other. -/
theorem noteLeft (event : Event)
    (tracks : TracksFrom perform serve matched agree service program shadow) :
    TracksFrom perform serve matched agree service (.note event program) shadow :=
  fun host related => tracks host related

theorem noteRight (event : Event)
    (tracks : TracksFrom perform serve matched agree service program shadow) :
    TracksFrom perform serve matched agree service program (.note event shadow) :=
  fun host related => tracks host related

theorem andThen {continuation : Result → Program Request Answer Onward}
    {sequel : Shadowed → Program Demand Response Followed}
    (tracks : TracksFrom perform serve matched agree service program shadow)
    (onward : ∀ result shadowed, agree result shadowed →
      Tracks perform serve matched concur (continuation result) (sequel shadowed)) :
    TracksFrom perform serve matched concur service (program.andThen continuation)
      (shadow.andThen sequel) := by
  intro host related
  obtain ⟨agreed, after⟩ := tracks host related
  rw [Program.run_andThen, Program.run_andThen]
  exact onward _ _ agreed _ _ after

theorem map {change : Result → Onward} {alter : Shadowed → Followed}
    (tracks : TracksFrom perform serve matched agree service program shadow)
    (onward : ∀ result shadowed, agree result shadowed →
      concur (change result) (alter shadowed)) :
    TracksFrom perform serve matched concur service (program.map change) (shadow.map alter) :=
  tracks.andThen fun result shadowed agreed _ => done (onward result shadowed agreed)

end TracksFrom

namespace Tracks

theorem done {result : Result} {shadowed : Shadowed} (agreed : agree result shadowed) :
    Tracks perform serve matched agree (.done result) (.done shadowed) :=
  fun _ => .done agreed

theorem noteLeft (event : Event) (tracks : Tracks perform serve matched agree program shadow) :
    Tracks perform serve matched agree (.note event program) shadow :=
  fun service => (tracks service).noteLeft event

theorem noteRight (event : Event) (tracks : Tracks perform serve matched agree program shadow) :
    Tracks perform serve matched agree program (.note event shadow) :=
  fun service => (tracks service).noteRight event

/-- Programs that ask one request each track each other if the answers lead on to programs
that do. -/
theorem ask {request : Request} {demand : Demand}
    {next : Answer request → Program Request Answer Result}
    {follow : Response demand → Program Demand Response Shadowed}
    (onward : ∀ service host, matched service host →
      matched (perform request service).2 (serve demand host).2 ∧
        Tracks perform serve matched agree (next (perform request service).1)
          (follow (serve demand host).1)) :
    Tracks perform serve matched agree (.ask request next) (.ask demand follow) := by
  intro service host related
  obtain ⟨after, tracks⟩ := onward service host related
  exact tracks _ _ after

theorem andThen {continuation : Result → Program Request Answer Onward}
    {sequel : Shadowed → Program Demand Response Followed}
    (tracks : Tracks perform serve matched agree program shadow)
    (onward : ∀ result shadowed, agree result shadowed →
      Tracks perform serve matched concur (continuation result) (sequel shadowed)) :
    Tracks perform serve matched concur (program.andThen continuation)
      (shadow.andThen sequel) :=
  fun service => (tracks service).andThen onward

theorem map {change : Result → Onward} {alter : Shadowed → Followed}
    (tracks : Tracks perform serve matched agree program shadow)
    (onward : ∀ result shadowed, agree result shadowed →
      concur (change result) (alter shadowed)) :
    Tracks perform serve matched concur (program.map change) (shadow.map alter) :=
  fun service => (tracks service).map onward

end Tracks

/-- A program tracks itself over services that answer each request of its kind alike. -/
theorem Program.AllAsk.tracks {serve : (request : Request) → Host → Answer request × Host}
    {kind : Request → Prop} (all : program.AllAsk kind)
    (alike : ∀ service host request, matched service host → kind request →
      (perform request service).1 = (serve request host).1 ∧
        matched (perform request service).2 (serve request host).2) :
    Tracks perform serve matched Eq program program := by
  induction program with
  | done result => exact Tracks.done rfl
  | note event next inductionHypothesis =>
    exact Tracks.noteLeft event (Tracks.noteRight event (inductionHypothesis all))
  | ask request next inductionHypothesis =>
    refine Tracks.ask fun service host related => ?_
    obtain ⟨answered, after⟩ := alike service host request related all.1
    rw [answered]
    exact ⟨after, inductionHypothesis _ (all.2 _)⟩

/-- A program tracks itself over services that answer every request alike. -/
theorem Tracks.same {serve : (request : Request) → Host → Answer request × Host}
    (alike : ∀ service host request, matched service host →
      (perform request service).1 = (serve request host).1 ∧
        matched (perform request service).2 (serve request host).2)
    (program : Program Request Answer Result) :
    Tracks perform serve matched Eq program program := by
  have all : program.AllAsk fun _ => True := Program.allAsk_of_forall (fun _ => trivial) program
  exact all.tracks fun service host request related _ => alike service host request related

end Leasehold
