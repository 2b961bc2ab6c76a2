/-
This file holds programs: what an operation does, one request to its store at a time. A
program either is done, or notes an event for the journal and goes on, or asks a request and
goes on with the answer. Nothing is said about who answers. One run lets a single store answer
everything; in another, programs of several clients take turns at a store, or somebody answers
at will.
-/

namespace Leasehold

/-- How serious an event is. -/
inductive Severity where
  | debug
  | warn
  deriving DecidableEq

/-- An event for the journal. Its fields are names with the values they have. -/
inductive Event where
  /-- An operation begins. -/
  | entered (operation : String) (fields : List (String × String))
  /-- Something happened within an operation. -/
  | happened (severity : Severity) (message : String) (fields : List (String × String))
  deriving DecidableEq

/-- The word for how serious an event is. -/
def Severity.text : Severity → String
  | debug => "DEBUG"
  | warn => "WARN"

/-- The fields of an event, sorted by name and value and each after a space. -/
def fieldsText (fields : List (String × String)) : String :=
  let items := fields.map fun field => field.1 ++ "=" ++ field.2
  String.join ((items.mergeSort fun first second => decide (first ≤ second)).map (" " ++ ·))

/-- The line of an event in the journal. -/
def Event.line : Event → String
  | entered operation fields => "SPAN " ++ operation ++ fieldsText fields
  | happened severity message fields => severity.text ++ " " ++ message ++ fieldsText fields

/-- What an operation does, up to its result. The answer that a request gets is of a type of
its own. -/
inductive Program (Request : Type) (Answer : Request → Type) (Result : Type) where
  | done (result : Result)
  | note (event : Event) (next : Program Request Answer Result)
  | ask (request : Request) (next : Answer request → Program Request Answer Result)

/-- What is left when a program has run against a service: its result, the events it noted,
the oldest first, and the service. -/
structure Outcome (Service Result : Type) where
  result : Result
  events : List Event
  service : Service

namespace Program

variable {Request : Type} {Answer : Request → Type} {Result Other Service : Type}

/-- The program that goes on with another once it has a result. -/
def andThen (program : Program Request Answer Result)
    (continuation : Result → Program Request Answer Other) : Program Request Answer Other :=
  match program with
  | done result => continuation result
  | note event next => note event (next.andThen continuation)
  | ask request next => ask request fun answer => (next answer).andThen continuation

/-- The program with its result changed. -/
def map (change : Result → Other) (program : Program Request Answer Result) :
    Program Request Answer Other :=
  program.andThen fun result => done (change result)

/-- Runs a program to its end against a service that performs one request after the other. -/
def run (perform : (request : Request) → Service → Answer request × Service) :
    Program Request Answer Result → Service → Outcome Service Result
  | done result, service => ⟨result, [], service⟩
  | note event next, service =>
    let outcome := next.run perform service
    { outcome with events := event :: outcome.events }
  | ask request next, service =>
    let answered := perform request service
    (next answered.1).run perform answered.2

theorem run_ask (perform : (request : Request) → Service → Answer request × Service)
    (request : Request) (next : Answer request → Program Request Answer Result)
    (service : Service) :
    (ask request next).run perform service =
      (next (perform request service).1).run perform (perform request service).2 :=
  rfl

theorem run_andThen (perform : (request : Request) → Service → Answer request × Service)
    (program : Program Request Answer Result)
    (continuation : Result → Program Request Answer Other) (service : Service) :
    (program.andThen continuation).run perform service =
      let first := program.run perform service
      let second := (continuation first.result).run perform first.service
      ⟨second.result, first.events ++ second.events, second.service⟩ := by
  induction program generalizing service with
  | done result => rfl
  | note event next inductionHypothesis =>
    simp only [andThen, run, inductionHypothesis, List.cons_append]
  | ask request next inductionHypothesis =>
    simp only [andThen, run, inductionHypothesis]

end Program

end Leasehold
