/-
This file proves that locks do not disturb each other as long as their names keep apart. The keys
of all locks lie side by side in one store and are made by joining texts, so that names may meet:
the data key of one lock is the owner key of the lock whose name has `:data` added, and a
namespace that goes on after a colon has all its keys in the one before the colon. Where names do
not meet in one of these ways, a run that lacks all operations on the one side tells the other
side nothing new.
-/

import Leasehold.Proofs.Abreast

namespace Leasehold

section Rest

variable {Settings Endpoint Service Action Request : Type} {Answer : Request → Type}

/-- What is left of a run. -/
def Omission.rest (omission : Omission) (register : Register)
    (steps : List (Step Settings Action)) : List (Step Settings Action) :=
  steps.filter fun step => !omission.covers register step

/-- A run over a service tells the same of locks for some resources if part of it is left out. The
clients of the two runs that are given no IDs take them from a supply each. -/
def Omission.Unnoticed [Inhabited Endpoint]
    (backend : Backend Settings Endpoint Service Action Request Answer) (service : Service)
    (register : Register) (omission : Omission) (told : Resource → Bool)
    (supply kept : Nat → String) (steps : List (Step Settings Action)) : Prop :=
  (Session.start service supply).heard backend register told steps =
    (Session.start service kept).heard backend register told (omission.rest register steps)

variable {backend : Backend Settings Endpoint Service Action Request Answer}
  {region : String → Prop} {register : Register} {omission : Omission}
  {session : Session Endpoint Service}

/-- A run and what is left of it begin beside each other. -/
theorem Enclosure.beside_start (enclosure : Enclosure backend region) (register : Register)
    (omission : Omission) {service : Service} (reflexive : enclosure.agree 0 service service)
    {ids : List String} (supply : Nat → String) {kept : Nat → String}
    (supplies : (Session.start service kept : Session Endpoint Service).Supplies ids) :
    enclosure.Beside register omission id ids (Session.start service supply)
      (Session.start service kept) where
  now := rfl
  agree := reflexive
  clients := rfl
  locks _ _ := rfl
  below _ given := absurd given (Nat.not_lt_zero _)
  injective _ given := absurd given (Nat.not_lt_zero _)
  apart found := by cases found
  supplies := supplies

theorem Session.issued_cases (session : Session Endpoint Service) (step : Step Settings Action) :
    session.issued backend step = [] ∨
      session.issued backend step = [session.supply session.drawn] := by
  unfold issued
  split
  · split
    · exact Or.inr rfl
    · exact Or.inl rfl
  · exact Or.inl rfl

variable [Inhabited Endpoint]

/-- A session that has drawn so many IDs more than another, from one supply. -/
def Session.DrewFrom (session : Session Endpoint Service) (count : Nat)
    (after : Session Endpoint Service) : Prop :=
  after.supply = session.supply ∧ after.drawn = session.drawn + count

/-- A step draws the IDs that it issues, and no others. -/
theorem Session.drewFrom_step (session : Session Endpoint Service) (step : Step Settings Action) :
    session.DrewFrom (session.issued backend step).length (session.step backend step).service := by
  have idle : session.DrewFrom 0 session := ⟨rfl, rfl⟩
  cases step with
  | build name identity settings =>
    simp only [Session.step, Session.issued, Session.connectClient_eq]
    obtain ⟨reached, service⟩ := backend.prepare settings session.service
    cases reached with
    | error error =>
      cases identity.id.filter (!·.isEmpty) <;> exact ⟨rfl, rfl⟩
    | ok endpoint =>
      obtain ⟨result, after⟩ :=
        Session.introduce_eq { session with service } backend identity endpoint
      simp only [result, after, Session.identify]
      cases (backend.dialect.connect.run (backend.perform session.now endpoint) service).result <;>
        cases identity.id.filter (!·.isEmpty) <;> exact ⟨rfl, rfl⟩
  | copy | close | reconnect | drop | setId | newLock =>
    exact Session.onClient_keeps idle fun _ _ => ⟨rfl, rfl⟩
  | acquireNew =>
    refine Session.onClient_keeps idle fun _ _ => ?_
    dsimp only
    split <;> exact ⟨rfl, rfl⟩
  | setPayload | acquire | release | refresh | refreshFor =>
    exact Session.onLock_keeps idle fun _ _ => ⟨rfl, rfl⟩
  | inspect =>
    refine Session.onLock_keeps idle fun _ _ => ?_
    dsimp only
    split <;> exact ⟨rfl, rfl⟩
  | advance | interfere => exact ⟨rfl, rfl⟩

/-- If no client is left out, the IDs drawn are the next ones of the supply. -/
theorem Session.supplies_draws (whole : ∀ space, omission.space space = false)
    (session : Session Endpoint Service) (steps : List (Step Settings Action)) :
    session.Supplies (session.draws backend register omission steps) := by
  induction steps generalizing session with
  | nil => intro index id drawing; cases drawing
  | cons step rest inductionHypothesis =>
    have issues : (if omission.covers register step then [] else session.issued backend step) =
        session.issued backend step := by
      split
      next covered =>
        cases step <;> first | rfl | exact absurd ((whole _).symm.trans covered) Bool.false_ne_true
      next => rfl
    have after : session.DrewFrom _ (session.step backend step).service :=
      session.drewFrom_step step
    have onward := inductionHypothesis (session.step backend step).service
    intro index id drawing
    rw [Session.draws, issues] at drawing
    have issuing : session.issued backend step = [] ∨
        session.issued backend step = [session.supply session.drawn] := session.issued_cases step
    obtain none | one := issuing
    · rw [none] at after drawing
      have named := onward index id drawing
      rw [after.1, after.2] at named
      exact named
    · rw [one] at after drawing
      cases index with
      | zero => exact Option.some.inj drawing
      | succ index =>
        have named := onward index id drawing
        rw [after.1, after.2, Nat.add_assoc, Nat.add_comm _ index] at named
        exact named

/-- What is told of locks that have no key in a region is told as well by what is left of a run
when all locks with keys in the region that are left out touch only these. -/
theorem Enclosure.heard_rest (enclosure : Enclosure backend region) (deep : Deep region)
    (inside : omission.Inside region) {told : Resource → Bool}
    (outside : ∀ resource, told resource = true →
      ¬ region resource.keys.owner ∧ ¬ region resource.keys.data)
    {service : Service} (reflexive : enclosure.agree 0 service service)
    {steps : List (Step Settings Action)} (fits : ∀ step ∈ steps, register.Fits step)
    (supply : Nat → String) {kept : Nat → String}
    (supplies : (Session.start service kept : Session Endpoint Service).Supplies
      ((Session.start service supply).draws backend register omission steps)) :
    omission.Unnoticed backend service register told supply kept steps :=
  (enclosure.beside_start register omission reflexive supply supplies).heard
    (Register.Tidy.start register service supply) (Register.Tidy.start register service kept)
    deep inside steps rfl fits outside

end Rest

/-! ### Services as they begin -/

theorem Stores.agree_single (region : String → Prop) :
    (enclosure region).agree 0 single single :=
  fun _ => ⟨rfl, fun _ _ => rfl⟩

theorem Server.agree_empty (region : String → Prop) : (enclosure region).agree 0 empty empty :=
  ⟨[], false, ⟨rfl, rfl, rfl, rfl⟩, ⟨rfl, rfl, rfl, rfl⟩, fun _ _ => rfl⟩

/-! ### Names -/

/-- A name with `:data` added so many times. -/
def extended (name : String) : Nat → String
  | 0 => name
  | count + 1 => extended name count ++ ":data"

/-- The keys that can be written, or kept from being written, through a lock: the owner key, the
data key, which is the owner key of another lock, the data key of that, and so on. -/
def Resource.reaches (resource : Resource) (key : String) : Prop :=
  ∃ count, key = ownerKey resource.space (extended resource.name count)

theorem ownerKey_append (space name tail : String) :
    ownerKey space name ++ tail = ownerKey space (name ++ tail) :=
  String.append_assoc

theorem Resource.deep_reaches (resource : Resource) : Deep resource.reaches := by
  rintro key ⟨count, rfl⟩
  exact ⟨count + 1, ownerKey_append ..⟩

/-- The operations on the locks for a resource. -/
def Omission.ofResource (resource : Resource) : Omission := ⟨fun _ => false, (· = resource)⟩

theorem Omission.inside_ofResource (resource : Resource) :
    (ofResource resource).Inside resource.reaches where
  resource other same := by
    obtain rfl : other = resource := of_decide_eq_true same
    exact ⟨0, rfl⟩
  space _ _ hidden := by cases hidden

theorem not_reaches_of_apart {space name other : String}
    (above : ∀ count, name ≠ extended other count) (below : other ≠ extended name 1) :
    ¬ Resource.reaches ⟨space, other⟩ (Resource.keys ⟨space, name⟩).owner ∧
      ¬ Resource.reaches ⟨space, other⟩ (Resource.keys ⟨space, name⟩).data := by
  constructor
  · rintro ⟨count, same⟩
    exact above count ((String.append_right_inj _).mp same)
  · rintro ⟨count, same⟩
    have names : name ++ ":data" = extended other count :=
      (String.append_right_inj _).mp ((ownerKey_append space name ":data").symm.trans same)
    cases count with
    | zero => exact below names.symm
    | succ count => exact above count ((String.append_left_inj _).mp names)

/-- Locks of different names in one namespace do not disturb each other, unless one name is the
other with `:data` added: a run tells nothing else of the one if all operations on the other are
left out. A name to which `:data` is added twice or more often can be reached through the names
in between, but only upwards. -/
theorem names_independent (space : String) {name other : String}
    (above : ∀ count, name ≠ extended other count) (below : other ≠ extended name 1)
    (register : Register) (supply : Nat → String) :
    (∀ steps, (∀ step ∈ steps, register.Fits step) →
        (Omission.ofResource ⟨space, other⟩).Unnoticed Stores.backend .single register
          (· = ⟨space, name⟩) supply supply steps) ∧
      ∀ steps, (∀ step ∈ steps, register.Fits step) →
        (Omission.ofResource ⟨space, other⟩).Unnoticed Server.unreliable .empty register
          (· = ⟨space, name⟩) supply supply steps := by
  have outside : ∀ resource, decide (resource = (⟨space, name⟩ : Resource)) = true →
      ¬ Resource.reaches ⟨space, other⟩ resource.keys.owner ∧
        ¬ Resource.reaches ⟨space, other⟩ resource.keys.data := by
    intro resource told
    obtain rfl := of_decide_eq_true told
    exact not_reaches_of_apart above below
  have deep := Resource.deep_reaches ⟨space, other⟩
  have inside := Omission.inside_ofResource ⟨space, other⟩
  constructor
  · intro steps fits
    exact (Stores.enclosure _).heard_rest deep inside outside (Stores.agree_single _) fits supply
      (Session.supplies_draws (fun _ => rfl) _ steps)
  · intro steps fits
    exact (Server.enclosure _).heard_rest deep inside outside (Server.agree_empty _) fits supply
      (Session.supplies_draws (fun _ => rfl) _ steps)

/-- Two clients with locks for two names: they contend for the one, and one of them has the
other. -/
def neighbours {Settings Action : Type} (settings : Settings) : List (Step Settings Action) :=
  [.build "a" ⟨some "A", some "app"⟩ settings, .build "b" ⟨some "B", some "app"⟩ settings,
    .newLock "a" "mine" "job", .newLock "b" "yours" "job", .newLock "b" "aside" "report",
    .acquire "aside" .longestLease, .acquire "mine" .shortestLease,
    .acquire "yours" .shortestLease, .release "aside", .advance nanosPerMilli,
    .acquire "yours" .shortestLease, .inspect "mine"]

/-- What the names of the neighbours stand for. -/
def neighbourhood : Register :=
  ⟨fun _ => "app", fun name => ⟨"app", if name = "aside" then "report" else "job"⟩⟩

/-- An address of a server with nothing else said. -/
def Server.Settings.plain : Settings := ⟨none, some .loopback, none, none, false⟩

theorem names_independent_neighbours :
    (∀ count, "job" ≠ extended "report" count) ∧ "report" ≠ extended "job" 1 ∧
      (∀ step ∈ (neighbours 0 : List (Step Nat Stores.Action)), neighbourhood.Fits step) ∧
      (∀ step ∈ (neighbours .plain : List (Step Server.Settings Server.Outage)),
        neighbourhood.Fits step) ∧
      (Omission.ofResource ⟨"app", "report"⟩).Unnoticed Stores.backend .single neighbourhood
        (· = ⟨"app", "job"⟩) (fun _ => "") (fun _ => "") (neighbours 0) ∧
      (Omission.ofResource ⟨"app", "report"⟩).Unnoticed Server.unreliable .empty neighbourhood
        (· = ⟨"app", "job"⟩) (fun _ => "") (fun _ => "") (neighbours .plain) := by
  have above : ∀ count, "job" ≠ extended "report" count := by
    intro count same
    cases count with
    | zero => exact absurd same (by decide)
    | succ count =>
      have lengths := congrArg String.length same
      have short : "job".length = 3 := rfl
      have long : ":data".length = 5 := rfl
      rw [extended, String.length_append] at lengths
      omega
  have below : "report" ≠ extended "job" 1 := by decide
  have fits : ∀ step ∈ (neighbours 0 : List (Step Nat Stores.Action)), neighbourhood.Fits step := by
    decide
  have serverFits : ∀ step ∈ (neighbours .plain : List (Step Server.Settings Server.Outage)),
      neighbourhood.Fits step := by
    decide
  obtain ⟨stores, server⟩ := names_independent "app" above below neighbourhood fun _ => ""
  exact ⟨above, below, fits, serverFits, stores _ fits, server _ serverFits⟩

/-- Two clients with locks of which one has the data key of the other as its owner key. -/
def meeting : List (Step Nat Stores.Action) :=
  [.build "a" ⟨some "A", some "app"⟩ 0, .build "b" ⟨some "B", some "app"⟩ 0,
    .newLock "a" "short" "job", .newLock "b" "long" "job:data", .acquire "short" .shortestLease,
    .acquire "long" .shortestLease]

/-- What the names in the meeting stand for. -/
def meetingNames : Register :=
  ⟨fun _ => "app", fun name => ⟨"app", if name = "short" then "job" else "job:data"⟩⟩

/-- Names can meet: the payload of one lock keeps another from being taken. -/
theorem names_meet :
    "job:data" ≠ "job" ∧ (∀ step ∈ meeting, meetingNames.Fits step) ∧
      ¬ (Omission.ofResource ⟨"app", "job"⟩).Unnoticed Stores.backend .single meetingNames
        (· = ⟨"app", "job:data"⟩) (fun _ => "") (fun _ => "") meeting := by
  refine ⟨by decide, by decide, ?_⟩
  have whole : (Session.start .single fun _ => "").heard Stores.backend meetingNames
      (· = ⟨"app", "job:data"⟩) meeting = [.failed (.heldByOtherClient "job:data")] := rfl
  have rest : (Session.start .single fun _ => "").heard Stores.backend meetingNames
      (· = ⟨"app", "job:data"⟩)
      ((Omission.ofResource ⟨"app", "job"⟩).rest meetingNames meeting) = [.finished] := rfl
  unfold Omission.Unnoticed
  rw [whole, rest]
  intro same
  cases same

/-! ### Namespaces -/

/-- The keys of the locks in a namespace, and of those in all namespaces that go on after it with a
colon. -/
def keysUnder (space key : String) : Prop := ∃ rest, key = ownerKey space rest

theorem deep_keysUnder (space : String) : Deep (keysUnder space) := by
  rintro key ⟨rest, rfl⟩
  exact ⟨rest ++ ":data", ownerKey_append ..⟩

/-- The operations of the clients of a namespace, and those on their locks. -/
def Omission.ofSpace (space : String) : Omission := ⟨(· = space), (·.space = space)⟩

theorem Omission.inside_ofSpace (space : String) : (ofSpace space).Inside (keysUnder space) where
  resource other same := by
    obtain rfl : other.space = space := of_decide_eq_true same
    exact ⟨other.name, rfl⟩
  space _ _ hidden := hidden

/-- Texts that are the same before and after some colon begin with the same text, or the colon of
one stands within the beginning of the other. -/
theorem ownerKey_cases {space other name rest : String}
    (same : ownerKey space name = ownerKey other rest) :
    space = other ∨ (∃ inner, space = ownerKey other inner) ∨
      ∃ inner, other = ownerKey space inner := by
  have colon : ":".toList = [':'] := rfl
  have rejoined {front back : List Char} {whole : String}
      (parts : whole.toList = front ++ ':' :: back) :
      whole = ownerKey (String.ofList front) (String.ofList back) := by
    apply String.toList_inj.mp
    simp only [parts, ownerKey, String.toList_append, String.toList_ofList, colon,
      List.append_assoc, List.singleton_append]
  have chars := congrArg String.toList same
  simp only [ownerKey, String.toList_append, colon, List.append_assoc, List.singleton_append]
    at chars
  obtain ⟨between, whole, after⟩ | ⟨between, whole, after⟩ := List.append_eq_append_iff.mp chars
  · cases between with
    | nil =>
      rw [List.append_nil] at whole
      exact Or.inl (String.toList_inj.mp whole.symm)
    | cons first inner =>
      cases (List.cons.inj after).1
      have split := rejoined whole
      rw [String.ofList_toList] at split
      exact Or.inr (Or.inr ⟨_, split⟩)
  · cases between with
    | nil =>
      rw [List.append_nil] at whole
      exact Or.inl (String.toList_inj.mp whole)
    | cons first inner =>
      cases (List.cons.inj after).1
      have split := rejoined whole
      rw [String.ofList_toList] at split
      exact Or.inr (Or.inl ⟨_, split⟩)

/-- Namespaces do not disturb each other, unless one is the other with a colon and some text
added: a run tells nothing else of the locks in the one if all operations of the clients of the
other and on their locks are left out. The clients that remain keep the IDs they were given. -/
theorem spaces_isolated {space other : String} (different : space ≠ other)
    (above : ∀ inner, space ≠ ownerKey other inner) (below : ∀ inner, other ≠ ownerKey space inner)
    (register : Register) (supply kept : Nat → String) :
    (∀ steps, (∀ step ∈ steps, register.Fits step) →
        (Session.start Stores.single kept : Session Nat Stores).Supplies
          ((Session.start .single supply).draws Stores.backend register (.ofSpace other) steps) →
        (Omission.ofSpace other).Unnoticed Stores.backend .single register (·.space = space) supply
          kept steps) ∧
      ∀ steps, (∀ step ∈ steps, register.Fits step) →
        (Session.start Server.empty kept : Session Server.Endpoint Server).Supplies
          ((Session.start .empty supply).draws Server.unreliable register (.ofSpace other)
            steps) →
        (Omission.ofSpace other).Unnoticed Server.unreliable .empty register (·.space = space)
          supply kept steps := by
  have free (name : String) : ¬ keysUnder other (ownerKey space name) := by
    rintro ⟨rest, same⟩
    obtain equal | ⟨inner, whole⟩ | ⟨inner, whole⟩ := ownerKey_cases same
    · exact different equal
    · exact above inner whole
    · exact below inner whole
  have outside : ∀ resource : Resource, decide (resource.space = space) = true →
      ¬ keysUnder other resource.keys.owner ∧ ¬ keysUnder other resource.keys.data := by
    intro resource told
    obtain rfl := of_decide_eq_true told
    refine ⟨free resource.name, ?_⟩
    have data : resource.keys.data = ownerKey resource.space (resource.name ++ ":data") :=
      ownerKey_append ..
    rw [data]
    exact free _
  have deep := deep_keysUnder other
  have inside := Omission.inside_ofSpace other
  constructor
  · intro steps fits supplies
    exact (Stores.enclosure _).heard_rest deep inside outside (Stores.agree_single _) fits supply
      supplies
  · intro steps fits supplies
    exact (Server.enclosure _).heard_rest deep inside outside (Server.agree_empty _) fits supply
      supplies

/-- Two clients in two namespaces, of which the one draws an ID before the other does. -/
def strangers {Settings Action : Type} (settings : Settings) : List (Step Settings Action) :=
  [.build "a" ⟨none, some "app"⟩ settings, .build "b" ⟨none, some "web"⟩ settings,
    .newLock "a" "ours" "job", .newLock "b" "mine" "job", .acquire "ours" .longestLease,
    .acquire "mine" .shortestLease, .close "a", .inspect "mine", .release "mine"]

/-- What the names of the strangers stand for. -/
def strangerNames : Register :=
  ⟨fun name => if name = "a" then "app" else "web",
    fun name => ⟨if name = "ours" then "app" else "web", "job"⟩⟩

/-- The IDs that strangers draw. -/
def strangerIds (count : Nat) : String := if count = 0 then "first" else "second"

theorem spaces_isolated_strangers :
    "web" ≠ "app" ∧ (∀ inner, "web" ≠ ownerKey "app" inner) ∧
      (∀ inner, "app" ≠ ownerKey "web" inner) ∧
      (∀ step ∈ (strangers 0 : List (Step Nat Stores.Action)), strangerNames.Fits step) ∧
      (Omission.ofSpace "app").Unnoticed Stores.backend .single strangerNames (·.space = "web")
        strangerIds (fun _ => "second") (strangers 0) ∧
      (Omission.ofSpace "app").Unnoticed Server.unreliable .empty strangerNames
        (·.space = "web") strangerIds (fun _ => "second") (strangers .plain) := by
  have longer {one other : String} (level : one.length = other.length) (inner : String) :
      one ≠ ownerKey other inner := by
    intro same
    have lengths := congrArg String.length same
    have colon : ":".length = 1 := rfl
    rw [ownerKey, String.length_append, String.length_append] at lengths
    omega
  have above : ∀ inner, "web" ≠ ownerKey "app" inner := longer rfl
  have below : ∀ inner, "app" ≠ ownerKey "web" inner := longer rfl
  have fits : ∀ step ∈ (strangers 0 : List (Step Nat Stores.Action)), strangerNames.Fits step := by
    decide
  have serverFits : ∀ step ∈ (strangers .plain : List (Step Server.Settings Server.Outage)),
      strangerNames.Fits step := by
    decide
  have one {Endpoint Service : Type} (service : Service) :
      (Session.start service fun _ => "second" : Session Endpoint Service).Supplies ["second"] := by
    intro index id drawing
    cases index with
    | zero => exact Option.some.inj drawing
    | succ index => cases drawing
  obtain ⟨stores, server⟩ := spaces_isolated (by decide) above below strangerNames strangerIds
    fun _ => "second"
  exact ⟨by decide, above, below, fits, stores _ fits (one _), server _ serverFits (one _)⟩

/-- Two namespaces of which one goes on after the other with a colon. -/
def kin : List (Step Nat Stores.Action) :=
  [.build "a" ⟨some "A", some "a"⟩ 0, .build "b" ⟨some "B", some "a:b"⟩ 0,
    .newLock "a" "outer" "b:c", .newLock "b" "inner" "c", .acquire "inner" .shortestLease,
    .acquire "outer" .shortestLease]

/-- What the names of the kin stand for. -/
def kinNames : Register :=
  ⟨fun name => if name = "a" then "a" else "a:b",
    fun name => if name = "outer" then ⟨"a", "b:c"⟩ else ⟨"a:b", "c"⟩⟩

/-- Namespaces can meet: a lock in one of them is held for a client in the other. -/
theorem spaces_meet :
    "a" ≠ "a:b" ∧ (∀ step ∈ kin, kinNames.Fits step) ∧
      ¬ (Omission.ofSpace "a:b").Unnoticed Stores.backend .single kinNames (·.space = "a")
        (fun _ => "") (fun _ => "") kin := by
  refine ⟨by decide, by decide, ?_⟩
  have whole : (Session.start .single fun _ => "").heard Stores.backend kinNames
      (·.space = "a") kin = [.failed (.heldByOtherClient "b:c")] := rfl
  have rest : (Session.start .single fun _ => "").heard Stores.backend kinNames (·.space = "a")
      ((Omission.ofSpace "a:b").rest kinNames kin) = [.finished] := rfl
  unfold Omission.Unnoticed
  rw [whole, rest]
  intro same
  cases same

end Leasehold
