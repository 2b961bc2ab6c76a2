/-
This file holds switchboards. A switchboard follows what clients say to a server: it numbers the
connections in the order in which they are opened, knows which client has which one, and notes on
which one every command is sent. As long as a client probes each connection that it opens, and says
good-bye only on one that it has, every connection is probed once and no good-bye is said twice.
-/

import Leasehold.Proofs.Talks
import Mathlib.Data.List.Count
import Mathlib.Logic.Function.Basic

namespace Leasehold.Server

/-! ### Switchboards -/

/-- Something that was said to a server: on which connection, what, and how it was answered. -/
structure Utterance where
  line : Option Nat
  command : Command
  answer : Except CommandFailure Reply

/-- How often a command was sent on a connection. -/
def timesOn (line : Nat) (command : Command) (said : List Utterance) : Nat :=
  said.countP fun utterance => utterance.line = some line ∧ utterance.command = command

/-- How often a command was sent. -/
def times (command : Command) (said : List Utterance) : Nat :=
  said.countP fun utterance => utterance.command = command

theorem times_append (command : Command) (said others : List Utterance) :
    times command (said ++ others) = times command said + times command others :=
  List.countP_append

theorem timesOn_concat (line : Nat) (command : Command) (said : List Utterance)
    (utterance : Utterance) :
    timesOn line command (said ++ [utterance]) = timesOn line command said +
      if utterance.line = some line ∧ utterance.command = command then 1 else 0 := by
  simp only [timesOn, List.countP_append, List.countP_singleton, decide_eq_true_eq]

/-- The connections of a run, numbered in the order in which they were opened. -/
structure Switchboard where
  opened : Nat
  /-- The connection of the client of a serial number. -/
  line : Nat → Option Nat
  said : List Utterance

namespace Switchboard

/-- A switchboard without connections. -/
def idle : Switchboard := ⟨0, fun _ => none, []⟩

/-- Takes note of an exchange of a caller. A connection that is opened belongs to the caller until
the caller says good-bye on it. -/
def hear (caller : Nat) (board : Switchboard) : Exchange Request Request.Answer → Switchboard
  | ⟨.dial, .ok ()⟩ =>
    { board with
      opened := board.opened + 1
      line := Function.update board.line caller (some board.opened) }
  | ⟨.dial, .error _⟩ => board
  | ⟨.send .quit, answer⟩ =>
    { board with
      line := Function.update board.line caller none
      said := board.said ++ [⟨board.line caller, .quit, answer⟩] }
  | ⟨.send command, answer⟩ =>
    { board with said := board.said ++ [⟨board.line caller, command, answer⟩] }

/-- Takes note of what is said in a step of a session. -/
def follow (board : Switchboard) (session : Session Endpoint Server) (step : Step Settings Action) :
    Switchboard :=
  match calling session step with
  | some made => (made.talk session).foldl (hear made.caller) board
  | none => board

theorem update_cases {held : Nat → Option Nat} {caller serial line : Nat} {own : Option Nat}
    (found : Function.update held caller own serial = some line) :
    (serial = caller ∧ own = some line) ∨ (serial ≠ caller ∧ held serial = some line) := by
  by_cases same : serial = caller
  · subst same
    rw [Function.update_self] at found
    exact Or.inl ⟨rfl, found⟩
  · rw [Function.update_of_ne same] at found
    exact Or.inr ⟨same, found⟩

/-- Clients have connections of their own, on which they have not said good-bye; every connection
was probed once, and good-bye was said at most once on it. -/
structure Sound (board : Switchboard) : Prop where
  below : ∀ {serial line}, board.line serial = some line → line < board.opened
  apart : ∀ {serial other line}, board.line serial = some line → board.line other = some line →
    serial = other
  known : ∀ utterance ∈ board.said, ∀ line, utterance.line = some line → line < board.opened
  placed : ∀ utterance ∈ board.said, utterance.command = .ping ∨ utterance.command = .quit →
    utterance.line.isSome = true
  probed : ∀ line < board.opened, timesOn line .ping board.said = 1
  unparted : ∀ {serial line}, board.line serial = some line → timesOn line .quit board.said = 0
  once : ∀ line, timesOn line .quit board.said ≤ 1

namespace Sound

variable {board : Switchboard}

theorem idle : Switchboard.idle.Sound where
  below held := nomatch held
  apart held := nomatch held
  known _ member := nomatch member
  placed _ member := nomatch member
  probed _ below := nomatch below
  unparted held := nomatch held
  once _ := Nat.zero_le 1

/-- Nothing was said on a connection before it was opened. -/
theorem timesOn_eq_zero (sound : board.Sound) {line : Nat} (unopened : board.opened ≤ line)
    (command : Command) : timesOn line command board.said = 0 := by
  refine List.countP_eq_zero.mpr fun utterance member said => ?_
  have below := sound.known utterance member line (of_decide_eq_true said).1
  omega

/-- A connection that is opened and probed belongs to its caller alone. -/
theorem opens (sound : board.Sound) (caller : Nat) (probe : Except CommandFailure Reply) :
    Sound ⟨board.opened + 1, Function.update board.line caller (some board.opened),
      board.said ++ [⟨some board.opened, .ping, probe⟩]⟩ where
  below {serial line} held := by
    obtain ⟨rfl, same⟩ | ⟨other, held⟩ := update_cases held
    · cases same
      exact Nat.lt_succ_self board.opened
    · exact Nat.lt_succ_of_lt (sound.below held)
  apart {serial other line} held another := by
    obtain ⟨rfl, new⟩ | ⟨apart, holds⟩ := update_cases held <;>
      obtain ⟨rfl, also⟩ | ⟨distinct, shares⟩ := update_cases another
    · rfl
    · cases new
      exact absurd (sound.below shares) (Nat.lt_irrefl board.opened)
    · cases also
      exact absurd (sound.below holds) (Nat.lt_irrefl board.opened)
    · exact sound.apart holds shares
  known := by
    rw [List.forall_mem_append, List.forall_mem_singleton]
    refine ⟨fun utterance member line on => ?_, fun line on => ?_⟩
    · exact Nat.lt_succ_of_lt (sound.known utterance member line on)
    · cases on
      exact Nat.lt_succ_self board.opened
  placed := by
    rw [List.forall_mem_append, List.forall_mem_singleton]
    exact ⟨sound.placed, fun _ => rfl⟩
  probed line below := by
    rw [timesOn_concat]
    obtain earlier | rfl := Nat.lt_succ_iff_lt_or_eq.mp below
    · rw [sound.probed line earlier, if_neg]
      rintro ⟨same, -⟩
      exact absurd (Option.some.inj same) (Nat.ne_of_gt earlier)
    · rw [sound.timesOn_eq_zero (Nat.le_refl _), if_pos ⟨rfl, rfl⟩]
  unparted {serial line} held := by
    rw [timesOn_concat, if_neg (by simp)]
    obtain ⟨rfl, same⟩ | ⟨other, held⟩ := update_cases held
    · cases same
      exact sound.timesOn_eq_zero (Nat.le_refl _) .quit
    · exact sound.unparted held
  once line := by
    rw [timesOn_concat, if_neg (by simp)]
    exact sound.once line

/-- A caller who says good-bye on its connection says it there for the first time. -/
theorem parts (sound : board.Sound) {caller own : Nat} (held : board.line caller = some own)
    (answer : Except CommandFailure Reply) :
    Sound ⟨board.opened, Function.update board.line caller none,
      board.said ++ [⟨some own, .quit, answer⟩]⟩ where
  below {serial line} holds := by
    obtain ⟨_, none⟩ | ⟨other, holds⟩ := update_cases holds
    · cases none
    · exact sound.below holds
  apart {serial other line} holds another := by
    obtain ⟨_, none⟩ | ⟨apart, holds⟩ := update_cases holds
    · cases none
    obtain ⟨_, none⟩ | ⟨also, another⟩ := update_cases another
    · cases none
    exact sound.apart holds another
  known := by
    rw [List.forall_mem_append, List.forall_mem_singleton]
    refine ⟨sound.known, fun line on => ?_⟩
    cases on
    exact sound.below held
  placed := by
    rw [List.forall_mem_append, List.forall_mem_singleton]
    exact ⟨sound.placed, fun _ => rfl⟩
  probed line below := by
    rw [timesOn_concat, if_neg (by simp)]
    exact sound.probed line below
  unparted {serial line} holds := by
    obtain ⟨_, none⟩ | ⟨other, holds⟩ := update_cases holds
    · cases none
    rw [timesOn_concat, sound.unparted holds, if_neg]
    rintro ⟨same, -⟩
    cases same
    exact other (sound.apart holds held)
  once line := by
    rw [timesOn_concat]
    split
    next said =>
      cases said.1
      exact Nat.le_of_eq (congrArg (· + 1) (sound.unparted held))
    next => exact sound.once line

/-- Other commands change nothing about the connections. -/
theorem speaks (sound : board.Sound) (caller : Nat) {command : Command} (ping : command ≠ .ping)
    (quit : command ≠ .quit) (answer : Except CommandFailure Reply) :
    Sound { board with said := board.said ++ [⟨board.line caller, command, answer⟩] } where
  below := sound.below
  apart := sound.apart
  known := by
    rw [List.forall_mem_append, List.forall_mem_singleton]
    exact ⟨sound.known, fun line on => sound.below on⟩
  placed := by
    rw [List.forall_mem_append, List.forall_mem_singleton]
    refine ⟨sound.placed, ?_⟩
    rintro (same | same)
    · exact absurd same ping
    · exact absurd same quit
  probed line below := by
    rw [timesOn_concat, if_neg (ping ·.2)]
    exact sound.probed line below
  unparted held := by
    rw [timesOn_concat, if_neg (quit ·.2)]
    exact sound.unparted held
  once line := by
    rw [timesOn_concat, if_neg (quit ·.2)]
    exact sound.once line

end Sound

/-! ### What is said on the lines -/

/-- What a client says on the connection that it gives up, if it has one. -/
inductive Parted : (line : Option Nat) → List Utterance → Prop where
  | unsaid : Parted none []
  | said (line : Nat) (answer : Except CommandFailure Reply) :
    Parted (some line) [⟨some line, .quit, answer⟩]

/-- What a client says on a connection that it opens, and whether it then has it. -/
inductive Greeted (line : Nat) : List Utterance → (connected : Bool) → Prop where
  | answered (reply : Reply) : Greeted line [⟨some line, .ping, .ok reply⟩] true
  | mute (failure : CommandFailure) (answer : Except CommandFailure Reply) :
    Greeted line [⟨some line, .ping, .error failure⟩, ⟨some line, .quit, answer⟩] false

theorem Parted.times {line : Option Nat} {farewell : List Utterance}
    (parted : Parted line farewell) :
    times .quit farewell = line.isSome.toNat ∧ times .ping farewell = 0 := by
  cases parted with
  | unsaid => exact ⟨rfl, rfl⟩
  | said line answer => exact ⟨rfl, rfl⟩

theorem Greeted.times {line : Nat} {greeting : List Utterance} {connected : Bool}
    (greeted : Greeted line greeting connected) :
    times .quit greeting = (!connected).toNat ∧ times .ping greeting = 1 := by
  cases greeted with
  | answered reply => exact ⟨rfl, rfl⟩
  | mute failure answer => exact ⟨rfl, rfl⟩

variable {board : Switchboard} (caller : Nat) {talk : Talk} {connected : Bool}

theorem hear_parting (sound : board.Sound) (parting : Parting connected talk)
    (held : (board.line caller).isSome = connected) :
    ∃ farewell, Parted (board.line caller) farewell ∧
      talk.foldl (hear caller) board =
        ⟨board.opened, Function.update board.line caller none, board.said ++ farewell⟩ ∧
      (talk.foldl (hear caller) board).Sound := by
  cases parting with
  | unsaid =>
    have none : board.line caller = none :=
      Option.isNone_iff_eq_none.mp (Option.isSome_eq_false_iff.mp held)
    refine ⟨[], none ▸ .unsaid, ?_, sound⟩
    rw [List.append_nil, ← none, Function.update_eq_self]
    rfl
  | said answer =>
    obtain ⟨line, own⟩ := Option.isSome_iff_exists.mp held
    have heard : [⟨.send .quit, answer⟩].foldl (hear caller) board =
        ⟨board.opened, Function.update board.line caller none,
          board.said ++ [⟨some line, .quit, answer⟩]⟩ := by
      rw [← own]
      rfl
    rw [heard, own]
    exact ⟨_, .said line answer, rfl, sound.parts own answer⟩

theorem hear_opening (sound : board.Sound) (opening : Opening talk connected) :
    ∃ greeting, Greeted board.opened greeting connected ∧
      talk.foldl (hear caller) board =
        ⟨board.opened + 1,
          Function.update board.line caller (if connected then some board.opened else none),
          board.said ++ greeting⟩ ∧
      (talk.foldl (hear caller) board).Sound := by
  have probed (probe : Except CommandFailure Reply) :
      [⟨.dial, .ok ()⟩, ⟨.send .ping, probe⟩].foldl (hear caller) board =
        ⟨board.opened + 1, Function.update board.line caller (some board.opened),
          board.said ++ [⟨some board.opened, .ping, probe⟩]⟩ := by
    show hear caller (hear caller board ⟨.dial, .ok ()⟩) ⟨.send .ping, probe⟩ = _
    simp only [hear, Function.update_self]
  cases opening with
  | answered reply =>
    rw [probed]
    exact ⟨_, .answered reply, rfl, sound.opens caller (.ok reply)⟩
  | mute failure answer =>
    have opened := sound.opens caller (.error failure)
    have own : Function.update board.line caller (some board.opened) caller = some board.opened :=
      Function.update_self ..
    have parted := opened.parts own answer
    rw [Function.update_idem, List.append_assoc] at parted
    have heard : [⟨.dial, .ok ()⟩, ⟨.send .ping, .error failure⟩,
        ⟨.send .quit, answer⟩].foldl (hear caller) board =
        ⟨board.opened + 1, Function.update board.line caller none,
          board.said ++ ([⟨some board.opened, .ping, .error failure⟩] ++
            [⟨some board.opened, .quit, answer⟩])⟩ := by
      show hear caller ([⟨.dial, .ok ()⟩, ⟨.send .ping, .error failure⟩].foldl (hear caller) board)
        ⟨.send .quit, answer⟩ = _
      rw [probed]
      simp only [hear, own, Function.update_idem, List.append_assoc]
    rw [heard]
    exact ⟨_, .mute failure answer, rfl, parted⟩

theorem hear_send (command : Command) (answer : Except CommandFailure Reply) :
    (hear caller board ⟨.send command, answer⟩).said =
        board.said ++ [⟨board.line caller, command, answer⟩] ∧
      (hear caller board ⟨.send command, answer⟩).opened = board.opened := by
  cases command <;> exact ⟨rfl, rfl⟩

theorem hear_other {command : Command} (quit : command ≠ .quit)
    (answer : Except CommandFailure Reply) :
    hear caller board ⟨.send command, answer⟩ =
      { board with said := board.said ++ [⟨board.line caller, command, answer⟩] } := by
  cases command with
  | quit => exact absurd rfl quit
  | _ => rfl

/-- Commands about locks change nothing about the connections. -/
theorem hear_aside (sound : board.Sound)
    (aside : ∀ exchange ∈ talk, ∃ command, exchange.1 = .send command ∧ command ≠ .ping ∧
      command ≠ .quit) :
    ∃ further, times .ping further = 0 ∧ times .quit further = 0 ∧
      talk.foldl (hear caller) board = { board with said := board.said ++ further } ∧
      (talk.foldl (hear caller) board).Sound := by
  induction talk generalizing board with
  | nil =>
    refine ⟨[], rfl, rfl, ?_, sound⟩
    rw [List.append_nil]
    rfl
  | cons exchange rest inductionHypothesis =>
    obtain ⟨⟨command, sent, ping, quit⟩, others⟩ := List.forall_mem_cons.mp aside
    obtain ⟨request, answer⟩ := exchange
    subst sent
    rw [List.foldl_cons, hear_other caller quit]
    obtain ⟨further, pings, quits, heard, after⟩ :=
      inductionHypothesis (sound.speaks caller ping quit answer) others
    refine ⟨⟨board.line caller, command, answer⟩ :: further, ?_, ?_, ?_, after⟩
    · rw [times, List.countP_cons_of_neg (by simpa using ping)]
      exact pings
    · rw [times, List.countP_cons_of_neg (by simpa using quit)]
      exact quits
    · rw [heard, List.append_assoc]
      rfl

/-- A client that connects anew says good-bye on its old connection before it opens a new one. -/
theorem hear_redialling (sound : board.Sound) {farewell greeting : Talk} {had has : Bool}
    (parting : Parting had farewell) (held : (board.line caller).isSome = had)
    (opening : Opening greeting has) :
    ∃ parted greeted, Parted (board.line caller) parted ∧ Greeted board.opened greeted has ∧
      (farewell ++ greeting).foldl (hear caller) board =
        ⟨board.opened + 1,
          Function.update board.line caller (if has then some board.opened else none),
          board.said ++ parted ++ greeted⟩ ∧
      ((farewell ++ greeting).foldl (hear caller) board).Sound := by
  obtain ⟨parted, bade, left, between⟩ := hear_parting caller sound parting held
  rw [left] at between
  obtain ⟨greeted, welcome, came, after⟩ := hear_opening caller between opening
  rw [List.foldl_append, left]
  refine ⟨parted, greeted, bade, welcome, ?_, after⟩
  rw [came]
  simp only [Function.update_idem]

/-! ### What the server knows -/

/-- A switchboard has noted the commands that a server received and the connections that were
opened to it. -/
structure Hears (board : Switchboard) (server : Server) : Prop where
  received : server.received = board.said.map (·.command)
  dialled : server.dialled.length = board.opened

namespace Hears

variable {server : Server}

theorem exchange (hears : board.Hears server) (now : Nat) (endpoint : Endpoint)
    (request : Request) :
    (board.hear caller ⟨request, (perform now endpoint request server).1⟩).Hears
      (perform now endpoint request server).2 := by
  cases request with
  | dial =>
    refine ⟨hears.received, ?_⟩
    show (server.dialled ++ [endpoint]).length = board.opened + 1
    rw [List.length_append, hears.dialled]
    rfl
  | send command =>
    obtain ⟨received, dialled⟩ := received_answer now command server
    let noted := board.hear caller ⟨.send command, (server.answer now command).1⟩
    obtain ⟨said, opened⟩ : noted.said = _ ∧ noted.opened = _ := hear_send caller command _
    refine ⟨received.trans ?_, (congrArg List.length dialled).trans ?_⟩
    · refine Eq.trans ?_ (congrArg (List.map (·.command)) said).symm
      rw [hears.received, List.map_append]
      rfl
    · rw [hears.dialled]
      exact opened.symm

theorem run {Result : Type} (hears : board.Hears server) (now : Nat) (endpoint : Endpoint)
    (program : Steps Result) :
    ((program.talk (perform now endpoint) server).foldl (hear caller) board).Hears
      (program.run (perform now endpoint) server).service := by
  induction program generalizing board server with
  | done result => exact hears
  | note event next inductionHypothesis => exact inductionHypothesis hears
  | ask request next inductionHypothesis =>
    exact inductionHypothesis _ (hears.exchange caller now endpoint request)

/-- The switchboard and the server agree after a step if they did before. -/
theorem step {session : Session Endpoint Server} (hears : board.Hears session.service)
    (step : Step Settings Action) :
    (board.follow session step).Hears (session.step backend step).service.service := by
  unfold follow
  cases called : calling session step with
  | none =>
    obtain ⟨received, dialled⟩ := received_of_silent called
    exact ⟨received.trans hears.received, (congrArg List.length dialled).trans hears.dialled⟩
  | some made =>
    rw [service_of_calling called]
    exact hears.run made.caller session.now made.endpoint _

end Hears

end Switchboard

end Leasehold.Server
