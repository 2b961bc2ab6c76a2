/-
This file proves that no connection to a server gets lost. In every run the connections that were
opened are those on which good-bye was said, those of the clients that are connected, and those of
the clients that were dropped while they were: one step after the other adds to both sides alike.
A client that is built or connects anew gives up a connection whose probe failed before its call is
over, and one that connects anew gives up its old connection before it opens another.
-/

import Leasehold.Proofs.Switchboard

namespace Leasehold

/-! ### Counting in tables -/

namespace Table

variable {Value : Type}

/-- The number of values in a table that pass a test. -/
def count (table : Table Value) (test : Value → Bool) : Nat :=
  table.rows.countP fun row => test row.2

theorem count_erase (table : Table Value) (key : String) (test : Value → Bool) :
    (table.erase key).count test + ((table.get? key).any test).toNat = table.count test := by
  obtain ⟨rows, distinct⟩ := table
  simp only [count, erase, restrict, get?]
  induction rows with
  | nil => rfl
  | cons row rest inductionHypothesis =>
    obtain ⟨other, held⟩ := row
    rw [List.map_cons, List.nodup_cons] at distinct
    have onward := inductionHypothesis distinct.2
    by_cases same : other = key
    · subst same
      have kept : rest.filter (fun row => decide (row.1 ≠ other)) = rest := by
        refine List.filter_eq_self.mpr fun row member => decide_eq_true ?_
        rintro rfl
        exact distinct.1 (List.mem_map.mpr ⟨row, member, rfl⟩)
      rw [List.filter_cons_of_neg (by simp), kept, List.find?_cons_of_pos (by simp),
        List.countP_cons]
      cases tested : test held <;> simp [tested]
    · rw [List.filter_cons_of_pos (by simpa using same),
        List.find?_cons_of_neg (by simpa using same), List.countP_cons, List.countP_cons]
      omega

/-- What a value adds to a count, the one that it replaces took away. -/
theorem count_insert (table : Table Value) (key : String) (value : Value) (test : Value → Bool) :
    (table.insert key value).count test + ((table.get? key).any test).toNat =
      table.count test + (test value).toNat := by
  have added : (table.insert key value).count test =
      (table.erase key).count test + (test value).toNat := by
    show List.countP _ (_ :: _) = _
    rw [List.countP_cons]
    cases test value <;> rfl
  have erased := table.count_erase key test
  omega

end Table

namespace Server

/-! ### Sessions -/

/-- The number of clients that are connected. -/
def connectedClients (session : Session Endpoint Server) : Nat :=
  session.clients.count (·.connected)

/-- The connections of a session are those of a switchboard, apart from some that belong to
clients which were dropped. -/
structure Wired (board : Switchboard) (abandoned : Nat) (session : Session Endpoint Server) :
    Prop where
  numbered : session.Numbered
  sound : board.Sound
  hears : board.Hears session.service
  held : ∀ {name client}, session.clients.get? name = some client →
    (board.line client.serial).isSome = client.connected
  fresh : ∀ {serial}, session.made ≤ serial → board.line serial = none
  pings : times .ping board.said = board.opened
  balance : board.opened = times .quit board.said + connectedClients session + abandoned

namespace Wired

variable {board later : Switchboard} {abandoned : Nat} {session after : Session Endpoint Server}

theorem start (supply : Nat → String) :
    Wired .idle 0 (Session.start Server.empty supply : Session Endpoint Server) where
  numbered := .start Server.empty supply
  sound := .idle
  hears := ⟨rfl, rfl⟩
  held found := nomatch found
  fresh _ := rfl
  pings := rfl
  balance := rfl

/-- A step that leaves the clients alone, and nobody with another connection. -/
theorem keep (wired : Wired board abandoned session) (sound : later.Sound)
    (hears : later.Hears after.service) (clients : after.clients = session.clients)
    (made : session.made ≤ after.made)
    (lines : ∀ serial, (later.line serial).isSome = (board.line serial).isSome)
    (pings : times .ping later.said + board.opened = times .ping board.said + later.opened)
    (balance : later.opened + times .quit board.said = board.opened + times .quit later.said) :
    Wired later abandoned after where
  numbered := wired.numbered.of_clients_eq clients made
  sound := sound
  hears := hears
  held {name client} found := by
    rw [clients] at found
    exact (lines client.serial).trans (wired.held found)
  fresh {serial} new := by
    have none := wired.fresh (Nat.le_trans made new)
    have same := lines serial
    rw [none] at same
    exact Option.isNone_iff_eq_none.mp (Option.isSome_eq_false_iff.mp same)
  pings := by
    have before := wired.pings
    omega
  balance := by
    have before := wired.balance
    unfold connectedClients at before ⊢
    rw [clients]
    omega

/-- A step that puts a client under a name. The client that had the name is abandoned if it was
connected, unless it is the same. -/
theorem put (wired : Wired board abandoned session) {name : String} {client : Client Endpoint}
    {left : Nat} (numbered : after.Numbered)
    (puts : after.clients = session.clients.insert name client) (made : session.made ≤ after.made)
    (given : client.serial < after.made) (sound : later.Sound) (hears : later.Hears after.service)
    (own : (later.line client.serial).isSome = client.connected)
    (others : ∀ serial, serial ≠ client.serial → later.line serial = board.line serial)
    (pings : times .ping later.said + board.opened = times .ping board.said + later.opened)
    (balance : later.opened + times .quit board.said +
        ((session.clients.get? name).any (·.connected)).toNat =
      board.opened + times .quit later.said + client.connected.toNat + left) :
    Wired later (abandoned + left) after where
  numbered := numbered
  sound := sound
  hears := hears
  held {key holder} found := by
    by_cases here : key = name
    · subst here
      rw [puts, Table.get?_insert, if_pos rfl] at found
      cases found
      exact own
    · have apart : holder.serial ≠ client.serial := fun same =>
        here (numbered.apart found (by rw [puts, Table.get?_insert, if_pos rfl]) same)
      rw [others holder.serial apart]
      rw [puts, Table.get?_insert, if_neg here] at found
      exact wired.held found
  fresh {serial} new := by
    rw [others serial (by omega)]
    exact wired.fresh (Nat.le_trans made new)
  pings := by
    have before := wired.pings
    omega
  balance := by
    have before := wired.balance
    have counted := session.clients.count_insert name client (·.connected)
    unfold connectedClients at before ⊢
    rw [puts]
    omega

/-- A client that is dropped is abandoned if it was connected. -/
theorem drop (wired : Wired board abandoned session) {name : String} (numbered : after.Numbered)
    (erased : after.clients = session.clients.erase name) (made : after.made = session.made)
    (hears : board.Hears after.service) :
    Wired board (abandoned + ((session.clients.get? name).any (·.connected)).toNat) after where
  numbered := numbered
  sound := wired.sound
  hears := hears
  held {key client} found := by
    rw [erased, Table.get?_erase] at found
    exact wired.held (Option.ite_none_left_eq_some.mp found).2
  fresh new := wired.fresh (made ▸ new)
  pings := wired.pings
  balance := by
    have before := wired.balance
    have counted := session.clients.count_erase name (·.connected)
    unfold connectedClients at before ⊢
    rw [erased]
    omega

/-! ### Steps -/

/-- What is noted when a client connects anew. -/
theorem follow_reconnect (wired : Wired board abandoned session) {step : Step Settings Action}
    {made : Calling} (called : calling session step = some made) {client : Client Endpoint}
    (reconnects : made.call = .reconnect client)
    (held : (board.line made.caller).isSome = client.connected) :
    ∃ parted greeted, Switchboard.Parted (board.line made.caller) parted ∧
      Switchboard.Greeted board.opened greeted
        ((dialect.redialling client.connected).run (perform session.now made.endpoint)
          session.service).result.isOk ∧
      board.follow session step =
        ⟨board.opened + 1,
          Function.update board.line made.caller
            (if ((dialect.redialling client.connected).run (perform session.now made.endpoint)
              session.service).result.isOk then some board.opened else none),
          board.said ++ parted ++ greeted⟩ ∧
      (board.follow session step).Sound := by
  obtain ⟨farewell, greeting, talk, parting, opening⟩ :=
    talk_redialling session.now made.endpoint client.connected session.service
  have told : made.talk session = farewell ++ greeting := by
    rw [Calling.talk, reconnects]
    exact (Program.talk_map _ _ _ _).trans ((dialect.talk_reconnect _ client _).trans talk)
  unfold Switchboard.follow
  rw [called]
  dsimp only
  rw [told]
  exact Switchboard.hear_redialling made.caller wired.sound parting held opening

/-- What connecting anew adds to the connections and to what was said. -/
theorem reconnect_tally (wired : Wired board abandoned session) {step : Step Settings Action}
    {made : Calling} (called : calling session step = some made) {client : Client Endpoint}
    (reconnects : made.call = .reconnect client) {had has : Bool} (before : client.connected = had)
    (held : (board.line made.caller).isSome = had)
    (outcome : ((dialect.redialling had).run (perform session.now made.endpoint)
      session.service).result.isOk = has) :
    (board.follow session step).Sound ∧
      (board.follow session step).line =
        Function.update board.line made.caller (if has then some board.opened else none) ∧
      (board.follow session step).opened = board.opened + 1 ∧
      times .ping (board.follow session step).said = times .ping board.said + 1 ∧
      times .quit (board.follow session step).said =
        times .quit board.said + had.toNat + (!has).toNat := by
  subst before
  obtain ⟨parted, greeted, bade, welcome, heard, sound⟩ :=
    wired.follow_reconnect called reconnects held
  rw [outcome] at welcome heard
  refine ⟨sound, ?_⟩
  rw [heard]
  refine ⟨rfl, rfl, ?_, ?_⟩
  · dsimp only
    rw [times_append, times_append, bade.times.2, welcome.times.2]
  · dsimp only
    rw [times_append, times_append, bade.times.1, welcome.times.1, held]

theorem follow_close (wired : Wired board abandoned session) {step : Step Settings Action}
    {made : Calling} (called : calling session step = some made) {client : Client Endpoint}
    (closes : made.call = .close client)
    (held : (board.line made.caller).isSome = client.connected) :
    ∃ parted, Switchboard.Parted (board.line made.caller) parted ∧
      board.follow session step =
        ⟨board.opened, Function.update board.line made.caller none, board.said ++ parted⟩ ∧
      (board.follow session step).Sound := by
  have parting := parting_closing (perform session.now made.endpoint) client.connected
    session.service
  have told : made.talk session = (dialect.closing client.connected).talk
      (perform session.now made.endpoint) session.service := by
    rw [Calling.talk, closes]
    exact (Program.talk_map _ _ _ _).trans (dialect.talk_close _ client _)
  unfold Switchboard.follow
  rw [called]
  dsimp only
  rw [told]
  exact Switchboard.hear_parting made.caller wired.sound parting held

/-- What closing adds to what was said. -/
theorem close_tally (wired : Wired board abandoned session) {step : Step Settings Action}
    {made : Calling} (called : calling session step = some made) {client : Client Endpoint}
    (closes : made.call = .close client)
    (held : (board.line made.caller).isSome = client.connected) :
    (board.follow session step).Sound ∧
      (board.follow session step).line = Function.update board.line made.caller none ∧
      (board.follow session step).opened = board.opened ∧
      times .ping (board.follow session step).said = times .ping board.said ∧
      times .quit (board.follow session step).said =
        times .quit board.said + client.connected.toNat := by
  obtain ⟨parted, bade, heard, sound⟩ := wired.follow_close called closes held
  refine ⟨sound, ?_⟩
  rw [heard]
  refine ⟨rfl, rfl, ?_, ?_⟩
  · dsimp only
    rw [times_append, bade.times.2, Nat.add_zero]
  · dsimp only
    rw [times_append, bade.times.1, held]

theorem follow_silent {step : Step Settings Action} (silent : calling session step = none) :
    board.follow session step = board := by
  unfold Switchboard.follow
  rw [silent]

/-- A step that is not about clients changes nothing about the connections. -/
theorem follow_spared (wired : Wired board abandoned session) {step : Step Settings Action}
    (other : ∀ name, step.subject ≠ .client name) :
    ∃ further, times .ping further = 0 ∧ times .quit further = 0 ∧
      board.follow session step = { board with said := board.said ++ further } ∧
      (board.follow session step).Sound := by
  unfold Switchboard.follow
  cases called : calling session step with
  | none =>
    refine ⟨[], rfl, rfl, ?_, wired.sound⟩
    rw [List.append_nil]
  | some call =>
    obtain ⟨result, course⟩ := call.course session
    exact Switchboard.hear_aside call.caller wired.sound (course.aside (isSome_lock called other))

theorem spare (wired : Wired board abandoned session) {step : Step Settings Action}
    (other : ∀ name, step.subject ≠ .client name)
    (hears : (board.follow session step).Hears after.service)
    (clients : after.clients = session.clients) (made : after.made = session.made) :
    Wired (board.follow session step) abandoned after := by
  obtain ⟨further, pings, quits, heard, sound⟩ := wired.follow_spared other
  rw [heard] at sound hears ⊢
  refine wired.keep sound hears clients (Nat.le_of_eq made.symm) (fun _ => rfl) ?_ ?_
  · rw [times_append, pings]
    rfl
  · rw [times_append, quits]
    rfl

/-- A client that is put after it was connected has the connection that it opened, unless the probe
failed, and no longer the one that it had. -/
theorem put_reconnected (wired : Wired board abandoned session) {step : Step Settings Action}
    {made : Calling} (called : calling session step = some made) {client : Client Endpoint}
    (reconnects : made.call = .reconnect client) {had has : Bool} (before : client.connected = had)
    (held : (board.line made.caller).isSome = had)
    (outcome : ((dialect.redialling had).run (perform session.now made.endpoint)
      session.service).result.isOk = has)
    {name : String} {put : Client Endpoint} (numbered : after.Numbered)
    (puts : after.clients = session.clients.insert name put) (own : put.serial = made.caller)
    (connects : put.connected = has) (grown : session.made ≤ after.made)
    (given : put.serial < after.made) (hears : (board.follow session step).Hears after.service)
    {left : Nat}
    (leaves : ((session.clients.get? name).any (·.connected)).toNat = had.toNat + left) :
    Wired (board.follow session step) (abandoned + left) after := by
  obtain ⟨sound, lines, opened, pings, quits⟩ :=
    wired.reconnect_tally called reconnects before held outcome
  refine wired.put numbered puts grown given sound hears ?_ (fun serial other => ?_) (by omega) ?_
  · rw [lines, own, Function.update_self, connects]
    cases has <;> rfl
  · rw [lines, Function.update_of_ne (own ▸ other)]
  · rw [connects]
    have either : has.toNat + (!has).toNat = 1 := by cases has <;> rfl
    omega

/-- Whatever the server answers, the connections stay accounted for. -/
theorem step (wired : Wired board abandoned session) {step : Step Settings Action}
    {result : StepResult Endpoint} (deals : session.Deals backend step result after)
    (hears : (board.follow session step).Hears after.service) :
    Wired (board.follow session step)
      (abandoned +
        ((Passage.leaver? ⟨session, step, result, after⟩).any (·.connected)).toNat) after := by
  have numbered := wired.numbered.step deals
  have new := wired.fresh (Nat.le_refl session.made)
  cases deals with
  | unknown absent =>
    rw [follow_silent (calling_eq_none absent)]
    cases step <;> exact wired
  | @unprepared name identity settings error _ unread clients made =>
    have silent : calling session (.build name identity settings) = none := by
      rw [calling, show settings.endpoint = .error error from unread]
      rfl
    rw [follow_silent silent] at hears ⊢
    exact wired.keep wired.sound hears clients (Nat.le_of_eq made.symm) (fun _ => rfl)
      (Nat.add_comm _ _ ▸ rfl) rfl
  | @unbuilt name identity settings endpoint error _ read failed clients given =>
    obtain ⟨sound, lines, opened, pings, quits⟩ := wired.reconnect_tally
      (calling_build session name identity read) rfl rfl (congrArg Option.isSome new)
      (congrArg Except.isOk failed)
    -- the connection was opened under a number that no client came to have
    refine wired.keep sound hears clients (by omega) (fun serial => ?_) (by omega) ?_
    · rw [lines]
      by_cases own : serial = session.made
      · subst own
        rw [Function.update_self, new]
        rfl
      · rw [Function.update_of_ne own]
    · change _ = times .quit board.said + 0 + 1 at quits
      omega
  | @built name identity settings endpoint id _ read opened puts given =>
    exact wired.put_reconnected (calling_build session name identity read) rfl rfl
      (congrArg Option.isSome new) (congrArg Except.isOk opened) numbered puts rfl rfl (by omega)
      (given ▸ Nat.lt_succ_self _) hears (Nat.zero_add _).symm
  | @copied name copied client _ found puts given =>
    rw [follow_silent rfl] at hears ⊢
    refine wired.put numbered puts (by omega) (given ▸ Nat.lt_succ_self _) wired.sound hears
      (congrArg Option.isSome new) (fun _ _ => rfl) rfl ?_
    change _ = board.opened + _ + 0 + ((session.clients.get? copied).any (·.connected)).toNat
    omega
  | @closed name client _ found puts given =>
    obtain ⟨sound, lines, same, pings, quits⟩ :=
      wired.close_tally (calling_close found) rfl (wired.held found)
    have below := wired.numbered.below found
    refine wired.put numbered puts (Nat.le_of_eq given.symm) (given ▸ below) sound hears ?_
      (fun serial other => ?_) (by omega) ?_
    · rw [lines, Function.update_self]
      rfl
    · rw [lines, Function.update_of_ne other]
    · rw [found]
      show _ + client.connected.toNat = board.opened + _ + 0 + 0
      omega
  | @reconnected name client result _ found opened puts given =>
    have below := wired.numbered.below found
    refine wired.put_reconnected (calling_reconnect found) rfl rfl (wired.held found)
      (congrArg Except.isOk opened) numbered puts rfl rfl (Nat.le_of_eq given.symm)
      (given ▸ below) hears ?_
    rw [found]
    rfl
  | @dropped name client _ found erased given =>
    rw [follow_silent rfl] at hears ⊢
    exact wired.drop numbered erased given hears
  | @renamed name id client _ found puts given =>
    rw [follow_silent rfl] at hears ⊢
    have below := wired.numbered.below found
    have held := wired.held found
    refine wired.put numbered puts (Nat.le_of_eq given.symm) (given ▸ below) wired.sound hears
      held (fun _ _ => rfl) rfl ?_
    rw [found]
    rfl
  | spared other clients given =>
    have kept := wired.spare other hears clients given
    cases step with
    | build name | copy name | drop name => exact absurd rfl (other name)
    | _ => exact kept

end Wired

/-! ### Runs -/

/-- The switchboard of a run. -/
def switchboard (past : List (Passage Settings Endpoint Server Action)) : Switchboard :=
  past.foldl (fun board passage => board.follow passage.before passage.step) .idle

/-- The number of clients that were dropped in a run while they were connected. -/
def abandonedClients (past : List (Passage Settings Endpoint Server Action)) : Nat :=
  past.countP fun passage => passage.leaver?.any (·.connected)

theorem wired_run (supply : Nat → String) (steps : List (Step Settings Action)) :
    let past := (Session.start Server.empty supply).passages backend steps
    Wired (switchboard past) (abandonedClients past)
      ((Session.start Server.empty supply).after backend steps) := by
  have begun : Wired (switchboard []) (abandonedClients [])
      (Session.start Server.empty supply : Session Endpoint Server) := .start supply
  refine Session.passages_induction (fun past session =>
    Wired (switchboard past) (abandonedClients past) session) begun ?_ steps
  intro past session step wired
  have later := wired.step (session.deals backend step) (wired.hears.step step)
  have followed : switchboard (past ++ [session.passage backend step]) =
      (switchboard past).follow session step := List.foldl_concat ..
  have counted : abandonedClients (past ++ [session.passage backend step]) =
      abandonedClients past +
        ((session.passage backend step).leaver?.any (·.connected)).toNat := by
    unfold abandonedClients
    rw [List.countP_append, List.countP_singleton]
    cases (session.passage backend step).leaver?.any (·.connected) <;> rfl
  rw [followed, counted]
  exact later

theorem times_eq_count (command : Command) (said : List Utterance) :
    times command said = (said.map (·.command)).count command := by
  rw [List.count_eq_countP, List.countP_map]
  refine List.countP_congr fun utterance _ => ?_
  simp

/-- The connections of a session to a server are accounted for, and stay so in the next step. -/
structure Balanced (board : Switchboard) (abandoned : Nat) (session : Session Endpoint Server) :
    Prop where
  received : session.service.received = board.said.map (·.command)
  dialled : session.service.dialled.length = board.opened
  pings : session.service.received.count .ping = session.service.dialled.length
  balance : session.service.dialled.length =
    session.service.received.count .quit + connectedClients session + abandoned
  held : ∀ name client, session.clients.get? name = some client →
    (board.line client.serial).isSome = client.connected
  placed : ∀ utterance ∈ board.said, utterance.command = .ping ∨ utterance.command = .quit →
    ∃ line < board.opened, utterance.line = some line
  probed : ∀ line < board.opened, timesOn line .ping board.said = 1
  once : ∀ line, timesOn line .quit board.said ≤ 1
  /-- A client that is built says good-bye on its connection before the call is over if the probe
  failed. -/
  building : ∀ name identity settings endpoint, settings.endpoint = .ok endpoint →
    ∃ greeting connected, Switchboard.Greeted board.opened greeting connected ∧
      (board.follow session (.build name identity settings)).said = board.said ++ greeting ∧
      (connected = true ↔ ∃ client,
        (session.step backend (.build name identity settings)).result = .client client)
  /-- A client that connects anew says good-bye on its old connection first. -/
  reconnecting : ∀ name client, session.clients.get? name = some client →
    ∃ farewell greeting connected, Switchboard.Parted (board.line client.serial) farewell ∧
      Switchboard.Greeted board.opened greeting connected ∧
      (board.follow session (.reconnect name)).said = board.said ++ farewell ++ greeting ∧
      (connected = true ↔ (session.step backend (.reconnect name)).result = .finished)
  elsewhere : ∀ step, (board.follow session step).opened ≠ board.opened →
    (∃ name identity settings, step = .build name identity settings) ∨
      ∃ name, step = .reconnect name

section Next

variable {board : Switchboard} {abandoned : Nat} {session : Session Endpoint Server}

theorem Wired.building (wired : Wired board abandoned session) (name : String)
    (identity : Identity) {settings : Settings} {endpoint : Endpoint}
    (read : settings.endpoint = .ok endpoint) :
    ∃ greeting connected, Switchboard.Greeted board.opened greeting connected ∧
      (board.follow session (.build name identity settings)).said = board.said ++ greeting ∧
      (connected = true ↔ ∃ client,
        (session.step backend (.build name identity settings)).result = .client client) := by
  have new := wired.fresh (Nat.le_refl session.made)
  obtain ⟨parted, greeted, bade, welcome, heard, _⟩ := wired.follow_reconnect
    (calling_build session name identity read) rfl (congrArg Option.isSome new)
  rw [show board.line session.made = none from new] at bade
  cases bade
  rw [List.append_nil] at heard
  refine ⟨greeted, _, welcome, congrArg Switchboard.said heard, ?_⟩
  have deals := session.deals backend (.build name identity settings)
  generalize (session.step backend (.build name identity settings)).service = after at deals
  generalize (session.step backend (.build name identity settings)).result = result at deals ⊢
  cases deals with
  | unknown absent => cases absent
  | unprepared unread =>
    rw [show settings.endpoint = .error _ from unread] at read
    cases read
  | @unbuilt _ _ _ other error _ same failed =>
    cases Except.ok.inj (read.symm.trans same)
    refine ⟨fun connected => ?_, fun ⟨client, told⟩ => nomatch told⟩
    exact absurd ((congrArg Except.isOk failed).symm.trans connected) Bool.false_ne_true
  | @built _ _ _ other id _ same opened =>
    cases Except.ok.inj (read.symm.trans same)
    exact ⟨fun _ => ⟨_, rfl⟩, fun _ => congrArg Except.isOk opened⟩
  | spared other => exact absurd rfl (other name)

theorem Wired.reconnecting (wired : Wired board abandoned session) {name : String}
    {client : Client Endpoint} (found : session.clients.get? name = some client) :
    ∃ farewell greeting connected, Switchboard.Parted (board.line client.serial) farewell ∧
      Switchboard.Greeted board.opened greeting connected ∧
      (board.follow session (.reconnect name)).said = board.said ++ farewell ++ greeting ∧
      (connected = true ↔ (session.step backend (.reconnect name)).result = .finished) := by
  obtain ⟨parted, greeted, bade, welcome, heard, _⟩ :=
    wired.follow_reconnect (calling_reconnect found) rfl (wired.held found)
  refine ⟨parted, greeted, _, bade, welcome, congrArg Switchboard.said heard, ?_⟩
  have deals := session.deals backend (.reconnect name)
  generalize (session.step backend (.reconnect name)).service = after at deals
  generalize (session.step backend (.reconnect name)).result = result at deals ⊢
  cases deals with
  | unknown absent =>
    rw [Session.finds, found] at absent
    cases absent
  | spared other => exact absurd rfl (other name)
  | @reconnected _ holder outcome _ held opened =>
    cases Option.some.inj (found.symm.trans held)
    rw [show ((dialect.redialling client.connected).run (perform session.now client.endpoint)
      session.service).result = outcome from opened]
    cases outcome with
    | error error =>
      constructor
      · intro connected
        cases connected
      · intro told
        cases told
    | ok done => exact ⟨fun _ => rfl, fun _ => rfl⟩

theorem Wired.elsewhere (wired : Wired board abandoned session) {step : Step Settings Action}
    (more : (board.follow session step).opened ≠ board.opened) :
    (∃ name identity settings, step = .build name identity settings) ∨
      ∃ name, step = .reconnect name := by
  have silent (none : calling session step = none) : False :=
    more (congrArg Switchboard.opened (Wired.follow_silent none))
  have spared (other : ∀ name, step.subject ≠ .client name) : False := by
    obtain ⟨further, _, _, heard, _⟩ := wired.follow_spared other
    rw [heard] at more
    exact more rfl
  cases step with
  | build name identity settings => exact Or.inl ⟨name, identity, settings, rfl⟩
  | reconnect name => exact Or.inr ⟨name, rfl⟩
  | close name =>
    cases found : session.clients.get? name with
    | none =>
      refine (silent ?_).elim
      rw [calling, found]
      rfl
    | some client =>
      obtain ⟨_, _, same, _⟩ := wired.close_tally (calling_close found) rfl (wired.held found)
      exact absurd same more
  | copy | drop | setId => exact (silent rfl).elim
  | advance | interfere => exact (spared fun _ => Subject.service_ne_client).elim
  | _ => exact (spared fun _ => Subject.lock_ne_client).elim

end Next

theorem Wired.balanced {board : Switchboard} {abandoned : Nat} {session : Session Endpoint Server}
    (wired : Wired board abandoned session) : Balanced board abandoned session where
  received := wired.hears.received
  dialled := wired.hears.dialled
  pings := by
    rw [wired.hears.received, ← times_eq_count, wired.hears.dialled]
    exact wired.pings
  balance := by
    rw [wired.hears.received, ← times_eq_count, wired.hears.dialled]
    exact wired.balance
  held _ _ := wired.held
  placed utterance member about := by
    obtain ⟨line, on⟩ := Option.isSome_iff_exists.mp (wired.sound.placed utterance member about)
    exact ⟨line, wired.sound.known utterance member line on, on⟩
  probed := wired.sound.probed
  once := wired.sound.once
  building name identity _ _ := wired.building name identity
  reconnecting _ _ := wired.reconnecting
  elsewhere _ := wired.elsewhere

/-- In every run of clients of a server that lets itself be connected to, whatever it answers, the
connections that were opened are those on which good-bye was said, those of the connected clients
and those of the clients that were dropped while connected. -/
theorem no_connection_lost (supply : Nat → String) (steps : List (Step Settings Action)) :
    let past := (Session.start Server.empty supply).passages backend steps
    Balanced (switchboard past) (abandonedClients past)
      ((Session.start Server.empty supply).after backend steps) :=
  (wired_run supply steps).balanced

end Server

end Leasehold
