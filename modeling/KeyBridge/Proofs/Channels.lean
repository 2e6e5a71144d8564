-- SUMMARY: A bridge has at most one live channel, which is the one that it opened last.
import KeyBridge.Engine.Recording
import KeyBridge.Proofs.Bridges
import KeyBridge.Proofs.Turns

/-!
# Channels

Opening a channel stops the server of the one before, whether the engine then takes the client or
not. So the only server of a bridge that runs is that of the channel that was opened last
(`Single`); once the tasks that were stopped have let go, nobody else's name is bound, and who had
connected to an earlier channel sees the end of the stream (`Remembers`).
-/

namespace KeyBridge

open Entry

/-! ## Clients -/

namespace Switchboard

variable {b : Switchboard} {e : ListenerId} {l : LinkId} {clients : List (String × LinkId)}

/-- Whether an operator acts, who makes, starts or stops servers. -/
def Act.isOperator : Act → Bool
  | .add .. | .start _ | .shutdown _ => true
  | _ => false

/-- Who comes in an act: the channel that is connected to and the connection. -/
def visitors (b : Switchboard) : Act → List (String × LinkId)
  | .connect channel =>
    match b.connect channel with
    | .ok (link, _) => [(channel, link)]
    | .error _ => []
  | _ => []

/-- Every client was delivered to a listener of the channel that it connected to. -/
def Remembers (b : Switchboard) (clients : List (String × LinkId)) : Prop :=
  ∃ past story log, b.Ledger past story log ∧ ∀ client ∈ clients, ∃ e c,
    .conn c ∈ deliveries (log e) ∧ c.link = client.2
      ∧ b.site.network.bound[e.index]? = some client.1

theorem delivered_of_visitor (h : b.Tidy) {a : Act} {client : String × LinkId}
    (hclient : client ∈ b.visitors a) : ∃ e, .conn ⟨client.2, none⟩ ∈ deliveries (b.dealings e a)
      ∧ b.site.network.bound[e.index]? = some client.1 := by
  cases a with
  | connect channel =>
    rw [visitors, connect_reach h] at hclient
    rcases hr : b.site.network.reach channel with error | e
    · rw [hr] at hclient
      cases hclient
    · rw [hr] at hclient
      cases List.mem_singleton.1 hclient
      obtain ⟨lis, hlis, -, rfl⟩ := Network.reach_ok hr
      refine ⟨e, ?_, ?_⟩
      · simp [dealings, arrivals, hr, newcomer, Network.newLink]
      · rw [Network.bound, List.getElem?_map, hlis]
        rfl
  | _ => cases hclient

/-- Clients are remembered, and so are those who come. -/
theorem Remembers.act (hr : b.Remembers clients) (h : b.Sane) (a : Act) :
    (b.act a).Remembers (clients ++ b.visitors a) := by
  obtain ⟨past, story, log, hledger, hclients⟩ := hr
  refine ⟨_, _, _, hledger.act h a, fun client hclient => ?_⟩
  have hkept {e : ListenerId} {name : String} (hname : b.site.network.bound[e.index]? = some name) :
      (b.act a).site.network.bound[e.index]? = some name := by
    obtain ⟨more, hmore⟩ := (change_act h.tidy a).bound_grows h.tidy
    rw [← hmore]
    exact (List.getElem?_append_left (List.getElem?_eq_some_iff.1 hname).1).trans hname
  rcases List.mem_append.1 hclient with hclient | hclient
  · obtain ⟨e, c, hc, hlink, hname⟩ := hclients client hclient
    refine ⟨e, c, ?_, hlink, hkept hname⟩
    rw [deliveries_append]
    exact List.mem_append_left _ hc
  · obtain ⟨e, hc, hname⟩ := delivered_of_visitor h.tidy hclient
    refine ⟨e, ⟨client.2, none⟩, ?_, rfl, hkept hname⟩
    rw [deliveries_append]
    exact List.mem_append_right _ hc

/-- A client of a name that is not bound any more sees the end of the stream. -/
theorem Remembers.ended (hr : b.Remembers clients) (h : b.Sane) {name : String}
    (hclient : (name, l) ∈ clients) (hfree : b.site.network.isBound name = false) :
    (b.receive l).1.2 = true := by
  obtain ⟨past, story, log, hledger, hclients⟩ := hr
  obtain ⟨e, c, hc, rfl, hname⟩ := hclients _ hclient
  have hdead : b.site.network.lives e = 0 := by
    apply Decidable.byContradiction
    intro hlive
    have hanswers := h.tidy.sound.answers_iff.2 ⟨Nat.pos_of_ne_zero hlive, hname⟩
    rw [Network.isBound_iff.2 ⟨e, hanswers⟩] at hfree
    cases hfree
  exact hledger.closed e (h.tidy.not_station hdead) c hc

/-- Nobody connects to a name that is not bound. -/
theorem connect_free (h : b.Sane) {name : String} (hfree : b.site.network.isBound name = false) :
    ∃ error, b.connect name = .error error := by
  rw [connect_reach h.tidy]
  rcases hr : b.site.network.reach name with error | e
  · exact ⟨_, rfl⟩
  · obtain ⟨lis, hlis, hlive, hname⟩ := Network.reach_ok hr
    have hattached := h.tidy.sound.attached lis (List.mem_of_getElem? hlis)
    have hanswers : b.site.network.Answers name e :=
      ⟨lis, hlis, by simp [Network.isLiveAt, hattached, hname, hlive]⟩
    rw [Network.isBound_iff.2 ⟨e, hanswers⟩] at hfree
    cases hfree

/-! ## Other hosts -/

theorem Housed.withHost (h : b.Housed) (host : Host) : (b.withHost host).Housed :=
  ⟨h.exclusive, h.settled⟩

theorem Staged.withHost (h : b.Staged) (host : Host) : (b.withHost host).Staged :=
  ⟨h.stage, h.outdated⟩

theorem Down.withHost {id : ServerId} (h : b.Down id) (host : Host) : (b.withHost host).Down id :=
  ⟨h.state, h.running⟩

theorem Ledger.withHost {past : List Act} {story : List Incident} {log : ListenerId → List Entry}
    (h : b.Ledger past story log) (host : Host) : (b.withHost host).Ledger past story log where
  unborn := h.unborn
  inOrder := h.inOrder
  known := h.known
  apart := h.apart
  unrepeated := h.unrepeated
  stations e q client hst := by
    obtain ⟨hqueue, hservice⟩ := h.stations e q client hst
    refine ⟨hqueue, ?_⟩
    cases hservice with
    | free hall => exact .free hall
    | busy earlier first c u htaken hall hlink hsame =>
      exact .busy earlier first c u htaken hall hlink hsame
  hungUp := h.hungUp
  closed := h.closed
  unreplied := h.unreplied
  answers := h.answers
  heard := h.heard
  taken := h.taken
  unawaited k hk := by
    obtain ⟨hretired, hlast⟩ := h.unawaited k hk
    exact ⟨⟨hretired.born, hretired.unowned⟩, hlast⟩

theorem Remembers.withHost (h : b.Remembers clients) (host : Host) :
    (b.withHost host).Remembers clients := by
  obtain ⟨past, story, log, hledger, hclients⟩ := h
  exact ⟨past, story, log, hledger.withHost host, hclients⟩

/-- What holds of every board on which a bridge works. -/
structure Upheld (b : Switchboard) (clients : List (String × LinkId)) : Prop where
  sane : b.Sane
  housed : b.Housed
  staged : b.Staged
  remembers : b.Remembers clients

theorem Upheld.act (h : b.Upheld clients) (a : Act) :
    (b.act a).Upheld (clients ++ b.visitors a) where
  sane := h.sane.act a
  housed := h.housed.act h.sane.tidy a
  staged := h.staged.act a
  remembers := h.remembers.act h.sane a

/-- An act with which nobody comes. -/
theorem Upheld.act_nobody (h : b.Upheld clients) {a : Act} (ha : b.visitors a = []) :
    (b.act a).Upheld clients := by
  have hact := h.act a
  rwa [ha, List.append_nil] at hact

theorem Upheld.withHost (h : b.Upheld clients) (host : Host) : (b.withHost host).Upheld clients :=
  ⟨h.sane.withHost host, h.housed.withHost host, h.staged.withHost host, h.remembers.withHost host⟩

end Switchboard

namespace Bridge

variable {σ : Type}

/-! ## Deeds -/

/-- One thing that happens to a bridge, whatever the handlers of its channels and its engine. -/
inductive Deed (σ : Type) where
  | act (a : Act)
  /-- A channel is opened on which a handler answers. -/
  | load (handler : Handler) (id : String)
  /-- Someone else does something to the engine. -/
  | engine (e : σ)

namespace Deed

/-- Whether the servers on the board are left to the bridge. -/
def isFair : Deed σ → Bool
  | .act (.board a) => !a.isOperator
  | _ => true

/-- Whether the live channel is closed, and none is opened. -/
def isShutdown : Deed σ → Bool
  | .act .shutdown => true
  | _ => false

end Deed

/-- The handler and the name of the channel that is opened. -/
def opens? (b : Bridge σ) : Deed σ → Option (Handler × String)
  | .load handler id => some (handler, b.config.namePrefix ++ id)
  | .act (.loadRegistry id) => some (.registry b.registry, b.config.namePrefix ++ id)
  | _ => none

/-- The channel that is live after a deed, if `now` was live before. -/
def leaves (b : Bridge σ) (now : Option (Handler × String)) (d : Deed σ) :
    Option (Handler × String) :=
  if d.isShutdown then none else (b.opens? d).or now

/-- The channel that was opened last, if it was not closed. -/
def current (b : Bridge σ) (deeds : List (Deed σ)) : Option (Handler × String) :=
  deeds.foldl b.leaves none

variable [ScriptEngine σ]

/-- The bridge after a deed. -/
def perform (b : Bridge σ) : Deed σ → Bridge σ
  | .act a => b.act a
  | .load handler id => (b.load handler id).2
  | .engine e => { b with engine := e }

/-- The bridge after some deeds. -/
def performAll (b : Bridge σ) (deeds : List (Deed σ)) : Bridge σ := deeds.foldl perform b

/-- Who comes in a deed. -/
def visitors (b : Bridge σ) : Deed σ → List (String × LinkId)
  | .act (.board a) => b.board.visitors a
  | _ => []

/-- All clients that came in the course of some deeds. -/
def clients (b : Bridge σ) : List (Deed σ) → List (String × LinkId)
  | [] => []
  | d :: deeds => b.visitors d ++ clients (b.perform d) deeds

/-- The call that is carried out in a deed. -/
def carriedOut (b : Bridge σ) : Deed σ → Option Call
  | .act (.board a) => b.board.carriedOut a
  | _ => none

/-- The calls that are carried out in the course of some deeds. -/
def handled (b : Bridge σ) : List (Deed σ) → List Call
  | [] => []
  | d :: deeds => (b.carriedOut d).toList ++ handled (b.perform d) deeds

/-- The callbacks that are registered in a deed. -/
def enrolls (b : Bridge σ) : Deed σ → List Registration
  | .act a => b.registrations a
  | _ => []

/-- The callbacks that are registered in the course of some deeds. -/
def enrolled (b : Bridge σ) : List (Deed σ) → List Registration
  | [] => []
  | d :: deeds => b.enrolls d ++ enrolled (b.perform d) deeds

/-! ## Opening a channel -/

/-- The board after the old channel is shut down and one with this handler is opened. -/
def opened (b : Bridge σ) (handler : Handler) (name : String) : Switchboard :=
  (b.shutdown.board.act (.add name handler b.config.bufferSize b.config.backoffMillis)).act
    (.start b.nextServer)

/-- What the engine says to the client of a new channel, and what becomes of it. -/
def offer (b : Bridge σ) (name : String) : Bool × σ :=
  ScriptEngine.load b.engine (Client.setUpFor b.engine b.config name) .run

/-- What is logged when a channel is open. -/
def loadedNotes (b : Bridge σ) (name : String) : List Event :=
  .bridgeLoaded name :: if (b.offer name).1 then [] else [.clientInitRejected name]

omit [ScriptEngine σ] in
theorem shutdown_eq (b : Bridge σ) :
    b.shutdown = { b with board := b.shutdown.board, live := none } := by
  obtain ⟨config, registry, engine, board, live⟩ := b
  cases live <;> rfl

omit [ScriptEngine σ] in
theorem openChannel_eq (b : Bridge σ) (handler : Handler) (name : String) :
    b.openChannel name handler = { b with
      live := some b.nextServer
      board := (b.opened handler name).withHost
        ((b.opened handler name).site.log [.bridgeLoaded name]).host } := by
  rw [openChannel, shutdown_eq]
  rfl

/-- The channel is opened, and then the engine says whether it takes the client. -/
theorem load_spec (b : Bridge σ) (handler : Handler) (id : String) :
    let name := b.config.namePrefix ++ id
    (b.load handler id).1 = (if (b.offer name).1 then .ok name
        else .error (.clientRefused (Client.setUpFor b.engine b.config name)))
      ∧ (b.load handler id).2 =
        { b with
          engine := (b.offer name).2
          live := some b.nextServer
          board := (b.opened handler name).withHost
            ((b.opened handler name).site.log (b.loadedNotes name)).host } := by
  intro name
  rw [load, openChannel_eq, installClient]
  rcases hanswer : (b.offer name).1
  · rw [offer] at hanswer
    simp only [loadedNotes, offer, name, hanswer]
    refine ⟨rfl, ?_⟩
    simp [note, Site.note, Host.note, Switchboard.withHost, Site.withHost, Site.log]
  · rw [offer] at hanswer
    simp only [loadedNotes, offer, name, hanswer]
    exact ⟨rfl, rfl⟩

/-! ## One channel -/

omit [ScriptEngine σ] in
/-- Shutting down leaves only the notes of the server that is stopped. -/
theorem site_shutdown (b : Bridge σ) :
    b.shutdown.board.site = b.board.site.log ((b.server?.map Server.farewell).getD []) := by
  rcases hlive : b.live with _ | id
  · simp [Bridge.shutdown, server?, hlive]
  · rcases hs : b.board.server? id with _ | s
    · simp [Bridge.shutdown, server?, hlive, Switchboard.shutdown, hs]
    · simp only [Bridge.shutdown, server?, hlive, Switchboard.shutdown_eq hs, Option.bind_some, hs]
      rfl

omit [ScriptEngine σ] in
theorem board_opened (b : Bridge σ) (handler : Handler) (name : String) :
    (b.opened handler name).server? b.nextServer = some
        (Server.create name handler b.config.bufferSize b.config.backoffMillis).launched
      ∧ (b.opened handler name).site = b.shutdown.board.site.log [.pipeStarted name] := by
  have hs : (b.shutdown.board.act (.add name handler b.config.bufferSize
      b.config.backoffMillis)).server? b.nextServer
        = some (Server.create name handler b.config.bufferSize b.config.backoffMillis) :=
    List.getElem?_concat_length
  have hopened : b.opened handler name = _ := Switchboard.start_idle hs rfl
  rw [hopened]
  refine ⟨?_, rfl⟩
  exact List.getElem?_set_self (List.getElem?_eq_some_iff.1 hs).1

/-- The only server that runs is that of the live channel. -/
structure Single (b : Bridge σ) (now : Option (Handler × String))
    (clients : List (String × LinkId)) : Prop where
  upheld : b.board.Upheld clients
  alone : ∀ id, b.live ≠ some id → b.board.Down id
  running : ∀ id, b.live = some id → ∃ s, b.board.server? id = some s ∧ s.isRunning = true
  current : b.server?.map (fun s => (s.handler, s.name)) = now

section

variable {b : Bridge σ} {now : Option (Handler × String)} {clients : List (String × LinkId)}

omit [ScriptEngine σ] in
theorem Single.board_act (h : b.Single now clients) {a : Switchboard.Act}
    (ha : a.isOperator = false) :
    ({ b with board := b.board.act a } : Bridge σ).Single now (clients ++ b.board.visitors a) where
  upheld := h.upheld.act a
  alone id hlive := by
    refine (h.alone id hlive).act h.upheld.staged ?_
    rintro rfl
    cases ha
  running id hlive := by
    obtain ⟨s, hs, hrun⟩ := h.running id hlive
    refine Switchboard.running_act h.upheld.sane.tidy hs hrun ?_
    rintro rfl
    cases ha
  current := by
    rw [← h.current]
    rcases hlive : b.live with _ | id
    · simp [server?, hlive]
    · obtain ⟨s, hs, -⟩ := h.running id hlive
      obtain ⟨s', hs', hprofile⟩ := (Switchboard.change_act h.upheld.sane.tidy a).server hs
      have hname : s'.name = s.name := congrArg (·.1) hprofile
      have hhandler : s'.handler = s.handler := congrArg (·.2.1) hprofile
      simp [server?, hlive, hs, hs', hname, hhandler]

omit [ScriptEngine σ] in
theorem Single.shutdown (h : b.Single now clients) : b.shutdown.Single none clients where
  upheld := by
    rcases b.board_shutdown with heq | ⟨id, heq⟩
    · rw [heq]
      exact h.upheld
    · rw [heq]
      exact h.upheld.act_nobody rfl
  alone id _ := by
    rcases hlive : b.live with _ | id'
    · rw [Bridge.shutdown, hlive]
      exact h.alone id (by simp [hlive])
    · have heq : b.shutdown.board = b.board.act (.shutdown id') := by
        rw [Bridge.shutdown, hlive]
        rfl
      rw [heq]
      by_cases hid : id = id'
      · exact hid ▸ Switchboard.down_shutdown b.board id
      · refine (h.alone id ?_).act h.upheld.staged nofun
        rw [hlive]
        exact fun hsame => hid (Option.some.inj hsame).symm
  running id hlive := by
    rw [live_shutdown] at hlive
    cases hlive
  current := by
    rw [server?, live_shutdown]
    rfl

/-- Whatever the engine says, the new channel is the only one. -/
theorem Single.load (h : b.Single now clients) (handler : Handler) (id : String) :
    (b.load handler id).2.Single (some (handler, b.config.namePrefix ++ id)) clients := by
  obtain ⟨-, hload⟩ := b.load_spec handler id
  obtain ⟨hs, -⟩ := b.board_opened handler (b.config.namePrefix ++ id)
  have hshut := h.shutdown
  have hadded := hshut.upheld.act_nobody (a := .add (b.config.namePrefix ++ id) handler
    b.config.bufferSize b.config.backoffMillis) rfl
  have hopened : (b.opened handler (b.config.namePrefix ++ id)).Upheld clients :=
    hadded.act_nobody (a := .start b.nextServer) rfl
  rw [hload]
  refine ⟨hopened.withHost _, fun id' hlive => ?_, fun id' hlive => ?_, ?_⟩
  · have hdown := (hshut.alone id' (by simp [live_shutdown])).act hshut.upheld.staged (a := .add
      (b.config.namePrefix ++ id) handler b.config.bufferSize b.config.backoffMillis) nofun
    refine Switchboard.Down.withHost (hdown.act hadded.staged ?_) _
    intro hsame
    cases hsame
    exact hlive rfl
  · cases hlive
    exact ⟨_, hs, rfl⟩
  · have hserver : (b.opened handler (b.config.namePrefix ++ id)).servers[b.nextServer.index]?
        = some _ := hs
    simp [server?, Switchboard.withHost, Switchboard.server?, hserver, Server.launched, Server.create]

omit [ScriptEngine σ] in
theorem Single.withHost (h : b.Single now clients) (host : Host) :
    ({ b with board := b.board.withHost host } : Bridge σ).Single now clients :=
  ⟨h.upheld.withHost host, fun id hlive => (h.alone id hlive).withHost host, h.running, h.current⟩

theorem Single.perform (h : b.Single now clients) {d : Deed σ} (hfair : d.isFair = true) :
    (b.perform d).Single (b.leaves now d) (clients ++ b.visitors d) := by
  have hnobody {b' : Bridge σ} {now' : Option (Handler × String)} (h' : b'.Single now' clients) :
      b'.Single now' (clients ++ []) := by rwa [List.append_nil]
  cases d with
  | act a =>
    cases a with
    | board a => exact h.board_act (by simpa [Deed.isFair] using hfair)
    | loadRegistry id => exact hnobody (h.load (.registry b.registry) id)
    | shutdown => exact hnobody h.shutdown
    | generate config actions level => exact hnobody (h.withHost _)
  | load handler id => exact hnobody (h.load handler id)
  | engine e => exact hnobody ⟨h.upheld, h.alone, h.running, h.current⟩

theorem config_perform (b : Bridge σ) (d : Deed σ) :
    (b.perform d).config = b.config ∧ (b.perform d).registry = b.registry := by
  cases d with
  | act a => exact ⟨config_act b a, registry_act b a⟩
  | load handler id =>
    obtain ⟨-, hload⟩ := b.load_spec handler id
    rw [Bridge.perform, hload]
    exact ⟨rfl, rfl⟩
  | engine e => exact ⟨rfl, rfl⟩

theorem opens?_perform (b : Bridge σ) (d : Deed σ) : (b.perform d).opens? = b.opens? := by
  obtain ⟨hconfig, hregistry⟩ := b.config_perform d
  funext d'
  unfold opens?
  rw [hconfig, hregistry]

theorem leaves_perform (b : Bridge σ) (d : Deed σ) : (b.perform d).leaves = b.leaves := by
  funext now d'
  rw [leaves, leaves, opens?_perform]

theorem Single.performAll (h : b.Single now clients) {deeds : List (Deed σ)}
    (hfair : ∀ d ∈ deeds, d.isFair = true) :
    (b.performAll deeds).Single (deeds.foldl b.leaves now) (clients ++ b.clients deeds) := by
  induction deeds generalizing b now clients with
  | nil =>
    rw [Bridge.clients, List.append_nil]
    exact h
  | cons d deeds ih =>
    have hfirst := h.perform (hfair d List.mem_cons_self)
    have hrest := ih hfirst fun d' hd' => hfair d' (List.mem_cons_of_mem d hd')
    rw [leaves_perform, List.append_assoc] at hrest
    exact hrest

end

namespace Single

variable {b : Bridge σ} {now : Option (Handler × String)} {clients : List (String × LinkId)}

omit [ScriptEngine σ] in
theorem isRunning (h : b.Single now clients) {s : Server} (hs : b.server? = some s) :
    s.isRunning = true := by
  obtain ⟨id, hlive, hs⟩ := Option.bind_eq_some_iff.1 hs
  obtain ⟨s', hs', hrun⟩ := h.running id hlive
  cases hs.symm.trans hs'
  exact hrun

omit [ScriptEngine σ] in
/-- Only the name of the live channel can be bound. -/
theorem channel?_of_isBound (h : b.Single now clients) (habandoned : b.board.abandoned = [])
    {name : String} (hbound : b.board.site.network.isBound name = true) :
    b.channel? = some name := by
  obtain ⟨id, s, hs, rfl, hstate⟩ := (h.upheld.housed.isBound_iff h.upheld.sane.tidy
    h.upheld.staged habandoned name).1 hbound
  have hlive : b.live = some id := by
    apply Decidable.byContradiction
    intro hlive
    exact hstate ((h.alone id hlive).server hs).1
  simp [channel?, server?, hlive, hs]

omit [ScriptEngine σ] in
/-- Nobody reaches a channel that is not the live one, and its clients see the end of the stream. -/
theorem gone (h : b.Single now clients) (habandoned : b.board.abandoned = []) {name : String}
    (hother : b.channel? ≠ some name) : (∃ error, b.board.connect name = .error error)
      ∧ ∀ l, (name, l) ∈ clients → (b.board.receive l).1.2 = true := by
  have hfree : b.board.site.network.isBound name = false :=
    Bool.eq_false_iff.2 fun hbound => hother (h.channel?_of_isBound habandoned hbound)
  exact ⟨Switchboard.connect_free h.upheld.sane hfree,
    fun l hl => h.upheld.remembers.ended h.upheld.sane hl hfree⟩

end Single

/-- A channel that is opened leaves notes with the host: the server before it was stopped, then its
own was started, then the engine took the client or not. -/
theorem host_load (b : Bridge σ) (handler : Handler) (id : String) :
    (b.load handler id).2.board.site.host = (b.board.site.log
      ((b.server?.map Server.farewell).getD [] ++ .pipeStarted (b.config.namePrefix ++ id)
        :: b.loadedNotes (b.config.namePrefix ++ id))).host := by
  obtain ⟨-, hload⟩ := b.load_spec handler id
  obtain ⟨-, hsite⟩ := b.board_opened handler (b.config.namePrefix ++ id)
  rw [hload]
  have hhost {board : Switchboard} {host : Host} : (board.withHost host).site.host = host := rfl
  rw [hhost, hsite, b.site_shutdown]
  simp

omit [ScriptEngine σ] in
theorem pending_shutdown (b : Bridge σ) : b.shutdown.board.pending.Perm b.board.pending := by
  rcases b.board_shutdown with heq | ⟨id, heq⟩
  · rw [heq]
  · rw [heq]
    exact Switchboard.pending_shutdown b.board id

section

variable {b : Bridge σ} {now : Option (Handler × String)} {clients : List (String × LinkId)}

theorem registries_performAll (h : b.Single now clients) {deeds : List (Deed σ)}
    (hfair : ∀ d ∈ deeds, d.isFair = true) :
    (b.performAll deeds).board.site.host.registries
      = (b.enrolled deeds).foldl Registration.enter b.board.site.host.registries := by
  induction deeds generalizing b now clients with
  | nil => rfl
  | cons d deeds ih =>
    have hrest := ih (h.perform (hfair d List.mem_cons_self)) fun d' hd' =>
      hfair d' (List.mem_cons_of_mem d hd')
    rw [enrolled, List.foldl_append]
    refine hrest.trans (congrArg (List.foldl Registration.enter · _) ?_)
    cases d with
    | act a => exact registries_act h.upheld.sane a
    | load handler id =>
      rw [perform, host_load]
      rfl
    | engine e => rfl

end

/-- A bridge in the lobby that has no channel yet. -/
def foyer : Bridge RecordingEngine :=
  ⟨.default, ⟨0⟩, .fresh, Switchboard.lobby.withHost Switchboard.lobby.site.host.newRegistry.2,
    none⟩

end Bridge

end KeyBridge
