-- SUMMARY: What may happen to a bridge and around it, and what holds of it at every moment.
import KeyBridge.Bridge
import KeyBridge.Proofs.Passages
import KeyBridge.Proofs.Registrations

/-!
# Histories of bridges

A bridge lays out hotkeys, opens channels and closes them, while anything may happen on its
switchboard. At every moment the live channel is served by the bridge's registry (`Wired`), and the
registry holds what was registered last under each header (`registry_run`).
-/

namespace KeyBridge

/-- The switchboard with another host. -/
def Switchboard.withHost (b : Switchboard) (h : Host) : Switchboard :=
  { b with site := b.site.withHost h }

/-- The registration that laying out a sequence makes. -/
def Effect.registration? (into : RegistryId) : Effect → Option Registration
  | .register header callback => some ⟨into, header, callback⟩
  | _ => none

theorem Host.registries_performAll (h : Host) (id : RegistryId) (effects : List Effect) :
    (h.performAll id effects).registries
      = (effects.filterMap (Effect.registration? id)).foldl Registration.enter h.registries := by
  induction effects generalizing h with
  | nil => rfl
  | cons e effects ih =>
    cases e with
    | register header callback => exact ih (h.register id header callback).2
    | unresolved trigger => exact ih (h.note (.hotkeyUnresolved trigger))
    | letGo key => exact ih (h.note (.autoRelease key))

theorem Switchboard.Tidy.withHost {b : Switchboard} (h : b.Tidy) (host : Host) :
    (b.withHost host).Tidy :=
  ⟨h.directory, h.sound, h.socketless, h.abandoned, h.owned, h.held, h.known, h.claimed, h.called,
    h.outdated⟩

theorem Switchboard.Sane.withHost {b : Switchboard} (h : b.Sane) (host : Host) :
    (b.withHost host).Sane :=
  ⟨h.tidy.withHost host, h.readable⟩

namespace Bridge

variable {σ : Type}

/-! ## New bridges -/

/-- A new bridge has no channel yet, and a registry that the host has just made for it. -/
theorem create_spec {b : Bridge σ} {config : BridgeConfig} {engine : σ} {board : Switchboard}
    (hcreate : create config engine (some board) = .ok b) :
    b.config = config ∧ b.live = none ∧ b.registry = ⟨board.site.host.registries.length⟩
      ∧ b.board = board.withHost board.site.host.newRegistry.2 := by
  cases hcreate
  exact ⟨rfl, rfl, rfl, rfl⟩

/-! ## Channels -/

@[simp] theorem config_shutdown (b : Bridge σ) : b.shutdown.config = b.config := by
  unfold shutdown
  split <;> rfl

@[simp] theorem registry_shutdown (b : Bridge σ) : b.shutdown.registry = b.registry := by
  unfold shutdown
  split <;> rfl

theorem live_shutdown (b : Bridge σ) : b.shutdown.live = none := by
  unfold shutdown
  split
  · rfl
  · assumption

/-- The channel that is shut down is a server of the board. -/
theorem board_shutdown (b : Bridge σ) :
    b.shutdown.board = b.board ∨ ∃ id, b.shutdown.board = b.board.act (.shutdown id) := by
  unfold shutdown
  split
  · rename_i id _
    exact .inr ⟨id, rfl⟩
  · exact .inl rfl

/-- The server of the channel that is opened next. -/
def nextServer (b : Bridge σ) : ServerId := ⟨b.shutdown.board.servers.length⟩

/-- The act that adds the server of a channel. -/
def channelAct (b : Bridge σ) (id : String) : Switchboard.Act :=
  .add (b.config.namePrefix ++ id) (.registry b.registry) b.config.bufferSize
    b.config.backoffMillis

/-- The board after the old channel is shut down and a new one is opened. -/
def reopened (b : Bridge σ) (id : String) : Switchboard :=
  (b.shutdown.board.act (b.channelAct id)).act (.start b.nextServer)

section

variable {b : Bridge σ}

theorem sane_shutdown (h : b.board.Sane) : b.shutdown.board.Sane := by
  rcases b.board_shutdown with heq | ⟨id, heq⟩
  · rw [heq]
    exact h
  · rw [heq]
    exact h.act _

theorem sane_reopened (h : b.board.Sane) (id : String) : (b.reopened id).Sane :=
  ((sane_shutdown h).act _).act _

theorem registries_shutdown (h : b.board.Sane) :
    b.shutdown.board.site.host.registries = b.board.site.host.registries := by
  rcases b.board_shutdown with heq | ⟨id, heq⟩
  · rw [heq]
  · rw [heq, Switchboard.registries_act h.tidy]
    rfl

/-- Opening a channel registers nothing. -/
theorem registries_reopened (h : b.board.Sane) (id : String) :
    (b.reopened id).site.host.registries = b.board.site.host.registries := by
  have hshut := sane_shutdown h
  rw [reopened, Switchboard.registries_act (hshut.act _).tidy, Switchboard.registries_act hshut.tidy]
  exact registries_shutdown h

/-- The server of a channel stays as it was made, whatever happens on the board. -/
theorem served_act {board : Switchboard} (h : board.Sane) {id : ServerId} {handler : Handler}
    {buffer : Nat} (hs : ∃ s, board.server? id = some s ∧ s.handler = handler ∧ s.buffer = buffer)
    (a : Switchboard.Act) :
    ∃ s, (board.act a).server? id = some s ∧ s.handler = handler ∧ s.buffer = buffer := by
  obtain ⟨s, hs, rfl, rfl⟩ := hs
  obtain ⟨s', hs', hprofile⟩ := (Switchboard.change_act h.tidy a).server hs
  exact ⟨s', hs', congrArg (·.2.1) hprofile, congrArg (·.2.2.1) hprofile⟩

theorem served_reopened (h : b.board.Sane) (id : String) :
    ∃ s, (b.reopened id).server? b.nextServer = some s ∧ s.handler = .registry b.registry
      ∧ s.buffer = max b.config.bufferSize Server.minBuffer := by
  refine served_act ((sane_shutdown h).act _) ?_ _
  refine ⟨Server.create (b.config.namePrefix ++ id) (.registry b.registry) b.config.bufferSize
    b.config.backoffMillis, ?_, rfl, rfl⟩
  exact List.getElem?_concat_length

end

/-! ## Acts -/

/-- One thing that happens to a bridge or around it. -/
inductive Act where
  /-- Something happens on the switchboard: to servers, clients, connections or registries. -/
  | board (a : Switchboard.Act)
  /-- A channel is opened on which the bridge's callbacks answer. -/
  | loadRegistry (id : String)
  | shutdown
  /-- A generator of the bridge lays out a sequence of actions at a level. -/
  | generate (config : GeneratorConfig) (actions : List Action) (level : Nat)

variable [ScriptEngine σ]

/-- The bridge after an act. -/
def act (b : Bridge σ) : Act → Bridge σ
  | .board a => { b with board := b.board.act a }
  | .loadRegistry id => (b.loadRegistry id).2
  | .shutdown => b.shutdown
  | .generate config actions level =>
    { b with
      board := b.board.withHost
        ((b.generator config).generate actions level b.board.site.host).2 }

/-- The bridge after a history. -/
def run (b : Bridge σ) (acts : List Act) : Bridge σ := acts.foldl act b

/-- The callbacks that are registered in an act. -/
def registrations (b : Bridge σ) : Act → List Registration
  | .board a => b.board.registrations a
  | .generate _ actions _ => (sequenceEffects actions).filterMap (Effect.registration? b.registry)
  | _ => []

/-- The callbacks that are registered in a history, in their order. -/
def log (b : Bridge σ) : List Act → List Registration
  | [] => []
  | a :: acts => b.registrations a ++ log (b.act a) acts

/-- What happens on connections in an act. -/
def observe (b : Bridge σ) : Act → List Incident
  | .board a => b.board.observe a
  | _ => []

/-- What happens on connections in a history. -/
def story (b : Bridge σ) : List Act → List Incident
  | [] => []
  | a :: acts => b.observe a ++ story (b.act a) acts

@[simp] theorem run_cons (b : Bridge σ) (a : Act) (acts : List Act) :
    b.run (a :: acts) = (b.act a).run acts := rfl

theorem run_append (b : Bridge σ) (acts more : List Act) :
    b.run (acts ++ more) = (b.run acts).run more := List.foldl_append

theorem log_append (b : Bridge σ) (acts more : List Act) :
    b.log (acts ++ more) = b.log acts ++ (b.run acts).log more := by
  induction acts generalizing b with
  | nil => rfl
  | cons a acts ih => simp [log, ih]

/-- Whether the engine refuses the client or not, the channel is opened; the rest are notes. -/
theorem loadRegistry_spec (b : Bridge σ) (id : String) :
    (∃ h : Host, h.registries = (b.reopened id).site.host.registries
        ∧ (b.loadRegistry id).2.board = (b.reopened id).withHost h)
      ∧ (b.loadRegistry id).2.live = some b.nextServer
      ∧ (b.loadRegistry id).2.config = b.config ∧ (b.loadRegistry id).2.registry = b.registry := by
  have hopened : b.openChannel (b.config.namePrefix ++ id) (.registry b.registry)
      = { b.shutdown with
          board := (b.reopened id).withHost
            ((b.reopened id).site.host.note (.bridgeLoaded (b.config.namePrefix ++ id)))
          live := some b.nextServer } := by
    simp only [openChannel, reopened, nextServer, channelAct, Switchboard.act, config_shutdown]
    rfl
  rw [loadRegistry, load, installClient, hopened]
  dsimp only
  have hconfig := config_shutdown b
  have hregistry := registry_shutdown b
  split
  · exact ⟨⟨(b.reopened id).site.host.note (.bridgeLoaded (b.config.namePrefix ++ id)), rfl, rfl⟩,
      rfl, hconfig, hregistry⟩
  · exact ⟨⟨((b.reopened id).site.host.note (.bridgeLoaded (b.config.namePrefix ++ id))).note
        (.clientInitRejected (b.config.namePrefix ++ id)), rfl, rfl⟩,
      rfl, hconfig, hregistry⟩

@[simp] theorem config_act (b : Bridge σ) (a : Act) : (b.act a).config = b.config := by
  cases a with
  | board a => rfl
  | loadRegistry id =>
    obtain ⟨-, -, hconfig, -⟩ := b.loadRegistry_spec id
    exact hconfig
  | shutdown => exact config_shutdown b
  | generate config actions level => rfl

@[simp] theorem registry_act (b : Bridge σ) (a : Act) : (b.act a).registry = b.registry := by
  cases a with
  | board a => rfl
  | loadRegistry id =>
    obtain ⟨-, -, -, hregistry⟩ := b.loadRegistry_spec id
    exact hregistry
  | shutdown => exact registry_shutdown b
  | generate config actions level => rfl

theorem config_run (b : Bridge σ) (acts : List Act) : (b.run acts).config = b.config := by
  induction acts generalizing b with
  | nil => rfl
  | cons a acts ih => rw [run_cons, ih, config_act]

theorem registry_id_run (b : Bridge σ) (acts : List Act) : (b.run acts).registry = b.registry := by
  induction acts generalizing b with
  | nil => rfl
  | cons a acts ih => rw [run_cons, ih, registry_act]

/-! ## Registries -/

section

variable {b : Bridge σ}

theorem sane_act (h : b.board.Sane) (a : Act) : (b.act a).board.Sane := by
  cases a with
  | board a => exact h.act a
  | loadRegistry id =>
    obtain ⟨⟨host, -, hboard⟩, -⟩ := b.loadRegistry_spec id
    rw [act, hboard]
    exact (sane_reopened h id).withHost host
  | shutdown => exact sane_shutdown h
  | generate config actions level => exact h.withHost _

theorem registries_act (h : b.board.Sane) (a : Act) :
    (b.act a).board.site.host.registries
      = (b.registrations a).foldl Registration.enter b.board.site.host.registries := by
  cases a with
  | board a => exact Switchboard.registries_act h.tidy a
  | loadRegistry id =>
    obtain ⟨⟨host, hsame, hboard⟩, -⟩ := b.loadRegistry_spec id
    have hregistries := hsame.trans (registries_reopened h id)
    rw [act, hboard]
    exact hregistries
  | shutdown => exact registries_shutdown h
  | generate config actions level => exact Host.registries_performAll _ _ _

theorem registries_run (h : b.board.Sane) (acts : List Act) :
    (b.run acts).board.site.host.registries
      = (b.log acts).foldl Registration.enter b.board.site.host.registries := by
  induction acts generalizing b with
  | nil => rfl
  | cons a acts ih => rw [run_cons, ih (sane_act h a), log, List.foldl_append, registries_act h]

/-! ## The live channel -/

/-- The board is sane, the bridge has a registry, and its live channel is served by it. -/
structure Wired (b : Bridge σ) : Prop where
  sane : b.board.Sane
  registry : b.registry.index < b.board.site.host.registries.length
  live : ∀ id, b.live = some id → ∃ s, b.board.server? id = some s
    ∧ s.handler = .registry b.registry ∧ s.buffer = max b.config.bufferSize Server.minBuffer

theorem Wired.act (h : b.Wired) (a : Act) : (b.act a).Wired where
  sane := sane_act h.sane a
  registry := by
    rw [registry_act, registries_act h.sane, Registration.length_foldl_enter]
    exact h.registry
  live id hlive := by
    rw [registry_act, config_act]
    cases a with
    | board a => exact served_act h.sane (h.live id hlive) a
    | loadRegistry name =>
      obtain ⟨⟨host, -, hboard⟩, hnext, -⟩ := b.loadRegistry_spec name
      rw [Bridge.act, hnext] at hlive
      cases hlive
      rw [Bridge.act, hboard]
      exact served_reopened h.sane name
    | shutdown =>
      rw [Bridge.act, live_shutdown] at hlive
      cases hlive
    | generate config actions level => exact h.live id hlive

theorem Wired.run (h : b.Wired) (acts : List Act) : (b.run acts).Wired := by
  induction acts generalizing b with
  | nil => exact h
  | cons a acts ih => exact ih (h.act a)

/-! ## Runs from a new bridge -/

variable {config : BridgeConfig} {engine : σ} {board : Switchboard}

omit [ScriptEngine σ] in
theorem wired_create (hcreate : create config engine (some board) = .ok b) (h : board.Sane) :
    b.Wired := by
  obtain ⟨-, hlive, hregistry, hboard⟩ := create_spec hcreate
  refine ⟨by rw [hboard]; exact h.withHost _, ?_, by simp [hlive]⟩
  rw [hregistry, hboard]
  simp [Switchboard.withHost, Host.newRegistry]

/-- The registry of a bridge holds what was registered last, since it was empty at first. -/
theorem registry_run (hcreate : create config engine (some board) = .ok b) (h : board.Sane)
    (acts : List Act) (header : String) :
    ((b.run acts).board.site.host.registry b.registry).get? header
      = Registration.last? (b.log acts) b.registry header := by
  have hwired := wired_create hcreate h
  obtain ⟨-, -, hregistry, hboard⟩ := create_spec hcreate
  have hempty : b.board.site.host.registries.getD b.registry.index Table.empty = Table.empty := by
    rw [hregistry, hboard]
    simp [Switchboard.withHost, Host.newRegistry, List.getD_eq_getElem?_getD]
  rw [Host.registry, registries_run hwired.sane, Registration.get?_foldl_enter _ hwired.registry,
    hempty, Table.get?_empty, Option.or_none]

end

end Bridge

end KeyBridge
