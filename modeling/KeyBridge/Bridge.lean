-- SUMMARY: Bridges: one live channel between a script and its host.
import KeyBridge.Client
import KeyBridge.Generator
import KeyBridge.Server.Switchboard

/-!
# Bridges

A bridge connects the script of an engine with the host. It holds at most one live channel: loading
opens a new one, shuts the old one down and makes the script its client. The callbacks in the
bridge's registry outlive all channels. Time is in milliseconds.
-/

namespace KeyBridge

/-! ## Bridges -/

/-- A bridge over an engine whose states have type `σ`. -/
structure Bridge (σ : Type) where
  config : BridgeConfig
  registry : RegistryId
  engine : σ
  board : Switchboard
  /-- The server of the live channel. -/
  live : Option ServerId

/-- Why an operation of a bridge fails. -/
inductive BridgeError where
  /-- There is no switchboard to run servers. -/
  | noRuntime
  | clientRefused (code : String)
deriving DecidableEq, Repr

namespace BridgeError

def kind : BridgeError → String
  | .noRuntime => "NoRuntime"
  | .clientRefused _ => "ClientInit"

def message : BridgeError → String
  | .noRuntime => "Bridge requires a Tokio runtime"
  | .clientRefused code => "Unable to initialize pipe client:\n" ++ code

end BridgeError

namespace Bridge

variable {σ : Type}

/-- A bridge without a channel, with a registry of its own. -/
def create (config : BridgeConfig) (engine : σ) (board : Option Switchboard) :
    Except BridgeError (Bridge σ) :=
  match board with
  | none => .error .noRuntime
  | some b =>
    let (id, host) := b.site.host.newRegistry
    .ok ⟨config, id, engine, { b with site := { b.site with host := host } }, none⟩

def note (b : Bridge σ) (e : Event) : Bridge σ :=
  { b with board := { b.board with site := b.board.site.note e } }

/-- A generator that registers callbacks with the bridge. -/
def generator (b : Bridge σ) (config : GeneratorConfig) : Generator := ⟨config, b.registry⟩

/-! ## The live channel -/

def server? (b : Bridge σ) : Option Server := b.live.bind b.board.server?

def channel? (b : Bridge σ) : Option String := b.server?.map Server.name

def state? (b : Bridge σ) : Option ServerState := b.server?.map Server.state

/-- The state of the live channel; without one the bridge is idle. -/
def state (b : Bridge σ) : ServerState := b.state?.getD .idle

def shown (b : Bridge σ) : String :=
  shownRecord "Bridge"
    [("config", b.config.shown),
      ("registry", shownRegistry (b.board.site.host.registry b.registry)),
      ("server", shownOption (b.server?.map Server.shown))]

/-! ## Opening and closing channels -/

def shutdown (b : Bridge σ) : Bridge σ :=
  match b.live with
  | some id => { b with board := b.board.shutdown id, live := none }
  | none => b

/-- Replaces the live channel by a new one. -/
def openChannel (b : Bridge σ) (name : String) (handler : Handler) : Bridge σ :=
  let b := b.shutdown
  let (id, board) :=
    b.board.add (Server.create name handler b.config.bufferSize b.config.backoffMillis)
  { b with board := board.start id, live := some id }.note (.bridgeLoaded name)

/-- Gives the engine the code that makes the script the client of a channel. -/
def installClient [ScriptEngine σ] (b : Bridge σ) (name : String) :
    Except BridgeError String × Bridge σ :=
  let code := Client.setUpFor b.engine b.config name
  let (accepted, engine) := ScriptEngine.load b.engine code .run
  let b := { b with engine := engine }
  if accepted then (.ok name, b)
  else (.error (.clientRefused code), b.note (.clientInitRejected name))

/-- Opens a channel whose name ends with `id` and makes the script its client. The channel stays
open if the engine refuses. -/
def load [ScriptEngine σ] (b : Bridge σ) (handler : Handler) (id : String) :
    Except BridgeError String × Bridge σ :=
  let name := b.config.namePrefix ++ id
  (b.openChannel name handler).installClient name

/-- Opens a channel on which the bridge's callbacks answer. -/
def loadRegistry [ScriptEngine σ] (b : Bridge σ) (id : String) :
    Except BridgeError String × Bridge σ :=
  b.load (.registry b.registry) id

end Bridge

end KeyBridge
