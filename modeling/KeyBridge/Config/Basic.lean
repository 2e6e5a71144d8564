-- SUMMARY: The options of generators and of bridges.
import KeyBridge.Action.Shown
import KeyBridge.Duration
import KeyBridge.Script.SendMode

/-!
# Configurations

A generator has options for its layout, a bridge for its channels. Each option has a default.
Configurations are written to documents in compact form, all fields in order.
-/

namespace KeyBridge

/-! ## Generators -/

structure GeneratorConfig where
  /-- The spaces of one level. -/
  indentWidth : Nat := 4
  /-- Whether doubtful calls are errors. -/
  strict : Bool := true
  /-- The send mode that hotkeys start with. -/
  sendMode : SendMode := .default
deriving DecidableEq, Repr

namespace GeneratorConfig

protected def default : GeneratorConfig := {}

def document (c : GeneratorConfig) : String :=
  "(indent_width:" ++ toString c.indentWidth ++ ",strict:" ++ shownBool c.strict
    ++ ",send_mode:" ++ c.sendMode.name ++ ")"

def shown (c : GeneratorConfig) : String :=
  shownRecord "GeneratorConfig"
    [("indent_width", toString c.indentWidth), ("strict", shownBool c.strict),
      ("send_mode", c.sendMode.name)]

end GeneratorConfig

/-! ## Bridges -/

structure BridgeConfig where
  /-- What the names of channels start with. -/
  namePrefix : String := "AHK-PIPE-"
  /-- The most bytes that one read takes. -/
  bufferSize : Nat := 65535
  /-- The script variable that holds the client. -/
  clientVariable : String := "A__PIPECLIENT"
  /-- How long a server waits after a failure, in milliseconds. -/
  backoffMillis : Nat := 50
  /-- The directory of socket files; none means the user's own. -/
  runtimeDir : Option String := none
deriving DecidableEq, Repr

namespace BridgeConfig

protected def default : BridgeConfig := {}

def backoff (c : BridgeConfig) : Duration := .ofMillis c.backoffMillis

def document (c : BridgeConfig) : String :=
  "(pipe_prefix:" ++ Text.shownInDocument c.namePrefix
    ++ ",buffer_size:" ++ toString c.bufferSize
    ++ ",client_var:" ++ Text.shownInDocument c.clientVariable
    ++ ",rebuild_backoff_ms:" ++ toString c.backoffMillis
    ++ ",runtime_dir:" ++ shownOption (c.runtimeDir.map Text.shownInDocument) ++ ")"

def shown (c : BridgeConfig) : String :=
  shownRecord "BridgeConfig"
    [("pipe_prefix", Text.shown c.namePrefix), ("buffer_size", toString c.bufferSize),
      ("client_var", Text.shown c.clientVariable),
      ("rebuild_backoff_ms", toString c.backoffMillis),
      ("runtime_dir", shownOption (c.runtimeDir.map Text.shown))]

end BridgeConfig

end KeyBridge
