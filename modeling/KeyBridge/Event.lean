-- SUMMARY: The events that operations leave in the log.
import KeyBridge.Action.Shown
import KeyBridge.Engine.LoadOption
import KeyBridge.Server.State

/-!
# Events

An event is a note on something that happened. It has a level, a name and named fields, most of
which are text.
-/

namespace KeyBridge

/-! ## Events -/

inductive Event where
  /-- A callback was registered, in place of another one or not. -/
  | callbackRegistered (header : String) (replaced : Bool)
  | callbackMiss (message : String)
  /-- A key that was still held was let go. -/
  | autoRelease (key : Key)
  /-- A hotkey was left out. -/
  | hotkeyUnresolved (trigger : Trigger)
  | blockExecute (ok : Bool) (lines : Nat)
  | blockComplete (ok : Bool) (option : LoadOption) (lines : Nat)
  /-- A function was called with more arguments than engines take. -/
  | tooManyArguments (name : String) (got : Nat)
  | pipeStarted (name : String)
  | pipeShutdown (name : String)
  | pipeClientDisconnected (name : String)
  | pipeState (name : String) (prev next : ServerState)
  /-- A server that was shut down left its state. -/
  | pipeStateReset (name : String) (prev : ServerState)
  /-- A server lost its endpoint, or could not get one. -/
  | pipeRebuild (name : String) (error : String)
  | pipeHandlerFailed
  | bridgeLoaded (name : String)
  | clientInitRejected (name : String)
  | socketBound (path : String)
  | socketUnlinkFailed (path : String) (error : String)

inductive Level where
  | trace
  | debug
  | warn
deriving DecidableEq, Repr

inductive FieldValue where
  | text (s : String)
  | number (n : Nat)
  | flag (b : Bool)
deriving DecidableEq, Repr

/-! ## Levels, names and fields -/

def Level.name : Level → String
  | .trace => "TRACE"
  | .debug => "DEBUG"
  | .warn => "WARN"

namespace Event

def level : Event → Level
  | .callbackRegistered .. => .trace
  | .callbackMiss .. => .trace
  | .autoRelease .. => .trace
  | .tooManyArguments .. => .warn
  | .pipeRebuild .. => .warn
  | .pipeHandlerFailed => .warn
  | .clientInitRejected .. => .warn
  | .socketUnlinkFailed .. => .warn
  | _ => .debug

def name : Event → String
  | .callbackRegistered .. => "callback_registered"
  | .callbackMiss .. => "callback_miss"
  | .autoRelease .. => "auto_release"
  | .hotkeyUnresolved .. => "hotkey_unresolved"
  | .blockExecute .. => "block_execute"
  | .blockComplete .. => "block_complete"
  | .tooManyArguments .. => "call_too_many_args"
  | .pipeStarted .. => "pipe_started"
  | .pipeShutdown .. => "pipe_shutdown"
  | .pipeClientDisconnected .. => "pipe_client_disconnected"
  | .pipeState .. => "pipe_state"
  | .pipeStateReset .. => "pipe_state_reset"
  | .pipeRebuild .. => "pipe_rebuild"
  | .pipeHandlerFailed => "pipe_handler_failed"
  | .bridgeLoaded .. => "bridge_loaded"
  | .clientInitRejected .. => "client_init_rejected"
  | .socketBound .. => "socket_bound"
  | .socketUnlinkFailed .. => "socket_unlink_failed"

def fields : Event → List (String × FieldValue)
  | .callbackRegistered header replaced => [("header", .text header), ("replaced", .flag replaced)]
  | .callbackMiss message => [("message", .text message)]
  | .autoRelease key => [("key", .text key.name)]
  | .hotkeyUnresolved trigger => [("trigger", .text trigger.shown)]
  | .blockExecute ok lines => [("lines", .number lines), ("ok", .flag ok)]
  | .blockComplete ok option lines =>
    [("lines", .number lines), ("ok", .flag ok), ("option", .text option.name)]
  | .tooManyArguments name got => [("got", .number got), ("name", .text name)]
  | .pipeStarted name => [("name", .text name)]
  | .pipeShutdown name => [("name", .text name)]
  | .pipeClientDisconnected name => [("name", .text name)]
  | .pipeState name prev next =>
    [("name", .text name), ("next", .text next.name), ("prev", .text prev.name)]
  | .pipeStateReset name prev => [("name", .text name), ("prev", .text prev.name)]
  | .pipeRebuild name error => [("error", .text error), ("name", .text name)]
  | .pipeHandlerFailed => []
  | .bridgeLoaded name => [("name", .text name)]
  | .clientInitRejected name => [("name", .text name)]
  | .socketBound path => [("path", .text path)]
  | .socketUnlinkFailed path error => [("error", .text error), ("path", .text path)]

end Event

end KeyBridge
