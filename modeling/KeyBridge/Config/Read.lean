-- SUMMARY: Reading configurations from documents.
import KeyBridge.Config.Basic
import KeyBridge.Document.Record

/-!
# Reading configurations

Each kind of configuration is a record whose fields have the kinds of values that its options
need.
-/

namespace KeyBridge

open Document

/-- Why a configuration cannot be read: what it is for, and what is wrong with the document. -/
structure ConfigError where
  purpose : String
  cause : DocumentError
deriving DecidableEq, Repr

def ConfigError.message (e : ConfigError) : String :=
  "Invalid " ++ e.purpose ++ " config: " ++ e.cause.message

namespace GeneratorConfig

def record : RecordKind GeneratorConfig where
  name := "GeneratorConfig"
  fields := ["indent_width", "strict", "send_mode"]
  readField field c cs :=
    if field = "indent_width" then
      (readNumber cs).map fun r => ({ c with indentWidth := r.1 }, r.2)
    else if field = "strict" then
      (readBool cs).map fun r => ({ c with strict := r.1 }, r.2)
    else
      (readChoice "SendMode" (SendMode.all.map SendMode.name) SendMode.ofName? cs).map
        fun r => ({ c with sendMode := r.1 }, r.2)

def ofDocument (text : String) : Except ConfigError GeneratorConfig :=
  (readRecord (fun _ => record) GeneratorConfig.default text).mapError (⟨"generator", ·⟩)

end GeneratorConfig

namespace BridgeConfig

def record (implicit : Bool) : RecordKind BridgeConfig where
  name := "BridgeConfig"
  fields := ["pipe_prefix", "buffer_size", "client_var", "rebuild_backoff_ms", "runtime_dir"]
  readField field c cs :=
    if field = "pipe_prefix" then
      (readString cs).map fun r => ({ c with namePrefix := r.1 }, r.2)
    else if field = "buffer_size" then
      (readNumber cs).map fun r => ({ c with bufferSize := r.1 }, r.2)
    else if field = "client_var" then
      (readString cs).map fun r => ({ c with clientVariable := r.1 }, r.2)
    else if field = "rebuild_backoff_ms" then
      (readNumber cs).map fun r => ({ c with backoffMillis := r.1 }, r.2)
    else
      (readOption implicit readString cs).map fun r => ({ c with runtimeDir := r.1 }, r.2)

def ofDocument (text : String) : Except ConfigError BridgeConfig :=
  (readRecord record BridgeConfig.default text).mapError (⟨"bridge", ·⟩)

end BridgeConfig

end KeyBridge
