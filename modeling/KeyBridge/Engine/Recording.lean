-- SUMMARY: An engine that records what it is given and replays accepted code.
import KeyBridge.Engine.Basic
import KeyBridge.Engine.Replay

/-!
# The recording engine

A recording engine logs every piece of code and every call. Code that it accepts acts on its
variables and functions; when it rejects, code is logged and has no effect. Functions can be
given results by hand.
-/

namespace KeyBridge

structure RecordingEngine where
  executed : List String
  loaded : List (String × LoadOption)
  calls : List (String × List String)
  script : ScriptState
  /-- The results given by hand. -/
  results : Table String
  rejecting : Bool
  stopped : Bool

namespace RecordingEngine

def fresh : RecordingEngine := ⟨[], [], [], .empty, .empty, false, false⟩

def reject (e : RecordingEngine) (yes : Bool) : RecordingEngine := { e with rejecting := yes }

/-- Defines a function with a result. -/
def define (e : RecordingEngine) (name result : String) : RecordingEngine :=
  { e with script := e.script.define name, results := e.results.insert name result }

/-- Lets code act unless the engine rejects, and tells which. -/
def accept (e : RecordingEngine) (code : String) : Bool × RecordingEngine :=
  if e.rejecting then (false, e) else (true, { e with script := e.script.absorb code })

instance : ScriptEngine RecordingEngine where
  execute e code := { e with executed := e.executed ++ [code] }.accept code
  load e code option := { e with loaded := e.loaded ++ [(code, option)] }.accept code
  getVariable e name := (e.script.values.get? name).getD ""
  setVariable e name value :=
    if e.rejecting then (false, e) else (true, { e with script := e.script.assign name value })
  callFunction e name args :=
    ((e.results.get? name).getD "", { e with calls := e.calls ++ [(name, args)] })
  functionExists e name := e.script.functions.contains name
  isReady e := !e.stopped
  terminate e := (true, { e with stopped := true })
  reset e := (true, { e with stopped := false, script := .empty })

end RecordingEngine

end KeyBridge
