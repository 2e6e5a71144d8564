-- SUMMARY: Filter specifications for logs.
import KeyBridge.Key.Spelling
import KeyBridge.Text.Blank

/-!
# Log filters

A filter specification lists targets and the level from which on their events are logged. It is
chosen by the first of these that applies: an explicit specification, the switches for the two
finest levels, a level by name, the environment, and the level `info`.
-/

namespace KeyBridge.Logging

/-- The targets of this program's own events. -/
def ownTargets : List String := ["ahk_keycode", "ahk_script", "ahk_bridge", "logging"]

/-- The specification that sets one level for all own targets. -/
def levelSpec (level : String) : String :=
  String.intercalate "," (ownTargets.map fun target => target ++ "=" ++ lowered level)

structure Request where
  trace : Bool := false
  debug : Bool := false
  level : Option String := none
  filter : Option String := none
deriving DecidableEq, Repr

/-- The specification for a request; `environment` is what the environment asks for, which does
not count if it is blank. -/
def Request.spec (r : Request) (environment : Option String) : String :=
  match r.filter, r.level with
  | some filter, _ => filter
  | none, level =>
    if r.trace then levelSpec "trace"
    else if r.debug then levelSpec "debug"
    else
      match level, environment with
      | some level, _ => levelSpec level
      | none, some spec => if Text.isBlankText spec then levelSpec "info" else spec
      | none, none => levelSpec "info"

/-- Whether setting up logging takes effect: only if it has not been set up before. -/
def takesEffect (alreadySetUp : Bool) : Bool := !alreadySetUp

end KeyBridge.Logging
