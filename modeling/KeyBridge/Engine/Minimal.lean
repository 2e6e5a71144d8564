-- SUMMARY: The smallest engine: it has the required operations only.
import KeyBridge.Engine.Basic

/-!
# The minimal engine

A minimal engine has no state. It accepts all code and all names that are not empty, and shows
what the other operations do where an engine does not define them.
-/

namespace KeyBridge

structure MinimalEngine where

instance : ScriptEngine MinimalEngine where
  execute e code := (!code.isEmpty, e)
  load e code _ := (!code.isEmpty, e)
  getVariable _ name := "<" ++ name ++ ">"
  setVariable e name _ := (!name.isEmpty, e)
  callFunction e name args := (name ++ "/" ++ toString args.length, e)

end KeyBridge
