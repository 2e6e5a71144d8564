-- SUMMARY: How code is added to a running script.
/-!
# Load options

Code that is added to a running script can be left alone, run, or run with the caller waiting.
-/

namespace KeyBridge

/-- How code that is added to a script is treated. -/
inductive LoadOption where
  | add
  | run
  | runWait
deriving DecidableEq, Repr

namespace LoadOption

/-- Added code is run unless said otherwise. -/
protected def default : LoadOption := .run

def name : LoadOption → String
  | .add => "Add"
  | .run => "Run"
  | .runWait => "RunWait"

/-- The number that engines take for an option. -/
def flag : LoadOption → Nat
  | .add => 0
  | .run => 1
  | .runWait => 2

end LoadOption

end KeyBridge
