-- SUMMARY: Script engines and the operations that every engine has.
import KeyBridge.Engine.LoadOption

/-!
# Script engines

An engine runs script code and keeps script variables. Five operations are required of it; the
others have defaults for engines that lack them. Evaluating an expression, assigning several
variables and suspending hotkeys are built from these.
-/

namespace KeyBridge

/-! ## Engines -/

class ScriptEngine (σ : Type) where
  /-- Runs code at once, and tells whether it was accepted. -/
  execute : σ → String → Bool × σ
  /-- Adds code to the script, and tells whether it was accepted. -/
  load : σ → String → LoadOption → Bool × σ
  /-- The value of a variable; empty if it has none. -/
  getVariable : σ → String → String
  setVariable : σ → String → String → Bool × σ
  callFunction : σ → String → List String → String × σ
  functionExists : σ → String → Bool := fun _ _ => false
  isReady : σ → Bool := fun _ => true
  /-- Stops the script, if the engine can. -/
  terminate : σ → Bool × σ := fun e => (false, e)
  /-- Starts the script over, if the engine can. -/
  reset : σ → Bool × σ := fun e => (false, e)

namespace ScriptEngine

variable {σ : Type} [ScriptEngine σ]

/-! ## Conveniences -/

/-- The variable that carries the results of evaluations. -/
def evalVariable : String := "A__EVAL"

/-- Evaluates an expression; the result is empty if the engine refuses it. -/
def evaluate (e : σ) (expression : String) : String × σ :=
  let (ok, e) := execute e (evalVariable ++ ":=" ++ expression)
  (if ok then getVariable e evalVariable else "", e)

def setVariables (e : σ) : List (String × String) → List (String × Bool) × σ
  | [] => ([], e)
  | (name, value) :: rest =>
    let (ok, e) := setVariable e name value
    let (oks, e) := setVariables e rest
    ((name, ok) :: oks, e)

def suspend (e : σ) : Bool × σ := execute e "Suspend, On"

def unsuspend (e : σ) : Bool × σ := execute e "Suspend, Off"

end ScriptEngine

end KeyBridge
