-- SUMMARY: Calls of script functions that respect the number of arguments engines take.
import KeyBridge.Callback.Host
import KeyBridge.Config.Basic
import KeyBridge.Engine.Basic

/-!
# Checked calls

Engines take a limited number of arguments. A checked call with more of them is refused by a
strict configuration; otherwise it goes through and leaves a warning.
-/

namespace KeyBridge

inductive CallError where
  | tooManyArguments (got : Nat)
deriving DecidableEq, Repr

namespace ScriptEngine

def maxArguments : Nat := 10

variable {σ : Type} [ScriptEngine σ]

/-- Calls a function unless the call has too many arguments and the configuration is strict. -/
def callChecked (config : GeneratorConfig) (e : σ) (name : String) (args : List String)
    (h : Host) : Except CallError String × σ × Host :=
  let tooMany := maxArguments < args.length
  if tooMany ∧ config.strict then (.error (.tooManyArguments args.length), e, h)
  else
    let h := if tooMany then h.note (.tooManyArguments name args.length) else h
    let (result, e) := callFunction e name args
    (.ok result, e, h)

end ScriptEngine

def CallError.message : CallError → String
  | .tooManyArguments got =>
    "Expected at most " ++ toString ScriptEngine.maxArguments ++ " parameters, got " ++ toString got

end KeyBridge
