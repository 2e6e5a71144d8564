-- SUMMARY: What laying out a sequence does besides giving text.
import KeyBridge.Action.Header

/-!
# Effects

Laying out a sequence registers the callbacks of its hotkeys and leaves notes on what happened.
Which effects there are, and in which order, follows from the actions alone.
-/

namespace KeyBridge

/-- One effect of laying out a sequence. -/
inductive Effect where
  | register (header : String) (callback : Callback)
  /-- A hotkey is left out because its trigger has no label. -/
  | unresolved (trigger : Trigger)
  | letGo (key : Key)

def lettingGoEffects (keys : List Key) : List Effect :=
  (keys.filter fun k => k.label.isSome).map .letGo

def Binding.effects (b : Binding) (header : String) : List Effect :=
  match b.callback with
  | some callback => [.register header callback]
  | none => []

mutual

/-- The effects of laying out an action: a hotkey registers its callback before its body is laid
out. -/
def Action.effects : Action → List Effect
  | .raw _ => []
  | .key _ => []
  | .release _ => []
  | .hotkey b body =>
    match b.header? with
    | some header =>
      b.effects header ++ (actionsEffects body ++ lettingGoEffects (heldAfter body).keys)
    | none => [.unresolved b.trigger]

def actionsEffects : List Action → List Effect
  | [] => []
  | a :: rest => a.effects ++ actionsEffects rest

end

def sequenceEffects (actions : List Action) : List Effect :=
  actionsEffects actions ++ lettingGoEffects (heldAfter actions).keys

end KeyBridge
