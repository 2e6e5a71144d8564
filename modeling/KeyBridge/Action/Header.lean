-- SUMMARY: Hotkey headers and the calls that announce them to the host.
import KeyBridge.Action.Basic
import KeyBridge.Text.Literal

/-!
# Headers

A hotkey's header is its modifiers' symbols, the labels of its trigger and a mark if it fires when
the trigger goes up. Under this text its callback is registered, and this text is what the script
sends to the host when the hotkey fires.
-/

namespace KeyBridge

/-! ## Headers -/

namespace Trigger

/-- The labels of a trigger; none if one of its keys has no label. -/
def text? : Trigger → Option String
  | .key k => k.label
  | .combo left right =>
    match left.label, right.label with
    | some l, some r => some (l ++ " & " ++ r)
    | _, _ => none

/-- Whether a modifier is left out because it is itself a key of the pair that fires the hotkey. -/
def uses (k : Key) : Trigger → Bool
  | .key _ => false
  | .combo left right => k = left || k = right

end Trigger

namespace Binding

/-- The modifiers that count: modifier keys that are not part of the pair. -/
def effectiveModifiers (b : Binding) : List Key :=
  b.modifiers.keys.filter fun k => k.isModifier && !b.trigger.uses k

def modifierText (b : Binding) : String :=
  String.join (b.effectiveModifiers.filterMap Key.modifierSymbol)

/-- The mark of hotkeys that fire when the trigger goes up. -/
def upMark : Direction → String
  | .up => " UP"
  | _ => ""

/-- The header; none if a key of the trigger has no label. -/
def header? (b : Binding) : Option String :=
  b.trigger.text?.map fun keys => b.modifierText ++ keys ++ upMark b.direction

end Binding

/-! ## Invocations -/

/-- The script function that sends a message to the host and returns the reply. -/
def sendFunction : String := "SendPipeMessage"

namespace Binding

/-- The statement that sends the header to the host, as it stands at a placement: nothing without
a callback and at the other placement. -/
def invocation? (b : Binding) (header : String) (here : Placement) : Option String :=
  if b.callback.isNone || b.placement ≠ here then none
  else
    (Text.quote header).map fun literal =>
      let call := Statement.call sendFunction [literal]
      match b.capture with
      | some name => Statement.assign name call
      | none => call

end Binding

end KeyBridge
