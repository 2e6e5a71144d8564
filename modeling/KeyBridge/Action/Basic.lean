-- SUMMARY: Actions, hotkeys and the bindings that hotkeys consist of.
import KeyBridge.Action.Held
import KeyBridge.Callback.Script
import KeyBridge.Text.Blank

/-!
# Actions and hotkeys

A sequence of actions makes up a piece of script. An action is text as it stands, a key action, a
release or the definition of a hotkey. A hotkey has a *binding*, which says what fires it and how
it tells the host, and a *body*, which is a sequence of actions again.
-/

namespace KeyBridge

/-! ## Bindings -/

/-- What fires a hotkey. -/
inductive Trigger where
  | key (key : Key)
  /-- A pair of keys: the left one is held while the right one is pressed. -/
  | combo (left right : Key)
deriving DecidableEq, Repr

/-- Where the call to the host stands in a hotkey's body. -/
inductive Placement where
  | start
  | last
deriving DecidableEq, Repr

protected def Placement.default : Placement := .start

def Placement.name : Placement → String
  | .start => "Start"
  | .last => "End"

/-- Everything about a hotkey but its body. -/
structure Binding where
  trigger : Trigger
  modifiers : KeySet
  /-- Whether the native event of the trigger is blocked. -/
  blocking : Bool
  sendMode : SendMode
  direction : Direction
  callback : Option Callback
  placement : Placement
  /-- The variable that gets the callback's reply. -/
  capture : Option String

/-! ## Actions -/

inductive Action where
  | raw (code : String)
  | key (action : KeyAction)
  /-- Keys that need not be let go at the end. -/
  | release (release : Release)
  | hotkey (binding : Binding) (body : List Action)

namespace Action

def sleep (d : Duration) : Action := .raw (Statement.sleep d)

/-- Repeated clicks of a mouse button; nothing for other keys. -/
def click (k : Key) (amount : Nat) : Action := .raw (Statement.clickTimes (some k) amount)

end Action

def KeySet.afterAction (held : KeySet) : Action → KeySet
  | .raw _ => held
  | .key a => held.afterKey a
  | .release r => held.afterRelease r
  | .hotkey _ _ => held

/-- The keys that a sequence of actions has put down and not let go, in the order in which they
went down. What nested hotkeys hold does not count. -/
def heldAfter (actions : List Action) : KeySet := actions.foldl KeySet.afterAction KeySet.empty

/-! ## Hotkeys -/

structure Hotkey extends Binding where
  body : List Action

inductive HotkeyError where
  | blankVariable
deriving DecidableEq, Repr

def HotkeyError.message : HotkeyError → String
  | .blankVariable => "Pipe variable name cannot be empty or whitespace"

namespace Hotkey

def ofTrigger (t : Trigger) (modifiers : List Key) : Hotkey where
  trigger := t
  modifiers := KeySet.ofList modifiers
  blocking := false
  sendMode := .default
  direction := .default
  callback := none
  placement := .default
  capture := none
  body := []

def toAction (h : Hotkey) : Action := .hotkey h.toBinding h.body

def withTrigger (h : Hotkey) (t : Trigger) : Hotkey := { h with trigger := t }

def withModifiers (h : Hotkey) (ks : List Key) : Hotkey := { h with modifiers := KeySet.ofList ks }

def block (h : Hotkey) (yes : Bool) : Hotkey := { h with blocking := yes }

def withSendMode (h : Hotkey) (mode : SendMode) : Hotkey := { h with sendMode := mode }

/-- Replaces the direction; the callback stays. -/
def withDirection (h : Hotkey) (d : Direction) : Hotkey := { h with direction := d }

def append (h : Hotkey) (actions : List Action) : Hotkey := { h with body := h.body ++ actions }

/-- Attaches a callback that is invoked when the trigger goes in a direction. -/
def onEvent (h : Hotkey) (d : Direction) (callback : Callback) (placement : Placement) : Hotkey :=
  { h with direction := d, callback := some callback, placement := placement }

/-- Attaches a callback and names the variable that gets its reply. -/
def onEventInto (h : Hotkey) (name : String) (d : Direction) (callback : Callback)
    (placement : Placement) : Except HotkeyError Hotkey :=
  if Text.isBlankText name then .error .blankVariable
  else .ok ({ h with capture := some (Text.trim name) }.onEvent d callback placement)

end Hotkey

end KeyBridge
