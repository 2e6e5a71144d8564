-- SUMMARY: Descriptions of hotkeys and actions.
import KeyBridge.Action.Basic
import KeyBridge.Text.Shown

/-!
# Descriptions

A description of a value names its kind and its parts, for logs and for people who debug.
-/

namespace KeyBridge

/-! ## Shapes of descriptions -/

def shownList (items : List String) : String := "[" ++ String.intercalate ", " items ++ "]"

/-- A named value with positional parts. -/
def shownTuple (name : String) (parts : List String) : String :=
  name ++ "(" ++ String.intercalate ", " parts ++ ")"

/-- A named value with named parts. -/
def shownRecord (name : String) (parts : List (String × String)) : String :=
  name ++ " \x7b " ++ String.intercalate ", " (parts.map fun p => p.1 ++ ": " ++ p.2) ++ " \x7d"

def shownBool (b : Bool) : String := if b then "true" else "false"

def shownOption : Option String → String
  | some s => shownTuple "Some" [s]
  | none => "None"

/-! ## Key actions and releases -/

def shownKeys (keys : List Key) : String := shownList (keys.map Key.name)

def Trigger.shown : Trigger → String
  | .key k => shownTuple "Key" [k.name]
  | .combo left right => shownTuple "Combo" [left.name, right.name]

def Point.shown (p : Point) : String := "(" ++ p.x.shown ++ ", " ++ p.y.shown ++ ")"

def Target.shown : Target → String
  | .keyboard k => shownTuple "Keyboard" [k.name]
  | .mouse k at? =>
    shownRecord "Mouse" [("key", k.name), ("at", shownOption (at?.map Point.shown))]
  | .batch keys => shownTuple "Multi" [shownKeys keys]

def KeyAction.shown (a : KeyAction) : String :=
  shownRecord "KeyAction"
    [("target", a.target.shown), ("direction", a.direction.name), ("duration", a.duration.shown),
      ("auto_release", shownBool a.autoRelease), ("press", shownBool a.press)]

def Release.shown (r : Release) : String :=
  shownRecord "Release" [("keys", shownKeys r.keys.keys), ("all", shownBool r.all)]

/-! ## Hotkeys and actions -/

/-- The description of a hotkey whose body's actions are described already. -/
def Binding.shownWith (b : Binding) (actions : List String) : String :=
  shownRecord "Hotkey"
    [("trigger", b.trigger.shown), ("modifiers", shownKeys b.modifiers.keys),
      ("blocking", shownBool b.blocking), ("send_mode", b.sendMode.name),
      ("direction", b.direction.name), ("actions", shownList actions),
      ("callback", shownBool b.callback.isSome), ("placement", b.placement.name),
      ("capture", shownOption (b.capture.map Text.shown))]

mutual

def Action.shown : Action → String
  | .raw code => shownTuple "Raw" [Text.shown code]
  | .key a => shownTuple "Key" [a.shown]
  | .release r => shownTuple "Release" [r.shown]
  | .hotkey b body => shownTuple "Hotkey" [b.shownWith (shownActions body)]

def shownActions : List Action → List String
  | [] => []
  | a :: rest => a.shown :: shownActions rest

end

def Hotkey.shown (h : Hotkey) : String := h.toBinding.shownWith (shownActions h.body)

end KeyBridge
