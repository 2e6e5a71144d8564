-- SUMMARY: Key actions: what they drive, how they are made and how they render.
import KeyBridge.Script.Statement

/-!
# Key actions

A key action is a key event, a mouse event or the presses of a batch of keys. A *timed* action
goes down, waits and goes up again by itself.
-/

namespace KeyBridge

inductive Target where
  | keyboard (key : Key)
  /-- A mouse button, at a point if one is given. -/
  | mouse (key : Key) (at? : Option Point)
  /-- Several keys, pressed one after the other. -/
  | batch (keys : List Key)
deriving DecidableEq

/-- A key press, a click or the presses of a batch. -/
structure KeyAction where
  target : Target
  /-- The edge of an action that is not a press. -/
  direction : Direction
  /-- How long a timed action stays down. -/
  duration : Duration
  /-- Whether a key that is still down is let go at the end of the sequence. -/
  autoRelease : Bool
  press : Bool
deriving DecidableEq

namespace KeyAction

/-! ## Making actions -/

/-- A key goes down and stays down for some time if the duration is not zero. -/
def goingDown (target : Target) (d : Duration) : KeyAction := ⟨target, .down, d, true, false⟩

def goingUp (target : Target) : KeyAction := ⟨target, .up, .zero, false, false⟩

def pressed (target : Target) : KeyAction := ⟨target, .down, .zero, true, true⟩

def down (k : Key) : KeyAction := goingDown (.keyboard k) .zero

def downFor (k : Key) (d : Duration) : KeyAction := goingDown (.keyboard k) d

def up (k : Key) : KeyAction := goingUp (.keyboard k)

def pressKey (k : Key) : KeyAction := pressed (.keyboard k)

def send (keys : List Key) : KeyAction := ⟨.batch keys, .both, .zero, false, false⟩

def mouseDown (k : Key) : KeyAction := goingDown (.mouse k none) .zero

def mouseDownFor (k : Key) (d : Duration) : KeyAction := goingDown (.mouse k none) d

def mouseUp (k : Key) : KeyAction := goingUp (.mouse k none)

def mousePress (k : Key) : KeyAction := pressed (.mouse k none)

/-- Says whether a key that is still down is let go at the end of the sequence. -/
def withAutoRelease (a : KeyAction) (yes : Bool) : KeyAction := { a with autoRelease := yes }

/-- Moves a mouse action to a point; other actions stay as they are. -/
def atPoint (a : KeyAction) (p : Point) : KeyAction :=
  match a.target with
  | .mouse k _ => { a with target := .mouse k (some p) }
  | _ => a

/-! ## Looking at actions -/

def key? (a : KeyAction) : Option Key :=
  match a.target with
  | .keyboard k => some k
  | .mouse k _ => some k
  | .batch _ => none

def point? (a : KeyAction) : Option Point :=
  match a.target with
  | .mouse _ at? => at?
  | _ => none

def isBatch (a : KeyAction) : Bool := a.key?.isNone

/-- Whether an action goes up again by itself after some time. -/
def isTimed (a : KeyAction) : Bool := !a.isBatch && !a.press && !a.duration.isZero

/-! ## Rendering -/

def edge : Target → Direction → String
  | .keyboard k, d => Statement.send k d
  | .mouse k at?, d => Statement.click k d at?
  | .batch _, _ => ""

/-- The three lines of a timed action; nothing if its key has no spelling. -/
def timedText (target : Target) (d : Duration) : String :=
  let goesDown := edge target .down
  if goesDown.isEmpty then ""
  else String.intercalate "\n" [goesDown, Statement.sleep d, edge target .up]

def text (a : KeyAction) : String :=
  match a.target with
  | .batch keys => Statement.sendMany keys
  | target =>
    if a.press then edge target .both
    else if a.duration.isZero then edge target a.direction
    else timedText target a.duration

end KeyAction

end KeyBridge
