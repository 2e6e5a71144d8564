-- SUMMARY: The text of single script statements.
import KeyBridge.Direction
import KeyBridge.Duration
import KeyBridge.Key.Label
import KeyBridge.Number.Single
import KeyBridge.Script.SendMode

/-!
# Statements

Each function gives the text of one script statement. A statement about a key that has no
spelling for it is empty text, which stands for no statement at all.
-/

namespace KeyBridge

structure Point where
  x : Single
  y : Single
deriving DecidableEq, Repr

namespace Statement

/-! ## Expressions and directives -/

/-- A variable's value in place. -/
def expression (name : String) : String := "%" ++ name ++ "%"

def assign (name value : String) : String := name ++ " := " ++ value

def call (name : String) (args : List String) : String :=
  name ++ "(" ++ String.intercalate "," args ++ ")"

def sendMode (mode : SendMode) : String := "SendMode " ++ mode.name

def sleep (d : Duration) : String := "Sleep, " ++ d.millisText

/-! ## Keys -/

def braced (inside : String) : String := "\x7b" ++ inside ++ "\x7d"

/-- A word with the word of a direction after it. -/
def withDirection (word : String) (d : Direction) : String :=
  match d.token with
  | some token => word ++ " " ++ token
  | none => word

def sendText (text : String) : String := "Send, " ++ text

def send (k : Key) (d : Direction) : String :=
  match k.label with
  | some label => "Send, " ++ braced (withDirection label d)
  | none => ""

/-- The labels of some keys, each in braces; keys without a label are left out. -/
def batch (keys : List Key) : String := String.join ((keys.filterMap Key.label).map braced)

def sendMany (keys : List Key) : String :=
  let keys := batch keys
  if keys.isEmpty then "" else "Send, " ++ keys

/-! ## The mouse -/

/-- The coordinates of a point in front of a button. -/
def pointText : Option Point → String
  | some p => p.x.text ++ " " ++ p.y.text ++ " "
  | none => ""

/-- A mouse button event, at a point if one is given. -/
def click (k : Key) (d : Direction) (at? : Option Point) : String :=
  match k.clickLabel with
  | some button => "Click, " ++ braced (pointText at? ++ withDirection button d)
  | none => ""

/-- Repeated clicks of a button, or of the default one; a single click has no count. -/
def clickTimes (k? : Option Key) (amount : Nat) : String :=
  match k? with
  | none => if 1 < amount then "Click, " ++ toString amount else "Click"
  | some k =>
    match k.clickLabel with
    | some button =>
      let count := if 1 < amount then ", " ++ toString amount else ""
      "Click, , " ++ button ++ count
    | none => ""

/-! ## Messages -/

/-- A message box; its text is taken as an expression if `isExpression` says so. -/
def messageBox (title text : String) (options : Nat) (timeout? : Option Nat)
    (isExpression : Bool) : String :=
  let force := if isExpression then "% " else ""
  let timeout := match timeout? with
    | some seconds => ", " ++ toString seconds
    | none => ""
  "MsgBox, " ++ toString options ++ ", " ++ title ++ ", " ++ force ++ text ++ timeout

end Statement

end KeyBridge
