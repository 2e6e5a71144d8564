-- SUMMARY: The ways in which a script engine sends input.
/-!
# Send modes

A hotkey's body starts with a directive that names how the engine sends input from there on.
-/

namespace KeyBridge

inductive SendMode where
  | input
  | play
  | event
  | inputThenPlay
deriving DecidableEq, Repr

namespace SendMode

/-- Input is the fastest mode and the one used unless said otherwise. -/
protected def default : SendMode := .input

/-- Every mode, in the order in which messages list them. -/
def all : List SendMode := [.input, .play, .event, .inputThenPlay]

def name : SendMode → String
  | .input => "Input"
  | .play => "Play"
  | .event => "Event"
  | .inputThenPlay => "InputThenPlay"

def ofName? (s : String) : Option SendMode := all.find? fun m => m.name == s

end SendMode

end KeyBridge
