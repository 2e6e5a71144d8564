-- SUMMARY: Directions of key events.
/-!
# Directions

A key event goes down, goes up, or is a whole press. Only the two edges have a word of their own
inside `Send` and `Click` braces.
-/

namespace KeyBridge

inductive Direction where
  | down
  | up
  | both
deriving DecidableEq, Repr

namespace Direction

/-- Keys go down unless said otherwise. -/
protected def default : Direction := .down

def name : Direction → String
  | .down => "Down"
  | .up => "Up"
  | .both => "Both"

/-- The word that follows a key's label in braces; a whole press has none. -/
def token : Direction → Option String
  | .down => some "Down"
  | .up => some "Up"
  | .both => none

def isEdge : Direction → Bool
  | .both => false
  | _ => true

end Direction

end KeyBridge
