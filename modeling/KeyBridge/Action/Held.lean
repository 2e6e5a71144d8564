-- SUMMARY: The keys that a sequence of actions holds down.
import KeyBridge.Action.KeyAction
import KeyBridge.Action.Release

/-!
# Held keys

A sequence of actions holds the keys that it has put down and not let go. At its end they are let
go in the order in which they went down.
-/

namespace KeyBridge

namespace KeySet

def afterRelease (held : KeySet) (r : Release) : KeySet :=
  if r.all then KeySet.empty else held.eraseAll r.keys.keys

/-- The held keys after an edge of a key that is no press. -/
def afterEdge (held : KeySet) (k : Key) : Direction → KeySet
  | .down => held.insert k
  | .up => held.erase k
  | .both => held

/-- The held keys after a key action. Batches hold nothing, and a timed action has let its key go.
Of the others, an action that asks for its key to be let go marks it, and unless it is a press its
edge counts after that. -/
def afterKey (held : KeySet) (a : KeyAction) : KeySet :=
  match a.key? with
  | none => held
  | some k =>
    if a.isTimed then held.erase k
    else
      let marked := if a.autoRelease then held.insert k else held
      if a.press then marked else marked.afterEdge k a.direction

end KeySet

end KeyBridge
