-- SUMMARY: The states that a server publishes.
/-!
# Server states

A server is idle while it holds no endpoint, listening while it waits for a client, and connected
while it serves one.
-/

namespace KeyBridge

/-- What a server is doing, as seen from outside. -/
inductive ServerState where
  | idle
  | listening
  | connected
deriving DecidableEq, Repr

def ServerState.name : ServerState → String
  | .idle => "Idle"
  | .listening => "Listening"
  | .connected => "Connected"

end KeyBridge
