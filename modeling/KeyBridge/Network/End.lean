-- SUMMARY: Either end of a connection.
import KeyBridge.Network.Conn

/-!
# Ends of connections

Both ends of a connection can read and write. The client's end never breaks on purpose.
-/

namespace KeyBridge

inductive End where
  | client (link : LinkId)
  | host (conn : Conn)
deriving DecidableEq, Repr

namespace End

def read (e : End) (max : Nat) (n : Network) : Progress (List UInt8) × End × Network :=
  match e with
  | .client link =>
    let (r, n) := n.read link .client max
    (r, e, n)
  | .host c =>
    let (r, c, n) := c.read max n
    (r, .host c, n)

def write (e : End) (bytes : List UInt8) (n : Network) : Progress Nat × Network :=
  match e with
  | .client link => n.write link .client bytes
  | .host c => c.write bytes n

def flush : End → Except NetworkError Unit
  | .client _ => .ok ()
  | .host c => c.flush

def shutdown (e : End) (n : Network) : Network :=
  match e with
  | .client link => n.shutdown link .client
  | .host c => c.shutdown n

def drop (e : End) (n : Network) : Network :=
  match e with
  | .client link => n.dropLink link
  | .host c => c.drop n

end End

end KeyBridge
