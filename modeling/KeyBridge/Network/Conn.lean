-- SUMMARY: The host's ends of connections, which may break on purpose.
import KeyBridge.Network.Basic

/-!
# The host's end

The host reads from and writes to a connection through its end of it. An end that is to break when
reading fails at once; one that is to break when writing first gives the bytes of its message.
-/

namespace KeyBridge

namespace Conn

/-- Reads at most `max` bytes. The end itself changes while it gives the bytes of its message. -/
def read (c : Conn) (max : Nat) (n : Network) : Progress (List UInt8) × Conn × Network :=
  match c.breakage with
  | some .reading => (.failed .injected, c, n)
  | some (.writing (b :: bs)) =>
    let message := b :: bs
    (.done (message.take max), { c with breakage := some (.writing (message.drop max)) }, n)
  | _ =>
    let (r, n) := n.read c.link .host max
    (r, c, n)

def write (c : Conn) (bytes : List UInt8) (n : Network) : Progress Nat × Network :=
  if c.breakage.isSome then (.failed .injected, n) else n.write c.link .host bytes

/-- Waits until what was written is on its way, which it always is. -/
def flush (c : Conn) : Except NetworkError Unit :=
  if c.breakage.isSome then .error .injected else .ok ()

def shutdown (c : Conn) (n : Network) : Network := n.shutdown c.link .host

def drop (c : Conn) (n : Network) : Network := n.dropLink c.link

end Conn

end KeyBridge
