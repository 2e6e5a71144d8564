-- SUMMARY: Descriptions of networks.
import KeyBridge.Action.Shown
import KeyBridge.Network.Basic

/-!
# Descriptions of networks

A description of a network lists the names that were ever bound, and how often.
-/

namespace KeyBridge

def shownMap (entries : List (String × String)) : String :=
  "\x7b" ++ String.intercalate ", " (entries.map fun e => e.1 ++ ": " ++ e.2) ++ "\x7d"

def Network.shown (n : Network) : String :=
  shownRecord "MemoryTransport"
    [("binds", shownMap (n.names.map fun name => (Text.shown name, toString (n.bindCount name))))]

end KeyBridge
