-- SUMMARY: Releases: keys that need not be let go at the end of a sequence.
import KeyBridge.Key.Set

/-!
# Releases

A release takes keys out of the keys held by a sequence. It renders to no text.
-/

namespace KeyBridge

/-- Keys that are let go, or all of them. -/
structure Release where
  keys : KeySet
  all : Bool
deriving DecidableEq

namespace Release

def ofKeys (ks : List Key) : Release := ⟨KeySet.ofList ks, false⟩

def everything : Release := ⟨KeySet.empty, true⟩

def releaseAll (r : Release) (yes : Bool) : Release := { r with all := yes }

def covers (r : Release) (k : Key) : Bool := r.all || r.keys.contains k

/-- A release is no statement of its own. -/
def text (_ : Release) : String := ""

end Release

end KeyBridge
