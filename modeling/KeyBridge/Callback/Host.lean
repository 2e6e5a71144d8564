-- SUMMARY: The host: registries of callbacks, counters and logs, and how callbacks run on it.
import KeyBridge.Action.Effect
import KeyBridge.Event
import KeyBridge.Table

/-!
# Hosts

A host keeps registries, which map headers to callbacks, and the counters that callbacks share.
It logs every message that a callback gets, and events. Whoever holds the id of a registry shares
it with all others who do.

Callbacks may dispatch messages to one another, so a run may nest without end; a host gives up
beyond its depth.
-/

namespace KeyBridge

/-! ## Hosts -/

structure Host where
  registries : List (Table Callback)
  counters : List Nat
  /-- The messages that callbacks got, in order. -/
  calls : List String
  events : List Event
  /-- How many runs of callbacks may be nested. -/
  depth : Nat

inductive Answer where
  | reply (text : String)
  | crashed
  | tooDeep
deriving DecidableEq, Repr

namespace Host

def fresh (depth : Nat) : Host := ⟨[], [], [], [], depth⟩

def note (h : Host) (e : Event) : Host := { h with events := h.events ++ [e] }

def called (h : Host) (message : String) : Host := { h with calls := h.calls ++ [message] }

/-! ## Registries -/

def newRegistry (h : Host) : RegistryId × Host :=
  (⟨h.registries.length⟩, { h with registries := h.registries ++ [Table.empty] })

def newCounter (h : Host) : CounterId × Host :=
  (⟨h.counters.length⟩, { h with counters := h.counters ++ [0] })

def registry (h : Host) (id : RegistryId) : Table Callback :=
  h.registries.getD id.index Table.empty

def increment (h : Host) (id : CounterId) : Nat × Host :=
  let n := h.counters.getD id.index 0 + 1
  (n, { h with counters := h.counters.set id.index n })

/-- Registers a callback under a header, and tells whether it took the place of another one. -/
def register (h : Host) (id : RegistryId) (header : String) (callback : Callback) : Bool × Host :=
  let table := h.registry id
  let replaced := table.contains header
  let h := { h with registries := h.registries.set id.index (table.insert header callback) }
  (replaced, h.note (.callbackRegistered header replaced))

def headers (h : Host) (id : RegistryId) : List String := (h.registry id).sortedKeys

/-! ## Runs -/

/-- Looks up the callback for a message; a message without one is logged. -/
def lookUp (h : Host) (id : RegistryId) (message : String) : Option Callback × Host :=
  match (h.registry id).get? message with
  | some callback => (some callback, h)
  | none => (none, h.note (.callbackMiss message))

/-- Dispatches a message, with `call` to run the callback that it finds; a message without a
callback has the empty reply. -/
def dispatchWith (call : Host → Callback → String → Answer × Host) (h : Host) (id : RegistryId)
    (message : String) : Answer × Host :=
  match h.lookUp id message with
  | (some callback, h) => call h callback message
  | (none, h) => (.reply "", h)

/-- Runs a script, with `call` to run the callbacks that it dispatches to. A script ends where a
dispatch of its own does not come back with a reply. -/
def runWith (call : Host → Callback → String → Answer × Host) : Script → Host → Answer × Host
  | .reply text, h => (.reply text, h)
  | .crash, h => (.crashed, h)
  | .count counter next, h =>
    let (n, h) := h.increment counter
    runWith call (next n) h
  | .register into header callback next, h =>
    let (replaced, h) := h.register into header callback
    runWith call (next replaced) h
  | .dispatch through message next, h =>
    match h.dispatchWith call through message with
    | (.reply text, h) => runWith call (next text) h
    | ended => ended

/-- Runs a callback on a message, with at most `depth` runs nested. Every run logs its message. -/
def call : Nat → Host → Callback → String → Answer × Host
  | 0, h, _, _ => (.tooDeep, h)
  | depth + 1, h, callback, message =>
    runWith (call depth) (callback message) (h.called message)

def invoke (h : Host) (callback : Callback) (message : String) : Answer × Host :=
  call h.depth h callback message

def dispatch (h : Host) (id : RegistryId) (message : String) : Answer × Host :=
  h.dispatchWith (call h.depth) id message

/-! ## Effects of layout -/

/-- Carries out an effect of laying out a sequence; callbacks go into the given registry. -/
def perform (id : RegistryId) (h : Host) : Effect → Host
  | .register header callback => (h.register id header callback).2
  | .unresolved trigger => h.note (.hotkeyUnresolved trigger)
  | .letGo key => h.note (.autoRelease key)

def performAll (id : RegistryId) (h : Host) (effects : List Effect) : Host :=
  effects.foldl (perform id) h

end Host

def shownRegistry (t : Table Callback) : String :=
  shownRecord "CallbackRegistry" [("len", toString t.size)]

end KeyBridge
