-- SUMMARY: Host callbacks as scripts of what they do to the host.
/-!
# Callbacks

A callback gets a message and answers with text. On its way it may count its own runs, register
further callbacks and dispatch messages, so what it does with a message is a *script*: a tree of
such steps that ends with a reply or a crash.
-/

namespace KeyBridge

structure RegistryId where
  index : Nat
deriving DecidableEq, Repr

structure CounterId where
  index : Nat
deriving DecidableEq, Repr

inductive Script where
  | reply (text : String)
  /-- Ends without an answer. -/
  | crash
  /-- Adds one to a counter and goes on with the new count. -/
  | count (counter : CounterId) (next : Nat → Script)
  /-- Registers a callback and goes on with whether another one was there. -/
  | register (into : RegistryId) (header : String) (callback : String → Script)
      (next : Bool → Script)
  | dispatch (through : RegistryId) (message : String) (next : String → Script)

/-- A host function that answers messages. -/
abbrev Callback : Type := String → Script

namespace Callback

def pure (f : String → String) : Callback := fun m => .reply (f m)

def echo : Callback := pure id

def reverse : Callback := pure fun m => String.ofList m.toList.reverse

def chars : Callback := pure fun m => toString m.length

def const (text : String) : Callback := pure fun _ => text

def wrap (before after : String) : Callback := pure fun m => before ++ m ++ after

def counting (counter : CounterId) (text : String) : Callback := fun _ =>
  .count counter fun n => .reply (text ++ toString n)

def crashingOn (message : String) : Callback := fun m =>
  if m = message then .crash else .reply m

def registering (into : RegistryId) (header : String) (callback : Callback) (text : String) :
    Callback := fun _ =>
  .register into header callback fun _ => .reply text

/-- Dispatches a fixed message and answers with the message it got and the reply to the other. -/
def dispatching (through : RegistryId) (message : String) : Callback := fun m =>
  .dispatch through message fun reply => .reply (m ++ ">" ++ reply)

end Callback

end KeyBridge
