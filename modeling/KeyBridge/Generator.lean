-- SUMMARY: Generators: layout with a configuration and a registry for callbacks.
import KeyBridge.Action.Layout
import KeyBridge.Callback.Host
import KeyBridge.Config.Basic

/-!
# Generators

A generator lays out actions by its configuration and registers the callbacks of hotkeys in its
registry. Copies of a generator share the registry.
-/

namespace KeyBridge

/-- A configuration and the registry that callbacks go into. -/
structure Generator where
  config : GeneratorConfig
  registry : RegistryId
deriving DecidableEq, Repr

namespace Generator

def create (config : GeneratorConfig) (h : Host) : Generator × Host :=
  let (id, h) := h.newRegistry
  (⟨config, id⟩, h)

def withRegistry (g : Generator) (id : RegistryId) : Generator := { g with registry := id }

/-- A hotkey that sends input in the configured mode. -/
def hotkey (g : Generator) (t : Trigger) (modifiers : List Key) : Hotkey :=
  (Hotkey.ofTrigger t modifiers).withSendMode g.config.sendMode

def generate (g : Generator) (actions : List Action) (level : Nat) (h : Host) : String × Host :=
  (sequenceText g.config.indentWidth level actions,
    h.performAll g.registry (sequenceEffects actions))

/-- Lays out a single action at level zero, without letting go of keys. -/
def render (g : Generator) (a : Action) (h : Host) : String × Host :=
  (a.text g.config.indentWidth, h.performAll g.registry a.effects)

end Generator

end KeyBridge
