-- SUMMARY: Blocks: actions that are rendered and handed to an engine as one piece.
import KeyBridge.Engine.Basic
import KeyBridge.Generator

/-!
# Blocks

A block is a text to begin with and a sequence of actions. Its text is generated anew each time it
is run or added to a script.
-/

namespace KeyBridge

/-- A text and the actions after it. -/
structure Block where
  initial : String
  actions : List Action

/-- What came of handing a block to an engine. -/
structure Delivery where
  ok : Bool
  code : String
deriving DecidableEq, Repr

namespace Block

/-! ## Making blocks -/

def startingWith (initial : String) : Block := ⟨initial, []⟩

def append (b : Block) (a : Action) : Block := { b with actions := b.actions ++ [a] }

/-- The block with repeated clicks more; keys that are no mouse buttons add nothing. -/
def click (b : Block) (k : Key) (amount : Nat) : Block :=
  if k.isMouse then b.append (.click k amount) else b

/-! ## Using blocks -/

/-- The text of a block: what it begins with, as whole lines, and its actions. -/
def text (b : Block) (g : Generator) (h : Host) : String × Host :=
  let (actions, h) := g.generate b.actions 0 h
  ((if b.initial.isEmpty then "" else Text.endLine b.initial) ++ actions, h)

variable {σ : Type} [ScriptEngine σ]

/-- Runs a block. -/
def execute (b : Block) (g : Generator) (e : σ) (h : Host) : Delivery × σ × Host :=
  let (code, h) := b.text g h
  let (ok, e) := ScriptEngine.execute e code
  (⟨ok, code⟩, e, h.note (.blockExecute ok (Text.lineCount code)))

/-- Adds a block to the script. -/
def complete (b : Block) (g : Generator) (option : LoadOption) (e : σ) (h : Host) :
    Delivery × σ × Host :=
  let (code, h) := b.text g h
  let (ok, e) := ScriptEngine.load e code option
  (⟨ok, code⟩, e, h.note (.blockComplete ok option (Text.lineCount code)))

end Block

end KeyBridge
