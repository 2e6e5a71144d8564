-- SUMMARY: The text of action sequences, with nested hotkeys indented.
import KeyBridge.Action.Header
import KeyBridge.Text.Lines

/-!
# Layout

The text of a sequence is that of its actions, each line indented by the level of the sequence,
followed by one statement for each key that is still held. A hotkey is laid out at level zero with
its body one level deeper, and then indented as a whole like any other action.
-/

namespace KeyBridge

/-! ## Parts -/

def indentOption (width : Nat) : Option String → String
  | some text => Text.indent width text
  | none => ""

/-- The statements that let go of held keys, indented; keys without a label have none. -/
def lettingGo (indentation : Nat) (keys : List Key) : String :=
  String.join (keys.map fun k => Text.indent indentation (Statement.send k .up))

/-- The definition of a hotkey around its laid out body; `width` is the indentation of the lines
between the braces. -/
def Binding.enclose (b : Binding) (header : String) (width : Nat) (body : String) : String :=
  (if b.blocking then "" else "~") ++ header ++ "::\n\x7b\n"
    ++ Text.indent width (Statement.sendMode b.sendMode)
    ++ indentOption width (b.invocation? header .start)
    ++ body
    ++ indentOption width (b.invocation? header .last)
    ++ Text.indent width "return"
    ++ "\x7d\n"

/-! ## Sequences -/

mutual

/-- The text of an action at level zero; `width` is the indentation of one level. A hotkey whose
trigger has no label has no text. -/
def Action.text (width : Nat) : Action → String
  | .raw code => code
  | .key a => a.text
  | .release r => r.text
  | .hotkey b body =>
    match b.header? with
    | some header =>
      b.enclose header width (actionsText width width body ++ lettingGo width (heldAfter body).keys)
    | none => ""

/-- The text of actions one after the other, each indented by `indentation` spaces. -/
def actionsText (width indentation : Nat) : List Action → String
  | [] => ""
  | a :: rest => Text.indent indentation (a.text width) ++ actionsText width indentation rest

end

/-- The text of a sequence of actions, indented by `indentation` spaces: the actions, then the keys
still held. -/
def indentedText (width indentation : Nat) (actions : List Action) : String :=
  actionsText width indentation actions ++ lettingGo indentation (heldAfter actions).keys

/-- The indentation of a level. It is a machine word, so it wraps around. -/
def indentation (width level : Nat) : Nat := width * level % UInt64.size

theorem indentation_of_lt {width level : Nat} (h : width * level < UInt64.size) :
    indentation width level = width * level := Nat.mod_eq_of_lt h

def sequenceText (width level : Nat) (actions : List Action) : String :=
  indentedText width (indentation width level) actions

theorem Action.text_hotkey (width : Nat) (b : Binding) (body : List Action) :
    (Action.hotkey b body).text width
      = match b.header? with
        | some header => b.enclose header width (indentedText width width body)
        | none => "" := by
  simp only [Action.text, indentedText]

end KeyBridge
