-- SUMMARY: What script code does to variables and functions.
import KeyBridge.Table
import KeyBridge.Text.Alphanumeric
import KeyBridge.Text.Lines
import KeyBridge.Text.Literal
import KeyBridge.Text.Split

/-!
# Replaying code

Code is read line by line. A line that assigns sets a variable; a line that opens a definition
adds a function; all other lines do nothing. Blank characters around a line do not count.
-/

namespace KeyBridge

/-! ## Reading lines -/

/-- Whether text is a name: at least one character, all of them word characters. -/
def isName (cs : List Char) : Bool := !cs.isEmpty && cs.all Text.isWordChar

inductive Line where
  | assign (name value : String)
  /-- Opens the definition of a function. -/
  | define (name : String)
  | other
deriving DecidableEq, Repr

namespace Line

/-- The line that assigns `value` to what stands in front of it, if that is a name. A value in
double quotes loses them. -/
def assignment (target value : List Char) : Line :=
  let name := Text.trimBoth target
  if isName name then
    .assign (String.ofList name) (String.ofList (Text.unwrapQuotes (Text.trimBoth value)))
  else .other

/-- The line that opens the definition of a function, from what stands in front of its brace. -/
def definition (head : List Char) : Line :=
  match Text.splitOnce ['('] (Text.trimEnd head) with
  | some (name, _) => if isName name then .define (String.ofList name) else .other
  | none => .other

/-- What a line without blank characters around it does. Assignments are looked for first. -/
def ofTrimmed (line : List Char) : Line :=
  match Text.splitOnce [':', '='] line with
  | some (target, value) => assignment target value
  | none => if line.getLast? = some '\x7b' then definition line.dropLast else .other

def read (line : List Char) : Line := ofTrimmed (Text.trimBoth line)

end Line

/-! ## Script state -/

structure ScriptState where
  values : Table String
  functions : List String

namespace ScriptState

protected def empty : ScriptState := ⟨Table.empty, []⟩

def assign (s : ScriptState) (name value : String) : ScriptState :=
  { s with values := s.values.insert name value }

def define (s : ScriptState) (name : String) : ScriptState :=
  if name ∈ s.functions then s else { s with functions := s.functions ++ [name] }

def step (s : ScriptState) : Line → ScriptState
  | .assign name value => s.assign name value
  | .define name => s.define name
  | .other => s

def absorb (s : ScriptState) (code : String) : ScriptState :=
  ((Text.lines code.toList).map Line.read).foldl step s

end ScriptState

end KeyBridge
