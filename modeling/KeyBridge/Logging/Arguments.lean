-- SUMMARY: Reading log requests from command line arguments.
import KeyBridge.Logging.Filter

/-!
# Log arguments

Two switches and two options with values make up a request. Arguments are read from left to right.
An option without an attached value waits for the next argument; what it waits for is settled when
the next switch or option comes, or at the end. Conflicts between different switches and options
are looked for last.
-/

namespace KeyBridge.Logging

/-! ## Arguments -/

inductive ArgumentError where
  /-- Two arguments exclude each other, or one is given twice. -/
  | conflict
  | unknown
  | missingValue
  | unwantedValue
  | help
deriving DecidableEq, Repr

def ArgumentError.kind : ArgumentError → String
  | .conflict => "ArgumentConflict"
  | .unknown => "UnknownArgument"
  | .missingValue => "InvalidValue"
  | .unwantedValue => "TooManyValues"
  | .help => "DisplayHelp"

inductive Switch where
  | trace
  | debug
  | help
deriving DecidableEq, Repr

inductive ValueOption where
  | level
  | filter
deriving DecidableEq, Repr

/-- One argument by its shape. -/
inductive Argument where
  | switch (s : Switch)
  /-- A switch with a value attached. -/
  | switchWithValue
  /-- An option, with its value if one is attached. -/
  | option (o : ValueOption) (value : Option String)
  /-- The mark after which there are positional arguments only. -/
  | endOfOptions
  | unknownOption
  | plain (value : String)
deriving DecidableEq, Repr

/-- Splits an argument into its name and the value attached to it. -/
def splitValue (cs : List Char) : List Char × Option String :=
  match cs.dropWhile (· ≠ '=') with
  | _ :: value => (cs.takeWhile (· ≠ '='), some (String.ofList value))
  | [] => (cs, none)

/-- An argument that starts with two hyphens, by what follows them. -/
def Argument.ofLong (cs : List Char) : Argument :=
  let (name, value) := splitValue cs
  let switch (s : Switch) : Argument := if value.isSome then .switchWithValue else .switch s
  match String.ofList name with
  | "trace" => switch .trace
  | "debug" => switch .debug
  | "help" => switch .help
  | "log-level" => .option .level value
  | "log-filter" => .option .filter value
  | _ => .unknownOption

def Argument.ofText (s : String) : Argument :=
  match s.toList with
  | ['-', '-'] => .endOfOptions
  | '-' :: '-' :: cs => .ofLong cs
  | '-' :: 'h' :: _ => .switch .help
  | '-' :: _ :: _ => .unknownOption
  | _ => .plain s

/-! ## Reading -/

/-- An option that has been named and is not settled yet. -/
structure Pending where
  option : ValueOption
  value : Option String
deriving DecidableEq, Repr

/-- A request with the value of an option; an option has at most one. -/
def setOption (r : Request) (o : ValueOption) (value : String) : Except ArgumentError Request :=
  match o with
  | .level => if r.level.isSome then .error .conflict else .ok { r with level := some value }
  | .filter => if r.filter.isSome then .error .conflict else .ok { r with filter := some value }

/-- A request with a switch on; a switch is given at most once. -/
def setSwitch (r : Request) : Switch → Except ArgumentError Request
  | .trace => if r.trace then .error .conflict else .ok { r with trace := true }
  | .debug => if r.debug then .error .conflict else .ok { r with debug := true }
  | .help => .error .help

/-- A request with what is pending settled. -/
def settle (r : Request) : Option Pending → Except ArgumentError Request
  | none => .ok r
  | some ⟨_, none⟩ => .error .missingValue
  | some ⟨o, some value⟩ => setOption r o value

def readArguments (r : Request) (pending : Option Pending) :
    List Argument → Except ArgumentError Request
  | [] => settle r pending
  | .switch s :: rest => do
    let r ← settle r pending
    readArguments (← setSwitch r s) none rest
  | .switchWithValue :: _ => .error .unwantedValue
  | .option o (some value) :: rest => do
    let r ← settle r pending
    readArguments (← setOption r o value) none rest
  | .option o none :: rest => do
    readArguments (← settle r pending) (some ⟨o, none⟩) rest
  | .endOfOptions :: [] => settle r pending
  | .endOfOptions :: _ :: _ => .error .unknown
  | .unknownOption :: _ => .error .unknown
  | .plain value :: rest =>
    match pending with
    | some ⟨o, none⟩ => readArguments r (some ⟨o, some value⟩) rest
    | _ => .error .unknown

/-- Whether the parts of a request exclude each other: each switch excludes all the rest. -/
def Request.isConflicting (r : Request) : Bool :=
  let options := r.level.isSome || r.filter.isSome
  (r.trace && r.debug) || ((r.trace || r.debug) && options)

def Request.ofArguments (args : List String) : Except ArgumentError Request := do
  let r ← readArguments {} none (args.map Argument.ofText)
  if r.isConflicting then throw .conflict
  return r

end KeyBridge.Logging
