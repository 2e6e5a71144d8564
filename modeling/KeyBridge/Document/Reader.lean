-- SUMMARY: Reading the pieces of configuration documents.
import KeyBridge.Document.Error
import KeyBridge.Text.Alphanumeric
import KeyBridge.Text.Split

/-!
# Pieces of documents

A document consists of blanks and comments, names, punctuation and values. A reader takes the
text from where it stands and gives what it read and the text that is left.
-/

namespace KeyBridge.Document

/-- Reads something from the start of a text; what is left comes with it. -/
abbrev Reader (α : Type) : Type := List Char → Except DocumentError (α × List Char)

/-! ## Blanks and comments -/

/-- The code points that may stand between the pieces of a document. -/
def spacingRanges : List (Nat × Nat) := [
  (0x09, 0x0D), (0x20, 0x20), (0x85, 0x85), (0x200E, 0x200F), (0x2028, 0x2029)]

def isSpacing (c : Char) : Bool := Text.inRanges c.toNat spacingRanges

inductive Spacing where
  | between
  | lineComment
  /-- In comments that are nested so many deep. -/
  | blockComment (depth : Nat)

def skipFrom : Spacing → List Char → Except DocumentError (List Char)
  | .between, [] => .ok []
  | .between, '/' :: '/' :: cs => skipFrom .lineComment cs
  | .between, '/' :: '*' :: cs => skipFrom (.blockComment 0) cs
  | .between, '/' :: c :: _ => .error (.strayCharacter c)
  | .between, c :: cs =>
    if isSpacing c then skipFrom .between cs
    else if c = '/' then .error .endOfDocument else .ok (c :: cs)
  | .lineComment, [] => .ok []
  | .lineComment, c :: cs => if c = '\n' then skipFrom .between cs else skipFrom .lineComment cs
  | .blockComment _, [] => .error .unclosedComment
  | .blockComment depth, '/' :: '*' :: cs => skipFrom (.blockComment (depth + 1)) cs
  | .blockComment 0, '*' :: '/' :: cs => skipFrom .between cs
  | .blockComment (depth + 1), '*' :: '/' :: cs => skipFrom (.blockComment depth) cs
  | .blockComment depth, _ :: cs => skipFrom (.blockComment depth) cs

/-- The text after blanks and comments. -/
def skip (cs : List Char) : Except DocumentError (List Char) := skipFrom .between cs

/-- Whether a comma comes next; the comma and the blanks around it are taken. -/
def readComma : Reader Bool := fun cs => do
  match ← skip cs with
  | ',' :: cs => return (true, ← skip cs)
  | cs => return (false, cs)

/-! ## Names -/

def isNameStart (c : Char) : Bool := Text.isWordChar c && !c.isDigit

/-- Whether the text starts with a string of one of the kinds that a letter announces. -/
def startsAnnouncedString (cs : List Char) : Bool :=
  ["r\"", "r#", "b\"", "b'", "br\"", "br#"].any fun s => s.toList.isPrefixOf cs

def readName : Reader String := fun cs =>
  match cs with
  | [] => .error .endOfDocument
  | c :: _ =>
    if isNameStart c && !startsAnnouncedString cs then
      .ok (String.ofList (cs.takeWhile Text.isWordChar), cs.dropWhile Text.isWordChar)
    else .error .expectedIdentifier

/-- The text after a word, if that word stands there as a whole. -/
def afterWord? (word : String) (cs : List Char) : Option (List Char) :=
  if word.toList.isPrefixOf cs then
    let rest := cs.drop word.length
    if (rest.head?.map Text.isWordChar).getD false then none else some rest
  else none

/-! ## Truth values and numbers -/

def readBool : Reader Bool := fun cs =>
  match afterWord? "true" cs, afterWord? "false" cs with
  | some rest, _ => .ok (true, rest)
  | none, some rest => .ok (false, rest)
  | none, none => .error .expectedBoolean

def hexValue? (c : Char) : Option Nat :=
  if c.isDigit then some (c.toNat - '0'.toNat)
  else if 'a' ≤ c && c ≤ 'f' then some (c.toNat - 'a'.toNat + 10)
  else if 'A' ≤ c && c ≤ 'F' then some (c.toNat - 'A'.toNat + 10)
  else none

def isNumberChar (c : Char) : Bool := (hexValue? c).isSome || c = '_'

/-- The numbers that documents hold are below this bound. -/
def numberBound : Nat := Nat.pow 2 64

/-- A number with one more character; underscores do not count. -/
def pushDigit (negative : Bool) (base n : Nat) (c : Char) : Except DocumentError Nat :=
  match hexValue? c with
  | none => .ok n
  | some d =>
    if numberBound ≤ n * base then .error .outOfBounds
    else if base ≤ d then .error (.strangeDigit c base)
    else
      let n := n * base + d
      if numberBound ≤ n || (negative && n ≠ 0) then .error .outOfBounds else .ok n

def readSign : List Char → Bool × List Char
  | '+' :: cs => (false, cs)
  | '-' :: cs => (true, cs)
  | cs => (false, cs)

/-- The base of a number, and the text after the mark that gives it. -/
def readBase : List Char → Nat × List Char
  | '0' :: 'x' :: cs => (16, cs)
  | '0' :: 'o' :: cs => (8, cs)
  | '0' :: 'b' :: cs => (2, cs)
  | cs => (10, cs)

def readNumber : Reader Nat := fun cs => do
  if cs.isEmpty then throw .endOfDocument
  let (negative, cs) := readSign cs
  let (base, cs) := readBase cs
  let digits := cs.takeWhile isNumberChar
  if digits.isEmpty then throw .expectedInteger
  if digits.head? = some '_' then throw .leadingUnderscore
  let n ← digits.foldlM (pushDigit negative base) 0
  return (n, cs.dropWhile isNumberChar)

/-! ## Strings -/

inductive StringPlace where
  | plain
  | escape
  | opening
  /-- In a code point with so many digits and this value so far. -/
  | codePoint (digits value : Nat)

/-- The character that a letter after a backslash stands for. -/
def simpleEscape? (c : Char) : Option Char :=
  if c = '"' || c = '\\' || c = '\'' then some c
  else if c = 'n' then some '\n'
  else if c = 'r' then some '\r'
  else if c = 't' then some '\t'
  else if c = '0' then some '\x00'
  else none

/-- Reads a string with escapes, after its opening quote. -/
def readEscaped : StringPlace → List Char → Except DocumentError (List Char × List Char)
  | .plain, [] => .error .endOfString
  | .plain, c :: cs =>
    if c = '"' then .ok ([], cs)
    else if c = '\\' then readEscaped .escape cs
    else (readEscaped .plain cs).map fun r => (c :: r.1, r.2)
  | .escape, c :: cs =>
    match simpleEscape? c with
    | some d => (readEscaped .plain cs).map fun r => (d :: r.1, r.2)
    | none => if c = 'u' then readEscaped .opening cs else .error .unknownEscape
  | .opening, c :: cs =>
    if c = '\x7b' then readEscaped (.codePoint 0 0) cs else .error .unknownEscape
  | .codePoint digits value, c :: cs =>
    match hexValue? c with
    | some d =>
      if digits < 6 then readEscaped (.codePoint (digits + 1) (16 * value + d)) cs
      else .error .unknownEscape
    | none =>
      if c = '\x7d' ∧ 0 < digits ∧ value.isValidChar then
        (readEscaped .plain cs).map fun r => (Char.ofNat value :: r.1, r.2)
      else .error .unknownEscape
  | _, [] => .error .endOfDocument

/-- Reads a string without escapes, after the letter that announces it: it ends with a quote and
as many hash signs as it started with. -/
def readRaw (cs : List Char) : Except DocumentError (List Char × List Char) :=
  let hashes := cs.takeWhile (· = '#')
  match cs.dropWhile (· = '#') with
  | '"' :: rest =>
    match Text.splitOnce ('"' :: hashes) rest with
    | some r => .ok r
    | none => .error .endOfString
  | _ => .error .expectedString

def readString : Reader String := fun cs =>
  let read := match cs with
    | '"' :: rest => readEscaped .plain rest
    | 'r' :: rest => readRaw rest
    | _ => .error .expectedString
  read.map fun r => (String.ofList r.1, r.2)

/-! ## Optional values and choices -/

/-- Reads an optional value. Where `implicit` holds, a value may stand without its mark. -/
def readOption {α : Type} (implicit : Bool) (readValue : Reader α) : Reader (Option α) := fun cs =>
  let bare (cs : List Char) : Except DocumentError (Option α × List Char) :=
    if implicit then (readValue cs).map fun r => (some r.1, r.2) else .error .expectedOption
  match afterWord? "None" cs with
  | some rest => .ok (none, rest)
  | none =>
    match afterWord? "Some" cs with
    | none => bare cs
    | some rest => do
      match ← skip rest with
      | '(' :: rest =>
        let (value, rest) ← readValue (← skip rest)
        let (_, rest) ← readComma rest
        match rest with
        | ')' :: rest => return (some value, rest)
        | _ => throw .expectedOptionEnd
      | rest => bare rest

def readChoice {α : Type} (choice : String) (names : List String) (ofName? : String → Option α) :
    Reader α := fun cs => do
  let (name, rest) ← readName cs
  match ofName? name with
  | some value => return (value, rest)
  | none => throw (.unknownVariant choice name names)

end KeyBridge.Document
