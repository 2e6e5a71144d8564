-- SUMMARY: String literals of scripts: escaping, quoting and reading back.
import KeyBridge.Text.Blank

/-!
# Script literals

A string literal stands between double quotes. Inside, a double quote is written twice, and a
backtick starts an escape: backtick and `r`, `n`, `t` for the carriage return, the line feed and
the tab, and two backticks for one. `quote` writes literals; `readLiteral` reads them.
-/

namespace KeyBridge.Text

/-! ## Replacement -/

def replaceChar (c : Char) (new : List Char) (cs : List Char) : List Char :=
  cs.flatMap fun d => if d = c then new else [d]

@[simp] theorem replaceChar_nil (c : Char) (new : List Char) : replaceChar c new [] = [] := rfl

@[simp] theorem replaceChar_cons (c d : Char) (new cs : List Char) :
    replaceChar c new (d :: cs) = (if d = c then new else [d]) ++ replaceChar c new cs := rfl

@[simp] theorem replaceChar_append (c : Char) (new cs ds : List Char) :
    replaceChar c new (cs ++ ds) = replaceChar c new cs ++ replaceChar c new ds := by
  simp [replaceChar]

/-! ## Writing -/

/-- The character that starts an escape. -/
def backtick : Char := '\x60'

/-- The inside of a literal: backticks are replaced first, so that the escapes that the later
replacements bring in stay as they are. -/
def escapeChars (cs : List Char) : List Char :=
  replaceChar '"' ['"', '"'] <|
  replaceChar '\t' [backtick, 't'] <|
  replaceChar '\n' [backtick, 'n'] <|
  replaceChar '\r' [backtick, 'r'] <|
  replaceChar backtick [backtick, backtick] cs

/-- The inside of a literal for some text; blank text has no literal. -/
def escape (s : String) : Option String :=
  if isBlankText s then none else some (String.ofList (escapeChars s.toList))

/-- Text without one double quote at each end, if it has both. -/
def unwrapQuotes : List Char → List Char
  | [] => []
  | c :: cs => if c = '"' ∧ cs.getLast? = some '"' then cs.dropLast else c :: cs

/-- The literal for some text. Text that is quoted already loses its outer quotes first. -/
def quote (s : String) : Option String :=
  (escape (String.ofList (unwrapQuotes s.toList))).map fun inside => "\"" ++ inside ++ "\""

/-! ## Reading -/

def escapedChar (c : Char) : Option Char :=
  if c = 'r' then some '\r'
  else if c = 'n' then some '\n'
  else if c = 't' then some '\t'
  else if c = backtick then some backtick
  else none

/-- Reads the inside of a literal up to its closing quote: the text it stands for, and what
follows the quote. -/
def readInside : List Char → Option (List Char × List Char)
  | [] => none
  | [c] => if c = '"' then some ([], []) else none
  | c :: d :: cs =>
    if c = '"' then
      if d = '"' then (readInside cs).map fun r => ('"' :: r.1, r.2)
      else some ([], d :: cs)
    else if c = backtick then
      (escapedChar d).bind fun e => (readInside cs).map fun r => (e :: r.1, r.2)
    else (readInside (d :: cs)).map fun r => (c :: r.1, r.2)

def readLiteral : List Char → Option (List Char × List Char)
  | [] => none
  | c :: cs => if c = '"' then readInside cs else none

end KeyBridge.Text
