-- SUMMARY: Text as lines, and the indentation of lines.
/-!
# Lines

A line ends with a line feed; a carriage return right before the line feed belongs to the line's
end and is not part of the line. The last line may lack its end. A text has no empty last line:
what follows the last line feed counts only if there is something.
-/

namespace KeyBridge.Text

/-! ## Splitting -/

/-- The lines of a text, without their ends. -/
def lines : List Char → List (List Char)
  | [] => []
  | c :: cs =>
    if c = '\n' then [] :: lines cs
    else if c = '\r' ∧ cs.head? = some '\n' then lines cs
    else
      match lines cs with
      | [] => [[c]]
      | l :: ls => (c :: l) :: ls

def lineCount (s : String) : Nat := (lines s.toList).length

/-- A text whose last line has its end: a line feed is added if there is none. -/
def endLine (s : String) : String :=
  if s.toList.getLast? = some '\n' then s else s ++ "\n"

@[simp] theorem lines_nil : lines [] = [] := rfl

@[simp] theorem lines_newline (cs : List Char) : lines ('\n' :: cs) = [] :: lines cs := by
  simp [lines]

/-! ## Indentation -/

/-- A line with its end: a line that is not empty is indented by `n` spaces. -/
def indentLine (n : Nat) (line : List Char) : List Char :=
  if line.isEmpty then ['\n'] else List.replicate n ' ' ++ line ++ ['\n']

/-- Each line of a text indented by `n` spaces and ended; empty lines stay empty. -/
def indentBy (n : Nat) (cs : List Char) : List Char :=
  (lines cs).flatMap (indentLine n)

def indent (n : Nat) (s : String) : String := String.ofList (indentBy n s.toList)

@[simp] theorem indentBy_nil (n : Nat) : indentBy n [] = [] := rfl

@[simp] theorem toList_indent (n : Nat) (s : String) :
    (indent n s).toList = indentBy n s.toList := by
  simp [indent]

end KeyBridge.Text
