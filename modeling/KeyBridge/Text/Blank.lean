-- SUMMARY: Blank characters and the trimming of text.
import KeyBridge.Text.Ranges

/-!
# Blank text

A character is blank if it has the Unicode property White_Space. Text is blank if all of its
characters are; trimming removes blank characters from both ends.
-/

namespace KeyBridge.Text

/-! ## Blank characters -/

/-- The code points with the property White_Space. -/
def blankRanges : List (Nat × Nat) := [
  (0x09, 0x0D), (0x20, 0x20), (0x85, 0x85), (0xA0, 0xA0), (0x1680, 0x1680), (0x2000, 0x200A),
  (0x2028, 0x2029), (0x202F, 0x202F), (0x205F, 0x205F), (0x3000, 0x3000)]

def isBlank (c : Char) : Bool := inRanges c.toNat blankRanges

/-! ## Blank text -/

def allBlank (cs : List Char) : Bool := cs.all isBlank

def trimStart (cs : List Char) : List Char := cs.dropWhile isBlank

def trimEnd (cs : List Char) : List Char := (cs.reverse.dropWhile isBlank).reverse

def trimBoth (cs : List Char) : List Char := trimEnd (trimStart cs)

def trim (s : String) : String := String.ofList (trimBoth s.toList)

def isBlankText (s : String) : Bool := allBlank s.toList

@[simp] theorem allBlank_nil : allBlank [] = true := rfl

@[simp] theorem allBlank_cons (c : Char) (cs : List Char) :
    allBlank (c :: cs) = (isBlank c && allBlank cs) := rfl

@[simp] theorem allBlank_append (cs ds : List Char) :
    allBlank (cs ++ ds) = (allBlank cs && allBlank ds) := by
  simp [allBlank]

@[simp] theorem toList_trim (s : String) : (trim s).toList = trimBoth s.toList := by
  simp [trim]

end KeyBridge.Text
