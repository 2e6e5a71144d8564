-- SUMMARY: Replacing one piece of text by another.
/-!
# Replacement

`replaceAll` puts new text in the place of every occurrence of an old one. Occurrences are taken
from the left and do not overlap; what was put in is not looked at again.
-/

namespace KeyBridge.Text

/-- Replaces the occurrences of a text after as many characters as are to be left out first. -/
def replaceAfter (old new : List Char) : Nat → List Char → List Char
  | _, [] => []
  | skip + 1, _ :: cs => replaceAfter old new skip cs
  | 0, c :: cs =>
    if old.isPrefixOf (c :: cs) then new ++ replaceAfter old new (old.length - 1) cs
    else c :: replaceAfter old new 0 cs

def replaceAll (old new s : String) : String :=
  String.ofList (replaceAfter old.toList new.toList 0 s.toList)

end KeyBridge.Text
