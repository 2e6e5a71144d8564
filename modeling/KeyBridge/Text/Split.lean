-- SUMMARY: Splitting text at the first place where a separator stands.
/-!
# Splitting

`splitOnce` cuts a text in two at the first occurrence of a separator.
-/

namespace KeyBridge.Text

/-- Text before and after the first place where a separator stands. -/
def splitOnce (separator : List Char) : List Char → Option (List Char × List Char)
  | [] => none
  | c :: cs =>
    if separator.isPrefixOf (c :: cs) then some ([], (c :: cs).drop separator.length)
    else (splitOnce separator cs).map fun p => (c :: p.1, p.2)

end KeyBridge.Text
