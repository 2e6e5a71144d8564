-- SUMMARY: Reading keys from spellings, and the spelling written for a key.
import KeyBridge.Key.Label
import KeyBridge.Text.Blank

/-!
# Spellings of keys

A key can be spelled by its canonical name, by its label or by an alias word, in any ASCII case
and with blank characters around it. The spelling written for a key is its label, or its name in
lower case if it has no label.
-/

namespace KeyBridge

/-- Text with the ASCII capitals made small; all other characters stay. -/
def lowered (s : String) : String := s.map Char.toLower

namespace Key

/-! ## Aliases -/

/-- The word, neither name nor label, that also stands for a key. -/
def aliasWord : Key → Option String
  | .control => some "ctrl"
  | .alt => some "alt"
  | .windows => some "win"
  | .leftControl => some "lctrl"
  | .rightControl => some "rctrl"
  | .escape => some "esc"
  | .enter => some "return"
  | .delete => some "del"
  | .insert => some "ins"
  | .printScreen => some "printscreen"
  | .pageUp => some "pageup"
  | .pageDown => some "pagedown"
  | .leftButton => some "lmb"
  | .rightButton => some "rmb"
  | .middleButton => some "mmb"
  | _ => none

/-! ## Reading -/

/-- The first key whose given word equals `s` but for ASCII case. -/
def findByWord (word : Key → Option String) (s : String) : Option Key :=
  all.find? fun k => (word k).map lowered == some (lowered s)

def ofName? (s : String) : Option Key := findByWord (fun k => some k.name) s

def ofLabel? (s : String) : Option Key := findByWord label s

def ofAlias? (s : String) : Option Key := findByWord aliasWord s

/-- The key of a spelling: names are tried before labels, and labels before aliases. -/
def ofSpelling? (s : String) : Option Key :=
  let word := Text.trim s
  (ofName? word).or ((ofLabel? word).or (ofAlias? word))

/-! ## Writing -/

/-- The spelling written for a key. -/
def spelling (k : Key) : String := k.label.getD (lowered k.name)

def words (k : Key) : List String :=
  lowered k.name :: ((k.label.toList ++ k.aliasWord.toList).map lowered)

end Key

end KeyBridge
