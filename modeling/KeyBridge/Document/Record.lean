-- SUMMARY: Reading records of named fields from configuration documents.
import KeyBridge.Document.Reader

/-!
# Records

A document may start with a list of extensions and then holds one record: its name, which may be
missing, and its fields between parentheses, in any order. Fields that are missing keep their
defaults.
-/

namespace KeyBridge.Document

/-- A kind of record: its name, the names of its fields, and how the value of a field is read into
a record. -/
structure RecordKind (ρ : Type) where
  name : String
  fields : List String
  readField : String → ρ → Reader ρ

/-! ## Extensions -/

/-- The text after some pieces with blanks between them. -/
def afterPieces (pieces : List String) (error : DocumentError) (cs : List Char) :
    Except DocumentError (List Char) :=
  pieces.foldlM (fun cs piece =>
    if piece.toList.isPrefixOf cs then skip (cs.drop piece.length) else .error error) cs

/-- The extension that makes the mark of optional values dispensable. -/
def implicitSome : String := "implicit_some"

def readExtensionNames : Nat → List Char → Except DocumentError (List String × List Char)
  | 0, cs => .ok ([], cs)
  | fuel + 1, cs => do
    let (name, cs) ← readName cs
    if name ≠ implicitSome then throw (.unknownExtension name)
    let (more, cs) ← readComma cs
    if more && cs.head? ≠ some ')' then
      let (names, cs) ← readExtensionNames fuel cs
      return (name :: names, cs)
    else return ([name], cs)

def readExtensions (cs : List Char) : Except DocumentError (List String × List Char) := do
  let cs ← skip cs
  if cs.head? = some '#' then
    let cs ← afterPieces ["#", "!", "[", "enable", "("] .expectedExtensions cs
    let (names, cs) ← readExtensionNames cs.length cs
    let cs ← afterPieces [")", "]"] .expectedExtensionsEnd (← skip cs)
    return (names, cs)
  else return ([], cs)

/-! ## Records -/

/-- The text after the name of a record, which may be missing, and its opening parenthesis. -/
def afterOpening (record : String) (cs : List Char) : Except DocumentError (List Char) := do
  let cs ←
    if (cs.head?.map Text.isWordChar).getD false then
      match readName cs with
      | .ok (found, cs) => if found = record then pure cs else throw (.otherRecord record found)
      | .error _ => throw (.expectedRecord record)
    else pure cs
  match ← skip cs with
  | '(' :: cs => return cs
  | _ => throw (.expectedRecord record)

/-- Reads the fields of a record up to its closing parenthesis. `ready` says whether a field may
come next, that is whether the text stands at the start or after a comma; `seen` holds the fields
that have values already. Each field takes at least one character, so `fuel` suffices if it is not
less than the length of the text. -/
def readFields {ρ : Type} (kind : RecordKind ρ) :
    Nat → Bool → List String → ρ → List Char → Except DocumentError (ρ × List Char)
  | 0, _, _, _, _ => .error .endOfDocument
  | fuel + 1, ready, seen, record, cs => do
    match ← skip cs with
    | ')' :: cs => return (record, cs)
    | cs =>
      if !ready then throw .expectedComma
      let (field, cs) ← readName cs
      if field ∉ kind.fields then throw (.unknownField kind.name field kind.fields)
      if field ∈ seen then throw (.repeatedField kind.name field)
      match ← skip cs with
      | ':' :: cs =>
        let (record, cs) ← kind.readField field record (← skip cs)
        let (ready, cs) ← readComma cs
        readFields kind fuel ready (field :: seen) record cs
      | _ => throw .expectedColon

/-- Reads a document that holds one record; `kind` gets to know whether the mark of optional
values is dispensable. -/
def readRecord {ρ : Type} (kind : Bool → RecordKind ρ) (defaults : ρ) (text : String) :
    Except DocumentError ρ := do
  let (extensions, cs) ← readExtensions text.toList
  let kind := kind (extensions.contains implicitSome)
  let cs ← afterOpening kind.name cs
  let (record, cs) ← readFields kind (cs.length + 1) true [] defaults cs
  if (← skip cs).isEmpty then return record else throw .trailingText

end KeyBridge.Document
