-- SUMMARY: Why a configuration document cannot be read.
import KeyBridge.Text.Shown

/-!
# Document errors

Each error says what was missing or out of place. Messages quote names between backticks and list
what could have stood in their place.
-/

namespace KeyBridge

inductive DocumentError where
  | endOfDocument
  /-- A comment between `/*` and `*/` does not end. -/
  | unclosedComment
  /-- A slash starts no comment. -/
  | strayCharacter (c : Char)
  /-- A line that starts with `#` is no list of extensions. -/
  | expectedExtensions
  | expectedExtensionsEnd
  | unknownExtension (name : String)
  | expectedRecord (record : String)
  /-- The record is named for another one. -/
  | otherRecord (record found : String)
  /-- There is no comma between two fields, and no end after the last one. -/
  | expectedComma
  | expectedColon
  | expectedIdentifier
  | expectedBoolean
  | expectedInteger
  | leadingUnderscore
  /-- A digit does not belong to the base of its number. -/
  | strangeDigit (digit : Char) (base : Nat)
  /-- A number is negative or too large. -/
  | outOfBounds
  | expectedString
  | endOfString
  | unknownEscape
  | expectedOption
  | expectedOptionEnd
  | trailingText
  | unknownField (record : String) (field : String) (fields : List String)
  | repeatedField (record : String) (field : String)
  | unknownVariant (choice : String) (variant : String) (variants : List String)
deriving DecidableEq, Repr

namespace DocumentError

/-- A name between backticks. -/
def named (name : String) : String := "`" ++ name ++ "`"

/-- A list of names: all but the last with a comma, the last after `or`. -/
def listed : List String → String
  | [] => ""
  | [name] => "or " ++ named name
  | name :: rest => named name ++ ", " ++ listed rest

/-- What could have stood in the place of a name. -/
def alternatives : List String → String
  | [] => "none"
  | [name] => named name
  | [name, other] => "either " ++ named name ++ " or " ++ named other
  | names => "one of " ++ listed names

def message : DocumentError → String
  | .endOfDocument => "Unexpected end of RON"
  | .unclosedComment => "Unclosed block comment"
  | .strayCharacter c => "Unexpected char '" ++ String.ofList (Text.shownChar true c) ++ "'"
  | .expectedExtensions => "Expected an `#![enable(...)]` attribute"
  | .expectedExtensionsEnd => "Expected closing `)]` after the enable attribute"
  | .unknownExtension name => "No RON extension named " ++ named name
  | .expectedRecord record => "Expected opening `(` for struct " ++ named record
  | .otherRecord record found => "Expected struct " ++ named record ++ " but found " ++ named found
  | .expectedComma => "Expected comma"
  | .expectedColon => "Expected colon"
  | .expectedIdentifier => "Expected identifier"
  | .expectedBoolean => "Expected boolean"
  | .expectedInteger => "Expected integer"
  | .leadingUnderscore => "Unexpected leading underscore in a number"
  | .strangeDigit digit base =>
    "Invalid digit '" ++ String.ofList (Text.shownChar true digit) ++ "' for base " ++ toString base
      ++ " integers"
  | .outOfBounds => "Integer is out of bounds"
  | .expectedString => "Expected string"
  | .endOfString => "Expected end of string"
  | .unknownEscape => "Unknown escape character"
  | .expectedOption => "Expected option"
  | .expectedOptionEnd => "Expected closing `)`"
  | .trailingText => "Non-whitespace trailing characters"
  | .unknownField record field fields =>
    "Unexpected field named " ++ named field ++ " in " ++ named record ++ ", expected "
      ++ alternatives fields ++ " instead"
  | .repeatedField record field =>
    "Unexpected duplicate field named " ++ named field ++ " in " ++ named record
  | .unknownVariant choice variant variants =>
    "Unexpected variant named " ++ named variant ++ " in enum " ++ named choice ++ ", expected "
      ++ alternatives variants ++ " instead"

end DocumentError

end KeyBridge
