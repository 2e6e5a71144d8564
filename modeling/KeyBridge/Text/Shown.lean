-- SUMMARY: Text shown between double quotes with its special characters spelled out.
import KeyBridge.Text.Printable

/-!
# Shown text

Descriptions of values show text between double quotes: NUL, tab, carriage return and line feed
as a backslash and a letter (`0`, `t`, `r`, `n`), quotes and backslashes after a backslash, and
every other character that is not printable by its code point in braces.
-/

namespace KeyBridge.Text

/-- The hexadecimal digits of a number, small and without leading zeros. -/
def hexDigits (n : Nat) : List Char := Nat.toDigits 16 n

/-- A character as shown text spells it; `single` says whether single quotes are escaped too. -/
def shownChar (single : Bool) (c : Char) : List Char :=
  if c = '\x00' then ['\\', '0']
  else if c = '\t' then ['\\', 't']
  else if c = '\r' then ['\\', 'r']
  else if c = '\n' then ['\\', 'n']
  else if c = '\\' || c = '"' || (single && c = '\'') then ['\\', c]
  else if isPrintable c then [c]
  else ['\\', 'u', '\x7b'] ++ hexDigits c.toNat ++ ['\x7d']

def shown (s : String) : String :=
  String.ofList ('"' :: s.toList.flatMap (shownChar false) ++ ['"'])

/-- Text as documents hold it: single quotes are escaped too. -/
def shownInDocument (s : String) : String :=
  String.ofList ('"' :: s.toList.flatMap (shownChar true) ++ ['"'])

end KeyBridge.Text
