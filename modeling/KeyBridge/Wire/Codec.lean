-- SUMMARY: Messages as bytes: 16-bit units, low byte first, ended by a zero unit.
/-!
# The wire format

On the wire a message is its UTF-16 units, each with the low byte first, and a zero unit after
them. Reading stops at the first zero unit, ignores an odd byte at the end and puts the replacement
character in the place of each surrogate without a partner.
-/

namespace KeyBridge.Wire

/-! ## Units -/

/-- The UTF-16 units of a character: one in the basic plane, else a pair of surrogates. -/
def unitsOfChar (c : Char) : List UInt16 :=
  let n := c.toNat
  if n < 0x10000 then [UInt16.ofNat n]
  else
    [UInt16.ofNat (0xD800 + (n - 0x10000) / 0x400), UInt16.ofNat (0xDC00 + (n - 0x10000) % 0x400)]

def units (cs : List Char) : List UInt16 := cs.flatMap unitsOfChar

/-- Whether a unit is the first of a pair of surrogates. -/
def isHigh (u : UInt16) : Bool := 0xD800 ≤ u.toNat && u.toNat < 0xDC00

/-- Whether a unit is the second of a pair of surrogates. -/
def isLow (u : UInt16) : Bool := 0xDC00 ≤ u.toNat && u.toNat < 0xE000

def charOfPair (high low : UInt16) : Char :=
  Char.ofNat (0x10000 + (high.toNat - 0xD800) * 0x400 + (low.toNat - 0xDC00))

/-- The character that stands for what cannot be read. -/
def replacement : Char := '\uFFFD'

/-- The text of units; each surrogate without a partner becomes the replacement character. -/
def charsOfUnits : List UInt16 → List Char
  | [] => []
  | [u] => if isHigh u || isLow u then [replacement] else [Char.ofNat u.toNat]
  | u :: v :: rest =>
    if isHigh u then
      if isLow v then charOfPair u v :: charsOfUnits rest
      else replacement :: charsOfUnits (v :: rest)
    else if isLow u then replacement :: charsOfUnits (v :: rest)
    else Char.ofNat u.toNat :: charsOfUnits (v :: rest)

/-! ## Bytes -/

def bytesOfUnit (u : UInt16) : List UInt8 :=
  [UInt8.ofNat (u.toNat % 256), UInt8.ofNat (u.toNat / 256)]

/-- The units of bytes; an odd byte at the end is left out. -/
def unitsOfBytes : List UInt8 → List UInt16
  | low :: high :: rest => UInt16.ofNat (low.toNat + 256 * high.toNat) :: unitsOfBytes rest
  | _ => []

/-! ## Messages -/

def encode (s : String) : List UInt8 := (units s.toList ++ [0]).flatMap bytesOfUnit

def decode (bytes : List UInt8) : String :=
  String.ofList (charsOfUnits ((unitsOfBytes bytes).takeWhile (· ≠ 0)))

end KeyBridge.Wire
