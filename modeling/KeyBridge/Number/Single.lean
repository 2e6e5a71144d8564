-- SUMMARY: Single-precision numbers and their text.
import KeyBridge.Number.Shortest

/-!
# Single-precision numbers

Coordinates are single-precision numbers, held by their 32 bits. Their text in statements is the
shortest decimal in positional notation; descriptions of values mark whole numbers by `.0` and
turn to scientific notation for very large and very small ones.
-/

namespace KeyBridge

/-- A single-precision number, by its bit pattern. -/
structure Single where
  bits : UInt32
deriving DecidableEq, Repr

namespace Single

/-! ## Reading the bits -/

/-- The biased exponent, the eight bits after the sign. -/
def biased (x : Single) : Nat := x.bits.toNat / Nat.pow 2 23 % Nat.pow 2 8

/-- The stored part of the significand, the last 23 bits. -/
def stored (x : Single) : Nat := x.bits.toNat % Nat.pow 2 23

def isNegative (x : Single) : Bool := Nat.pow 2 31 ≤ x.bits.toNat

/-- The value of a finite number, without its sign. -/
def magnitude (x : Single) : Binary :=
  if x.biased = 0 then ⟨x.stored, -149⟩ else ⟨x.stored + Nat.pow 2 23, (x.biased : Int) - 150⟩

/-- The shortest decimal of a finite number other than zero, without its sign. -/
def shortest (x : Single) : Decimal :=
  x.magnitude.shortest (x.stored = 0 && 1 < x.biased)

/-! ## Text -/

/-- The text of a number whose finite positive values are written by `zero` and `finite`. -/
def textWith (zero : String) (finite : Decimal → List Char) (x : Single) : String :=
  let sign := if x.isNegative then "-" else ""
  if x.biased = 255 then
    if x.stored = 0 then sign ++ "inf" else "NaN"
  else if x.magnitude.significand = 0 then sign ++ zero
  else sign ++ String.ofList (finite x.shortest)

/-- The text of a number in statements: positional, whole numbers without a point. -/
def text (x : Single) : String := x.textWith "0" Decimal.positional

/-- The text of a finite positive number in descriptions of values: positional from `0.0001` up to
but not including `10 ^ 16`, always with a point, and scientific beyond. -/
def shownDecimal (d : Decimal) : List Char :=
  if d.leading < -4 || 16 ≤ d.leading then d.scientific
  else if 0 ≤ d.exponent then d.positional ++ ['.', '0']
  else d.positional

def shown (x : Single) : String := x.textWith "0.0" shownDecimal

end Single

end KeyBridge
