-- SUMMARY: Durations, their text in milliseconds and their text in descriptions.
import KeyBridge.Number.Shortest

/-!
# Durations

A duration is a whole number of nanoseconds. Statements give it in milliseconds, computed in
double precision; descriptions of values give it in the largest unit that it fills.
-/

namespace KeyBridge

/-- A length of time, in nanoseconds. -/
structure Duration where
  nanos : Nat
deriving DecidableEq, Repr

namespace Duration

protected def zero : Duration := ⟨0⟩

def ofSeconds (seconds nanos : Nat) : Duration := ⟨seconds * Nat.pow 10 9 + nanos⟩

def ofMillis (millis : Nat) : Duration := ⟨millis * Nat.pow 10 6⟩

def isZero (d : Duration) : Bool := d.nanos = 0

/-! ## Milliseconds -/

/-- The bits of a double-precision significand. -/
def precision : Nat := 53

/-- The milliseconds of a duration: its nanoseconds in double precision, divided by a million in
double precision. -/
def millis (d : Duration) : Binary :=
  let (num, den) := (Binary.ofRatio precision d.nanos 1).ratio
  Binary.ofRatio precision num (den * Nat.pow 10 6)

/-- The text of a duration in milliseconds, without a point for whole numbers. -/
def millisText (d : Duration) : String :=
  if d.isZero then "0"
  else
    let b := d.millis
    String.ofList (b.shortest (b.significand = Nat.pow 2 (precision - 1))).positional

/-! ## Descriptions -/

/-- The digits of `part / 10 ^ places` after the point, without zeros at the end. -/
def fraction (part : Nat) : Nat → List Char
  | 0 => []
  | places + 1 =>
    if part = 0 then []
    else Decimal.digitText (part / Nat.pow 10 places)
      ++ fraction (part % Nat.pow 10 places) places

/-- A whole number and `places` decimal places of `part`, in a unit. -/
def shownIn (unit : String) (whole part places : Nat) : String :=
  let tail := fraction part places
  let point := if tail.isEmpty then [] else ['.']
  String.ofList (Decimal.digitText whole ++ point ++ tail) ++ unit

def shown (d : Duration) : String :=
  let shownBy (unit : String) (places : Nat) : String :=
    shownIn unit (d.nanos / Nat.pow 10 places) (d.nanos % Nat.pow 10 places) places
  if Nat.pow 10 9 ≤ d.nanos then shownBy "s" 9
  else if Nat.pow 10 6 ≤ d.nanos then shownBy "ms" 6
  else if Nat.pow 10 3 ≤ d.nanos then shownBy "µs" 3
  else shownIn "ns" d.nanos 0 0

end Duration

end KeyBridge
