-- SUMMARY: The shortest decimal that reads back as a given binary fraction.
import KeyBridge.Number.Binary

/-!
# Shortest decimals

A binary fraction with a limited number of bits stands for every real number that rounds to it.
Its shortest decimal is the number with the fewest digits among those; of two with equally many
digits the nearer one is taken, and of two equally near ones the greater.

The search goes through the grids of multiples of `10 ^ k` from coarse to fine and looks at the
two neighbours of the value on each grid. The first grid that has a hit gives the digits.
-/

namespace KeyBridge

/-! ## Decimals -/

/-- The number `digits * 10 ^ exponent`. -/
structure Decimal where
  digits : Nat
  exponent : Int
deriving DecidableEq, Repr

namespace Decimal

def digitText (n : Nat) : List Char := Nat.toDigits 10 n

/-- The exponent of the first digit: the power of ten that it counts. -/
def leading (d : Decimal) : Int := d.exponent + (digitText d.digits).length - 1

/-- Positional text: all digits, without exponent and without a point after whole numbers. -/
def positional (d : Decimal) : List Char :=
  let text := digitText d.digits
  if 0 ≤ d.exponent then text ++ List.replicate d.exponent.toNat '0'
  else
    let places := (-d.exponent).toNat
    if places < text.length then
      text.take (text.length - places) ++ '.' :: text.drop (text.length - places)
    else '0' :: '.' :: (List.replicate (places - text.length) '0' ++ text)

/-- Scientific text: one digit in front of the point, then the power of ten. -/
def scientific (d : Decimal) : List Char :=
  let mantissa := match digitText d.digits with
    | [] => []
    | [c] => [c]
    | c :: cs => c :: '.' :: cs
  mantissa ++ 'e' :: (toString d.leading).toList

end Decimal

/-! ## The reals that round to a fraction -/

/-- The reals that round to a binary fraction, in units of a quarter of its last bit: the value,
the distances to both ends, and whether the ends belong to it. -/
structure Neighbourhood where
  value : Nat
  below : Nat
  above : Nat
  closed : Bool
  exponent : Int
deriving DecidableEq, Repr

namespace Neighbourhood

/-- The reals that round to `b`. The fraction below a power of two (`narrow`) is half as far away
as the one above it; a number half way between two fractions rounds to the even one. -/
def ofBinary (b : Binary) (narrow : Bool) : Neighbourhood where
  value := 4 * b.significand
  below := if narrow then 1 else 2
  above := 2
  closed := b.significand % 2 = 0
  exponent := b.exponent - 2

/-- `num * 10 ^ k` and `unit * 2 ^ exponent`, brought to one scale by clearing denominators. -/
def scales (k exponent : Int) : Nat × Nat :=
  (Nat.pow 10 k.toNat * Nat.pow 2 (-exponent).toNat,
    Nat.pow 2 exponent.toNat * Nat.pow 10 (-k).toNat)

/-- Whether `candidate * 10 ^ k` rounds to the fraction; `ten` and `two` are the scales of `k`. -/
def admits (n : Neighbourhood) (ten two candidate : Nat) : Bool :=
  let c := candidate * ten
  let lo := (n.value - n.below) * two
  let hi := (n.value + n.above) * two
  if n.closed then lo ≤ c && c ≤ hi else lo < c && c < hi

/-- The multiple of `10 ^ k` that rounds to the fraction, the nearest of them, if there is one. -/
def onGrid? (n : Neighbourhood) (k : Int) : Option Nat :=
  let (ten, two) := scales k n.exponent
  let v := n.value * two
  let low := v / ten
  let high := low + 1
  match n.admits ten two low, n.admits ten two high with
  | true, true => if v - low * ten < high * ten - v then some low else some high
  | true, false => some low
  | false, true => some high
  | false, false => none

/-- The first grid from `10 ^ k` on, each ten times finer than the one before, with a multiple
that rounds to the fraction; at most `fuel` grids are tried before the value itself is taken. -/
def search (n : Neighbourhood) (k : Int) : Nat → Decimal
  | 0 => ⟨0, k⟩
  | fuel + 1 =>
    match n.onGrid? k with
    | some digits => ⟨digits, k⟩
    | none => n.search (k - 1) fuel

end Neighbourhood

/-- The shortest decimal of a binary fraction; `narrow` says that the fraction below it is half as
far away as the one above it. The value itself lies on the grid of its last binary place, which
bounds the search. -/
def Binary.shortest (b : Binary) (narrow : Bool) : Decimal :=
  let (num, den) := b.ratio
  let start := (Decimal.digitText (num / den)).length
  (Neighbourhood.ofBinary b narrow).search start (start + (-b.exponent).toNat + 1)

end KeyBridge
