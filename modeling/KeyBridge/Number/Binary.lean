-- SUMMARY: Binary fractions and the rounding of ratios to them.
/-!
# Binary fractions

A binary fraction is a whole number times a power of two. `Binary.ofRatio` gives the fraction of
a given number of significant bits that is nearest to a ratio of two whole numbers; a ratio half
way between two neighbours goes to the one whose last bit is zero.
-/

namespace KeyBridge

/-! ## Rounded division -/

/-- The whole number nearest to `num / den`; a half goes to the even neighbour. -/
def roundDiv (num den : Nat) : Nat :=
  let below := num / den
  let twice := 2 * (num % den)
  if twice < den then below
  else if den < twice then below + 1
  else if below % 2 = 0 then below else below + 1

/-! ## Fractions -/

/-- The number `significand * 2 ^ exponent`. -/
structure Binary where
  significand : Nat
  exponent : Int
deriving DecidableEq, Repr

namespace Binary

/-- The ratio `num / den` as a numerator and a denominator over `2 ^ exponent`. -/
def overPower (num den : Nat) (exponent : Int) : Nat × Nat :=
  (num * Nat.pow 2 (-exponent).toNat, den * Nat.pow 2 exponent.toNat)

/-- The exponent for which `num / den` has `bits` bits in front of the point. -/
def scaleFor (bits num den : Nat) : Int :=
  let guess : Int := (num.log2 : Int) - (den.log2 : Int) - (bits : Int) + 1
  let (n, d) := overPower num den guess
  if n / d < Nat.pow 2 (bits - 1) then guess - 1 else guess

/-- The binary fraction of `bits` significant bits nearest to `num / den`. -/
def ofRatio (bits num den : Nat) : Binary :=
  if num = 0 then ⟨0, 0⟩
  else
    let exponent := scaleFor bits num den
    let (n, d) := overPower num den exponent
    let m := roundDiv n d
    if m = Nat.pow 2 bits then ⟨Nat.pow 2 (bits - 1), exponent + 1⟩ else ⟨m, exponent⟩

def ratio (b : Binary) : Nat × Nat :=
  (b.significand * Nat.pow 2 b.exponent.toNat, Nat.pow 2 (-b.exponent).toNat)

end Binary

end KeyBridge
