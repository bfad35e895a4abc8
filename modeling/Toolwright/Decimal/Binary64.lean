/-!
# Binary floating point

The finite numbers of the 64-bit binary format, held as what they denote: a sign, a
significand below 2^53 and a power of two. A fraction of two natural numbers has one nearest such
number, of two equally near the one with the even significand (`nearest`); every operation here
is an exact one followed by this rounding, so nothing depends on the machine's arithmetic.
-/

namespace Toolwright.Decimal

/-- A finite number of the 64-bit binary format: the significand times a power of two. -/
structure Binary64 where
  negative : Bool
  significand : Nat
  exponent : Int
  deriving DecidableEq, Repr, Inhabited

/-- The numerator divided by the denominator, to the nearest integer; a half goes to the even one. -/
def roundHalfEven (numerator denominator : Nat) : Nat :=
  let quotient := numerator / denominator
  let remainder := numerator % denominator
  if 2 * remainder < denominator then quotient
  else if denominator < 2 * remainder then quotient + 1
  else if quotient % 2 = 0 then quotient
  else quotient + 1

/-- The fraction times a power of two, as a fraction. -/
def scaleByTwo (numerator denominator : Nat) (power : Int) : Nat × Nat :=
  match power with
  | .ofNat k => (numerator * Nat.pow 2 k, denominator)
  | .negSucc k => (numerator, denominator * Nat.pow 2 (k + 1))

namespace Binary64

/-- Zero with a sign. -/
def zero (negative : Bool) : Binary64 := ⟨negative, 0, -1074⟩

/-- The same number with the other sign. -/
def negate (x : Binary64) : Binary64 := { x with negative := !x.negative }

/-- The greatest `k` with 2^k at most the fraction of two positive numbers. -/
def binaryOrder (numerator denominator : Nat) : Int :=
  let guess : Int := (numerator.log2 : Int) - (denominator.log2 : Int)
  let (scaled, unit) := scaleByTwo numerator denominator (-guess)
  if unit ≤ scaled then guess else guess - 1

/-- The nearest number to a fraction, or nothing if the fraction lies beyond the greatest one. -/
def nearest? (negative : Bool) (numerator denominator : Nat) : Option Binary64 :=
  if numerator = 0 then some (zero negative)
  else
    let exponent := max (binaryOrder numerator denominator - 52) (-1074)
    let (scaled, unit) := scaleByTwo numerator denominator (-exponent)
    let significand := roundHalfEven scaled unit
    let (significand, exponent) :=
      if significand = Nat.pow 2 53 then (Nat.pow 2 52, exponent + 1) else (significand, exponent)
    if 971 < exponent then none else some ⟨negative, significand, exponent⟩

/-- The nearest number to an integer; every integer below 2^1023 has one. -/
def ofInt? (n : Int) : Option Binary64 :=
  nearest? (n < 0) n.natAbs 1

/-- The magnitude as a fraction. -/
def fraction (x : Binary64) : Nat × Nat :=
  scaleByTwo x.significand 1 x.exponent

/-- The product, rounded; nothing if it is too large. -/
def mul? (x y : Binary64) : Option Binary64 :=
  let (a, b) := x.fraction
  let (c, d) := y.fraction
  nearest? (x.negative != y.negative) (a * c) (b * d)

/-- The quotient by a number that is not zero, rounded; nothing if it is too large. -/
def div? (x y : Binary64) : Option Binary64 :=
  let (a, b) := x.fraction
  let (c, d) := y.fraction
  nearest? (x.negative != y.negative) (a * d) (b * c)

/-- The nearest number to a power of ten that is not too large for the format. -/
def powerOfTen (k : Nat) : Binary64 :=
  (nearest? false (Nat.pow 10 k) 1).getD (zero false)

/-- The nearest number to the significand times a power of ten. -/
def ofDecimal? (negative : Bool) (significand : Nat) (power : Int) : Option Binary64 :=
  match power with
  | .ofNat k =>
    if significand = 0 then some (zero negative)
    else if 400 < k then none
    else nearest? negative (significand * Nat.pow 10 k) 1
  | .negSucc k => nearest? negative significand (Nat.pow 10 (k + 1))

/-- Whether two numbers are equal as numbers: the two zeros are. -/
def same (x y : Binary64) : Bool :=
  x == y || (x.significand == 0 && y.significand == 0)

end Binary64

end Toolwright.Decimal
