import Toolwright.Decimal.Binary64

/-!
# The fewest digits that read back

A number of the binary format is nearest to every real in a small interval around it. The shortest
decimal in that interval is searched grid by grid: the decimals with one digit, then those
with two, and so on. On each grid only the two neighbours of the number can be the nearest
hit, so the first grid on which one of them lies in the interval gives the text; of two hits
the nearer one is taken, and of two equally near ones the even one.
-/

namespace Toolwright.Decimal

/-- A positive decimal: an integer times a power of ten. -/
structure Digits where
  value : Nat
  power : Int
  deriving DecidableEq, Repr, Inhabited

/-- The reals that round to a positive number, in units of a quarter of the last place: the bounds,
the number between them, and whether the bounds belong to the interval. -/
structure RoundingInterval where
  low : Nat
  middle : Nat
  high : Nat
  closed : Bool

/-- The interval around a positive number, in units of 2^(exponent - 2). Below a power of two
the numbers lie twice as close as above it. -/
def Binary64.interval (x : Binary64) : RoundingInterval :=
  let m := 4 * x.significand
  let below := if x.significand = Nat.pow 2 52 ∧ -1074 < x.exponent then 1 else 2
  ⟨m - below, m, m + 2, x.significand % 2 = 0⟩

/-- The decimal on the grid of multiples of `grid` that reads back, if there is one; all
quantities are over the same denominator. -/
def RoundingInterval.hit? (i : RoundingInterval) (unit grid : Nat) : Option Nat :=
  let middle := i.middle * unit
  let low := i.low * unit
  let high := i.high * unit
  let below := middle / grid
  let above := below + 1
  let inside := fun (k : Nat) =>
    if i.closed then low ≤ k * grid && k * grid ≤ high else low < k * grid && k * grid < high
  let belowGap := middle - below * grid
  let aboveGap := above * grid - middle
  match inside below && 0 < below, inside above with
  | true, true =>
    if belowGap < aboveGap then some below
    else if aboveGap < belowGap then some above
    else if below % 2 = 0 then some below
    else some above
  | true, false => some below
  | false, true => some above
  | false, false => none

/-- The first hit on the grids 10^power, 10^(power - 1), …; `unit` over `denominator` is the unit of
the interval. The number of grids is bounded by the first argument. -/
def RoundingInterval.firstHit (i : RoundingInterval) (unit denominator : Nat) : Nat → Int → Digits
  | 0, power => ⟨0, power⟩
  | grids + 1, power =>
    let (scaledUnit, grid) :=
      match power with
      | .ofNat k => (unit, denominator * Nat.pow 10 k)
      | .negSucc k => (unit * Nat.pow 10 (k + 1), denominator)
    match i.hit? scaledUnit grid with
    | some k => ⟨k, power⟩
    | none => i.firstHit unit denominator grids (power - 1)

/-- The shortest decimal that reads back as a positive number, the nearest of those. -/
def Binary64.shortest (x : Binary64) : Digits :=
  let (unit, denominator) := scaleByTwo 1 1 (x.exponent - 2)
  let order : Int := (x.significand.log2 : Int) + x.exponent
  -- a power of ten above the number: log10 2 lies between 301 and 302 thousandths
  let top : Int := if 0 ≤ order then order * 302 / 1000 + 1 else order * 301 / 1000 + 1
  x.interval.firstHit unit denominator 25 top

/-- How the number text is laid out. -/
structure RealFormat where
  /-- The smallest exponent of the first digit that is written without an exponent. -/
  leastPositional : Int
  /-- The smallest exponent of the first digit that is written with an exponent again. -/
  firstScientific : Int
  /-- What stands between the digits and the digits of a positive exponent. -/
  positiveExponent : String
  /-- What stands between the digits and the digits of a negative exponent. -/
  negativeExponent : String
  /-- What follows the digits of an integer written without an exponent. -/
  integerSuffix : String

/-- A text repeated. -/
def zeros (n : Nat) : String := String.ofList (List.replicate n '0')

/-- The decimal digits of a positive decimal without the zeros at the end, with the exponent
of the first digit. -/
def Digits.normal (d : Digits) : List Char × Int :=
  let all := Nat.toDigits 10 d.value
  let kept := ((all.reverse.dropWhile (· == '0')).reverse)
  (kept, d.power + all.length - 1)

/-- The text of a number's magnitude in a format, from its digits and the exponent of the first. -/
def RealFormat.layOut (f : RealFormat) (digits : List Char) (exponent : Int) : String :=
  if f.leastPositional ≤ exponent ∧ exponent < f.firstScientific then
    if exponent < 0 then
      "0." ++ zeros ((-exponent).toNat - 1) ++ String.ofList digits
    else
      let before := exponent.toNat + 1
      if digits.length ≤ before then
        String.ofList digits ++ zeros (before - digits.length) ++ f.integerSuffix
      else
        String.ofList (digits.take before) ++ "." ++ String.ofList (digits.drop before)
  else
    let tail := digits.drop 1
    String.ofList (digits.take 1) ++ (if tail.isEmpty then "" else "." ++ String.ofList tail) ++
      (if exponent < 0 then f.negativeExponent else f.positiveExponent) ++ toString exponent.natAbs

/-- The text of a number in a format. -/
def Binary64.render (f : RealFormat) (x : Binary64) : String :=
  let magnitude :=
    if x.significand = 0 then "0" ++ f.integerSuffix
    else
      let (digits, exponent) := x.shortest.normal
      f.layOut digits exponent
  if x.negative then "-" ++ magnitude else magnitude

end Toolwright.Decimal
