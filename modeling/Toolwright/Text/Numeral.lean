/-!
# Numerals

Whole numbers in decimal digits, as people and environments write them.
-/

namespace Toolwright.Text

/-- The number with these digits, of which there is one at least, if it is below a bound. -/
def digitsBelow? (bound : Nat) (digits : List Char) : Option Nat :=
  if digits.isEmpty || !digits.all Char.isDigit then none
  else
    let n := digits.foldl (fun n c => n * 10 + (c.toNat - '0'.toNat)) 0
    if n < bound then some n else none

/-- The number that a text denotes, if it is below a bound; a plus sign may stand in front. -/
def naturalBelow? (bound : Nat) : List Char → Option Nat
  | '+' :: digits => digitsBelow? bound digits
  | digits => digitsBelow? bound digits

end Toolwright.Text
