/-!
# Percent encoding

Characters that may not stand in some part of a URL are written as the bytes of their UTF-8 form, each as
a percent sign and two digits in base sixteen.
-/

namespace Toolwright.Text

/-- A digit in base sixteen. -/
def hexDigit (n : Nat) : Char :=
  if n < 10 then Char.ofNat ('0'.toNat + n) else Char.ofNat ('A'.toNat + (n - 10))

/-- A byte as a percent sign and two digits. -/
def percentByte (b : UInt8) : List Char :=
  ['%', hexDigit (b.toNat / 16), hexDigit (b.toNat % 16)]

/-- The text with every character encoded that is not ASCII, is a control character or satisfies
`isReserved`. -/
def percentEncode (isReserved : Char → Bool) (text : List Char) : List Char :=
  text.flatMap fun c =>
    if c.toNat < 0x20 || c.toNat > 0x7e || isReserved c then
      c.toString.toUTF8.toList.flatMap percentByte
    else [c]

/-- The value of a digit in base sixteen. -/
def hexDigitValue? (c : Char) : Option Nat :=
  if c.isDigit then some (c.toNat - '0'.toNat)
  else if 'a' ≤ c.toLower && c.toLower ≤ 'f' then some (c.toLower.toNat - 'a'.toNat + 10)
  else none

/-- The bytes of a text in which percent signs with two digits are decoded. -/
def percentDecode : List Char → List UInt8
  | '%' :: a :: b :: rest =>
    match hexDigitValue? a, hexDigitValue? b with
    | some high, some low => (high * 16 + low).toUInt8 :: percentDecode rest
    | _, _ => '%'.toString.toUTF8.toList ++ percentDecode (a :: b :: rest)
  | c :: rest => c.toString.toUTF8.toList ++ percentDecode rest
  | [] => []

end Toolwright.Text
