import Toolwright.Json.Basic
import Toolwright.Json.Fault

/-!
# Reading JSON numbers

An integer that fits 64 bits is read as such. Every other number is a real, read from a
significand of at most 64 bits and a power of ten: digits beyond those bits only move the power. The
significand is rounded to a real, and that real is multiplied or divided by the power, rounding
again, so the last place of the result can differ from the nearest real to the text.
-/

namespace Toolwright.Json

open Decimal

/-- What a step of reading gives: a value and the bytes after it. -/
abbrev Read (α : Type) := Except Fault (α × List UInt8)

/-- A fault at the end of what has been read. -/
def faultHere {α : Type} (cause : Cause) (rest : List UInt8) : Except Fault α :=
  .error ⟨cause, rest.length⟩

/-- A fault at the next byte, which counts as read. -/
def faultAtNext {α : Type} (cause : Cause) (rest : List UInt8) : Except Fault α :=
  .error ⟨cause, rest.length - 1⟩

/-- Whether a byte is an ASCII digit. -/
def isDigitByte (b : UInt8) : Bool := 48 ≤ b && b ≤ 57

/-- The number a digit denotes. -/
def digitValue (b : UInt8) : Nat := b.toNat - 48

/-- The greatest significand. -/
def maxSignificand : Nat := 0xFFFFFFFFFFFFFFFF

/-- The bytes after the digits at the front. -/
def skipDigits : List UInt8 → List UInt8
  | b :: rest => if isDigitByte b then skipDigits rest else b :: rest
  | [] => []

/-- A real times a power of ten. Powers beyond those of the format are divided off in steps
of 10^308; the first argument bounds their number, and past 40 steps every real is zero. -/
def timesPowerOfTen : Nat → Binary64 → Int → Option Binary64
  | 0, x, _ => some (Binary64.zero x.negative)
  | steps + 1, x, exponent =>
    if exponent.natAbs ≤ 308 then
      if 0 ≤ exponent then x.mul? (Binary64.powerOfTen exponent.natAbs)
      else x.div? (Binary64.powerOfTen exponent.natAbs)
    else if x.significand = 0 then some x
    else if 0 ≤ exponent then none
    else
      match x.div? (Binary64.powerOfTen 308) with
      | some y => timesPowerOfTen steps y (exponent + 308)
      | none => none

/-- The real made of a significand and a power of ten. -/
def realOfParts (negative : Bool) (significand : Nat) (exponent : Int) (rest : List UInt8) :
    Read Number :=
  let start := (Binary64.ofInt? significand).getD (Binary64.zero false)
  match timesPowerOfTen 40 start exponent with
  | some x => .ok (.real (if negative then x.negate else x), rest)
  | none => faultHere .numberOutOfRange rest

/-- The digits of an exponent read so far, more digits, and the end of the number. -/
def exponentDigits (negative : Bool) (significand : Nat) (start : Int) (positive : Bool) :
    Nat → List UInt8 → Read Number
  | exponent, b :: rest =>
    if isDigitByte b then
      let next := exponent * 10 + digitValue b
      if 0x7FFFFFFF < next then
        if significand ≠ 0 ∧ positive then faultHere .numberOutOfRange rest
        else .ok (.real (Binary64.zero negative), skipDigits rest)
      else exponentDigits negative significand start positive next rest
    else
      realOfParts negative significand (if positive then start + exponent else start - exponent)
        (b :: rest)
  | exponent, [] =>
    realOfParts negative significand (if positive then start + exponent else start - exponent) []

/-- The exponent after its letter. -/
def exponentPart (negative : Bool) (significand : Nat) (start : Int) (rest : List UInt8) :
    Read Number :=
  let (positive, rest) :=
    match rest with
    | 43 :: rest => (true, rest)
    | 45 :: rest => (false, rest)
    | rest => (true, rest)
  match rest with
  | [] => faultHere .endInValue rest
  | b :: rest =>
    if isDigitByte b then exponentDigits negative significand start positive (digitValue b) rest
    else faultHere .invalidNumber rest

/-- What follows the last digit of the significand: an exponent, or the end of the number. -/
def afterDigits (negative : Bool) (significand : Nat) (exponent : Int) : List UInt8 → Read Number
  | b :: rest =>
    if b = 101 ∨ b = 69 then exponentPart negative significand exponent rest
    else realOfParts negative significand exponent (b :: rest)
  | [] => realOfParts negative significand exponent []

/-- The digits after the point. `count` of them have been read. -/
def fractionDigits (negative : Bool) (exponent : Int) : Nat → Nat → List UInt8 → Read Number
  | significand, count, b :: rest =>
    if isDigitByte b then
      let next := significand * 10 + digitValue b
      if maxSignificand < next then
        afterDigits negative significand (exponent - count) (skipDigits rest)
      else fractionDigits negative exponent next (count + 1) rest
    else if count = 0 then faultAtNext .invalidNumber (b :: rest)
    else afterDigits negative significand (exponent - count) (b :: rest)
  | significand, count, [] =>
    if count = 0 then faultHere .endInValue []
    else afterDigits negative significand (exponent - count) []

/-- Digits before the point that no longer fit the significand; `count` of them have been read. -/
def longInteger (negative : Bool) (significand : Nat) : Nat → List UInt8 → Read Number
  | count, b :: rest =>
    if isDigitByte b then longInteger negative significand (count + 1) rest
    else if b = 46 then fractionDigits negative count significand 0 rest
    else afterDigits negative significand count (b :: rest)
  | count, [] => afterDigits negative significand count []

/-- The number whose text ends after the digits of an integer. A negative integer below -2^63 and
the negative zero are reals. -/
def integerNumber (negative : Bool) (significand : Nat) : Number :=
  if negative then
    if significand = 0 ∨ 0x8000000000000000 < significand then
      .real ((Binary64.ofInt? significand).getD (Binary64.zero false)).negate
    else .integer (-significand)
  else .integer significand

/-- What follows the digits before the point. -/
def afterInteger (negative : Bool) (significand : Nat) : List UInt8 → Read Number
  | b :: rest =>
    if b = 46 then fractionDigits negative 0 significand 0 rest
    else if b = 101 ∨ b = 69 then exponentPart negative significand 0 rest
    else .ok (integerNumber negative significand, b :: rest)
  | [] => .ok (integerNumber negative significand, [])

/-- The digits before the point after the first, which is not zero. -/
def integerDigits (negative : Bool) : Nat → List UInt8 → Read Number
  | significand, b :: rest =>
    if isDigitByte b then
      let next := significand * 10 + digitValue b
      if maxSignificand < next then longInteger negative significand 1 rest
      else integerDigits negative next rest
    else afterInteger negative significand (b :: rest)
  | significand, [] => afterInteger negative significand []

/-- A number after its sign. -/
def readNumber (negative : Bool) : List UInt8 → Read Number
  | [] => faultHere .endInValue []
  | b :: rest =>
    if b = 48 then
      match rest with
      | d :: _ =>
        if isDigitByte d then faultAtNext .invalidNumber rest else afterInteger negative 0 rest
      | [] => afterInteger negative 0 rest
    else if isDigitByte b then integerDigits negative (digitValue b) rest
    else faultHere .invalidNumber rest

end Toolwright.Json
