import Toolwright.Yaml.Error

/-!
# From bytes to characters

A YAML text is UTF-8. Every sequence is checked as it is decoded, and so is every character:
apart from tab, line feed, carriage return and next line, control characters are not allowed.
-/

namespace Toolwright.Yaml

/-- The length of a sequence as its first byte tells it, with the bits of that byte. -/
def sequenceHead? (b : UInt8) : Option (Nat × Nat) :=
  let n := b.toNat
  if n < 0x80 then some (1, n)
  else if 0xc0 ≤ n ∧ n < 0xe0 then some (2, n - 0xc0)
  else if 0xe0 ≤ n ∧ n < 0xf0 then some (3, n - 0xe0)
  else if 0xf0 ≤ n ∧ n < 0xf8 then some (4, n - 0xf0)
  else none

/-- Whether a code point is allowed in a text. -/
def isAllowed (n : Nat) : Bool :=
  n == 0x9 || n == 0xa || n == 0xd || (0x20 ≤ n && n ≤ 0x7e) || n == 0x85 ||
    (0xa0 ≤ n && n ≤ 0xd7ff) || (0xe000 ≤ n && n ≤ 0xfffd) || (0x10000 ≤ n && n ≤ 0x10ffff)

/-- The least code point that needs a sequence of a length. -/
def leastOfLength : Nat → Nat
  | 0 | 1 => 0
  | 2 => 0x80
  | 3 => 0x800
  | _ => 0x10000

/-- A sequence of which some bytes are still missing: how many, how many it has in all, and the
bits read so far. -/
structure Partial where
  missing : Nat
  length : Nat
  bits : Nat

/-- Decodes the bytes from an offset on; `seen` are the characters before it, the last one first. When
no sequence is open the next byte begins one. -/
def decodeFrom (offset : Nat) (seen : List Char) : Option Partial → List UInt8 →
    Except EncodingError (List Char)
  | none, [] => .ok seen.reverse
  | some _, [] => .error (.incompleteSequence offset)
  | none, b :: rest =>
    match sequenceHead? b with
    | none => .error (.leadingOctet offset)
    | some (length, bits) =>
      if length = 1 then
        if isAllowed bits then decodeFrom (offset + 1) (Char.ofNat bits :: seen) none rest
        else .error (.controlCharacter offset)
      else if (rest.drop (length - 2)).isEmpty then .error (.incompleteSequence offset)
      else decodeFrom offset seen (some ⟨length - 1, length, bits⟩) rest
  | some ⟨missing, length, bits⟩, b :: rest =>
    if b.toNat / 64 ≠ 2 then .error (.trailingOctet (offset + (length - missing)))
    else
      let bits := bits * 64 + b.toNat % 64
      if 1 < missing then decodeFrom offset seen (some ⟨missing - 1, length, bits⟩) rest
      else if bits < leastOfLength length then .error (.sequenceLength offset)
      else if (0xd800 ≤ bits ∧ bits ≤ 0xdfff) ∨ 0x10ffff < bits then .error (.notACharacter offset)
      else if isAllowed bits then
        decodeFrom (offset + length) (Char.ofNat bits :: seen) none rest
      else .error (.controlCharacter offset)

/-- The characters of a text. -/
def decode (bytes : List UInt8) : Except EncodingError (List Char) :=
  decodeFrom 0 [] none bytes

/-! ### Classes of characters -/

/-- A line break. -/
def isBreak (c : Char) : Bool :=
  c == '\n' || c == '\r' || c == '\u0085' || c == '\u2028' || c == '\u2029'

/-- A blank within a line. -/
def isBlank (c : Char) : Bool := c == ' ' || c == '\t'

/-- A character of anchors, directives and tag handles. -/
def isAlpha (c : Char) : Bool := c.isAlphanum || c == '_' || c == '-'

end Toolwright.Yaml
