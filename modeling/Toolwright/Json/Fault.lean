/-!
# What can be wrong with a JSON text

A fault is a cause and a place. While a text is read the place is kept as the number of bytes that
are left, which no step has to keep up to date; it becomes a line and a column only when
the message is made.
-/

namespace Toolwright.Json

/-- Why a text is not a JSON value. -/
inductive Cause where
  | endInValue
  | endInList
  | endInObject
  | endInString
  | expectedColon
  | expectedListCommaOrEnd
  | expectedObjectCommaOrEnd
  | expectedIdent
  | expectedValue
  | invalidEscape
  | invalidNumber
  | numberOutOfRange
  | invalidCodePoint
  | controlCharacter
  | keyNotString
  | loneSurrogate
  | trailingComma
  | trailingCharacters
  | endInHexEscape
  | tooDeep
  deriving DecidableEq, Repr, Inhabited

/-- The wording of a cause. -/
def Cause.text : Cause → String
  | endInValue => "EOF while parsing a value"
  | endInList => "EOF while parsing a list"
  | endInObject => "EOF while parsing an object"
  | endInString => "EOF while parsing a string"
  | expectedColon => "expected `:`"
  | expectedListCommaOrEnd => "expected `,` or `]`"
  | expectedObjectCommaOrEnd => "expected `,` or `\x7d`"
  | expectedIdent => "expected ident"
  | expectedValue => "expected value"
  | invalidEscape => "invalid escape"
  | invalidNumber => "invalid number"
  | numberOutOfRange => "number out of range"
  | invalidCodePoint => "invalid unicode code point"
  | controlCharacter => "control character (\\u0000-\\u001F) found while parsing a string"
  | keyNotString => "key must be a string"
  | loneSurrogate => "lone leading surrogate in hex escape"
  | trailingComma => "trailing comma"
  | trailingCharacters => "trailing characters"
  | endInHexEscape => "unexpected end of hex escape"
  | tooDeep => "recursion limit exceeded"

/-- A cause with the number of bytes behind the place where it was found. -/
structure Fault where
  cause : Cause
  left : Nat
  deriving DecidableEq, Repr, Inhabited

/-- The line of the place behind `seen` bytes, counted from one, and the bytes of that line before
the place. -/
def place : List UInt8 → Nat → Nat → Nat → Nat × Nat
  | _, 0, line, column => (line, column)
  | [], _ + 1, line, column => (line, column)
  | b :: rest, seen + 1, line, column =>
    if b = 10 then place rest seen (line + 1) 0 else place rest seen line (column + 1)

/-- The message of a fault in a text. -/
def Fault.message (fault : Fault) (text : List UInt8) : String :=
  let (line, column) := place text (text.length - fault.left) 1 0
  fault.cause.text ++ " at line " ++ toString line ++ " column " ++ toString column

end Toolwright.Json
