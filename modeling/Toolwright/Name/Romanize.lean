import Toolwright.Name.Script.Alphabet
import Toolwright.Name.Script.Hangul
import Toolwright.Name.Script.Pictograph
import Toolwright.Name.Script.Pinyin

/-!
# Romanisation

Text of any script in the letters and digits of ASCII, character by character. ASCII characters stand for
themselves. All others stand for what their script says, which is nothing for marks and signs
that could not be part of an identifier anyway.

Naming does not depend on how a text is romanised: everything that makes names works with any
`Romanization`, of which `romanize` is the one in use.
-/

namespace Toolwright

/-- A way to write any text in ASCII. -/
class Romanization where
  /-- The ASCII text of a text. -/
  write : List Char → List Char

namespace Name

/-- The ASCII text of a character that is not ASCII. -/
def romanizeOther (code : Nat) : String :=
  (Script.alphabet? code <|> Script.pinyin? code <|> Script.hangul? code <|>
    Script.pictograph? code).getD ""

/-- The ASCII text of a character. -/
def romanizeChar (c : Char) : List Char :=
  if c.toNat < 0x80 then [c] else (romanizeOther c.toNat).toList

/-- The ASCII text of a text. -/
def romanize (text : List Char) : List Char :=
  text.flatMap romanizeChar

theorem romanizeChar_of_ascii {c : Char} (h : c.toNat < 0x80) : romanizeChar c = [c] := by
  simp [romanizeChar, h]

/-- The romanisation in use. -/
instance : Romanization := ⟨romanize⟩

end Name

end Toolwright
