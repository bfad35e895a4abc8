import Toolwright.Name.Verb
import Toolwright.Name.Romanize

/-!
# Snake case

The normal form of names: lower-case ASCII words with underscores between them. A name is stripped of
its method and vendor namespace, romanised, freed of everything that cannot stand in an
identifier, and cut into words at its capitals in two passes: before a capital that
starts a capitalised word (`wordBreaks`), and between a small letter or digit and a
capital (`caseBreaks`).
-/

namespace Toolwright.Name

variable [Romanization]

/-- Characters of identifiers. -/
def isIdentChar (c : Char) : Bool :=
  c.isAlphanum || c == '_'

/-- An underscore before every capitalised word that has a character in front of it. The
character in front must not belong to the word before; `inWord` says that a word is being read. -/
def wordBreaks (inWord : Bool) : List Char → List Char
  | [] => []
  | c :: rest =>
    if inWord && c.isLower then c :: wordBreaks true rest
    else
      match rest with
      | u :: l :: tail =>
        if u.isUpper && l.isLower then c :: '_' :: u :: wordBreaks true (l :: tail)
        else c :: wordBreaks false (u :: l :: tail)
      | short => c :: short
termination_by text => text.length
decreasing_by all_goals simp

/-- An underscore between every small letter or digit and a capital after it. -/
def caseBreaks : List Char → List Char
  | a :: b :: rest =>
    if (a.isLower || a.isDigit) && b.isUpper then a :: '_' :: caseBreaks (b :: rest)
    else a :: caseBreaks (b :: rest)
  | short => short

/-- Underscores for hyphens. -/
def underscored (name : List Char) : List Char :=
  name.map fun c => if c == '-' then '_' else c

/-- The normal form of a name that belongs to an operation with the given method. -/
def snakeChars (name method : List Char) : List Char :=
  let plain := Romanization.write (underscored (withoutVendor (withoutVerb name method)))
  (caseBreaks (wordBreaks false (plain.filter isIdentChar))).map Char.toLower

/-- The normal form of a name. -/
def snake (name : String) : String :=
  String.ofList (snakeChars name.toList [])

/-- The normal form of a name without the method of its operation in front. -/
def snakeForMethod (name method : String) : String :=
  String.ofList (snakeChars name.toList method.toList)

end Toolwright.Name
