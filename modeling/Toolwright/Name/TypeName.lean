import Toolwright.Text.Case
import Toolwright.Text.Category

/-!
# Names of types

The name of the argument type of a tool is the tool's name in Pascal case. A word begins after a
separator, whatever character stands there (so of two separators the second one survives), and at a
capital that does not follow a capital; its first character is raised and the others lowered.
-/

namespace Toolwright.Name

open Text

/-- The separators between words. -/
def isSeparator (c : Char) : Bool :=
  c == '_' || c == '-' || c == ' '

/-- The words of a name run together, each capitalised. `afterCapital` says whether the character
before was a capital. -/
def joinWords (afterCapital : Bool) : List Char → List Char
  | [] => []
  | c :: rest =>
    if isSeparator c then
      match rest with
      | [] => []
      | d :: tail => upperCase d ++ joinWords (isUpper d) tail
    else if isUpper c && !afterCapital then upperCase c ++ joinWords true rest
    else lowerCase c ++ joinWords (isUpper c) rest

/-- The name in Pascal case. -/
def pascalChars : List Char → List Char
  | [] => []
  | c :: rest => upperCase c ++ joinWords (isUpper c) rest

/-- The name of a type: Pascal case without underscores in front, mended if that is empty or starts with
a digit. -/
def typeName (name : String) : String :=
  match (pascalChars name.toList).dropWhile (· == '_') with
  | [] => "Unnamed"
  | c :: rest => String.ofList (if c.isDigit then 'T' :: c :: rest else c :: rest)

end Toolwright.Name
