import Toolwright.Text.Category
import Toolwright.Text.Pieces

/-!
# Descriptions

The prose of a specification (titles, descriptions, versions) enters generated code in two
ways: on one line, with every run of white space made a single blank (`oneLine`), or as the
lines of a documentation comment, which keep their paragraphs (`docLines`).
-/

namespace Toolwright.Text

/-- The words of a text: its longest runs without white space. -/
def words (text : List Char) : List (List Char) :=
  (pieces isBlank text).filter fun piece => !piece.isEmpty

/-- The words of a text with one blank between two of them. -/
def oneLine (text : String) : String :=
  String.ofList ((words text.toList).intersperse [' ']).flatten

/-- What stands in for a description that says nothing. -/
def missingDescription : String := "No description provided"

/-- A description on one line, never empty. -/
def describe (text : String) : String :=
  let line := oneLine text
  if line.isEmpty then missingDescription else line

/-- A line without any character but white space. -/
def isBlankLine (line : List Char) : Bool :=
  line.all isBlank

/-- The lines of a documentation comment. A line ends at a line feed, with or without a carriage
return before it, or at a backslash followed by `n`; white space at the end of a line goes away, and
so do the blank lines before the first line with text and after the last. -/
def docLines (text : String) : List String :=
  let ended := replacePair '\\' 'n' ['\n'] (replacePair '\r' '\n' ['\n'] text.toList)
  let lines := (pieces (· == '\n') ended).map (trimEnd isBlank)
  let started := lines.dropWhile isBlankLine
  ((started.reverse.dropWhile isBlankLine).reverse).map String.ofList

end Toolwright.Text
