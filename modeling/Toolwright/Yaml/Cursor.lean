import Toolwright.Yaml.Characters

/-!
# Moving through a YAML text

A cursor is what is left of a text together with the mark of its first character. All movement is by
one character or one line break; a carriage return with a line feed is one break.
-/

namespace Toolwright.Yaml

/-- What is left of a text, and where it begins. -/
structure Cursor where
  rest : List Char
  mark : Mark

namespace Cursor

/-- The character at a distance from the cursor. -/
def at? (c : Cursor) (distance : Nat) : Option Char := (c.rest.drop distance).head?

/-- Whether the next character is the given one. -/
def sees (c : Cursor) (ch : Char) : Bool := c.rest.head? == some ch

/-- Whether the next character satisfies a predicate; the end of the text satisfies none. -/
def seesAny (c : Cursor) (p : Char → Bool) : Bool := (c.rest.head?.map p).getD false

/-- Whether the text is at its end. -/
def atEnd (c : Cursor) : Bool := c.rest.isEmpty

/-- Whether the character at a distance is blank, a break or the end of the text. -/
def blankOrEndAt (c : Cursor) (distance : Nat) : Bool :=
  match c.at? distance with
  | none => true
  | some ch => isBlank ch || isBreak ch

/-- Whether a line ends at the cursor. -/
def atLineEnd (c : Cursor) : Bool :=
  match c.rest with
  | [] => true
  | ch :: _ => isBreak ch

/-- The column of the cursor. -/
def column (c : Cursor) : Nat := c.mark.column

/-- The cursor behind the next character, which is no line break. -/
def skip (c : Cursor) : Cursor :=
  ⟨c.rest.tail, ⟨c.mark.index + 1, c.mark.line, c.mark.column + 1⟩⟩

/-- The cursor behind the next characters. -/
def skipMany (c : Cursor) (n : Nat) : Cursor :=
  ⟨c.rest.drop n, ⟨c.mark.index + n, c.mark.line, c.mark.column + n⟩⟩

/-- The characters at the front that satisfy a predicate, which no line break does, and the cursor
behind them. -/
def takeWhile (c : Cursor) (p : Char → Bool) : List Char × Cursor :=
  let taken := c.rest.takeWhile p
  (taken, c.skipMany taken.length)

/-- The cursor behind the characters at the front that satisfy a predicate. -/
def skipWhile (c : Cursor) (p : Char → Bool) : Cursor := (c.takeWhile p).2

/-- Whether a character stays within its line. -/
def inLine (ch : Char) : Bool := !isBreak ch

/-- Reads a line break if there is one: the text it stands for, and the cursor behind it. -/
def readBreak (c : Cursor) : List Char × Cursor :=
  let next (n : Nat) (rest : List Char) : Cursor := ⟨rest, ⟨c.mark.index + n, c.mark.line + 1, 0⟩⟩
  match c.rest with
  | '\r' :: '\n' :: rest => (['\n'], next 2 rest)
  | ch :: rest =>
    if ch == '\u2028' || ch == '\u2029' then ([ch], next 1 rest)
    else if isBreak ch then (['\n'], next 1 rest)
    else ([], c)
  | [] => ([], c)

/-- The cursor behind a line break if there is one. -/
def skipBreak (c : Cursor) : Cursor := c.readBreak.2

/-- Whether the three characters at the cursor are a document marker in the first column. -/
def seesMarker (c : Cursor) (ch : Char) : Bool :=
  c.column == 0 && c.rest.take 3 == [ch, ch, ch] && c.blankOrEndAt 3

/-- Whether a document begins or ends at the cursor. -/
def seesDocumentBoundary (c : Cursor) : Bool := c.seesMarker '-' || c.seesMarker '.'

/-- The cursor behind blanks, and behind a comment if one follows. -/
def skipBlanksAndComment (c : Cursor) : Cursor :=
  let c := c.skipWhile isBlank
  if c.sees '#' then c.skipWhile inLine else c

end Cursor

/-- A problem at a cursor, within a construct that began at a mark. -/
def problemIn {α : Type} (context : Context) (start : Mark) (problem : Problem) (c : Cursor) :
    Except SyntaxError α :=
  .error ⟨problem, c.mark, some (context, start)⟩

end Toolwright.Yaml
