/-!
# Breaking lines

Source text is laid out from texts with gaps between them, grouped into nested blocks. A gap is
written as blanks or as a line break. A block that fits into the rest of its line has no line breaks; in
one that does not, either every gap is a line break (a uniform block) or only those are after which the
text up to the next gap would not fit.

The fit of a gap or block is judged by its reach: its own width and that of the texts after it, up to
the next gap in the same block or in one around it. A line has room for 89 bytes, and a deeply
indented one for at least 60 from its indentation on.
-/

namespace Toolwright.Source

/-- A place where a line may be broken. -/
structure Gap where
  /-- The number of blanks if the line is not broken. -/
  blanks : Nat := 0
  /-- What the indentation of the next line differs by from that of the block. -/
  offset : Int := 0
  /-- What is written before the line break. -/
  before : String := ""
  /-- Whether the line is never broken here. A gap of this kind still ends the reach of others. -/
  never : Bool := false
  deriving DecidableEq, Repr, Inhabited

/-- A part of a text to be laid out. -/
inductive Layout where
  | text (content : String)
  | gap (gap : Gap)
  /-- Nothing at all, but too wide for any line: a block with it never fits. -/
  | strut
  /-- Parts that belong together; if they do not fit, the lines within are indented further. -/
  | block (indent : Int) (uniform : Bool) (parts : List Layout)
  deriving Repr, Inhabited

namespace Layout

/-- A width that no line has room for. -/
def infinite : Nat := 0xffff

/-- The bytes that a line has room for. -/
def margin : Int := 89

/-- The bytes that a line has room for after its indentation, however deep that is. -/
def leastRoom : Int := 60

/-- The indentation of the next level. -/
def step : Int := 4

mutual

/-- The width of a part without line breaks. -/
def width : Layout → Nat
  | text content => content.utf8ByteSize
  | gap g => g.blanks
  | strut => infinite
  | block _ _ parts => widthAll parts

/-- The width of some parts without line breaks. -/
def widthAll : List Layout → Nat
  | [] => 0
  | part :: rest => part.width + widthAll rest

end

/-- The width up to the first gap among some parts; `beyond` is the width from their end up to the first
gap there. -/
def reach (beyond : Nat) : List Layout → Nat
  | [] => beyond
  | gap _ :: _ => 0
  | part :: rest => part.width + reach beyond rest

/-- How the gaps of a block are written. -/
inductive Mode where
  | fits
  | broken (uniform : Bool)
  deriving DecidableEq, Repr, Inhabited

/-- The text written so far, the room left on its last line, and the blanks that are still to be
written there; they never are at the end of a line. -/
structure Page where
  written : String := ""
  room : Int := margin
  pending : Nat := 0
  deriving Repr, Inhabited

namespace Page

/-- Writes the pending blanks. -/
def settle (page : Page) : Page :=
  { page with written := page.written.pushn ' ' page.pending, pending := 0 }

/-- Writes a text. -/
def add (page : Page) (content : String) : Page :=
  let page := page.settle
  { page with
    written := page.written ++ content
    room := page.room - content.utf8ByteSize }

/-- Leaves blanks. -/
def leave (page : Page) (blanks : Nat) : Page :=
  { page with room := page.room - blanks, pending := page.pending + blanks }

/-- Begins a new line. -/
def newLine (page : Page) (before : String) (indent : Int) : Page :=
  let page := if before.isEmpty then page else page.settle
  { written := page.written ++ before ++ "\n"
    room := max (margin - indent) leastRoom
    pending := indent.toNat }

end Page

mutual

/-- Writes some parts of a block with an indentation. -/
def writeAll (indent : Int) (mode : Mode) (beyond : Nat) (page : Page) : List Layout → Page
  | [] => page
  | part :: rest =>
    writeAll indent mode beyond (part.write indent mode (reach beyond rest) page) rest

/-- Writes a part; `after` is the width after it up to the next gap. -/
def write (indent : Int) (mode : Mode) (after : Nat) (page : Page) : Layout → Page
  | text content => page.add content
  | strut => page
  | gap g =>
    let whole :=
      g.never ||
        match mode with
        | .fits => true
        | .broken true => false
        | .broken false => decide (((g.blanks + after : Nat) : Int) ≤ page.room)
    if whole then page.leave g.blanks else page.newLine g.before (indent + g.offset)
  | block further uniform parts =>
    if ((widthAll parts + after : Nat) : Int) > page.room then
      writeAll (indent + further) (.broken uniform) after page parts
    else writeAll indent .fits after page parts

end

/-- The text of some parts. -/
def render (parts : List Layout) : String :=
  (writeAll 0 (.broken false) 0 {} parts).written

/-! ### Common parts -/

/-- A gap of one blank. -/
def space : Layout := gap { blanks := 1 }

/-- A gap without blanks. -/
def join : Layout := gap {}

/-- A line break. -/
def line : Layout := gap { blanks := infinite }

/-- The line break before the end of a block, where the indentation goes back. -/
def lastLine : Layout := gap { blanks := infinite, offset := -step }

/-- A place where no line is broken. -/
def tie : Layout := gap { never := true }

/-- Parts with commas between them; after the last one there is a comma only before a line break, and
otherwise `blanks` blanks. -/
def commaSeparated (blanks : Nat) : List (List Layout) → List Layout
  | [] => []
  | [last] => last ++ [gap { blanks := blanks, offset := -step, before := "," }]
  | first :: rest => first ++ text "," :: space :: commaSeparated blanks rest

/-- Parts in brackets with commas between them, all on one line or each on its own. -/
def listed (opening closing : String) : List (List Layout) → List Layout
  | [] => [text opening, text closing]
  | items => [text opening, block step true (join :: commaSeparated 0 items), text closing]

/-- Parts on lines of their own, and the line break that goes back to the line after them. -/
def lines : List (List Layout) → List Layout
  | [] => []
  | items => items.flatMap (fun item => line :: item) ++ [lastLine]

end Layout

end Toolwright.Source
