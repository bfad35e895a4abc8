import Toolwright.Text.Pieces
import Toolwright.Text.Width

/-!
# Tables

A table of text that fits the width of a terminal. Every column is as wide as its widest text if
there is room. If there is not, columns that need no more than an equal share of the room
keep their width, and the others share what is left: `Table.widths`. Text too wide for its column goes on in
further lines, broken at spaces and, where a word alone is too wide, inside of it: `broken`.

Lines stand above the header, below it and below the last row. The middle one is whole, the others have
a gap between two columns.
-/

namespace Toolwright

open Text

/-- The side of a cell at which its text stands. -/
inductive Alignment where
  | left
  | right
  deriving DecidableEq, Repr, Inhabited

/-- A cell of a table. -/
structure Cell where
  text : List Char
  alignment : Alignment := .left
  deriving Inhabited

/-- A table: a header and rows of as many cells. -/
structure Table where
  header : List Cell
  rows : List (List Cell)
  deriving Inhabited

/-! ### Breaking text into lines -/

namespace Cell

/-- The lines of a cell as they are given. -/
def lines (cell : Cell) : List (List Char) :=
  pieces (· == '\n') cell.text

/-- The widest line of a cell. -/
def width (cell : Cell) : Nat :=
  ((cell.lines.map Text.width).max?).getD 0

end Cell

/-- The number of characters at the front of a word that fit into some room. -/
def fitting (room : Nat) : List Char → Nat
  | [] => 0
  | c :: rest => if cells c ≤ room then fitting (room - cells c) rest + 1 else 0

/-- Room that is too small to put anything more into it. -/
def leastRoom : Nat := 2

/-- A line, finished if it has no room for more and still open otherwise: the finished lines and what is
open. -/
def settle (width : Nat) (line : List Char) : List (List Char) × List Char :=
  if Text.width line > width - leastRoom then ([line], []) else ([], line)

theorem settle_length (width : Nat) (line : List Char) :
    (settle width line).2.length ≤ line.length := by
  unfold settle
  split <;> simp

/-- What stands between a line and a word added to it. -/
def gapAfter (line : List Char) : List Char :=
  if line.isEmpty then [] else [' ']

theorem gapAfter_length (line : List Char) : (gapAfter line).length ≤ 1 := by
  unfold gapAfter
  split <;> simp

/-- The room for a word that is added to a line. -/
def roomAfter (width : Nat) (line : List Char) : Nat :=
  width - Text.width line - (gapAfter line).length

/-- The number of characters that a word too wide for a line leaves on it, at least one. -/
def cutAt (room : Nat) (word : List Char) : Nat :=
  max 1 (fitting room word)

/-- A measure of how much there is left to put into lines. -/
def weight : List (List Char) → Nat
  | [] => 0
  | word :: words => 3 * (word.length + 1) + weight words

/-- Words put into lines of a width after what is already open. A word that fits is added. Only a word
wider than a whole line is cut, and then what fits of it is added. Any other word begins the next
line. -/
def fill (width : Nat) (opened : List Char) : List (List Char) → List (List Char)
  | [] => if opened.isEmpty then [] else [opened]
  | word :: words =>
    if Text.width word + (gapAfter opened).length + Text.width opened ≤ width then
      let line := settle width (opened ++ gapAfter opened ++ word)
      line.1 ++ fill width line.2 words
    else if 0 < opened.length ∧ roomAfter width opened ≤ leastRoom then opened :: fill width [] (word :: words)
    else if Text.width word > width then
      let count := cutAt (roomAfter width opened) word
      let line := settle width (opened ++ gapAfter opened ++ word.take count)
      line.1 ++ fill width line.2 (word.drop count :: words)
    else
      let line := settle width word
      opened :: (line.1 ++ fill width line.2 words)
termination_by words => weight words + opened.length
decreasing_by
  · have := settle_length width (opened ++ gapAfter opened ++ word)
    have := gapAfter_length opened
    simp only [weight, List.length_append] at *
    omega
  · simp only [List.length_nil]
    omega
  · have := settle_length width
      (opened ++ gapAfter opened ++ word.take (cutAt (roomAfter width opened) word))
    have := gapAfter_length opened
    have : 0 < word.length := by
      cases word with
      | nil => simp [Text.width] at *
      | cons => simp
    have : 1 ≤ cutAt (roomAfter width opened) word := Nat.le_max_left ..
    simp only [weight, List.length_append, List.length_take,
      List.length_drop] at *
    omega
  · have := settle_length width word
    simp only [weight] at *
    omega

/-- The lines of a text in a column of some width. -/
def broken (width : Nat) (line : List Char) : List (List Char) :=
  if Text.width line > width then fill width [] (pieces (· == ' ') line) else [line]

/-! ### Widths of columns -/

/-- A column while its width is being found. -/
structure Column where
  cells : List Cell
  /-- The width, if it is settled. -/
  width? : Option Nat := none
  deriving Inhabited

/-- The room that is left and the number of columns that share it. -/
structure Room where
  left : Nat
  sharers : Nat
  deriving Inhabited

/-- An equal share of the room. -/
def Room.share (room : Room) : Nat := room.left / room.sharers

/-- The room without a column that takes some width. -/
def Room.without (room : Room) (width : Nat) : Room := ⟨room.left - width, room.sharers - 1⟩

namespace Column

/-- The widest line of the column's cells. -/
def need (column : Column) : Nat :=
  ((column.cells.map Cell.width).max?).getD 0

/-- The widest line of the column's cells after breaking them at a width. -/
def needWithin (column : Column) (width : Nat) : Nat :=
  let lines := column.cells.flatMap fun cell => cell.lines.flatMap (broken width)
  ((lines.map Text.width).max?).getD 0

/-- The width of a column that fits into its share as it is. -/
def fitsIn? (column : Column) (share : Nat) : Option Nat :=
  if column.need ≤ share then some column.need else none

/-- The width of a column that leaves a good part of its share empty when broken at it. -/
def shrinksTo? (column : Column) (share : Nat) : Option Nat :=
  let need := column.needWithin share
  if need + 3 ≤ share then some need else none

end Column

/-- Widths for the columns that have none and want one for their share. Each width that is given changes
the share of the columns after it. -/
def grant (wish : Column → Nat → Option Nat) (room : Room) : List Column → List Column × Room
  | [] => ([], room)
  | column :: rest =>
    let granted := if column.width?.isNone then wish column room.share else none
    match granted with
    | some width =>
      let (rest, left) := grant wish (room.without width) rest
      ({ column with width? := some (max width 1) } :: rest, left)
    | none =>
      let (rest, left) := grant wish room rest
      (column :: rest, left)

/-- Widths given again and again, as what one column leaves may be enough for another. As often as
there are columns is always enough. -/
def grantAll (wish : Column → Nat → Option Nat) (columns : List Column) (room : Room) :
    List Column × Room :=
  (List.range columns.length).foldl (fun (columns, room) _ => grant wish room columns)
    (columns, room)

/-- Equal parts of the room for the columns that have no width; what cannot be divided goes to the first
of them, one cell each. -/
def divide (share extra : Nat) : List Column → List Nat
  | [] => []
  | column :: rest =>
    match column.width? with
    | some width => width :: divide share extra rest
    | none => max 1 (if 0 < extra then share + 1 else share) :: divide share (extra - 1) rest

/-- The widths of columns that are to fit into some room. -/
def columnWidths (columns : List (List Cell)) (room : Nat) : List Nat :=
  let columns := columns.map fun cells => ({ cells } : Column)
  let (columns, left) := grantAll Column.fitsIn? columns ⟨room, columns.length⟩
  let (columns, left) := grantAll Column.shrinksTo? columns left
  let total := max left.left left.sharers
  divide (total / left.sharers) (total % left.sharers) columns

/-! ### Drawing -/

/-- A line of a cell, filled up to a width and with a space at either side. -/
def Alignment.pad (alignment : Alignment) (width : Nat) (line : List Char) : List Char :=
  let fill := List.replicate (width - Text.width line) ' '
  match alignment with
  | left => ' ' :: line ++ fill ++ [' ']
  | right => ' ' :: fill ++ line ++ [' ']

/-- The lines of a row. A cell with fewer lines than another is filled up with empty ones. -/
def drawRow (widths : List Nat) (row : List Cell) : List (List Char) :=
  let columns := (widths.zip row).map fun (width, cell) =>
    (width, cell.alignment, cell.lines.flatMap (broken width))
  let height := ((columns.map fun (_, _, lines) => lines.length).max?).getD 0
  (List.range height).map fun place =>
    List.intercalate [' '] (columns.map fun (width, alignment, lines) =>
      alignment.pad width (lines[place]?.getD []))

namespace Table

/-- The cells of every column. -/
def columns (table : Table) : List (List Cell) :=
  (List.range table.header.length).map fun place =>
    (table.header :: table.rows).filterMap fun row => row[place]?

/-- The widths of the columns of a table on a terminal. The cells have a space at either side, and one is
between two columns. -/
def widths (table : Table) (terminal : Nat) : List Nat :=
  let count := table.header.length
  columnWidths table.columns (terminal - (count - 1) - 2 * count)

/-- The text of a table on a terminal of some width. -/
def render (table : Table) (terminal : Nat) : String :=
  let widths := table.widths terminal
  let strokes := widths.map fun width => List.replicate (width + 2) '─'
  let border := List.intercalate [' '] strokes
  let middle := List.intercalate ['─'] strokes
  let lines := [border] ++ drawRow widths table.header ++ [middle] ++
    table.rows.flatMap (drawRow widths) ++ [border]
  String.ofList (List.intercalate ['\n'] lines)

end Table

end Toolwright
