import Toolwright.Console.Palette

/-!
# Reports

What a command says, as lines for the two streams of a console. The lines name roles, not colours, and
do not know the time; both are filled in where a report is written out.
-/

namespace Toolwright

/-- A stretch of text with a role. -/
structure Span where
  role : Role
  text : String
  deriving DecidableEq, Repr, Inhabited

/-- A line of a report. -/
inductive Line where
  | blank
  /-- Text as it is, which may have lines of its own. -/
  | plain (text : String)
  | spans (spans : List Span)
  /-- Spans after the time of day. -/
  | stamped (spans : List Span)
  /-- A number or the like with its name, below a stamped line. -/
  | statistic (label value : String)
  deriving DecidableEq, Repr, Inhabited

/-- The streams of a console. -/
inductive Stream where
  | output
  | error
  deriving DecidableEq, Repr, Inhabited

/-- What is said, in order. -/
abbrev Report := List (Stream × Line)

/-- How lines are written out. -/
structure Pen where
  palette : Palette
  /-- Whether the terminal is to see no colours at all. -/
  colorless : Bool := false
  /-- The time of day. -/
  clock : String
  deriving Inhabited

namespace Pen

/-- A span written out. -/
def span (pen : Pen) (span : Span) : String :=
  (pen.palette.color span.role).paint pen.colorless span.text

/-- Spans written out with spaces between them. -/
def spans (pen : Pen) (spans : List Span) : String :=
  " ".intercalate (spans.map pen.span)

/-- A line written out. -/
def line (pen : Pen) : Line → String
  | .blank => ""
  | .plain text => text
  | .spans spans => pen.spans spans
  | .stamped spans => pen.spans (⟨.timestamp, pen.clock⟩ :: spans)
  | .statistic label value =>
    "            " ++ pen.spans [⟨.label, label⟩, ⟨.value, value⟩]

/-- What a report says on one of the streams. -/
def text (pen : Pen) (stream : Stream) (report : Report) : String :=
  String.join ((report.filter fun (other, _) => other = stream).map fun (_, line) =>
    pen.line line ++ "\n")

end Pen

end Toolwright
