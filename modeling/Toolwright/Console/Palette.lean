import Toolwright.Text.Numeral
import Toolwright.Text.Pieces

/-!
# Colours of the console

Text on the console is coloured by the part that it plays, its role. A palette gives each role a
colour, one set for dark and one for light terminals, or leaves all of them to the terminal.
-/

namespace Toolwright

/-- A colour by its red, green and blue parts, or the one the terminal has anyway. -/
inductive Color where
  | rgb (red green blue : Nat)
  | reset
  deriving DecidableEq, Repr, Inhabited

/-- The background that colours are made for. -/
inductive Theme where
  | dark
  | light
  deriving DecidableEq, Repr, Inhabited

/-- What a stretch of text is for. -/
inductive Role where
  | timestamp
  | primary
  /-- Warnings and what was left out. -/
  | accent
  | failure
  | info
  | success
  | label
  | value
  deriving DecidableEq, Repr, Inhabited

namespace Role

/-- All roles. -/
def all : List Role := [timestamp, primary, accent, failure, info, success, label, value]

/-- The colour of a role on a dark background. -/
def dark : Role → Color
  | timestamp => .rgb 118 166 166
  | primary => .rgb 191 126 4
  | accent => .rgb 166 84 55
  | failure => .rgb 214 69 65
  | info => .rgb 118 166 166
  | success => .rgb 118 166 166
  | label => .rgb 217 164 4
  | value => .rgb 242 211 56

/-- The colour of a role on a light background. -/
def light : Role → Color
  | timestamp => .rgb 92 62 38
  | primary => .rgb 70 42 25
  | accent => .rgb 211 99 70
  | failure => .rgb 170 30 30
  | info => .rgb 40 111 170
  | success => .rgb 34 142 90
  | label => .rgb 176 103 66
  | value => .rgb 199 146 76

end Role

namespace Theme

/-- The theme that a terminal announces, which is by the numbers of its colours, the background
last: the upper eight of the sixteen basic colours are light. -/
def ofAnnouncement? (announcement : String) : Option Theme :=
  match (Text.pieces (· == ';') announcement.toList).getLast? with
  | none => none
  | some background =>
    (Text.naturalBelow? 256 background).map fun number => if number ≥ 8 then light else dark

/-- The theme of a terminal; dark if it announces none. -/
def detect (announcement : Option String) : Theme :=
  (announcement.bind ofAnnouncement?).getD dark

end Theme

/-- The colours of all roles. -/
structure Palette where
  enabled : Bool
  theme : Theme
  deriving DecidableEq, Repr, Inhabited

namespace Palette

/-- The colour of a role. -/
def color (palette : Palette) (role : Role) : Color :=
  if palette.enabled then
    match palette.theme with
    | .dark => role.dark
    | .light => role.light
  else .reset

end Palette

namespace Color

/-- The parameters by which a terminal is told to write in a colour. -/
def parameters : Color → String
  | rgb red green blue =>
    "38;2;" ++ toString red ++ ";" ++ toString green ++ ";" ++ toString blue
  | reset => "39"

/-- The sequence that switches to a colour. On a terminal without colours it says nothing but is still
there. -/
def sequence (color : Color) (colorless : Bool) : String :=
  "\x1b[" ++ (if colorless then "" else color.parameters) ++ "m"

/-- A text in a colour, after which the terminal has its own colour again. -/
def paint (color : Color) (colorless : Bool) (text : String) : String :=
  color.sequence colorless ++ text ++ reset.sequence colorless

end Color

end Toolwright
