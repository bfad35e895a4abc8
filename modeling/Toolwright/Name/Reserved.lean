import Toolwright.Name.Snake

/-!
# Identifiers of the generated language

A normalised name may still be a word that the generated language keeps for itself, or may
not be an identifier at all because it is empty or starts with a digit. `safe` renames the reserved
ones and `ensure` mends the others.

Bounds of a time range are called `from_time` and `to_time`, whatever they were called: the
context of a field, its path, tells whether it is about time.
-/

namespace Toolwright.Name

variable [Romanization]

/-- The reserved words. -/
def reservedWords : List String :=
  ["as", "break", "const", "continue", "crate", "else", "enum", "extern", "false", "fn", "for", "if",
    "impl", "in", "let", "loop", "match", "mod", "move", "mut", "pub", "ref", "return", "static",
    "struct", "super", "trait", "true", "type", "unsafe", "use", "where", "while", "async", "await",
    "dyn", "try", "abstract", "become", "box", "do", "final", "macro", "override", "priv", "typeof",
    "unsized", "virtual", "yield", "gen", "self", "Self", "_"]

/-- Whether a name is a reserved word. -/
def isReserved (name : String) : Bool :=
  reservedWords.contains name

/-- Whether a context speaks of time. -/
def aboutTime (context : String) : Bool :=
  Text.occurs "time".toList (context.toList.map Char.toLower)

/-- The name of a bound of a time range. -/
def timeBound? (name context : String) : Option String :=
  if aboutTime context then
    if name = "from" ∨ name = "from_value" then some "from_time"
    else if name = "to" ∨ name = "to_value" then some "to_time"
    else none
  else none

/-- The reserved words that name the value of something. -/
def valueWords : List String := ["for", "type", "in", "impl", "ref", "self"]

/-- The name, or a name in its place if it is reserved or a bound of a time range. -/
def safe (name context : String) : String :=
  match timeBound? name context with
  | some renamed => renamed
  | none =>
    if isReserved name then
      if valueWords.contains name then name ++ "_value" else name ++ "_param"
    else name

/-- The name, mended if it is empty or starts with a digit. -/
def ensure (name : String) : String :=
  match name.toList with
  | [] => "unnamed"
  | c :: rest => if c.isDigit then String.ofList ('_' :: c :: rest) else name

/-- The identifier of a field with a raw name in a context. -/
def field (rawName context : String) : String :=
  ensure (safe (snake rawName) context)

/-- The tag of a service, from the stem of the name of its specification. -/
def serviceTag (stem : String) : String :=
  ensure (safe (snake stem) stem)

end Toolwright.Name
