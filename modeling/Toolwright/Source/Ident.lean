import Toolwright.Text.Category
import Toolwright.Text.Pieces
import Toolwright.Text.Quoted

/-!
# Identifiers of generated code

Not every text can be written as an identifier, and of those that can, some mean something else.
The first is found out when the identifier is made, the second when the code is read again.
-/

namespace Toolwright.Source

/-- The words that mean something of their own wherever they stand. -/
def keywords : List String :=
  ["_", "abstract", "as", "async", "await", "become", "box", "break", "const", "continue", "crate",
    "do", "dyn", "else", "enum", "extern", "false", "final", "fn", "for", "if", "impl", "in", "let",
    "loop", "macro", "match", "mod", "move", "mut", "override", "priv", "pub", "ref", "return",
    "Self", "self", "static", "struct", "super", "trait", "true", "try", "type", "typeof", "unsafe",
    "unsized", "use", "virtual", "where", "while", "yield"]

/-- Whether a word is a keyword. -/
def isKeyword (word : String) : Bool :=
  keywords.contains word

/-- The words that no mark makes an identifier of. -/
def neverIdentifiers : List String :=
  ["_", "super", "self", "Self", "crate"]

/-- Whether a text has the form of an identifier. -/
def isIdentForm : List Char → Bool
  | [] => false
  | c :: rest => (c == '_' || Text.startsIdentifier c) && rest.all Text.continuesIdentifier

/-- What is wrong with the form of an identifier. -/
def formFault? (ident : List Char) : Option String :=
  if ident.isEmpty then some "Ident is not allowed to be empty; use Option<Ident>"
  else if ident.all Char.isDigit then some "Ident cannot be a number; use Literal instead"
  else if isIdentForm ident then none
  else some (Text.quoted (String.ofList ident) ++ " is not a valid Ident")

/-- Why a text cannot be written as an identifier. The mark `r#` in front makes an identifier of a keyword. -/
def identFault? (ident : String) : Option String :=
  match Text.after? ['r', '#'] ident.toList with
  | none => formFault? ident.toList
  | some bare =>
    match formFault? bare with
    | some fault => some fault
    | none =>
      if neverIdentifiers.contains (String.ofList bare) then
        some ("`r#" ++ String.ofList bare ++ "` cannot be a raw identifier")
      else none

/-- Why a word cannot stand where a name is expected. -/
def nameFault? (word : String) : Option String :=
  if isKeyword word then some ("expected identifier, found keyword `" ++ word ++ "`") else none

end Toolwright.Source
