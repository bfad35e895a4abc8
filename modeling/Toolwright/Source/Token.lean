import Toolwright.Text.Quoted

/-!
# Tokens of source text

Some parts of generated code are kept as tokens: what stands between the brackets of an
invocation, and what is shown to people who ask for a type or an attribute alone.
-/

namespace Toolwright.Source

/-- A kind of brackets. -/
inductive Bracket where
  | round
  | square
  | curly
  deriving DecidableEq, Repr, Inhabited

namespace Bracket

/-- The opening bracket. -/
def opening : Bracket → String
  | round => "("
  | square => "["
  | curly => "\x7b"

/-- The closing bracket. -/
def closing : Bracket → String
  | round => ")"
  | square => "]"
  | curly => "\x7d"

end Bracket

/-- A token. -/
inductive Token where
  | word (text : String)
  /-- A string literal. -/
  | quote (value : String)
  /-- A sign of punctuation, of one character or several. -/
  | sign (text : String)
  /-- Tokens in brackets. -/
  | group (bracket : Bracket) (inside : List Token)
  deriving Repr, Inhabited

mutual

/-- A token as it is shown on its own. -/
def Token.display : Token → String
  | .word name => name
  | .quote value => Text.literal value
  | .sign mark => mark
  | .group .curly [] => "\x7b \x7d"
  | .group .curly (first :: rest) => "\x7b " ++ Token.displayAll (first :: rest) ++ " \x7d"
  | .group bracket inside => bracket.opening ++ Token.displayAll inside ++ bracket.closing

/-- Tokens as they are shown on their own: with a blank between two of them. -/
def Token.displayAll : List Token → String
  | [] => ""
  | [token] => token.display
  | token :: rest => token.display ++ " " ++ Token.displayAll rest

end

end Toolwright.Source
