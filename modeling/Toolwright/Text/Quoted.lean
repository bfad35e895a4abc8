import Toolwright.Text.Category

/-!
# Quoted texts

A text between double quotes, with everything escaped that would not show or would end it. Two
readers want such texts: people, in messages (`quoted`), and the compiler of the generated
modules (`literal`). They differ only at a NUL in front of an octal digit, which the compiler's
form spells in hexadecimal so that it cannot be taken for an octal escape.
-/

namespace Toolwright.Text

/-- The digits of a number in base sixteen, in lower case. -/
def hexadecimal (n : Nat) : String :=
  String.ofList (Nat.toDigits 16 n)

/-- The spelling of one character between double quotes. -/
def quotedChar (c : Char) : String :=
  match c with
  | '\x00' => "\\0"
  | '\t' => "\\t"
  | '\r' => "\\r"
  | '\n' => "\\n"
  | '"' => "\\\""
  | '\\' => "\\\\"
  | c =>
    if isPrintable c && !extendsCluster c then c.toString
    else "\\u\x7b" ++ hexadecimal c.toNat ++ "\x7d"

/-- The text as it is shown in a message. -/
def quoted (text : String) : String :=
  "\"" ++ String.join (text.toList.map quotedChar) ++ "\""

/-- The characters of a string literal, spelled out. -/
def literalChars : List Char → List String
  | [] => []
  | c :: rest =>
    if c == '\x00' && (rest.head?.map fun d => '0' ≤ d && d ≤ '7').getD false then
      "\\x00" :: literalChars rest
    else quotedChar c :: literalChars rest

/-- The text as a string literal of the generated language. -/
def literal (text : String) : String :=
  "\"" ++ String.join (literalChars text.toList) ++ "\""

end Toolwright.Text
