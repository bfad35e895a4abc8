import Toolwright.Source.Layout
import Toolwright.Source.Syntax
import Toolwright.Text.Pieces

/-!
# Layout of generated code

How each form of the generated language is written and where its lines may be broken.
-/

namespace Toolwright.Source

open Layout

/-! ### Types -/

/-- A path written out. -/
def pathText (path : List String) : String :=
  String.intercalate "::" path

/-- Parts between blanks, if there are any. -/
def padded : List Layout → List Layout
  | [] => []
  | parts => space :: parts ++ [space]

/-- Fields with commas between them and a blank or a line break at either end, if there are any. -/
def fieldList : List (List Layout) → List Layout
  | [] => []
  | fields => space :: commaSeparated 1 fields

mutual

/-- The layout of a type. -/
def SourceType.layout : SourceType → List Layout
  | .named path arguments =>
    text (pathText path) ::
      (if arguments.isEmpty then [] else listed "<" ">" (SourceType.layoutAll arguments))
  | .tuple items => listed "(" ")" (SourceType.layoutAll items)
  | .slice item => text "[" :: item.layout ++ [text "]"]
  | .reference target => text "&" :: target.layout
  | .object ability => [text ("&mut dyn " ++ ability)]

/-- The layouts of some types. -/
def SourceType.layoutAll : List SourceType → List (List Layout)
  | [] => []
  | type :: rest => type.layout :: SourceType.layoutAll rest

end

/-! ### Tokens -/

/-- What the token before was, as far as it matters for the space after it. -/
inductive Preceding where
  | nothing
  | word
  | dot
  | bracket
  | other
  deriving DecidableEq, Repr, Inhabited

/-- The space before a token that needs it or not; none at the beginning. -/
def Preceding.between (before : Preceding) (needed : Bool) : List Layout :=
  if before = .nothing || !needed then [] else [space]

/-- The space before a sign. -/
def Preceding.beforeSign (before : Preceding) (mark : String) : List Layout :=
  if mark = "," || mark = ";" then []
  else if mark = "." && (before = .word || before = .bracket) then [join]
  else before.between true

/-- The layout of tokens with the space that goes between them. -/
def Token.layoutAll (before : Preceding) : List Token → List Layout
  | [] => []
  | .word name :: rest =>
    before.between (before ≠ .dot) ++ text name :: Token.layoutAll .word rest
  | .quote value :: rest =>
    before.between (before ≠ .dot) ++ text (Text.literal value) :: Token.layoutAll .word rest
  | .sign mark :: rest =>
    before.beforeSign mark ++ text mark ::
      Token.layoutAll (if mark = "." then .dot else .other) rest
  | .group .curly inside :: rest =>
    before.between true ++ text "\x7b" :: padded (Token.layoutAll .nothing inside) ++
      text "\x7d" :: Token.layoutAll .other rest
  | .group kind inside :: rest =>
    before.between (before ≠ .word) ++ text kind.opening :: Token.layoutAll .nothing inside ++
      text kind.closing :: Token.layoutAll .bracket rest

/-! ### Expressions -/

/-- Whether a call with this as its only argument needs no indentation of its own. -/
def Expr.isBlocklike : Expr → Bool
  | .array _ | .tuple _ | .record .. | .deferred .. => true
  | _ => false

/-- Whether an expression is a variable so short that a method stays on its line. -/
def Expr.isShortName : Expr → Bool
  | .name [ident] =>
    ((Text.after? ['r', '#'] ident.toList).getD ident.toList).length ≤ step
  | _ => false

/-- Whether a condition that was broken ends with a line break. -/
def Expr.mayWrap : Expr → Bool
  | .method .. | .awaited _ | .assignment .. => true
  | .reference target => target.mayWrap
  | .negation operand => operand.mayWrap
  | .propagation operand => operand.mayWrap
  | .call function _ => function.mayWrap
  | _ => false

/-- The arguments of a call in brackets. -/
def argumentList (arguments : List Expr) (parts : List (List Layout)) : List Layout :=
  match arguments, parts with
  | [only], [part] =>
    if only.isBlocklike then text "(" :: part ++ [text ")"] else listed "(" ")" [part]
  | _, parts => listed "(" ")" parts

/-- Parts of a chain that stands for itself or is continued. -/
def chained (inChain : Bool) (parts : List Layout) : List Layout :=
  if inChain then parts else [block step true parts]

/-- Parts that begin a chain or stand for themselves. -/
def leading (inChain : Bool) (parts : List Layout) : List Layout :=
  if inChain then [block (-step) true parts] else parts

/-- A block that is broken if it is wider than a structure on one line should be. -/
def limited (parts : List Layout) : Layout :=
  block step true (if widthAll parts > 34 then parts ++ [strut] else parts)

/-- Statements, each on a line of its own, in curly brackets behind what is in front of them. -/
def braced (head : List Layout) (body : List (List Layout)) : List Layout :=
  [block step true (head ++ text "\x7b" :: lines body), text "\x7d"]

/-- Lines in curly brackets that begin after a place where no line is broken. -/
def bracedTight (body : List (List Layout)) : List Layout :=
  [text "\x7b", tie, block step true (lines body), text "\x7d"]

/-- A value behind a condition and a blank. -/
def condition (mayWrap : Bool) (value : List Layout) : Layout :=
  block 0 true (value ++ [if mayWrap then space else text " "])

/-- The condition of a distinction. -/
def ifHead (mayWrap : Bool) (value : List Layout) : List Layout :=
  [text "if ", block (-step) true [condition mayWrap value]]

mutual

/-- The layout of an expression. `atStart` says that it begins its line, `inChain` that a method is called on
it or something like that. -/
def Expr.layout (atStart inChain : Bool) : Expr → List Layout
  | .call function arguments =>
    function.layout atStart inChain ++ argumentList arguments (Expr.layoutAll arguments)
  | .propagation operand => operand.layout atStart inChain ++ [text "?"]
  | .method receiver name arguments =>
    let short := atStart && receiver.isShortName
    chained inChain
      (receiver.layout atStart true ++ (if short then [] else [join]) ++
        [text ".", text name,
          block (if short && !inChain then -step else 0) true
            (argumentList arguments (Expr.layoutAll arguments))])
  | .awaited operand =>
    chained inChain
      (operand.layout atStart true ++ (if atStart && operand.isShortName then [] else [join]) ++
        [text ".await"])
  | .name path => leading inChain [text (pathText path)]
  | .quote value => leading inChain [text (Text.literal value)]
  | .reference target => leading inChain (text "&" :: target.layout false false)
  | .negation operand => leading inChain (text "!" :: operand.layout false false)
  | .tuple items => leading inChain (listed "(" ")" (Expr.layoutAll items))
  | .array items => leading inChain (listed "[" "]" (Expr.layoutAll items))
  | .record type fields =>
    leading inChain
      [limited (text type :: text " \x7b" :: fieldList (Expr.layoutFields fields)), text "\x7d"]
  | .invocation name bracket tokens =>
    leading inChain
      (text name :: text "!" :: text bracket.opening ::
        (if tokens.isEmpty then []
          else
            [block step true
              [join, block 0 false (Token.layoutAll .nothing tokens), gap ⟨0, -step, "", false⟩]]) ++
        [text bracket.closing])
  | .assignment target value =>
    leading inChain
      [block 0 false
        (target.layout false false ++ [text " = ", tie] ++ value.layout false false)]
  | .ifSome binder value body =>
    leading inChain
      (braced
        (ifHead value.mayWrap
          [text "let ",
            block 0 false
              (text "Some" :: listed "(" ")" [[text binder]] ++ [text " = ", tie] ++
                value.layout false false)])
        (Stmt.layoutAll body))
  | .ifTrue value body =>
    leading inChain
      (braced (ifHead value.mayWrap (value.layout false false)) (Stmt.layoutAll body))
  | .forEach binders items body =>
    leading inChain
      [block 0 false
        (text "for " :: listed "(" ")" (binders.map fun binder => [text binder]) ++
          [text " in ", tie, condition items.mayWrap (items.layout false false)] ++
          bracedTight (Stmt.layoutAll body))]
  | .deferred moving body =>
    leading inChain
      (text (if moving then "async move " else "async ") :: braced [] (Stmt.layoutAll body))
  | .cases subject arms =>
    leading inChain
      [block 0 false
        ([text "match ", condition subject.mayWrap (subject.layout false false)] ++
          bracedTight (Expr.layoutArms arms))]

/-- The layouts of some expressions. -/
def Expr.layoutAll : List Expr → List (List Layout)
  | [] => []
  | value :: rest => value.layout false false :: Expr.layoutAll rest

/-- The layouts of the fields of a structure. -/
def Expr.layoutFields : List (String × Option Expr) → List (List Layout)
  | [] => []
  | (name, none) :: rest => [text name] :: Expr.layoutFields rest
  | (name, some value) :: rest =>
    [text name, text ": ", block 0 false (value.layout false false)] :: Expr.layoutFields rest

/-- The layouts of the arms of a case distinction. -/
def Expr.layoutArms : List (String × Expr) → List (List Layout)
  | [] => []
  | (pattern, value) :: rest =>
    (text pattern :: text " => " :: value.layout false false ++ [text ","]) ::
      Expr.layoutArms rest

/-- The layout of a statement. -/
def Stmt.layout : Stmt → List Layout
  | .bind mutable name type value =>
    [block 0 false
      (text (if mutable then "let mut " else "let ") :: text name ::
        ((type.map fun type => text ": " :: type.layout).getD [] ++
          [text " = ", tie] ++ value.layout false false ++ [text ";"]))]
  | .destructure type fields value =>
    [block 0 false
      ([text "let ",
        block step true
          (text type :: text " \x7b" :: fieldList (fields.map fun field => [text field])),
        text "\x7d", text " = ", tie] ++ value.layout false false ++ [text ";"])]
  | .run value =>
    [block 0 false
      (value.layout true false ++
        match value with
        | .ifSome .. | .ifTrue .. | .forEach .. => []
        | _ => [text ";"])]
  | .result value => [block 0 false (value.layout true false)]

/-- The layouts of some statements. -/
def Stmt.layoutAll : List Stmt → List (List Layout)
  | [] => []
  | statement :: rest => statement.layout :: Stmt.layoutAll rest

end

/-! ### Items -/

/-- A line of documentation. A line that has a line break in it is written as a comment between
marks, or, if it has such marks in it that do not match, as an attribute. -/
def documentationLine (content : String) : String :=
  let written := if content.isEmpty then "" else " " ++ content
  if !content.contains '\n' then
    "///" ++ String.ofList (Text.trimEnd (· == ' ') written.toList)
  else if nests 0 written.toList then
    "/**" ++ String.intercalate "\n" (trimInner (Text.pieces (· == '\n') written.toList)) ++ "*/"
  else "#[doc = " ++ Text.literal written ++ "]"
where
  /-- Whether comment marks match; `depth` comments are open. -/
  nests (depth : Nat) : List Char → Bool
    | '/' :: '*' :: rest => nests (depth + 1) rest
    | '*' :: '/' :: rest => if depth = 0 then false else nests (depth - 1) rest
    | _ :: rest => nests depth rest
    | [] => depth = 0
  /-- Lines without blanks at their ends; the last one keeps its own. -/
  trimInner : List (List Char) → List String
    | [] => []
    | [last] => [String.ofList last]
    | line :: rest => String.ofList (Text.trimEnd (· == ' ') line) :: trimInner rest

/-- Lines above an item. -/
def linesAbove (above : List String) : List Layout :=
  above.flatMap fun content => [text content, line]

/-- The layout of a field with what is above it. -/
def Field.layout (field : Field) : List Layout :=
  (if field.hasDefault then [text "#[serde(default)]", line] else []) ++
    [text field.name, text ": "] ++ field.type.layout ++ [text ","]

/-- The layout of an item. -/
def Item.layout : Item → List Layout
  | .function documentation isPublic isAsync name parameters result body =>
    linesAbove (documentation.map documentationLine) ++
      braced
        ([text (if isPublic then "pub " else ""), text (if isAsync then "async " else ""),
            text "fn ", text name, text "(", tie] ++
          (if parameters.isEmpty then []
            else
              [block 0 true
                (join :: commaSeparated 0
                  (parameters.map fun (name, type) => text name :: text ": " :: type.layout))]) ++
          [text ")",
            block (-step) true
              ((result.map fun type => text " -> " :: type.layout).getD []), text " "])
        (Stmt.layoutAll body)
  | .structure attributes name fields =>
    linesAbove attributes ++
      braced [text "struct ", text name, text " "] (fields.map Field.layout)
  | .constant name type value =>
    [block 0 true
      ([text "pub const ", text name, text ": "] ++ type.layout ++ [text " = ", tie] ++
        value.layout false false ++ [text ";"])]
  | .module name => [block step true [text "pub mod ", text name, text ";"]]
  | .fixed content => [text content]

/-- The text of a file. -/
def render (items : List Item) : String :=
  Layout.render [block 0 true (items.flatMap fun item => item.layout ++ [line])]

end Toolwright.Source
