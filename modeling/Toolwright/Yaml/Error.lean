/-!
# What can be wrong with a YAML text

A text can fail at three levels. Its bytes may not be text (`EncodingError`), its characters may not
be a YAML stream (`SyntaxError`, a problem at a place, often with the construct in which it was
found), or its nodes may not be values (`ValueError`). The first line and column of a text
are so common a place that messages leave them out.
-/

namespace Toolwright.Yaml

/-- A place in a text: characters, lines and characters of the line before it. -/
structure Mark where
  index : Nat
  line : Nat
  column : Nat
  deriving DecidableEq, Repr, Inhabited

namespace Mark

/-- The beginning of the text. -/
def start : Mark := ⟨0, 0, 0⟩

/-- Whether the mark is in the first column of the first line. -/
def isOrigin (m : Mark) : Bool := m.line == 0 && m.column == 0

/-- The mark in a message, counted from one. -/
def text (m : Mark) : String :=
  "line " ++ toString (m.line + 1) ++ " column " ++ toString (m.column + 1)

/-- The mark at the end of a message, unless it is the origin. -/
def suffix (m : Mark) : String :=
  if m.isOrigin then "" else " at " ++ m.text

end Mark

/-- Why bytes are not a text, with the number of bytes before the fault. -/
inductive EncodingError where
  | leadingOctet (offset : Nat)
  | incompleteSequence (offset : Nat)
  | trailingOctet (offset : Nat)
  | sequenceLength (offset : Nat)
  | notACharacter (offset : Nat)
  | controlCharacter (offset : Nat)
  deriving DecidableEq, Repr, Inhabited

/-- The message for bytes that are not a text. -/
def EncodingError.message (e : EncodingError) : String :=
  let (problem, offset) :=
    match e with
    | leadingOctet n => ("invalid leading UTF-8 octet", n)
    | incompleteSequence n => ("incomplete UTF-8 octet sequence", n)
    | trailingOctet n => ("invalid trailing UTF-8 octet", n)
    | sequenceLength n => ("invalid length of a UTF-8 sequence", n)
    | notACharacter n => ("invalid Unicode character", n)
    | controlCharacter n => ("control characters are not allowed", n)
  if offset = 0 then problem else problem ++ " at position " ++ toString offset

/-- What is missing or out of place in a stream. -/
inductive Problem where
  | expectedColon
  | blockEntryNotAllowed
  | keyNotAllowed
  | valueNotAllowed
  | unknownStart
  | unknownDirective
  | expectedCommentOrBreak
  | expectedDirectiveName
  | nonAlphabeticDirective
  | expectedDigitOrDot
  | longVersion
  | expectedVersion
  | expectedBlank
  | expectedBlankOrBreak
  | expectedAlphanumeric
  | expectedTagEnd
  | expectedBang
  | expectedTagUri
  | expectedEscapedOctet
  | uriLeadingOctet
  | uriTrailingOctet
  | zeroIndentation
  | tabInBlockScalar
  | documentIndicator
  | endInScalar
  | unknownEscape
  | expectedHexadecimal
  | escapedNonCharacter
  | unexpectedColon
  | tabIndentation
  | expectedStreamStart
  | expectedDocumentStart
  | duplicateVersion
  | incompatibleVersion
  | duplicateTagDirective
  | undefinedTagHandle
  | expectedNode
  | expectedDash
  | expectedKey
  | expectedCommaOrBracket
  | expectedCommaOrBrace
  deriving DecidableEq, Repr, Inhabited

/-- The wording of a problem. -/
def Problem.text : Problem → String
  | expectedColon => "could not find expected ':'"
  | blockEntryNotAllowed => "block sequence entries are not allowed in this context"
  | keyNotAllowed => "mapping keys are not allowed in this context"
  | valueNotAllowed => "mapping values are not allowed in this context"
  | unknownStart => "found character that cannot start any token"
  | unknownDirective => "found unknown directive name"
  | expectedCommentOrBreak => "did not find expected comment or line break"
  | expectedDirectiveName => "could not find expected directive name"
  | nonAlphabeticDirective => "found unexpected non-alphabetical character"
  | expectedDigitOrDot => "did not find expected digit or '.' character"
  | longVersion => "found extremely long version number"
  | expectedVersion => "did not find expected version number"
  | expectedBlank => "did not find expected whitespace"
  | expectedBlankOrBreak => "did not find expected whitespace or line break"
  | expectedAlphanumeric => "did not find expected alphabetic or numeric character"
  | expectedTagEnd => "did not find the expected '>'"
  | expectedBang => "did not find expected '!'"
  | expectedTagUri => "did not find expected tag URI"
  | expectedEscapedOctet => "did not find URI escaped octet"
  | uriLeadingOctet => "found an incorrect leading UTF-8 octet"
  | uriTrailingOctet => "found an incorrect trailing UTF-8 octet"
  | zeroIndentation => "found an indentation indicator equal to 0"
  | tabInBlockScalar => "found a tab character where an indentation space is expected"
  | documentIndicator => "found unexpected document indicator"
  | endInScalar => "found unexpected end of stream"
  | unknownEscape => "found unknown escape character"
  | expectedHexadecimal => "did not find expected hexdecimal number"
  | escapedNonCharacter => "found invalid Unicode character escape code"
  | unexpectedColon => "found unexpected ':'"
  | tabIndentation => "found a tab character that violates indentation"
  | expectedStreamStart => "did not find expected <stream-start>"
  | expectedDocumentStart => "did not find expected <document start>"
  | duplicateVersion => "found duplicate %YAML directive"
  | incompatibleVersion => "found incompatible YAML document"
  | duplicateTagDirective => "found duplicate %TAG directive"
  | undefinedTagHandle => "found undefined tag handle"
  | expectedNode => "did not find expected node content"
  | expectedDash => "did not find expected '-' indicator"
  | expectedKey => "did not find expected key"
  | expectedCommaOrBracket => "did not find expected ',' or ']'"
  | expectedCommaOrBrace => "did not find expected ',' or '\x7d'"

/-- The construct in which a problem was found. -/
inductive Context where
  | simpleKey
  | nextToken
  | directive
  | versionDirective
  | tagDirectiveScan
  | tagDirectiveHandle
  | tagDirectiveBang
  | tagDirectiveUri
  | anchor
  | aliasName
  | tagScan
  | tagUri
  | blockScalar
  | quotedScalar
  | quotedScalarEscape
  | plainScalar
  | node
  | blockNode
  | flowNode
  | blockCollection
  | blockMapping
  | flowSequence
  | flowMapping
  deriving DecidableEq, Repr, Inhabited

/-- The wording of a context. -/
def Context.text : Context → String
  | simpleKey => "while scanning a simple key"
  | nextToken => "while scanning for the next token"
  | directive => "while scanning a directive"
  | versionDirective => "while scanning a %YAML directive"
  | tagDirectiveScan => "while scanning a %TAG directive"
  | tagDirectiveHandle => "while scanning a tag directive"
  | tagDirectiveBang => "while parsing a tag directive"
  | tagDirectiveUri => "while parsing a %TAG directive"
  | anchor => "while scanning an anchor"
  | aliasName => "while scanning an alias"
  | tagScan => "while scanning a tag"
  | tagUri => "while parsing a tag"
  | blockScalar => "while scanning a block scalar"
  | quotedScalar => "while scanning a quoted scalar"
  | quotedScalarEscape => "while parsing a quoted scalar"
  | plainScalar => "while scanning a plain scalar"
  | node => "while parsing a node"
  | blockNode => "while parsing a block node"
  | flowNode => "while parsing a flow node"
  | blockCollection => "while parsing a block collection"
  | blockMapping => "while parsing a block mapping"
  | flowSequence => "while parsing a flow sequence"
  | flowMapping => "while parsing a flow mapping"

/-- A problem at a place, with the construct around it and where that begins. -/
structure SyntaxError where
  problem : Problem
  place : Mark
  context : Option (Context × Mark) := none
  deriving DecidableEq, Repr, Inhabited

/-- The message of a problem. The beginning of the construct is told where it is another place. -/
def SyntaxError.message (e : SyntaxError) : String :=
  e.problem.text ++ e.place.suffix ++
    match e.context with
    | none => ""
    | some (context, mark) =>
      ", " ++ context.text ++
        if mark.line == e.place.line && mark.column == e.place.column then "" else mark.suffix

/-- Everything that can be wrong with a YAML text. -/
inductive Error where
  | encoding (error : EncodingError)
  | grammar (error : SyntaxError)
  /-- A scalar that is not of the type that its tag or its size asks for. -/
  | badScalar (path : String) (complaint : String) (place : Mark)
  | unknownAnchor (place : Mark)
  | tooDeep (place : Mark)
  | tooManyAliases
  | endOfStream
  | moreThanOneDocument
  | scalarInMerge
  | taggedInMerge
  | scalarInMergeElement
  | sequenceInMergeElement
  deriving DecidableEq, Repr, Inhabited

/-- The message of an error. -/
def Error.message : Error → String
  | encoding error => error.message
  | grammar error => error.message
  | badScalar path complaint place =>
    (if path = "." then "" else path ++ ": ") ++ complaint ++ place.suffix
  | unknownAnchor place => "unknown anchor" ++ place.suffix
  | tooDeep place => "recursion limit exceeded" ++ place.suffix
  | tooManyAliases => "repetition limit exceeded"
  | endOfStream => "EOF while parsing a value"
  | moreThanOneDocument =>
    "deserializing from YAML containing more than one document is not supported"
  | scalarInMerge => "expected a mapping or list of mappings for merging, but found scalar"
  | taggedInMerge => "unexpected tagged value in merge"
  | scalarInMergeElement => "expected a mapping for merging, but found scalar"
  | sequenceInMergeElement => "expected a mapping for merging, but found sequence"

end Toolwright.Yaml
