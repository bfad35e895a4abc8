import Toolwright.Yaml.Token

/-!
# The token stream of a text

A text is read token by token while its indentation is kept as a stack of columns. Whether something
is the key of a mapping is known only at the colon after it, so every token that might begin
such a key is remembered (`Candidate`); when the colon comes, the key indicator, and if need be the
start of a mapping, are put into the stream in front of it.

A text that fails gives the tokens before the failure as well, because the events of those tokens,
and the faults of their values, come first. A token that may still turn out to be a key
is not among them: nobody can tell yet what comes before it.
-/

namespace Toolwright.Yaml

/-- A token that may begin a simple key. -/
structure Candidate where
  possible : Bool := false
  /-- Whether nothing but a key can stand there. -/
  required : Bool := false
  /-- The number of tokens before it. -/
  position : Nat := 0
  mark : Mark := Mark.start
  deriving Inhabited

/-- The state between two tokens. -/
structure Stream where
  cursor : Cursor
  /-- The tokens so far. -/
  tokens : Array Token := #[]
  /-- The current indentation; −1 outside every block. -/
  indent : Int := -1
  /-- The indentations of the surrounding blocks, the innermost first. -/
  indents : List Int := []
  /-- The candidate of the current flow level, and of the levels around it. -/
  candidates : List Candidate := [{}]
  flowLevel : Nat := 0
  keyAllowed : Bool := true

namespace Stream

/-- The mark of the cursor. -/
def mark (s : Stream) : Mark := s.cursor.mark

/-- Whether the cursor is inside a flow collection. -/
def inFlow (s : Stream) : Bool := s.flowLevel != 0

/-- A problem at the cursor, outside every construct. -/
def problem {α : Type} (s : Stream) (problem : Problem) : Except SyntaxError α :=
  .error ⟨problem, s.mark, none⟩

/-- The stream with a token at its end. -/
def push (s : Stream) (token : Token) : Stream := { s with tokens := s.tokens.push token }

/-- The stream with a token that takes no room. -/
def pushAt (s : Stream) (kind : TokenKind) (mark : Mark) : Stream := s.push ⟨kind, mark, mark⟩

/-- The stream with a token of some characters at the cursor, and the cursor behind them. -/
def pushIndicator (s : Stream) (kind : TokenKind) (length : Nat) : Stream :=
  let after := s.cursor.skipMany length
  { s.push ⟨kind, s.mark, after.mark⟩ with cursor := after }

/-! ### Simple keys -/

/-- The fault of a required key whose colon never came. -/
def missingColon {α : Type} (s : Stream) (candidate : Candidate) : Except SyntaxError α :=
  problemIn .simpleKey candidate.mark .expectedColon s.cursor

/-- Gives up the candidates that can no longer be keys: a simple key lies within one line and is at
most 1024 characters long. -/
def dropStale (s : Stream) : Except SyntaxError Stream :=
  let rec drop : List Candidate → Except SyntaxError (List Candidate)
    | [] => .ok []
    | k :: outer => do
      -- outer levels are looked at first
      let outer ← drop outer
      if k.possible && (k.mark.line < s.mark.line || k.mark.index + 1024 < s.mark.index) then
        if k.required then s.missingColon k else .ok ({ k with possible := false } :: outer)
      else .ok (k :: outer)
  (drop s.candidates).map fun candidates => { s with candidates }

/-- Gives up the candidate of the current level. -/
def dropCandidate (s : Stream) : Except SyntaxError Stream :=
  match s.candidates with
  | [] => .ok s
  | k :: outer =>
    if k.possible && k.required then s.missingColon k
    else .ok { s with candidates := { k with possible := false } :: outer }

/-- Makes the next token the candidate of the current level, if a key may begin there. -/
def saveCandidate (s : Stream) : Except SyntaxError Stream :=
  if s.keyAllowed then do
    let required := !s.inFlow && s.indent == (s.cursor.column : Int)
    let s ← s.dropCandidate
    .ok { s with candidates := ⟨true, required, s.tokens.size, s.mark⟩ :: s.candidates.tail }
  else .ok s

/-! ### Indentation -/

/-- Opens a block at a column that lies further in than the current one; its start goes in
front of the token at a position. -/
def openBlock (s : Stream) (column : Nat) (position : Nat) (kind : TokenKind) (mark : Mark) : Stream :=
  if !s.inFlow && s.indent < (column : Int) then
    { s with
      indents := s.indent :: s.indents
      indent := column
      tokens := s.tokens.insertIdxIfInBounds position ⟨kind, mark, mark⟩ }
  else s

/-- Closes the blocks that lie further in than a column. -/
def closeBlocks (s : Stream) (column : Int) : Stream :=
  let rec close (mark : Mark) (indent : Int) (tokens : Array Token) :
      List Int → Int × List Int × Array Token
    | [] => (indent, [], tokens)
    | outer :: rest =>
      if column < indent then close mark outer (tokens.push ⟨.blockEnd, mark, mark⟩) rest
      else (indent, outer :: rest, tokens)
  if s.inFlow then s
  else
    let (indent, indents, tokens) := close s.mark s.indent s.tokens s.indents
    { s with indent, indents, tokens }

/-! ### Tokens -/

/-- Moves the cursor to the next token, over blanks, comments and line breaks. -/
def skipToToken : Nat → Stream → Stream
  | 0, s => s
  | bound + 1, s =>
    let c := if s.mark.index == 0 && s.cursor.sees '\ufeff' then s.cursor.skip else s.cursor
    let c := c.skipWhile fun ch => ch == ' ' || (ch == '\t' && (s.inFlow || !s.keyAllowed))
    let c := if c.sees '#' then c.skipWhile Cursor.inLine else c
    if c.seesAny isBreak then
      skipToToken bound { s with cursor := c.skipBreak, keyAllowed := s.keyAllowed || !s.inFlow }
    else { s with cursor := c }

/-- Ends the stream; what is left of the last line counts as one. -/
def fetchEnd (s : Stream) : Except SyntaxError Stream := do
  let mark := s.mark
  let mark := if mark.column == 0 then mark else ⟨mark.index, mark.line + 1, 0⟩
  let s := { s with cursor := ⟨s.cursor.rest, mark⟩ }
  let s ← (s.closeBlocks (-1)).dropCandidate
  .ok ({ s with keyAllowed := false }.pushAt .streamEnd mark)

/-- A token that ends all blocks: a directive or a document marker. -/
def beforeDocument (s : Stream) : Except SyntaxError Stream := do
  let s ← (s.closeBlocks (-1)).dropCandidate
  .ok { s with keyAllowed := false }

/-- The start of a flow collection. -/
def fetchFlowStart (s : Stream) (kind : TokenKind) : Except SyntaxError Stream := do
  let s ← s.saveCandidate
  .ok ({ s with
    candidates := {} :: s.candidates
    flowLevel := s.flowLevel + 1
    keyAllowed := true }.pushIndicator kind 1)

/-- The end of a flow collection. -/
def fetchFlowEnd (s : Stream) (kind : TokenKind) : Except SyntaxError Stream := do
  let s ← s.dropCandidate
  let candidates := if s.inFlow then s.candidates.tail else s.candidates
  .ok ({ s with
    candidates
    flowLevel := s.flowLevel - 1
    keyAllowed := false }.pushIndicator kind 1)

/-- The comma between the entries of a flow collection. -/
def fetchFlowEntry (s : Stream) : Except SyntaxError Stream := do
  let s ← s.dropCandidate
  .ok ({ s with keyAllowed := true }.pushIndicator .flowEntry 1)

/-- The dash before an item of a block sequence. -/
def fetchBlockEntry (s : Stream) : Except SyntaxError Stream := do
  if !s.inFlow && !s.keyAllowed then s.problem .blockEntryNotAllowed
  else
    let s := s.openBlock s.cursor.column s.tokens.size .blockSequenceStart s.mark
    let s ← s.dropCandidate
    .ok ({ s with keyAllowed := true }.pushIndicator .blockEntry 1)

/-- The question mark before a key. -/
def fetchKey (s : Stream) : Except SyntaxError Stream := do
  if !s.inFlow && !s.keyAllowed then s.problem .keyNotAllowed
  else
    let s := s.openBlock s.cursor.column s.tokens.size .blockMappingStart s.mark
    let s ← s.dropCandidate
    .ok ({ s with keyAllowed := !s.inFlow }.pushIndicator .key 1)

/-- The colon before a value. -/
def fetchValue (s : Stream) : Except SyntaxError Stream :=
  match s.candidates with
  | k :: outer =>
    if k.possible then
      let tokens := s.tokens.insertIdxIfInBounds k.position ⟨.key, k.mark, k.mark⟩
      let s := { s with tokens, candidates := { k with possible := false } :: outer }
      let s := s.openBlock k.mark.column k.position .blockMappingStart k.mark
      .ok ({ s with keyAllowed := false }.pushIndicator .value 1)
    else if !s.inFlow && !s.keyAllowed then s.problem .valueNotAllowed
    else
      let s := s.openBlock s.cursor.column s.tokens.size .blockMappingStart s.mark
      .ok ({ s with keyAllowed := !s.inFlow }.pushIndicator .value 1)
  | [] => s.problem .valueNotAllowed

/-- A token that may begin a key and is read by a reader of its own. -/
def fetchNode (s : Stream) (read : Stream → Except SyntaxError (Token × Cursor)) :
    Except SyntaxError Stream := do
  let s ← s.saveCandidate
  let s := { s with keyAllowed := false }
  let (token, cursor) ← read s
  .ok { s.push token with cursor }

/-- A block scalar. -/
def fetchBlockScalar (size : Nat) (s : Stream) (literal : Bool) : Except SyntaxError Stream := do
  let s ← s.dropCandidate
  let (scalar, cursor) ← readBlock size literal s.indent s.cursor
  let s := { s with keyAllowed := true }
  .ok { s.push ⟨.scalar scalar.text false, s.mark, scalar.stop⟩ with cursor }

/-- A quoted scalar. -/
def fetchQuoted (size : Nat) (s : Stream) (single : Bool) : Except SyntaxError Stream :=
  s.fetchNode fun s => do
    let (scalar, cursor) ← readQuoted size single s.cursor
    .ok (⟨.scalar scalar.text false, s.mark, scalar.stop⟩, cursor)

/-- A plain scalar. -/
def fetchPlain (size : Nat) (s : Stream) : Except SyntaxError Stream := do
  let s ← s.saveCandidate
  let (scalar, cursor) ← readPlain size s.inFlow s.indent s.cursor
  let s := { s with keyAllowed := scalar.broken }
  .ok { s.push ⟨.scalar scalar.text true, s.mark, scalar.stop⟩ with cursor }

/-- Characters that cannot begin a plain scalar. -/
def indicators : List Char := "-?:,[]\x7b\x7d#&*!|>'\"%@\x60".toList

/-- Whether a plain scalar begins at the cursor. -/
def seesPlain (s : Stream) : Bool :=
  match s.cursor.rest with
  | [] => false
  | ch :: _ =>
    (!isBlank ch && !isBreak ch && !indicators.contains ch) ||
      (ch == '-' && !((s.cursor.at? 1).map isBlank).getD false) ||
      (!s.inFlow && (ch == '?' || ch == ':') && !s.cursor.blankOrEndAt 1)

/-- Reads the token at the cursor. -/
def fetchToken (size : Nat) (s : Stream) : Except SyntaxError Stream := do
  let s := s.skipToToken (size + 1)
  let s ← s.dropStale
  let s := s.closeBlocks s.cursor.column
  let c := s.cursor
  match c.rest with
  | [] => s.fetchEnd
  | ch :: _ =>
    if c.column == 0 && ch == '%' then
      let s ← s.beforeDocument
      let (token, cursor) ← readDirective size s.cursor
      .ok { s.push token with cursor }
    else if c.seesMarker '-' then
      let s ← s.beforeDocument
      .ok (s.pushIndicator .documentStart 3)
    else if c.seesMarker '.' then
      let s ← s.beforeDocument
      .ok (s.pushIndicator .documentEnd 3)
    else if ch == '[' then s.fetchFlowStart .flowSequenceStart
    else if ch == '\x7b' then s.fetchFlowStart .flowMappingStart
    else if ch == ']' then s.fetchFlowEnd .flowSequenceEnd
    else if ch == '\x7d' then s.fetchFlowEnd .flowMappingEnd
    else if ch == ',' then s.fetchFlowEntry
    else if ch == '-' && c.blankOrEndAt 1 then s.fetchBlockEntry
    else if ch == '?' && (s.inFlow || c.blankOrEndAt 1) then s.fetchKey
    else if ch == ':' && (s.inFlow || c.blankOrEndAt 1) then s.fetchValue
    else if ch == '*' then s.fetchNode fun s => readAnchor true s.cursor
    else if ch == '&' then s.fetchNode fun s => readAnchor false s.cursor
    else if ch == '!' then s.fetchNode fun s => readTag size s.inFlow s.cursor
    else if ch == '|' && !s.inFlow then s.fetchBlockScalar size true
    else if ch == '>' && !s.inFlow then s.fetchBlockScalar size false
    else if ch == '\'' then s.fetchQuoted size true
    else if ch == '"' then s.fetchQuoted size false
    else if s.seesPlain then s.fetchPlain size
    else problemIn .nextToken s.mark .unknownStart s.cursor

/-- Reads one more token, after which keys may have gone stale. -/
def fetch (size : Nat) (s : Stream) : Except SyntaxError Stream := do
  (← s.fetchToken size).dropStale

/-- The tokens that are certain: those before the first that may still become a key. -/
def certain (s : Stream) : Array Token :=
  let bound := s.candidates.foldl (fun n k => if k.possible then min n k.position else n) s.tokens.size
  s.tokens.extract 0 bound

/-- Reads tokens up to the end of the stream or the first fault. -/
def fetchAll (size : Nat) : Nat → Stream → Array Token × Option SyntaxError
  | 0, s => (s.tokens, none)
  | bound + 1, s =>
    if (s.tokens.back?.map fun t => t.kind == .streamEnd).getD false then (s.tokens, none)
    else
      match s.fetch size with
      | .ok s => fetchAll size bound s
      | .error e => (s.certain, some e)

end Stream

/-- The tokens of a text, and the fault that ends them if there is one. -/
def Token.ofText (text : List Char) : Array Token × Option SyntaxError :=
  let size := text.length
  let start : Stream := { cursor := ⟨text, Mark.start⟩ }
  (start.pushAt .streamStart Mark.start).fetchAll size (2 * size + 2)

end Toolwright.Yaml
