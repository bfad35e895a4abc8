import Toolwright.Yaml.Cursor

/-!
# Scalars

The three ways to write a scalar: plain, between quotes, and as an indented block. All of them fold
line breaks; where plain and quoted scalars do so is shared (`Gap`). Functions that repeat take a
bound on the number of repetitions, for which the length of the text is always enough.
-/

namespace Toolwright.Yaml

/-- The white space between two parts of a scalar: the blanks if it stays on one line, otherwise the
first line break and those after it. -/
structure Gap where
  blanks : List Char := []
  first : List Char := []
  more : List Char := []
  broken : Bool := false

namespace Gap

/-- What a gap becomes in the value: a single break turns into a blank, several lose the first. -/
def fold (g : Gap) : List Char :=
  if g.broken then
    if g.first.head? == some '\n' then
      if g.more.isEmpty then [' '] else g.more
    else g.first ++ g.more
  else g.blanks

/-- Whether there is anything in the gap. -/
def isEmpty (g : Gap) : Bool := !g.broken && g.blanks.isEmpty

/-- Reads the blanks and breaks at a cursor. In front of `indent`, a tab after a break is a
fault, if an indent is given. -/
def read (context : Context) (start : Mark) (indent : Option Int) :
    Nat → Gap → Cursor → Except SyntaxError (Gap × Cursor)
  | 0, g, c => .ok (g, c)
  | bound + 1, g, c =>
    match c.rest with
    | [] => .ok (g, c)
    | ch :: _ =>
      if isBlank ch then
        if g.broken && ch == '\t' && (indent.map fun i => decide ((c.column : Int) < i)).getD false then
          problemIn context start .tabIndentation c
        else if g.broken then read context start indent bound g c.skip
        else read context start indent bound { g with blanks := g.blanks ++ [ch] } c.skip
      else if isBreak ch then
        let (text, c) := c.readBreak
        if g.broken then read context start indent bound { g with more := g.more ++ text } c
        else
          read context start indent bound { g with blanks := [], first := text, broken := true } c
      else .ok (g, c)

end Gap

/-! ### Plain scalars -/

/-- A scalar that has been read. -/
structure ScalarText where
  text : String
  plain : Bool
  /-- Whether the scalar ended with line breaks, after which a key may begin. -/
  broken : Bool
  stop : Mark

/-- Indicators that end a plain scalar within a flow collection. -/
def isFlowIndicator (ch : Char) : Bool :=
  ch == ',' || ch == '[' || ch == ']' || ch == '\x7b' || ch == '\x7d'

/-- A run of characters of a plain scalar without white space, put in front of `seen`. -/
def plainRun (inFlow : Bool) (start : Mark) :
    Nat → List Char → Cursor → Except SyntaxError (List Char × Cursor)
  | 0, seen, c => .ok (seen, c)
  | bound + 1, seen, c =>
    match c.rest with
    | [] => .ok (seen, c)
    | ch :: _ =>
      if isBlank ch || isBreak ch then .ok (seen, c)
      else if inFlow && ch == ':' &&
          ((c.at? 1).map fun next => isFlowIndicator next || next == '?').getD false then
        problemIn .plainScalar start .unexpectedColon c
      else if ch == ':' && c.blankOrEndAt 1 then .ok (seen, c)
      else if inFlow && isFlowIndicator ch then .ok (seen, c)
      else plainRun inFlow start bound (ch :: seen) c.skip

/-- The runs of a plain scalar. `seen` is its text so far, the last character first, `gap` what
stands between it and the cursor, and `stop` where it ends if nothing more belongs to it. -/
def plainRuns (inFlow : Bool) (indent : Int) (start : Mark) (size : Nat) :
    Nat → List Char → Gap → Mark → Cursor → Except SyntaxError (ScalarText × Cursor)
  | 0, seen, gap, stop, c => .ok (⟨String.ofList seen.reverse, true, gap.broken, stop⟩, c)
  | bound + 1, seen, gap, stop, c =>
    let finish (gap : Gap) (seen : List Char) (stop : Mark) (c : Cursor) :
        Except SyntaxError (ScalarText × Cursor) :=
      .ok (⟨String.ofList seen.reverse, true, gap.broken, stop⟩, c)
    if c.seesDocumentBoundary || c.sees '#' then finish gap seen stop c
    else
      match plainRun inFlow start size [] c with
      | .error e => .error e
      | .ok (run, c) =>
        let (seen, gap, stop) :=
          if run.isEmpty then (seen, gap, stop)
          else (run ++ gap.fold.reverse ++ seen, {}, c.mark)
        if !(c.seesAny fun ch => isBlank ch || isBreak ch) then finish gap seen stop c
        else
          match Gap.read .plainScalar start (some indent) size gap c with
          | .error e => .error e
          | .ok (gap, c) =>
            if !inFlow && (c.column : Int) < indent then finish gap seen stop c
            else plainRuns inFlow indent start size bound seen gap stop c

/-- A plain scalar at the cursor; its lines are indented by more than `indent`. -/
def readPlain (size : Nat) (inFlow : Bool) (indent : Int) (c : Cursor) :
    Except SyntaxError (ScalarText × Cursor) :=
  plainRuns inFlow (indent + 1) c.mark size (size + 1) [] {} c.mark c

/-! ### Quoted scalars -/

/-- What a character after a backslash stands for. -/
def escapedChar? (ch : Char) : Option Char :=
  match ch with
  | '0' => some '\x00'
  | 'a' => some '\x07'
  | 'b' => some '\x08'
  | 't' => some '\t'
  | '\t' => some '\t'
  | 'n' => some '\n'
  | 'v' => some '\x0b'
  | 'f' => some '\x0c'
  | 'r' => some '\r'
  | 'e' => some '\x1b'
  | ' ' => some ' '
  | '"' => some '"'
  | '/' => some '/'
  | '\\' => some '\\'
  | 'N' => some '\u0085'
  | '_' => some '\u00a0'
  | 'L' => some '\u2028'
  | 'P' => some '\u2029'
  | _ => none

/-- How many hexadecimal digits follow a character after a backslash. -/
def escapeLength? (ch : Char) : Option Nat :=
  match ch with
  | 'x' => some 2
  | 'u' => some 4
  | 'U' => some 8
  | _ => none

/-- The number a hexadecimal digit denotes. -/
def hexDigit? (ch : Char) : Option Nat :=
  if ch.isDigit then some (ch.toNat - '0'.toNat)
  else if 'a' ≤ ch ∧ ch ≤ 'f' then some (ch.toNat - 'a'.toNat + 10)
  else if 'A' ≤ ch ∧ ch ≤ 'F' then some (ch.toNat - 'A'.toNat + 10)
  else none

/-- The number that hexadecimal digits denote, if they are such. -/
def hexNumber? (digits : List Char) : Option Nat :=
  digits.foldlM (fun n ch => (hexDigit? ch).map fun d => n * 16 + d) 0

/-- An escape sequence at the cursor, which is not an escaped line break. -/
def readEscape (start : Mark) (c : Cursor) : Except SyntaxError (Char × Cursor) :=
  match c.at? 1 with
  | none => problemIn .quotedScalarEscape start .unknownEscape c
  | some ch =>
    match escapedChar? ch, escapeLength? ch with
    | some code, _ => .ok (code, c.skipMany 2)
    | none, some length =>
      let c := c.skipMany 2
      let digits := c.rest.take length
      match if digits.length = length then hexNumber? digits else none with
      | none => problemIn .quotedScalarEscape start .expectedHexadecimal c
      | some n =>
        if (0xd800 ≤ n ∧ n ≤ 0xdfff) ∨ 0x10ffff < n then
          problemIn .quotedScalarEscape start .escapedNonCharacter c
        else .ok (Char.ofNat n, c.skipMany length)
    | none, none => problemIn .quotedScalarEscape start .unknownEscape c

/-- A run of characters of a quoted scalar without white space, put in front of `seen`. The last
part of the answer says whether an escaped line break ended it. -/
def quotedRun (single : Bool) (start : Mark) :
    Nat → List Char → Cursor → Except SyntaxError (List Char × Cursor × Bool)
  | 0, seen, c => .ok (seen, c, false)
  | bound + 1, seen, c =>
    match c.rest with
    | [] => .ok (seen, c, false)
    | ch :: _ =>
      if isBlank ch || isBreak ch then .ok (seen, c, false)
      else if single && ch == '\'' && c.at? 1 == some '\'' then
        quotedRun single start bound ('\'' :: seen) (c.skipMany 2)
      else if ch == (if single then '\'' else '"') then .ok (seen, c, false)
      else if !single && ch == '\\' then
        if ((c.at? 1).map isBreak).getD false then .ok (seen, c.skip.skipBreak, true)
        else
          match readEscape start c with
          | .error e => .error e
          | .ok (code, c) => quotedRun single start bound (code :: seen) c
      else quotedRun single start bound (ch :: seen) c.skip

/-- The runs of a quoted scalar up to its closing quote; `seen` is the text so far, the last
character first. -/
def quotedRuns (single : Bool) (start : Mark) (size : Nat) :
    Nat → List Char → Cursor → Except SyntaxError (ScalarText × Cursor)
  | 0, _, c => problemIn .quotedScalar start .endInScalar c
  | bound + 1, seen, c =>
    if c.seesDocumentBoundary then problemIn .quotedScalar start .documentIndicator c
    else if c.atEnd then problemIn .quotedScalar start .endInScalar c
    else
      match quotedRun single start size [] c with
      | .error e => .error e
      | .ok (run, c, escapedBreak) =>
        let seen := run ++ seen
        if c.sees (if single then '\'' else '"') then
          let c := c.skip
          .ok (⟨String.ofList seen.reverse, false, false, c.mark⟩, c)
        else
          match Gap.read .quotedScalar start none size { broken := escapedBreak } c with
          | .error e => .error e
          | .ok (gap, c) => quotedRuns single start size bound (gap.fold.reverse ++ seen) c

/-- A quoted scalar at the cursor. -/
def readQuoted (size : Nat) (single : Bool) (c : Cursor) :
    Except SyntaxError (ScalarText × Cursor) :=
  quotedRuns single c.mark size (size + 1) [] c.skip

/-! ### Block scalars -/

/-- What becomes of the line breaks at the end of a block scalar. -/
inductive Chomping where
  | strip
  | clip
  | keep
  deriving DecidableEq, Repr

/-- What the header of a block scalar asks for: what becomes of the breaks at its end, and how much
further it is indented than its surroundings (zero if that is to be seen from its text). -/
structure BlockHeader where
  chomping : Chomping := .clip
  increment : Nat := 0

/-- A chomping indicator, if there is one. -/
def readChomping (c : Cursor) : Option Chomping × Cursor :=
  if c.sees '+' then (some .keep, c.skip)
  else if c.sees '-' then (some .strip, c.skip)
  else (none, c)

/-- An indentation indicator, if there is one. -/
def readIncrement (start : Mark) (c : Cursor) : Except SyntaxError (Nat × Cursor) :=
  match c.rest with
  | ch :: _ =>
    if ch == '0' then problemIn .blockScalar start .zeroIndentation c
    else if ch.isDigit then .ok (ch.toNat - '0'.toNat, c.skip)
    else .ok (0, c)
  | [] => .ok (0, c)

/-- The header of a block scalar behind its first character. -/
def readBlockHeader (start : Mark) (c : Cursor) : Except SyntaxError (BlockHeader × Cursor) := do
  let (before, c) := readChomping c
  let (increment, c) ← readIncrement start c
  let (after, c) := if before.isNone && increment ≠ 0 then readChomping c else (none, c)
  let c := c.skipBlanksAndComment
  if c.atLineEnd then
    .ok (⟨(before.or after).getD .clip, increment⟩, c.skipBreak)
  else problemIn .blockScalar start .expectedCommentOrBreak c

/-- The indentation and the empty lines in front of the text of a block scalar. `indent` is zero as
long as it is not known. The answer is the breaks, the greatest column reached, and the cursor. -/
def blockBreaks (indent : Nat) (start : Mark) :
    Nat → List Char → Nat → Cursor → Except SyntaxError (List Char × Nat × Cursor)
  | 0, breaks, widest, c => .ok (breaks, widest, c)
  | bound + 1, breaks, widest, c =>
    let room := indent - c.column
    let spaces := (if indent = 0 then c.rest else c.rest.take room).takeWhile (· == ' ')
    let c := c.skipMany spaces.length
    let widest := max widest c.column
    if (indent = 0 || c.column < indent) && c.sees '\t' then
      problemIn .blockScalar start .tabInBlockScalar c
    else if c.seesAny isBreak then
      let (text, c) := c.readBreak
      blockBreaks indent start bound (breaks ++ text) widest c
    else .ok (breaks, widest, c)

/-- The lines of a block scalar. `seen` is the text so far, the last character first, `leading` the
break before the cursor, `trailing` the breaks after that, and `afterBlank` whether the line
before began with a blank. -/
def blockLines (literal : Bool) (indent : Nat) (start : Mark) (size : Nat) :
    Nat → List Char → List Char → List Char → Bool → Cursor →
    Except SyntaxError (List Char × List Char × List Char × Cursor)
  | 0, seen, leading, trailing, _, c => .ok (seen, leading, trailing, c)
  | bound + 1, seen, leading, trailing, afterBlank, c =>
    if c.column == indent && !c.atEnd then
      let beginsBlank := c.seesAny isBlank
      let joint :=
        if !literal && leading.head? == some '\n' && !afterBlank && !beginsBlank then
          if trailing.isEmpty then [' '] else trailing
        else leading ++ trailing
      let (line, c) := c.takeWhile Cursor.inLine
      let (leading, c) := c.readBreak
      match blockBreaks indent start size [] 0 c with
      | .error e => .error e
      | .ok (trailing, _, c) =>
        blockLines literal indent start size bound (line.reverse ++ joint.reverse ++ seen) leading
          trailing beginsBlank c
    else .ok (seen, leading, trailing, c)

/-- A block scalar at the cursor, within surroundings indented by `indent`. -/
def readBlock (size : Nat) (literal : Bool) (indent : Int) (c : Cursor) :
    Except SyntaxError (ScalarText × Cursor) := do
  let start := c.mark
  let (header, c) ← readBlockHeader start c.skip
  let known := if header.increment = 0 then 0 else (max indent 0).toNat + header.increment
  let (trailing, widest, c) ← blockBreaks known start size [] 0 c
  let known := if known = 0 then max (max widest (indent + 1).toNat) 1 else known
  let (seen, leading, trailing, c) ← blockLines literal known start size size [] [] trailing false c
  let tail :=
    match header.chomping with
    | .strip => []
    | .clip => leading
    | .keep => leading ++ trailing
  .ok (⟨String.ofList (seen.reverse ++ tail), false, false, c.mark⟩, c)

end Toolwright.Yaml
