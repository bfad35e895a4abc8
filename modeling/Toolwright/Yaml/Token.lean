import Toolwright.Yaml.Scalar

/-!
# Tokens

The tokens of a YAML stream. Some of them stand for characters of the text (an indicator, a scalar),
others for its indentation: the start and the end of a block collection, and the key indicator of a
simple key, which is seen only when the colon after the key is reached.
-/

namespace Toolwright.Yaml

/-- What a token is. -/
inductive TokenKind where
  | streamStart
  | streamEnd
  | versionDirective (major minor : Nat)
  | tagDirective (handle lead : String)
  | documentStart
  | documentEnd
  | blockSequenceStart
  | blockMappingStart
  | blockEnd
  | flowSequenceStart
  | flowSequenceEnd
  | flowMappingStart
  | flowMappingEnd
  | blockEntry
  | flowEntry
  | key
  | value
  | aliasOf (name : String)
  | anchor (name : String)
  | tag (handle suffix : String)
  | scalar (text : String) (plain : Bool)
  deriving DecidableEq, Repr, Inhabited

/-- A token with the places where it begins and ends. -/
structure Token where
  kind : TokenKind
  start : Mark
  stop : Mark
  deriving DecidableEq, Repr, Inhabited

/-! ### Anchors, tags and directives -/

/-- An anchor or an alias at the cursor. -/
def readAnchor (isAlias : Bool) (c : Cursor) : Except SyntaxError (Token × Cursor) :=
  let start := c.mark
  let (name, c) := c.skip.takeWhile isAlpha
  let ends := c.blankOrEndAt 0 || c.seesAny fun ch => "?:,]\x7d%@\x60".toList.contains ch
  if name.isEmpty || !ends then
    problemIn (if isAlias then .aliasName else .anchor) start .expectedAlphanumeric c
  else
    let name := String.ofList name
    .ok (⟨if isAlias then .aliasOf name else .anchor name, start, c.mark⟩, c)

/-- A tag handle at the cursor. -/
def readTagHandle (inDirective : Bool) (start : Mark) (c : Cursor) :
    Except SyntaxError (List Char × Cursor) :=
  if !c.sees '!' then
    problemIn (if inDirective then .tagDirectiveHandle else .tagScan) start .expectedBang c
  else
    let (name, c) := c.skip.takeWhile isAlpha
    if c.sees '!' then .ok ('!' :: name ++ ['!'], c.skip)
    else if inDirective && !name.isEmpty then problemIn .tagDirectiveBang start .expectedBang c
    else .ok ('!' :: name, c)

/-- The octet that an escape at the cursor stands for. -/
def readUriOctet (context : Context) (start : Mark) (c : Cursor) :
    Except SyntaxError (Nat × Cursor) :=
  match c.rest with
  | '%' :: a :: b :: _ =>
    match hexDigit? a, hexDigit? b with
    | some high, some low => .ok (high * 16 + low, c.skipMany 3)
    | _, _ => problemIn context start .expectedEscapedOctet c
  | _ => problemIn context start .expectedEscapedOctet c

/-- The trailing octets of an escaped character. -/
def readUriTail (context : Context) (start : Mark) :
    Nat → Nat → Cursor → Except SyntaxError (Nat × Cursor)
  | 0, bits, c => .ok (bits, c)
  | missing + 1, bits, c =>
    match readUriOctet context start c with
    | .error e => .error e
    | .ok (octet, after) =>
      if octet / 64 ≠ 2 then problemIn context start .uriTrailingOctet c
      else readUriTail context start missing (bits * 64 + octet % 64) after

/-- An escaped character at the cursor. -/
def readUriEscape (context : Context) (start : Mark) (c : Cursor) :
    Except SyntaxError (Char × Cursor) :=
  match readUriOctet context start c with
  | .error e => .error e
  | .ok (octet, after) =>
    match sequenceHead? octet.toUInt8 with
    | none => problemIn context start .uriLeadingOctet c
    | some (length, bits) =>
      (readUriTail context start (length - 1) bits after).map fun (n, c) => (Char.ofNat n, c)

/-- Whether a character may stand in a tag; flow indicators may only between angle brackets. -/
def isUriChar (verbatim : Bool) (ch : Char) : Bool :=
  isAlpha ch || ";/?:@&=+$.%!~*'()".toList.contains ch || (verbatim && ",[]".toList.contains ch)

/-- The characters of a tag from the cursor on, put in front of `seen`. -/
def readUri (verbatim : Bool) (context : Context) (start : Mark) :
    Nat → List Char → Cursor → Except SyntaxError (List Char × Cursor)
  | 0, seen, c => .ok (seen, c)
  | bound + 1, seen, c =>
    match c.rest with
    | [] => .ok (seen, c)
    | ch :: _ =>
      if !isUriChar verbatim ch then .ok (seen, c)
      else if ch == '%' then
        match readUriEscape context start c with
        | .error e => .error e
        | .ok (code, c) => readUri verbatim context start bound (code :: seen) c
      else readUri verbatim context start bound (ch :: seen) c.skip

/-- The text of a tag: what has been read of it, and the characters from the cursor on. -/
def readTagText (size : Nat) (verbatim : Bool) (context : Context) (start : Mark)
    (head : List Char) (c : Cursor) : Except SyntaxError (String × Cursor) :=
  match readUri verbatim context start size head.tail.reverse c with
  | .error e => .error e
  | .ok (seen, after) =>
    if head.isEmpty && c.mark.index == after.mark.index then
      problemIn context start .expectedTagUri after
    else .ok (String.ofList seen.reverse, after)

/-- A tag at the cursor. -/
def readTag (size : Nat) (inFlow : Bool) (c : Cursor) : Except SyntaxError (Token × Cursor) := do
  let start := c.mark
  let (handle, suffix, c) ←
    if c.at? 1 == some '<' then do
      let (suffix, c) ← readTagText size true .tagUri start [] (c.skipMany 2)
      if c.sees '>' then pure ("", suffix, c.skip)
      else problemIn .tagScan start .expectedTagEnd c
    else do
      let (handle, c) ← readTagHandle false start c
      if 1 < handle.length && handle.getLast? == some '!' then
        let (suffix, c) ← readTagText size false .tagUri start [] c
        pure (String.ofList handle, suffix, c)
      else
        let (suffix, c) ← readTagText size false .tagUri start handle c
        if suffix.isEmpty then pure ("", "!", c) else pure ("!", suffix, c)
  if (inFlow && c.sees ',') || c.blankOrEndAt 0 then
    .ok (⟨.tag handle suffix, start, c.mark⟩, c)
  else problemIn .tagScan start .expectedBlankOrBreak c

/-- A number of a version at the cursor. -/
def readVersionNumber (start : Mark) (c : Cursor) : Except SyntaxError (Nat × Cursor) :=
  let digits := c.rest.takeWhile Char.isDigit
  if 9 < digits.length then problemIn .versionDirective start .longVersion (c.skipMany 9)
  else if digits.isEmpty then problemIn .versionDirective start .expectedVersion c
  else .ok (digits.foldl (fun n d => n * 10 + (d.toNat - '0'.toNat)) 0, c.skipMany digits.length)

/-- A directive at the cursor, with the line break after it. -/
def readDirective (size : Nat) (c : Cursor) : Except SyntaxError (Token × Cursor) := do
  let start := c.mark
  let (name, c) := c.skip.takeWhile isAlpha
  if name.isEmpty then problemIn .directive start .expectedDirectiveName c
  else if !c.blankOrEndAt 0 then problemIn .directive start .nonAlphabeticDirective c
  else
    let (token, c) ←
      if String.ofList name == "YAML" then do
        let (major, c) ← readVersionNumber start (c.skipWhile isBlank)
        if c.sees '.' then
          let (minor, c) ← readVersionNumber start c.skip
          pure ((⟨.versionDirective major minor, start, c.mark⟩ : Token), c)
        else problemIn .versionDirective start .expectedDigitOrDot c
      else if String.ofList name == "TAG" then do
        let (handle, c) ← readTagHandle true start (c.skipWhile isBlank)
        if !c.seesAny isBlank then problemIn .tagDirectiveScan start .expectedBlank c
        else
          let (lead, c) ← readTagText size true .tagDirectiveUri start [] (c.skipWhile isBlank)
          if c.blankOrEndAt 0 then
            pure ((⟨.tagDirective (String.ofList handle) lead, start, c.mark⟩ : Token), c)
          else problemIn .tagDirectiveScan start .expectedBlankOrBreak c
      else problemIn .directive start .unknownDirective c
    let c := c.skipBlanksAndComment
    if c.atLineEnd then .ok (token, c.skipBreak)
    else problemIn .directive start .expectedCommentOrBreak c

end Toolwright.Yaml
