import Toolwright.Yaml.Stream

/-!
# Events

The grammar of YAML turns the tokens of a stream into events: the nodes of its documents in
the order of the text, each collection with a start and an end. The state of the grammar is a stack
of what is still expected (`State`), so a step looks at one token and needs no more.

As with tokens, a stream that fails gives the events before the failure as well.
-/

namespace Toolwright.Yaml

/-- What an event says. -/
inductive EventKind where
  | documentStart
  | documentEnd
  | streamEnd
  | aliasOf (name : String)
  | scalar (anchor tag : Option String) (text : String) (plain : Bool)
  | sequenceStart (anchor tag : Option String)
  | sequenceEnd
  | mappingStart (anchor tag : Option String)
  | mappingEnd
  deriving DecidableEq, Repr, Inhabited

/-- An event with the place where its node begins. -/
structure Event where
  kind : EventKind
  mark : Mark
  deriving DecidableEq, Repr, Inhabited

/-- What the grammar expects. -/
inductive State where
  | implicitDocumentStart
  | documentStart
  | documentContent
  | documentEnd
  | blockNode
  | blockSequenceFirst
  | blockSequenceEntry
  | indentlessEntry
  | blockMappingFirst
  | blockMappingKey
  | blockMappingValue
  | flowSequenceFirst
  | flowSequenceEntry
  | flowPairKey
  | flowPairValue
  | flowPairEnd
  | flowMappingFirst
  | flowMappingKey
  | flowMappingValue
  | flowMappingEmptyValue
  | done
  deriving DecidableEq, Repr, Inhabited

/-- The grammar between two events. -/
structure Grammar where
  /-- The tokens that are left. -/
  tokens : List Token
  /-- The fault behind the last token, if there is one. -/
  fault : Option SyntaxError
  state : State := .implicitDocumentStart
  /-- What comes after the current node, the next first. -/
  states : List State := []
  /-- Where the surrounding collections begin, the innermost first. -/
  marks : List Mark := []
  /-- What tag handles stand for. -/
  tags : List (String × String) := []

namespace Grammar

/-- A step of the grammar. -/
abbrev Step := Except SyntaxError (Event × Grammar)

/-- The next token. -/
def peek (g : Grammar) : Except SyntaxError Token :=
  match g.tokens, g.fault with
  | token :: _, _ => .ok token
  | [], some fault => .error fault
  | [], none => .ok ⟨.streamEnd, Mark.start, Mark.start⟩

/-- The grammar behind the next token. -/
def skip (g : Grammar) : Grammar := { g with tokens := g.tokens.tail }

/-- The grammar in the state that was expected next. -/
def pop (g : Grammar) : Grammar :=
  match g.states with
  | state :: states => { g with state, states }
  | [] => { g with state := .done }

/-- The grammar with a state expected after the current node. -/
def expect (g : Grammar) (state : State) : Grammar := { g with states := state :: g.states }

/-- The grammar in a state. -/
def goto (g : Grammar) (state : State) : Grammar := { g with state }

/-- The grammar inside a collection that begins with the next token. -/
def enter (g : Grammar) (token : Token) : Grammar := { g.skip with marks := token.start :: g.marks }

/-- The grammar behind the innermost collection. -/
def leave (g : Grammar) : Grammar := { g.pop with marks := g.marks.tail }

/-- A fault within the innermost collection. -/
def faultIn {α : Type} (g : Grammar) (context : Context) (problem : Problem) (place : Mark) :
    Except SyntaxError α :=
  .error ⟨problem, place, some (context, g.marks.head?.getD Mark.start)⟩

/-- An empty scalar where a node is missing. -/
def empty (g : Grammar) (mark : Mark) : Step := .ok (⟨.scalar none none "" true, mark⟩, g)

/-! ### Documents -/

/-- The tag handles that every document knows. -/
def defaultTags : List (String × String) := [("!", "!"), ("!!", "tag:yaml.org,2002:")]

/-- Reads the directives in front of a document; `versioned` says whether a version was seen. -/
def directives : Nat → Bool → Grammar → Except SyntaxError Grammar
  | 0, _, g => .ok g
  | bound + 1, versioned, g => do
    let token ← g.peek
    match token.kind with
    | .versionDirective major minor =>
      if versioned then .error ⟨.duplicateVersion, token.start, none⟩
      else if major ≠ 1 ∨ (minor ≠ 1 ∧ minor ≠ 2) then
        .error ⟨.incompatibleVersion, token.start, none⟩
      else directives bound true g.skip
    | .tagDirective handle lead =>
      if (g.tags.lookup handle).isSome then .error ⟨.duplicateTagDirective, token.start, none⟩
      else directives bound versioned { g.skip with tags := g.tags ++ [(handle, lead)] }
    | _ =>
      .ok { g with tags := g.tags ++ defaultTags.filter fun (h, _) => (g.tags.lookup h).isNone }

/-- The start of a document, or the end of the stream. After a document, end markers may follow. -/
def documentStart : Nat → Bool → Grammar → Step
  | 0, _, g => .ok (⟨.streamEnd, Mark.start⟩, g.goto .done)
  | bound + 1, implicit, g => do
    let token ← g.peek
    let g := { g with tags := [] }
    match token.kind with
    | .streamEnd => .ok (⟨.streamEnd, token.start⟩, g.skip.goto .done)
    | kind =>
      if kind == .documentEnd && !implicit then documentStart bound implicit g.skip
      else
        let explicit :=
          match kind with
          | .versionDirective .. | .tagDirective .. | .documentStart => true
          | _ => false
        if implicit && !explicit then
          let g ← directives bound false g
          .ok (⟨.documentStart, token.start⟩, (g.expect .documentEnd).goto .blockNode)
        else
          let g ← directives bound false g
          let next ← g.peek
          if next.kind == .documentStart then
            .ok (⟨.documentStart, token.start⟩, (g.skip.expect .documentEnd).goto .documentContent)
          else .error ⟨.expectedDocumentStart, next.start, none⟩

/-- The end of a document. -/
def documentEnd (g : Grammar) : Step := do
  let token ← g.peek
  let g := if token.kind == .documentEnd then g.skip else g
  .ok (⟨.documentEnd, token.start⟩, g.goto .documentStart)

/-! ### Nodes -/

/-- The properties in front of a node. -/
structure Properties where
  anchor : Option String := none
  /-- Handle and suffix of the tag, and where it begins. -/
  tag : Option (String × String × Mark) := none

/-- Reads the properties in front of a node, in either order, each at most once. -/
def properties (g : Grammar) : Except SyntaxError (Properties × Grammar) := do
  let first ← g.peek
  match first.kind with
  | .anchor name =>
    let g := g.skip
    let second ← g.peek
    match second.kind with
    | .tag handle suffix => .ok (⟨some name, some (handle, suffix, second.start)⟩, g.skip)
    | _ => .ok (⟨some name, none⟩, g)
  | .tag handle suffix =>
    let g := g.skip
    let second ← g.peek
    match second.kind with
    | .anchor name => .ok (⟨some name, some (handle, suffix, first.start)⟩, g.skip)
    | _ => .ok (⟨none, some (handle, suffix, first.start)⟩, g)
  | _ => .ok ({}, g)

/-- The full tag of a node that begins at `start`. -/
def fullTag (g : Grammar) (start : Mark) : Option (String × String × Mark) →
    Except SyntaxError (Option String)
  | none => .ok none
  | some (handle, suffix, mark) =>
    if handle.isEmpty then .ok (some suffix)
    else
      match g.tags.lookup handle with
      | some lead => .ok (some (lead ++ suffix))
      | none => .error ⟨.undefinedTagHandle, mark, some (.node, start)⟩

/-- A node. Block collections are allowed in a block, and there a sequence need not be indented
further than the key it belongs to. -/
def node (g : Grammar) (block indentless : Bool) : Step := do
  let first ← g.peek
  match first.kind with
  | .aliasOf name => .ok (⟨.aliasOf name, first.start⟩, g.skip.pop)
  | _ =>
    let start := first.start
    let (props, g) ← g.properties
    let anchor := props.anchor
    let tag ← g.fullTag start props.tag
    let token ← g.peek
    let sequence (state : State) : Step := .ok (⟨.sequenceStart anchor tag, start⟩, g.goto state)
    let mapping (state : State) : Step := .ok (⟨.mappingStart anchor tag, start⟩, g.goto state)
    let missing : Step :=
      if anchor.isSome || tag.isSome then .ok (⟨.scalar anchor tag "" true, start⟩, g.pop)
      else
        .error ⟨.expectedNode, token.start, some (if block then .blockNode else .flowNode, start)⟩
    match token.kind with
    | .blockEntry => if indentless then sequence .indentlessEntry else missing
    | .scalar text plain =>
      let tag := if tag == some "!" then none else tag
      .ok (⟨.scalar anchor tag text plain, start⟩, g.skip.pop)
    | .flowSequenceStart => sequence .flowSequenceFirst
    | .flowMappingStart => mapping .flowMappingFirst
    | .blockSequenceStart => if block then sequence .blockSequenceFirst else missing
    | .blockMappingStart => if block then mapping .blockMappingFirst else missing
    | _ => missing

/-- The content of an explicit document, which may be missing. -/
def documentContent (g : Grammar) : Step := do
  let token ← g.peek
  match token.kind with
  | .versionDirective .. | .tagDirective .. | .documentStart | .documentEnd | .streamEnd =>
    g.pop.empty token.start
  | _ => g.node true false

/-! ### Block collections -/

/-- The grammar inside a collection; at its first token it enters. -/
def inside (g : Grammar) (first : Bool) : Except SyntaxError Grammar :=
  if first then do .ok (g.enter (← g.peek)) else .ok g

/-- A node that ends in front of some tokens, or an empty scalar if one of those comes at once. -/
def nodeOr (g : Grammar) (mark : Mark) (ends : List TokenKind) (next : State)
    (block indentless : Bool) : Step := do
  let token ← g.peek
  if ends.contains token.kind then (g.goto next).empty mark
  else (g.expect next).node block indentless

/-- An item of a block sequence, or its end. -/
def blockSequenceEntry (g : Grammar) (first : Bool) : Step := do
  let g ← g.inside first
  let token ← g.peek
  match token.kind with
  | .blockEntry =>
    g.skip.nodeOr token.stop [.blockEntry, .blockEnd] .blockSequenceEntry true false
  | .blockEnd => .ok (⟨.sequenceEnd, token.start⟩, g.leave.skip)
  | _ => g.faultIn .blockCollection .expectedDash token.start

/-- An item of a sequence that is not indented further than its key, or its end. -/
def indentlessEntry (g : Grammar) : Step := do
  let token ← g.peek
  match token.kind with
  | .blockEntry =>
    g.skip.nodeOr token.stop [.blockEntry, .key, .value, .blockEnd] .indentlessEntry true false
  | _ => .ok (⟨.sequenceEnd, token.start⟩, g.pop)

/-- A key of a block mapping, or its end. -/
def blockMappingKey (g : Grammar) (first : Bool) : Step := do
  let g ← g.inside first
  let token ← g.peek
  match token.kind with
  | .key => g.skip.nodeOr token.stop [.key, .value, .blockEnd] .blockMappingValue true true
  | .blockEnd => .ok (⟨.mappingEnd, token.start⟩, g.leave.skip)
  | _ => g.faultIn .blockMapping .expectedKey token.start

/-- A value of a block mapping. -/
def blockMappingValue (g : Grammar) : Step := do
  let token ← g.peek
  match token.kind with
  | .value => g.skip.nodeOr token.stop [.key, .value, .blockEnd] .blockMappingKey true true
  | _ => (g.goto .blockMappingKey).empty token.start

/-! ### Flow collections -/

/-- The grammar behind the comma that must stand before every entry but the first. -/
def afterComma (g : Grammar) (first : Bool) (context : Context) (problem : Problem) :
    Except SyntaxError Grammar := do
  if first then .ok g
  else
    let token ← g.peek
    if token.kind == .flowEntry then .ok g.skip else g.faultIn context problem token.start

/-- An entry of a flow sequence, or its end. -/
def flowSequenceEntry (g : Grammar) (first : Bool) : Step := do
  let g ← g.inside first
  let close (g : Grammar) (token : Token) : Step :=
    .ok (⟨.sequenceEnd, token.start⟩, g.leave.skip)
  let token ← g.peek
  if token.kind == .flowSequenceEnd then close g token
  else
    let g ← g.afterComma first .flowSequence .expectedCommaOrBracket
    let token ← g.peek
    if token.kind == .key then
      .ok (⟨.mappingStart none none, token.start⟩, g.skip.goto .flowPairKey)
    else if token.kind == .flowSequenceEnd then close g token
    else (g.expect .flowSequenceEntry).node false false

/-- The key of a pair that is an entry of a flow sequence. -/
def flowPairKey (g : Grammar) : Step := do
  let token ← g.peek
  if [TokenKind.value, .flowEntry, .flowSequenceEnd].contains token.kind then
    (g.skip.goto .flowPairValue).empty token.stop
  else (g.expect .flowPairValue).node false false

/-- The value of a pair that is an entry of a flow sequence. -/
def flowPairValue (g : Grammar) : Step := do
  let token ← g.peek
  if token.kind == .value then
    let next ← g.skip.peek
    g.skip.nodeOr next.start [.flowEntry, .flowSequenceEnd] .flowPairEnd false false
  else (g.goto .flowPairEnd).empty token.start

/-- The end of a pair that is an entry of a flow sequence. -/
def flowPairEnd (g : Grammar) : Step := do
  let token ← g.peek
  .ok (⟨.mappingEnd, token.start⟩, g.goto .flowSequenceEntry)

/-- A key of a flow mapping, or its end. -/
def flowMappingKey (g : Grammar) (first : Bool) : Step := do
  let g ← g.inside first
  let close (g : Grammar) (token : Token) : Step :=
    .ok (⟨.mappingEnd, token.start⟩, g.leave.skip)
  let token ← g.peek
  if token.kind == .flowMappingEnd then close g token
  else
    let g ← g.afterComma first .flowMapping .expectedCommaOrBrace
    let token ← g.peek
    if token.kind == .key then
      let next ← g.skip.peek
      g.skip.nodeOr next.start [.value, .flowEntry, .flowMappingEnd] .flowMappingValue false false
    else if token.kind == .flowMappingEnd then close g token
    else (g.expect .flowMappingEmptyValue).node false false

/-- A value of a flow mapping. -/
def flowMappingValue (g : Grammar) : Step := do
  let token ← g.peek
  if token.kind == .value then
    let next ← g.skip.peek
    g.skip.nodeOr next.start [.flowEntry, .flowMappingEnd] .flowMappingKey false false
  else (g.goto .flowMappingKey).empty token.start

/-- The value of a key of a flow mapping without a colon. -/
def flowMappingEmptyValue (g : Grammar) : Step := do
  let token ← g.peek
  (g.goto .flowMappingKey).empty token.start

/-- The next event. -/
def step (g : Grammar) : Step :=
  match g.state with
  | .implicitDocumentStart => documentStart (g.tokens.length + 1) true g
  | .documentStart => documentStart (g.tokens.length + 1) false g
  | .documentContent => g.documentContent
  | .documentEnd => g.documentEnd
  | .blockNode => g.node true false
  | .blockSequenceFirst => g.blockSequenceEntry true
  | .blockSequenceEntry => g.blockSequenceEntry false
  | .indentlessEntry => g.indentlessEntry
  | .blockMappingFirst => g.blockMappingKey true
  | .blockMappingKey => g.blockMappingKey false
  | .blockMappingValue => g.blockMappingValue
  | .flowSequenceFirst => g.flowSequenceEntry true
  | .flowSequenceEntry => g.flowSequenceEntry false
  | .flowPairKey => g.flowPairKey
  | .flowPairValue => g.flowPairValue
  | .flowPairEnd => g.flowPairEnd
  | .flowMappingFirst => g.flowMappingKey true
  | .flowMappingKey => g.flowMappingKey false
  | .flowMappingValue => g.flowMappingValue
  | .flowMappingEmptyValue => g.flowMappingEmptyValue
  | .done => .ok (⟨.streamEnd, Mark.start⟩, g)

/-- The events up to the end of the stream or the first fault. -/
def run : Nat → Grammar → Array Event → Array Event × Option SyntaxError
  | 0, _, events => (events, none)
  | bound + 1, g, events =>
    match g.step with
    | .error fault => (events, some fault)
    | .ok (event, g) =>
      if event.kind == .streamEnd then (events.push event, none)
      else run bound g (events.push event)

end Grammar

/-- The events of a text, and the fault that ends them if there is one. -/
def Event.ofText (text : List Char) : Array Event × Option SyntaxError :=
  match Token.ofText text with
  | (tokens, fault) =>
    let g : Grammar := { tokens := tokens.toList.tail, fault }
    g.run (4 * tokens.size + 8) #[]

end Toolwright.Yaml
