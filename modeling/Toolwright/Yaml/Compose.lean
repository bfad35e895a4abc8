import Toolwright.Yaml.Event
import Toolwright.Yaml.Plain

/-!
# From events to a value

The events of one document give one value. An alias stands for the node with its anchor, which is
read again at that place; an alias inside its own node therefore never ends, and it is the limit on
nesting that stops it. A second limit stops texts that grow by repetition alone.

A node with a tag of its own becomes a tagged value. Anchors are numbered in the order in which
their names first occur, and a name that is used again takes the number of names so far, so an
alias means the last node under its number.
-/

namespace Toolwright.Yaml

/-- An event of a document whose aliases are numbers. -/
inductive Piece where
  | aliasOf (id : Nat)
  | scalar (tag : Option String) (text : String) (plain : Bool)
  | sequenceStart (tag : Option String)
  | sequenceEnd
  | mappingStart (tag : Option String)
  | mappingEnd
  /-- The document of a stream without any. -/
  | nothing
  deriving DecidableEq, Repr, Inhabited

/-- The events of one document. -/
structure Document where
  pieces : Array (Piece × Mark) := #[]
  /-- Where the nodes with a number are, the latest first. -/
  anchored : List (Nat × Nat) := []
  /-- What ended the events too early. -/
  fault : Option Error := none

namespace Document

/-- The numbers of anchor names. -/
abbrev Numbers := List (String × Nat)

/-- The document with a node at its end, which may have an anchor. -/
def push (d : Document) (numbers : Numbers) (anchor : Option String) (piece : Piece) (mark : Mark) :
    Document × Numbers :=
  match anchor with
  | none => ({ d with pieces := d.pieces.push (piece, mark) }, numbers)
  | some name =>
    let id := numbers.length
    let numbers := (name, id) :: numbers.filter fun entry => entry.1 != name
    ({ d with
      pieces := d.pieces.push (piece, mark)
      anchored := (id, d.pieces.size) :: d.anchored }, numbers)

/-- The events up to the end of a document, and those behind it. -/
def read (fault : Option SyntaxError) :
    List Event → Document → Numbers → Document × Option (List Event)
  | [], d, _ => ({ d with fault := fault.map .grammar }, none)
  | event :: rest, d, numbers =>
    let push (anchor : Option String) (piece : Piece) := d.push numbers anchor piece event.mark
    match event.kind with
    | .documentStart => read fault rest d numbers
    | .documentEnd => (d, some rest)
    | .streamEnd => (d, none)
    | .aliasOf name =>
      match numbers.lookup name with
      | some id =>
        let (d, numbers) := push none (.aliasOf id)
        read fault rest d numbers
      | none => ({ d with fault := some (.unknownAnchor event.mark) }, none)
    | .scalar anchor tag text plain =>
      let (d, numbers) := push anchor (.scalar tag text plain)
      read fault rest d numbers
    | .sequenceStart anchor tag =>
      let (d, numbers) := push anchor (.sequenceStart tag)
      read fault rest d numbers
    | .sequenceEnd =>
      let (d, numbers) := push none .sequenceEnd
      read fault rest d numbers
    | .mappingStart anchor tag =>
      let (d, numbers) := push anchor (.mappingStart tag)
      read fault rest d numbers
    | .mappingEnd =>
      let (d, numbers) := push none .mappingEnd
      read fault rest d numbers

/-! ### Values -/

/-- Where a value is within the document, for messages. -/
inductive Path where
  | root
  | item (parent : Path) (index : Nat)
  | entry (parent : Path) (key : String)
  | unknown (parent : Path)
  | aliased (parent : Path)

/-- What a path puts in front of a step. -/
def Path.lead : Path → String
  | root => ""
  | item parent index => parent.lead ++ "[" ++ toString index ++ "]."
  | entry parent key => parent.lead ++ key ++ "."
  | unknown parent => parent.lead ++ "?."
  | aliased root => ".."
  | aliased parent => parent.lead

/-- The text of a path. -/
def Path.text : Path → String
  | root => "."
  | item parent index => parent.lead ++ "[" ++ toString index ++ "]"
  | entry parent key => parent.lead ++ key
  | unknown parent => parent.lead ++ "?"
  | aliased parent => parent.text

/-- A value with the number of the event behind it and the number of aliases followed so far. -/
structure Reading (α : Type) where
  value : α
  position : Nat
  aliases : Nat

/-- The event with a number. -/
def piece (d : Document) (position : Nat) : Except Error (Piece × Mark) :=
  match d.pieces[position]? with
  | some piece => .ok piece
  | none => .error (d.fault.getD .endOfStream)

/-- The local tag of a node, without its mark; other tags belong to the core schema. -/
def localTag? : Option String → Option String
  | none => none
  | some tag =>
    match tag.toList with
    | '!' :: c :: rest => some (String.ofList (c :: rest))
    | ['!'] => some "!"
    | _ => none

/-- The complaint about a key that is in a mapping already. -/
def duplicateKey (key : Yaml) : String :=
  "duplicate entry " ++
    match key with
    | .null => "with null key"
    | .bool value => "with key `" ++ toString value ++ "`"
    | .number value => "with key " ++ value.text
    | .string text => "with key " ++ Text.quoted text
    | _ => "in YAML map"

/-- How a node is read at a position: its path, whether a local tag counts, the position and the
aliases followed. -/
abbrev NodeReader := Path → Bool → Nat → Nat → Except Error (Reading Yaml)

/-- Reads the node at a position, or the node that the alias there stands for. -/
def throughAlias (d : Document) (node : NodeReader) : NodeReader :=
  fun path tagged position aliases => do
    match (← d.piece position).1 with
    | .aliasOf id =>
      if d.pieces.size * 100 < aliases + 1 then .error .tooManyAliases
      else
        match d.anchored.lookup id with
        | some target =>
          let r ← node (.aliased path) true target (aliases + 1)
          .ok { r with position := position + 1 }
        | none => .error .endOfStream
    | _ => node path tagged position aliases

/-- The items of a sequence from a position on, put in front of `seen`. -/
def items (d : Document) (node : NodeReader) (path : Path) :
    Nat → List Yaml → Nat → Nat → Except Error (Reading (List Yaml))
  | 0, seen, position, aliases => .ok ⟨seen.reverse, position, aliases⟩
  | bound + 1, seen, position, aliases => do
    match (← d.piece position).1 with
    | .sequenceEnd | .nothing => .ok ⟨seen.reverse, position + 1, aliases⟩
    | _ =>
      let r ← d.throughAlias node (.item path seen.length) true position aliases
      d.items node path bound (r.value :: seen) r.position r.aliases

/-- The entries of a mapping from a position on, put in front of `seen`. -/
def entries (d : Document) (node : NodeReader) (path : Path) (tagged : Bool) (mark : Mark) :
    Nat → List (Yaml × Yaml) → Nat → Nat → Except Error (Reading (List (Yaml × Yaml)))
  | 0, seen, position, aliases => .ok ⟨seen.reverse, position, aliases⟩
  | bound + 1, seen, position, aliases => do
    let piece := (← d.piece position).1
    match piece with
    | .mappingEnd | .nothing => .ok ⟨seen.reverse, position + 1, aliases⟩
    | _ =>
      let key ← d.throughAlias node path tagged position aliases
      if Yaml.hasKey key.value seen then
        .error (.badScalar path.text (duplicateKey key.value) mark)
      else
        let below :=
          match piece with
          | .scalar _ text _ => Path.entry path text
          | _ => .unknown path
        let r ← d.throughAlias node below true key.position key.aliases
        d.entries node path tagged mark bound ((key.value, r.value) :: seen) r.position r.aliases

/-- A value under the local tag of its node, if that has one. -/
def wrap (tag : Option String) (value : Yaml) : Yaml :=
  match tag with
  | some tag => .tagged tag value
  | none => value

/-- The node at a position, which is no alias; collections nest at most `depth` deep. -/
def node (d : Document) : Nat → NodeReader
  | depth, path, tags, position, aliases => do
    let (piece, mark) ← d.piece position
    let own := fun (tag : Option String) => if tags then localTag? tag else none
    match piece with
    | .scalar tag text plain =>
      -- a local tag says nothing about the type, and within one no other tag counts
      let type := if (own tag).isSome || !tags then none else tag
      match Plain.scalar type text plain with
      | .ok value => .ok ⟨wrap (own tag) value, position + 1, aliases⟩
      | .error complaint => .error (.badScalar path.text complaint mark)
    | .sequenceStart tag =>
      match depth with
      | 0 => .error (.tooDeep mark)
      | depth + 1 =>
        let r ← d.items (d.node depth) path (d.pieces.size + 1) [] (position + 1) aliases
        .ok ⟨wrap (own tag) (.sequence r.value), r.position, r.aliases⟩
    | .mappingStart tag =>
      match depth with
      | 0 => .error (.tooDeep mark)
      | depth + 1 =>
        let keyTags := (own tag).isNone && tags
        let r ← d.entries (d.node depth) path keyTags mark (d.pieces.size + 1) [] (position + 1)
          aliases
        .ok ⟨wrap (own tag) (.mapping r.value), r.position, r.aliases⟩
    | _ => .ok ⟨.null, position + 1, aliases⟩

/-- How deep collections may nest. -/
def maxDepth : Nat := 128

/-- The value of the document. -/
def value (d : Document) : Except Error Yaml := do
  let r ← d.throughAlias (d.node maxDepth) .root true 0 0
  match d.fault with
  | some fault => .error fault
  | none => .ok r.value

end Document

/-- The value of a text, which must hold one document; a text without any denotes null. -/
def ofText (bytes : List UInt8) : Except Error Yaml :=
  match decode bytes with
  | .error e => .error (.encoding e)
  | .ok text => do
    let (events, fault) := Event.ofText text
    let (first, more) := Document.read fault events.toList {} []
    let first :=
      if more.isNone && first.fault.isNone && first.pieces.isEmpty then
        { first with pieces := #[(.nothing, Mark.start)] }
      else first
    let value ← first.value
    match more with
    | none => .ok value
    | some events =>
      let (second, _) := Document.read fault events {} []
      if second.pieces.isEmpty && second.fault.isNone then .ok value
      else .error .moreThanOneDocument

end Toolwright.Yaml
