import Toolwright.Json.Basic
import Toolwright.Text.Numeral
import Toolwright.Text.Pieces

/-!
# References within a document

A schema may stand for another one of its document by naming its place: `#/` and the path to it from
the root, whose steps are keys of objects or places in arrays. In a step `~1` is a slash and `~0` a
tilde. The same paths without `#` are JSON pointers, which read the places in arrays more strictly.
-/

namespace Toolwright

/-- Why a reference leads nowhere. -/
inductive ReferenceError where
  /-- It does not point into its own document. -/
  | notLocal (reference : String)
  /-- A step of its path is missing. -/
  | missing (reference segment : String)
  deriving DecidableEq, Repr, Inhabited

/-- The message for a reference that leads nowhere. -/
def ReferenceError.message : ReferenceError → String
  | notLocal reference => "only local references are supported, got '" ++ reference ++ "'"
  | missing reference segment =>
    "reference '" ++ reference ++ "' not found: missing segment '" ++ segment ++ "'"

namespace Reference

/-- The key that a step of a path names. -/
def unescape (segment : List Char) : String :=
  String.ofList (Text.replacePair '~' '0' ['~'] (Text.replacePair '~' '1' ['/'] segment))

/-- The steps of a path. -/
def segments (path : List Char) : List String :=
  (Text.pieces (· == '/') path).map unescape

/-- The place in an array that a step of a reference names; a plus sign may stand in front. -/
def index? (segment : String) : Option Nat :=
  Text.naturalBelow? 0x10000000000000000 segment.toList

/-- The place in an array that a step of a pointer names: no sign and no leading zero. -/
def pointerIndex? (segment : String) : Option Nat :=
  match segment.toList with
  | '0' :: _ :: _ => none
  | digits => Text.digitsBelow? 0x10000000000000000 digits

/-- The value one step below a value. -/
def step? (index : String → Option Nat) (value : Json) (segment : String) : Option Json :=
  match value with
  | .object members => Members.get? segment members
  | .array items => (index segment).bind fun n => items[n]?
  | _ => none

/-- The value at the end of a path, or the first step that is missing. -/
def walk (reference : String) : List String → Json → Except ReferenceError Json
  | [], value => .ok value
  | segment :: rest, value =>
    match step? index? value segment with
    | some next => walk reference rest next
    | none => .error (.missing reference segment)

/-- The value that a reference stands for within a document. -/
def resolve (reference : String) (root : Json) : Except ReferenceError Json :=
  match Text.after? ['#', '/'] reference.toList with
  | some path => walk reference (segments path) root
  | none => .error (.notLocal reference)

end Reference

/-- The value that a JSON pointer leads to. -/
def Json.pointer? (value : Json) (pointer : String) : Option Json :=
  match pointer.toList with
  | [] => some value
  | '/' :: path =>
    (Reference.segments path).foldlM (Reference.step? Reference.pointerIndex?) value
  | _ => none

/-- The reference that a schema or a parameter consists of. -/
def Json.reference? (value : Json) : Option String := value.getString? "$ref"

end Toolwright
