import Toolwright.Json.Basic
import Toolwright.Yaml.Value

/-!
# YAML values as JSON

Tags go away, scalar keys become strings, and everything else keeps its place. A number that is not
finite and a key that is a collection have no counterpart.
-/

namespace Toolwright.Yaml

/-- Why a value has no counterpart in JSON. -/
inductive Unrepresentable where
  | infiniteNumber (value : YamlNumber)
  | collectionKey (value : Yaml)
  deriving Repr, Inhabited

/-- The message for a value without counterpart. -/
def Unrepresentable.message : Unrepresentable → String
  | infiniteNumber value => "non-finite number " ++ value.text
  | collectionKey value => "mapping key must be a scalar, got " ++ value.inspect

/-- The string that a key becomes. -/
def jsonKey : Yaml → Except Unrepresentable String
  | string text => .ok text
  | number value => .ok value.text
  | bool value => .ok (toString value)
  | null => .ok "null"
  | tagged _ value => value.jsonKey
  | other => .error (.collectionKey other)

/-- The number that a number becomes. -/
def jsonNumber : YamlNumber → Except Unrepresentable Number
  | .integer value => .ok (.integer value)
  | .real value => .ok (.real value)
  | other => .error (.infiniteNumber other)

mutual

/-- The JSON value that a value becomes; two keys may have become one. -/
def toJson : Yaml → Except Unrepresentable Json
  | null => .ok .null
  | bool value => .ok (.bool value)
  | number value => (jsonNumber value).map .number
  | string text => .ok (.string text)
  | sequence items => (toJsonItems items).map .array
  | mapping entries => (toJsonEntries entries).map fun pairs => .object (Members.ofPairs pairs)
  | tagged _ value => value.toJson

/-- The items that items become. -/
def toJsonItems : List Yaml → Except Unrepresentable (List Json)
  | [] => .ok []
  | item :: rest => do
    let item ← item.toJson
    let rest ← toJsonItems rest
    .ok (item :: rest)

/-- The members that entries become, as they are written. -/
def toJsonEntries : List (Yaml × Yaml) → Except Unrepresentable (List (String × Json))
  | [] => .ok []
  | (key, value) :: rest => do
    let key ← key.jsonKey
    let value ← value.toJson
    let rest ← toJsonEntries rest
    .ok ((key, value) :: rest)

end

end Toolwright.Yaml
