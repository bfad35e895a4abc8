import Toolwright.Decimal.Shortest
import Toolwright.Text.Quoted

/-!
# YAML values

A value of the core schema, or one with a tag of its own. The keys of a mapping are values too,
pairwise different as values: the order of a mapping's entries does not matter for that.
-/

namespace Toolwright

open Decimal

/-- A number of a YAML text. -/
inductive YamlNumber where
  | integer (value : Int)
  | real (value : Binary64)
  | infinite (negative : Bool)
  | notANumber
  deriving DecidableEq, Repr, Inhabited

/-- A YAML value. -/
inductive Yaml where
  | null
  | bool (value : Bool)
  | number (value : YamlNumber)
  | string (text : String)
  | sequence (items : List Yaml)
  | mapping (entries : List (Yaml × Yaml))
  | tagged (tag : String) (value : Yaml)
  deriving Repr, Inhabited

namespace YamlNumber

/-- The format of reals in keys and messages. -/
def realFormat : RealFormat := ⟨-5, 16, "e", "e-", ".0"⟩

/-- The text of a number. -/
def text : YamlNumber → String
  | integer value => toString value
  | real value => value.render realFormat
  | infinite false => ".inf"
  | infinite true => "-.inf"
  | notANumber => ".nan"

/-- Whether two numbers are the same. -/
def same : YamlNumber → YamlNumber → Bool
  | integer a, integer b => a == b
  | real a, real b => a.same b
  | infinite a, infinite b => a == b
  | notANumber, notANumber => true
  | _, _ => false

end YamlNumber

namespace Yaml

mutual

/-- Whether two values are the same. -/
def same : Yaml → Yaml → Bool
  | null, null => true
  | bool a, bool b => a == b
  | number a, number b => a.same b
  | string a, string b => a == b
  | sequence a, sequence b => sameItems a b
  | mapping a, mapping b => a.length == b.length && sameEntries a b
  | tagged s a, tagged t b => s == t && same a b
  | _, _ => false

/-- Whether two lists of items agree place by place. -/
def sameItems : List Yaml → List Yaml → Bool
  | [], [] => true
  | a :: as, b :: bs => same a b && sameItems as bs
  | _, _ => false

/-- Whether each entry of the first mapping has its like in the second. -/
def sameEntries : List (Yaml × Yaml) → List (Yaml × Yaml) → Bool
  | [], _ => true
  | (key, value) :: rest, entries =>
    entries.any (fun entry => same key entry.1 && same value entry.2) && sameEntries rest entries

end

/-- Whether a key is in a mapping. -/
def hasKey (key : Yaml) (entries : List (Yaml × Yaml)) : Bool :=
  entries.any fun entry => key.same entry.1

mutual

/-- The value as it is shown in a message. -/
def inspect : Yaml → String
  | null => "Null"
  | bool value => "Bool(" ++ toString value ++ ")"
  | number value => "Number(" ++ value.text ++ ")"
  | string text => "String(" ++ Text.quoted text ++ ")"
  | sequence items => "Sequence [" ++ inspectItems items ++ "]"
  | mapping entries => "Mapping \x7b" ++ inspectEntries entries ++ "\x7d"
  | tagged tag value => "TaggedValue \x7b tag: !" ++ tag ++ ", value: " ++ value.inspect ++ " \x7d"

/-- Items as they are shown in a message. -/
def inspectItems : List Yaml → String
  | [] => ""
  | [item] => item.inspect
  | item :: rest => item.inspect ++ ", " ++ inspectItems rest

/-- A key as it is shown in a message: a scalar without the name of its type. -/
def inspectKey : Yaml → String
  | bool value => toString value
  | number value => value.text
  | string text => Text.quoted text
  | other => other.inspect

/-- Entries as they are shown in a message. -/
def inspectEntries : List (Yaml × Yaml) → String
  | [] => ""
  | [(key, value)] => key.inspectKey ++ ": " ++ value.inspect
  | (key, value) :: rest =>
    key.inspectKey ++ ": " ++ value.inspect ++ ", " ++ inspectEntries rest

end

end Yaml

end Toolwright
