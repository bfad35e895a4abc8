import Toolwright.Document.Reference

/-!
# Schemas

A schema is a JSON value; these are the questions asked of it. Questions that do not make sense for a
value have the answer they have for an empty schema.
-/

namespace Toolwright

/-- The type of a parameter. -/
inductive ParameterType where
  | string
  | integer
  | number
  | boolean
  | array
  | object
  /-- A type that the specification does not name in a way that is known. -/
  | any
  deriving DecidableEq, Repr, Inhabited

namespace ParameterType

/-- The name of a type in documentation. -/
def label : ParameterType → String
  | string => "string"
  | integer => "integer"
  | number => "number"
  | boolean => "boolean"
  | array => "array"
  | object => "object"
  | any => "any"

/-- The name of a type in a JSON schema. -/
def jsonName? : ParameterType → Option String
  | any => none
  | type => some type.label

/-- The type with a label; any other text means any type. -/
def ofLabel (label : String) : ParameterType :=
  [string, integer, number, boolean, array, object].find? (fun type => type.label = label)
    |>.getD any

end ParameterType

namespace Schema

/-- The declared type; of several, the first that is not `null`. -/
def type? (schema : Json) : Option String :=
  match schema.get? "type" with
  | some (.string kind) => some kind
  | some (.array kinds) => (kinds.filterMap Json.string?).find? (· ≠ "null")
  | _ => none

/-- The declared properties in order. -/
def properties? (schema : Json) : Option (List (String × Json)) :=
  (schema.get? "properties").bind Json.members?

/-- Whether the schema itself lists a property as required. -/
def requires (schema : Json) (name : String) : Bool :=
  match schema.get? "required" with
  | some (.array names) => names.any fun entry => entry.string? == some name
  | _ => false

/-- The description. -/
def description? (schema : Json) : Option String := schema.getString? "description"

/-- Whether the schema is an object with declared properties. -/
def isExpandable (schema : Json) : Bool :=
  type? schema == some "object" && ((properties? schema).map fun ps => !ps.isEmpty).getD false

/-- The type of a parameter with a schema: without a declared type it is a string. -/
def parameterType (schema : Json) : ParameterType :=
  match type? schema with
  | none => .string
  | some name => .ofLabel name

end Schema

end Toolwright
