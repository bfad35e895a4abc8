import Toolwright.Call.Error
import Toolwright.Json.Printer
import Toolwright.Text.Quoted

/-!
# Decoding arguments

The arguments of a call are JSON and have to fit the parameters of the tool. They come as an object
with a member for every parameter, or as an array in the order of the parameters. Members that
belong to no parameter are ignored. The first value that does not fit is reported with its place.
-/

namespace Toolwright

/-- The kind of value that a field takes. -/
inductive FieldKind where
  | string
  | integer
  | number
  | boolean
  | array
  | object
  | any
  deriving DecidableEq, Repr, Inhabited

/-- A field of a set of arguments. -/
structure ArgumentField where
  name : String
  kind : FieldKind
  /-- Whether the field may be left out, and then is null. -/
  isOptional : Bool
  deriving DecidableEq, Repr, Inhabited

/-- The fields of a set of arguments in order, and the name of the set. -/
structure ArgumentShape where
  name : String
  fields : List ArgumentField
  deriving DecidableEq, Repr, Inhabited

/-! ### Single values -/

namespace FieldKind

/-- What a field of a kind expects. -/
def expectation : FieldKind → String
  | string => "a string"
  | integer => "i64"
  | number => "f64"
  | boolean => "a boolean"
  | array => "a sequence"
  | object => "a map"
  | any => "any value"

/-- What a value is found to be. -/
def describe : Json → String
  | .null => "null"
  | .bool true => "boolean `true`"
  | .bool false => "boolean `false`"
  | .number (.integer n) => "integer `" ++ toString n ++ "`"
  | .number (.real x) => "floating point `" ++ (Number.real x).text ++ "`"
  | .string text => "string " ++ Text.quoted text
  | .array _ => "sequence"
  | .object _ => "map"

/-- The complaint about a value of the wrong type. -/
def wrongType (value : Json) (expected : String) : String :=
  "invalid type: " ++ describe value ++ ", expected " ++ expected

/-- The value as a field of a kind takes it, or what is wrong with it. Integers are numbers too, but
not the other way round. -/
def decode : FieldKind → Json → Except String Json
  | string, .string text => .ok (.string text)
  | integer, .number (.integer n) =>
    if n < 0x8000000000000000 then .ok (.number (.integer n))
    else .error ("invalid value: integer `" ++ toString n ++ "`, expected i64")
  | number, .number n => .ok (.number (.real n.toReal))
  | boolean, .bool value => .ok (.bool value)
  | array, .array items => .ok (.array items)
  | object, .object members => .ok (.object members)
  | any, value => .ok value
  | kind, value => .error (wrongType value kind.expectation)

end FieldKind

namespace ArgumentField

/-- The value of a field, which may be null if the field is optional. -/
def decode (field : ArgumentField) (value : Json) : Except String Json :=
  match field.isOptional, value with
  | true, .null => .ok .null
  | _, value => field.kind.decode value

end ArgumentField

/-! ### Sets of arguments -/

namespace ArgumentShape

/-- What a set of arguments is called where one is expected. -/
def expectation (shape : ArgumentShape) : String := "struct " ++ shape.name

/-- What an array of arguments is called where one is expected. -/
def listExpectation (shape : ArgumentShape) : String :=
  shape.expectation ++ " with " ++ toString shape.fields.length ++
    (if shape.fields.length = 1 then " element" else " elements")

/-- Why a member does not fit; members of unknown names always do. -/
def memberFault? (shape : ArgumentShape) (member : String × Json) : Option CallError :=
  (shape.fields.find? fun field => field.name = member.1).bind fun field =>
    match field.decode member.2 with
    | .ok _ => none
    | .error reason => some (.invalidArguments member.1 reason)

/-- The value of a field among members that all fit. -/
def field (members : List (String × Json)) (field : ArgumentField) :
    Except CallError (String × Json) :=
  match Members.get? field.name members with
  | some value =>
    match field.decode value with
    | .ok value => .ok (field.name, value)
    | .error reason => .error (.invalidArguments field.name reason)
  | none =>
    if field.isOptional then .ok (field.name, .null)
    else .error (.invalidArguments "." ("missing field `" ++ field.name ++ "`"))

/-- The fields that an object has members for. Members are looked at in their own order, and only
then is a missing one noticed. -/
def ofMembers (shape : ArgumentShape) (members : List (String × Json)) :
    Except CallError (List (String × Json)) :=
  match members.findSome? shape.memberFault? with
  | some error => .error error
  | none => shape.fields.mapM (field members)

/-- The fields that the items of an array are for, from the place `index` on. -/
def ofItems (shape : ArgumentShape) (index : Nat) :
    List ArgumentField → List Json → Except CallError (List (String × Json))
  | [], _ => .ok []
  | field :: fields, [] =>
    if field.isOptional then (ofItems shape (index + 1) fields []).map ((field.name, .null) :: ·)
    else
      .error (.invalidArguments "."
        ("invalid length " ++ toString index ++ ", expected " ++ shape.listExpectation))
  | field :: fields, item :: items =>
    match field.decode item with
    | .error reason => .error (.invalidArguments ("[" ++ toString index ++ "]") reason)
    | .ok value => (ofItems shape (index + 1) fields items).map ((field.name, value) :: ·)

/-- Decodes arguments; null stands for an object without members. -/
def decode (shape : ArgumentShape) : Json → Except CallError (List (String × Json))
  | .null => shape.ofMembers []
  | .object members => shape.ofMembers members
  | .array items =>
    match shape.ofItems 0 shape.fields items with
    | .error error => .error error
    | .ok fields =>
      if items.length > shape.fields.length then
        .error (.invalidArguments "."
          ("invalid length " ++ toString items.length ++ ", expected fewer elements in array"))
      else .ok fields
  | value => .error (.invalidArguments "." (FieldKind.wrongType value shape.expectation))

end ArgumentShape

end Toolwright
