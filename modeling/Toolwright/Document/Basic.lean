import Toolwright.Document.Schema
import Toolwright.Json.Distinct

/-!
# Documents and their operations

A document is an OpenAPI specification, of version 2 or 3, kept as the JSON value it is. Its
operations are the methods of its paths: paths in the order of the document, the methods of
one path in a fixed order.
-/

namespace Toolwright

/-- A specification. No object in it has a key twice. -/
structure Document where
  root : Json
  distinct : root.Distinct

/-- The methods that become tools, in the order in which they are visited. -/
inductive Method where
  | get
  | post
  | put
  | patch
  | delete
  deriving DecidableEq, Repr, Inhabited

namespace Method

/-- All methods in order. -/
def all : List Method := [get, post, put, patch, delete]

/-- The key of a method in a path item. -/
def key : Method → String
  | get => "get"
  | post => "post"
  | put => "put"
  | patch => "patch"
  | delete => "delete"

/-- The name of a method in a request. -/
def name : Method → String
  | get => "GET"
  | post => "POST"
  | put => "PUT"
  | patch => "PATCH"
  | delete => "DELETE"

end Method

/-- A method of a path. -/
structure Operation where
  path : String
  method : Method
  /-- The entry of the path, which may have parameters for all its methods. -/
  pathItem : Json
  /-- The entry of the method. -/
  entry : Json
  deriving Inhabited

/-- The operation id, which may not be empty. -/
def Operation.id? (operation : Operation) : Option String :=
  (operation.entry.getString? "operationId").filter (· ≠ "")

namespace Document

/-- The document with a root in which every object keeps each key once. -/
def ofRoot (root : Json) : Document := ⟨root.canonical, Json.distinct_canonical root⟩

/-- The value that a reference stands for. -/
def resolve (document : Document) (reference : String) : Except ReferenceError Json :=
  Reference.resolve reference document.root

/-- The value that a value stands for: a reference is followed once, and may lead nowhere. -/
def target? (document : Document) (value : Json) : Option Json :=
  match value.reference? with
  | none => some value
  | some reference => (document.resolve reference).toOption

/-- The title. -/
def title? (document : Document) : Option String :=
  (document.root.pointer? "/info/title").bind Json.string?

/-- The version, a string or the text of a number. -/
def version? (document : Document) : Option String :=
  match document.root.pointer? "/info/version" with
  | some (.string text) => some text
  | some (.number value) => some value.text
  | _ => none

/-- The base URL: that of the first server, or one made of scheme, host and base path; empty if the
document names neither server nor host. -/
def baseUrl (document : Document) : String :=
  match (document.root.pointer? "/servers/0/url").bind Json.string? with
  | some url => url
  | none =>
    match document.root.getString? "host" with
    | none => ""
    | some host =>
      let scheme := ((document.root.pointer? "/schemes/0").bind Json.string?).getD "https"
      let basePath := (document.root.getString? "basePath").getD ""
      scheme ++ "://" ++ host ++ String.ofList (Text.trimEnd (· == '/') basePath.toList)

/-- The operations of a path. -/
def operationsOf (path : String) (pathItem : Json) : List Operation :=
  if pathItem.isObject then
    Method.all.filterMap fun method =>
      match pathItem.get? method.key with
      | some entry => if entry.isObject then some ⟨path, method, pathItem, entry⟩ else none
      | none => none
  else []

/-- The operations of the document. -/
def operations (document : Document) : List Operation :=
  match (document.root.get? "paths").bind Json.members? with
  | some paths => paths.flatMap fun (path, pathItem) => operationsOf path pathItem
  | none => []

end Document

end Toolwright
