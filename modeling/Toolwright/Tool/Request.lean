import Toolwright.Tool.Flatten

/-!
# Requests of operations

What an operation takes, put together from everything that declares it: the parameters of its path
and its own, and its request body. Every entry becomes a parameter or leaves a warning, except that a body
parameter whose schema declares no properties asks for nothing.

Bodies are taken apart in two ways. An object under the key `request_data` that is all there is to the
body is flattened down to its leaves; of any other body only the properties at the top become
parameters.
-/

namespace Toolwright

variable [Romanization]

/-- The request of an operation as far as it has been put together. -/
structure Request where
  signature : Signature
  body : BodyPlan := {}
  deriving Repr, Inhabited

/-- The key under which some services want the whole body. -/
def wrapperKey : String := "request_data"

namespace Signature

/-- The value that a value stands for. A reference is followed once; if it leads nowhere, there is a
warning instead. -/
def resolve (signature : Signature) (document : Document) (value : Json) :
    Option Json × Signature :=
  match value.reference? with
  | none => (some value, signature)
  | some reference =>
    match document.resolve reference with
    | .ok target => (some target, signature)
    | .error error =>
      (none, signature.warn (.unresolvedReference signature.operation error.message))

/-! ### Declared parameters -/

/-- Whether two declarations are of one parameter. -/
def sameDeclaration (a b : Json) : Bool :=
  let sameEntry (key : String) :=
    match a.get? key, b.get? key with
    | some x, some y => x.same y
    | none, none => true
    | _, _ => false
  sameEntry "name" && sameEntry "in"

/-- The declarations with one more, which takes the place of a declaration of the same parameter. -/
def merge (declarations : List Json) (declaration : Json) : List Json :=
  match declarations with
  | [] => [declaration]
  | first :: rest =>
    if sameDeclaration first declaration then declaration :: rest
    else first :: merge rest declaration

/-- The declarations merged one after another, each with its reference followed. -/
def mergeAll (signature : Signature) (document : Document) (merged : List Json) :
    List Json → List Json × Signature
  | [] => (merged, signature)
  | declaration :: rest =>
    match signature.resolve document declaration with
    | (some resolved, signature) => signature.mergeAll document (merge merged resolved) rest
    | (none, signature) => signature.mergeAll document merged rest

/-- The declarations of an operation: those of its path and then its own. -/
def declarations (signature : Signature) (document : Document) (operation : Operation) :
    List Json × Signature :=
  let listed (entry : Json) := ((entry.get? "parameters").bind Json.items?).getD []
  signature.mergeAll document [] (listed operation.pathItem ++ listed operation.entry)

/-- The parameter for a property at the top of a body. What it refers to matters only for its type
and description. -/
def propertyCandidate (document : Document) (schema : Json) (name : String) (declared : Json) :
    Candidate where
  ident := Name.field name name
  declaredName := name
  sourcePath := name
  type := ((document.target? declared).map Schema.parameterType).getD .object
  required := Schema.requires schema name
  description := Text.oneLine
    ((Schema.description? declared <|>
      (document.target? declared).bind Schema.description?).getD "")
  location := .body

/-- Adds a parameter for a property at the top of a body. -/
def addProperty (signature : Signature) (document : Document) (schema : Json) (name : String)
    (declared : Json) : BodyField × Signature :=
  let (ident, signature) := signature.add (propertyCandidate document schema name declared)
  (⟨name, ident, Schema.requires schema name⟩, signature)

/-- Adds a parameter for every property at the top of a body. -/
def addProperties (signature : Signature) (document : Document) (schema : Json) :
    List (String × Json) → List BodyField × Signature
  | [] => ([], signature)
  | (name, declared) :: rest =>
    let (field, signature) := signature.addProperty document schema name declared
    let (fields, signature) := signature.addProperties document schema rest
    (field :: fields, signature)

end Signature

namespace Request

/-- The request with one more warning. -/
def warn (request : Request) (warning : Warning) : Request :=
  { request with signature := request.signature.warn warning }

/-- The request with a warning that a parameter was left out. -/
def skip (request : Request) (name reason : String) : Request :=
  request.warn (.parameterSkipped request.signature.operation name reason)

/-- The request with a warning that its body was left out. -/
def unsupportedBody (request : Request) (reason : String) : Request :=
  request.warn (.unsupportedRequestBody request.signature.operation reason)

/-- The parameter for a declaration of one outside of the body. -/
def locatedCandidate (declaration : Json) (name : String) (location : Location) : Candidate where
  ident := Name.field name name
  declaredName := name
  sourcePath := name
  type := Schema.parameterType ((declaration.get? "schema").getD declaration)
  required := ((declaration.get? "required").bind Json.bool?).getD false
  description := Text.oneLine ((Schema.description? declaration).getD "")
  location := location

/-- Adds a parameter outside of the body. -/
def addLocated (request : Request) (declaration : Json) (name : String) (location : Location) :
    Request :=
  let (_, signature) := request.signature.add (locatedCandidate declaration name location)
  { request with signature := signature }

/-- Adds the properties of a body parameter. -/
def addBodyParameter (request : Request) (document : Document) (declaration : Json)
    (name : String) : Request :=
  match declaration.get? "schema" with
  | none => request.skip name "body parameter without schema"
  | some schema =>
    match request.signature.resolve document schema with
    | (none, signature) => { request with signature := signature }
    | (some schema, signature) =>
      let (fields, signature) :=
        signature.addProperties document schema ((Schema.properties? schema).getD [])
      { signature := signature
        body := { request.body with legacyFields := request.body.legacyFields ++ fields } }

/-- Adds a declared parameter. -/
def addDeclaration (document : Document) (request : Request) (declaration : Json) : Request :=
  match declaration.getString? "name" with
  | none => request.skip "<unnamed>" "missing name"
  | some name =>
    let declared := declaration.getString? "in"
    if declared = some "formData" then
      request.warn (.formDataSkipped request.signature.operation name)
    else
      match Location.ofDeclared? declared with
      | some .body => request.addBodyParameter document declaration name
      | some location => request.addLocated declaration name location
      | none => request.skip name ("unsupported location '" ++ declared.getD "" ++ "'")

/-! ### The request body -/

/-- The schema under the wrapper key, if that is the only property and an object with declared
properties, and the reference by which it was reached. -/
def wrapped? (document : Document) (schema : Json) : Option (Json × Option String) :=
  match Schema.properties? schema with
  | some [(key, declared)] =>
    if key = wrapperKey then
      ((document.target? declared).filter Schema.isExpandable).map fun schema =>
        (schema, declared.reference?)
    else none
  | _ => none

/-- Adds the parameters of a body with a schema; `reference` is the one by which it was reached. -/
def addSchema (request : Request) (document : Document) (reference : Option String)
    (schema : Json) : Request :=
  match wrapped? document schema with
  | some (inner, innerReference) =>
    let (nodes, signature) :=
      request.signature.addNested document (reference.toList ++ innerReference.toList) inner
    { signature := signature
      body := { request.body with wrapper := some wrapperKey, nodes := nodes } }
  | none =>
    let (fields, signature) :=
      request.signature.addProperties document schema ((Schema.properties? schema).getD [])
    { signature := signature
      body := { request.body with nodes := request.body.nodes ++ fields.map BodyNode.leaf } }

/-- Adds the parameters of a request body. -/
def addRequestBody (request : Request) (document : Document) (declared : Json) : Request :=
  match request.signature.resolve document declared with
  | (none, signature) => { request with signature := signature }
  | (some body, signature) =>
    let request := { request with signature := signature }
    match body.pointer? "/content/application~1json/schema" with
    | none =>
      if (body.get? "content").isSome then request.unsupportedBody "no application/json content"
      else request
    | some schema =>
      match request.signature.resolve document schema with
      | (none, signature) => { request with signature := signature }
      | (some resolved, _) =>
        if ((Schema.properties? resolved).getD []).isEmpty then
          request.unsupportedBody "schema declares no properties"
        else request.addSchema document schema.reference? resolved

/-- The request of an operation. -/
def ofOperation (document : Document) (id : String) (operation : Operation) : Request :=
  let (declarations, signature) :=
    Signature.declarations { operation := id } document operation
  let request := declarations.foldl (addDeclaration document) { signature := signature }
  match operation.entry.get? "requestBody" with
  | some declared => request.addRequestBody document declared
  | none => request

end Request

end Toolwright
