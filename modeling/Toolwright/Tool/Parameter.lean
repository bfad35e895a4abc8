import Toolwright.Document.Schema

/-!
# Parameters of tools

A tool has a flat list of parameters, each of which belongs into one part of the request.
-/

namespace Toolwright

/-- The part of a request into which a parameter goes. -/
inductive Location where
  | query
  | path
  | header
  | body
  deriving DecidableEq, Repr, Inhabited

namespace Location

/-- The name of a part. -/
def label : Location → String
  | query => "query"
  | path => "path"
  | header => "header"
  | body => "body"

/-- The part that a declaration names; without a name it is the query. Cookies, form fields and
unknown parts have no place in a request. -/
def ofDeclared? : Option String → Option Location
  | none => some query
  | some name => [query, path, header, body].find? fun location => location.label = name

end Location

/-- A parameter before its identifier is certain. -/
structure Candidate where
  /-- The identifier it asks for. -/
  ident : String
  /-- The name in the document, under which the value is sent. -/
  declaredName : String
  /-- The declared names from the root of the body down, with dots between them. -/
  sourcePath : String
  type : ParameterType
  required : Bool
  description : String
  location : Location
  deriving DecidableEq, Repr, Inhabited

/-- A parameter of a tool. -/
structure Parameter extends Candidate where
  /-- Its place among the parameters in the order of their declaration. -/
  declaredIndex : Nat
  deriving DecidableEq, Repr, Inhabited

/-- Whether the parameter goes into the body of the request. -/
def Parameter.isBody (parameter : Parameter) : Bool :=
  parameter.location = .body

end Toolwright
