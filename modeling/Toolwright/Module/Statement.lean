import Toolwright.Name.Allocator
import Toolwright.Tool.Basic

/-!
# Statements of a tool's function

What the function of a tool does, statement by statement: it checks its arguments, puts the parts
of the request together, sends the request and turns the outcome into content. The statements are
about the function's arguments, named by the identifiers of the parameters, and about locals,
whose names are allotted so that none is the name of an argument or of another local.
-/

namespace Toolwright

/-- A statement of the function of a tool. An optional argument may have no value, and then the statements
`…IfGiven` do nothing. -/
inductive Statement where
  /-- Fails if some argument is not acceptable. -/
  | validate (arguments : List String)
  /-- Declares a list of names and values. -/
  | newPairs (target : String)
  /-- Declares an object without members. -/
  | newObject (target : String)
  /-- Writes an argument into an object. -/
  | insert (target key argument : String)
  | insertIfGiven (target key argument : String)
  /-- Writes an object into another one unless it has no members. -/
  | attach (target key object : String)
  /-- Appends an argument to a list of names and values. -/
  | push (target name argument : String)
  | pushIfGiven (target name argument : String)
  | loadConfig (config : String)
  /-- Declares the URL, which begins with what the configuration has for the service. -/
  | startUrl (isMutable : Bool) (url config service baseUrl path : String)
  /-- Writes an argument into the URL in the place of a parameter of the path. -/
  | fill (url name argument : String)
  | fillIfGiven (url name argument : String)
  /-- Sends the request with those parts that it has. -/
  | send (outcome method url : String) (query headers body : Option String)
  /-- The value of the function. -/
  | respond (outcome : String)
  deriving DecidableEq, Repr, Inhabited

/-- The locals of a function. -/
structure Locals where
  query : String
  headers : String
  body : String
  config : String
  url : String
  outcome : String
  /-- The names that are taken in the function. -/
  scope : Allocator
  deriving Repr, Inhabited

/-- The locals of a function with some arguments. -/
def Locals.ofArguments (arguments : List String) : Locals :=
  let (query, scope) := (Allocator.reserving arguments).claim "query"
  let (headers, scope) := scope.claim "headers"
  let (body, scope) := scope.claim "body"
  let (config, scope) := scope.claim "config"
  let (url, scope) := scope.claim "url"
  let (outcome, scope) := scope.claim "outcome"
  ⟨query, headers, body, config, url, outcome, scope⟩

/-- Claims a name for the object that is called `name`. -/
def Allocator.claimContainer (scope : Allocator) (name : String) : String × Allocator :=
  scope.claim (name ++ "_obj")

namespace BodyField

/-- The statement that writes a parameter into an object. -/
def statement (target : String) (field : BodyField) : Statement :=
  if field.required then .insert target field.key field.ident
  else .insertIfGiven target field.key field.ident

end BodyField

mutual

/-- The statements that write an entry into an object, and the names taken after them. -/
def BodyNode.statements (target : String) (scope : Allocator) :
    BodyNode → List Statement × Allocator
  | .leaf field => ([field.statement target], scope)
  | .object key container children =>
    let (holder, scope) := scope.claimContainer container
    let (inner, scope) := BodyNode.statementsOfAll holder scope children
    (.newObject holder :: inner ++ [.attach target key holder], scope)

/-- The statements that write some entries into an object, and the names taken after them. -/
def BodyNode.statementsOfAll (target : String) (scope : Allocator) :
    List BodyNode → List Statement × Allocator
  | [] => ([], scope)
  | node :: rest =>
    let (first, scope) := node.statements target scope
    let (others, scope) := BodyNode.statementsOfAll target scope rest
    (first ++ others, scope)

end

namespace Tool

/-- The locals of the function of a tool. -/
def locals (tool : Tool) : Locals :=
  Locals.ofArguments (tool.parameters.map (·.ident))

/-- The statement that checks the arguments. -/
def validation (tool : Tool) : List Statement :=
  if tool.parameters.isEmpty then [] else [.validate (tool.parameters.map (·.ident))]

/-- The declarations of the parts that the request has. -/
def declarations (tool : Tool) : List Statement :=
  (if tool.uses .query then [.newPairs tool.locals.query] else []) ++
    (if tool.uses .header then [.newPairs tool.locals.headers] else []) ++
    (if tool.body.isEmpty then [] else [.newObject tool.locals.body])

/-- The statements that write the properties of a body parameter. -/
def legacyAssignments (tool : Tool) : List Statement :=
  tool.body.legacyFields.map (BodyField.statement tool.locals.body)

/-- The statement that puts a parameter into its part of the request, if it goes into the query or
the headers. -/
def locationAssignment (tool : Tool) (parameter : Parameter) : List Statement :=
  let into (target : String) : Statement :=
    if parameter.required then .push target parameter.declaredName parameter.ident
    else .pushIfGiven target parameter.declaredName parameter.ident
  match parameter.location with
  | .query => [into tool.locals.query]
  | .header => [into tool.locals.headers]
  | _ => []

/-- The statements that fill the query and the headers. -/
def locationAssignments (tool : Tool) : List Statement :=
  tool.located.flatMap tool.locationAssignment

/-- The statements that put the request body together. -/
def bodyAssignments (tool : Tool) : List Statement :=
  match tool.body.wrapper with
  | none => (BodyNode.statementsOfAll tool.locals.body tool.locals.scope tool.body.nodes).1
  | some key =>
    (BodyNode.statements tool.locals.body tool.locals.scope (.object key key tool.body.nodes)).1

/-- The statement that writes a parameter of the path into the URL. -/
def substitution (tool : Tool) (parameter : Parameter) : Statement :=
  if parameter.required then .fill tool.locals.url parameter.declaredName parameter.ident
  else .fillIfGiven tool.locals.url parameter.declaredName parameter.ident

/-- The statements that make the URL. -/
def urlStatements (tool : Tool) : List Statement :=
  let inPath := tool.located.filter fun parameter => parameter.location = .path
  [.loadConfig tool.locals.config,
    .startUrl (!inPath.isEmpty) tool.locals.url tool.locals.config tool.service tool.baseUrl
      tool.path] ++ inPath.map tool.substitution

/-- The statement that sends the request. -/
def sending (tool : Tool) : Statement :=
  .send tool.locals.outcome tool.method tool.locals.url
    (if tool.uses .query then some tool.locals.query else none)
    (if tool.uses .header then some tool.locals.headers else none)
    (if tool.body.isEmpty then none else some tool.locals.body)

/-- The statements of the function of a tool. -/
def statements (tool : Tool) : List Statement :=
  tool.validation ++ tool.declarations ++ tool.legacyAssignments ++ tool.locationAssignments ++
    tool.bodyAssignments ++ tool.urlStatements ++ [tool.sending, .respond tool.locals.outcome]

end Tool

/-! ### Running the statements about objects -/

/-- What a name of a function stands for. -/
inductive Binding where
  /-- An argument that is always given. -/
  | given (value : Json)
  /-- An argument that may have no value. -/
  | optional (value? : Option Json)
  /-- An object that is being put together. -/
  | object (members : List (String × Json))
  /-- A local that is no object. -/
  | other
  deriving Repr, Inhabited

/-- What the names of a function stand for. Arguments and locals share one scope: a local hides
whatever had its name before. -/
abbrev Scope := String → Option Binding

namespace Scope

/-- The scope with a name declared. -/
def declare (scope : Scope) (name : String) (binding : Binding) : Scope :=
  fun other => if other = name then some binding else scope other

/-- The scope without a name. -/
def drop (scope : Scope) (name : String) : Scope :=
  fun other => if other = name then none else scope other

/-- The members of the object that a name stands for. -/
def object? (scope : Scope) (name : String) : Option (List (String × Json)) :=
  match scope name with
  | some (.object members) => some members
  | _ => none

/-- The scope with a value written into an object. -/
def insert (scope : Scope) (target key : String) (value : Json) : Option Scope :=
  (scope.object? target).map fun members =>
    scope.declare target (.object (Members.insert key value members))

end Scope

namespace Statement

/-- The name that a statement declares. -/
def declared? : Statement → Option String
  | newPairs target | newObject target => some target
  | loadConfig config => some config
  | startUrl _ url .. => some url
  | send outcome .. => some outcome
  | _ => none

/-- The scope after a statement, if what the statement names is what it needs. An object is used up
when it is attached. -/
def run (scope : Scope) : Statement → Option Scope
  | newObject target => some (scope.declare target (.object []))
  | insert target key argument =>
    match scope argument with
    | some (.given value) => scope.insert target key value
    | _ => none
  | insertIfGiven target key argument =>
    match scope argument with
    | some (.optional (some value)) => scope.insert target key value
    | some (.optional none) => (scope.object? target).map fun _ => scope
    | _ => none
  | attach target key object =>
    match scope.object? target, scope.object? object with
    | some _, some [] => some (scope.drop object)
    | some _, some members =>
      (scope.insert target key (.object members)).map fun scope => scope.drop object
    | _, _ => none
  | newPairs name | loadConfig name | startUrl _ name .. | send name .. =>
    some (scope.declare name .other)
  | _ => some scope

/-- The scope after some statements. -/
def runAll (scope : Scope) : List Statement → Option Scope
  | [] => some scope
  | statement :: rest => (statement.run scope).bind fun scope => runAll scope rest

end Statement

/-- The scope in which the function of a tool begins: every parameter stands for its argument. -/
def Tool.scope (tool : Tool) (arguments : Arguments) : Scope := fun name =>
  (tool.parameter? name).bind fun parameter =>
    if parameter.required then (arguments name).map Binding.given
    else some (.optional (arguments name))

end Toolwright
