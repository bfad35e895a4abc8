import Toolwright.Module.Code
import Toolwright.Source.Ident

/-!
# Generating modules

A module is generated from the tools of a service. Two things can go wrong: a name has not the form of
an identifier, or it is a keyword. The first is found before the second, whatever tool it belongs
to, because all names are made before any text is read again. Tools that were made from a document
fall only to the first, and only by the name of an object nested in a request body.
-/

namespace Toolwright

variable [Romanization]

open Source

/-- Why no module can be generated. -/
inductive CodeError where
  /-- A name cannot be made into an identifier. -/
  | identifier (message : String)
  /-- The text cannot be read as a module. -/
  | unreadable (message : String)
  deriving DecidableEq, Repr, Inhabited

/-- The message for a module that cannot be generated. -/
def CodeError.message : CodeError → String
  | identifier message => message
  | unreadable message => message

namespace Statement

/-- The identifiers of a statement that puts a body together, as far as they are new in it. -/
def newIdents : Statement → List String
  | newObject target => [target]
  | insert _ _ argument | insertIfGiven _ _ argument => [argument]
  | _ => []

end Statement

namespace Tool

/-- The identifiers of a tool's items in the order in which they are made. -/
def idents (tool : Tool) : List String :=
  tool.name :: tool.parameters.map (·.ident) ++ tool.body.legacyFields.map (·.ident) ++
    tool.bodyAssignments.flatMap Statement.newIdents ++
    [tool.method, tool.schemaName, tool.argumentsName, tool.handlerName]

/-- What a reader expects where an argument of a function is declared. -/
def patternExpectation : String :=
  "expected one of: identifier, `::`, `<`, `_`, literal, `const`, `ref`, `mut`, `&`, parentheses, " ++
    "square brackets, `..`, `const`"

/-- Why keywords cannot be the arguments of a function. Some can, but not with any meaning; `isFirst` says
that no argument is before these, `seen` that one of those is called `self`. -/
def argumentFault? (isFirst seen : Bool) : List String → Option String
  | [] => none
  | ident :: rest =>
    if ident = "self" then
      if seen then some "unexpected second method receiver"
      else if isFirst then argumentFault? false true rest
      else some "unexpected method receiver"
    else if ["_", "true", "false", "crate", "super", "Self"].contains ident || !isKeyword ident then
      argumentFault? false seen rest
    else if ident = "ref" || ident = "mut" then some "expected identifier"
    else if ident = "const" then some "expected curly braces"
    else some patternExpectation

/-- Why a method has no name. -/
def methodFault? (method : String) : Option String :=
  if ["super", "self", "Self", "crate", "try"].contains method then none else nameFault? method

/-- Why keywords cannot be the fields of a structure and the variables that it is taken apart into. -/
def fieldFault? (idents : List String) : Option String :=
  match idents.findSome? fun ident => if ident = "_" then none else nameFault? ident with
  | some fault => some fault
  | none => if idents.contains "_" then some "expected identifier or integer" else none

/-- Why the items of a tool cannot be read. -/
def readingFault? (tool : Tool) : Option String :=
  let idents := tool.parameters.map (·.ident)
  nameFault? tool.name <|> argumentFault? true false idents <|> methodFault? tool.method <|>
    fieldFault? idents

end Tool

namespace Module

/-- The text of a module, or why there is none. -/
def generate (metadata : Metadata) (service : String) (tools : List Tool) :
    Except CodeError String :=
  match (tools.flatMap Tool.idents).findSome? identFault? with
  | some fault => .error (.identifier fault)
  | none =>
    match tools.findSome? Tool.readingFault? with
    | some fault => .error (.unreadable fault)
    | none => .ok (text metadata service tools)

/-- The text of the manifest of some modules, or why there is none. -/
def generateManifest (names : List String) : Except CodeError String :=
  let sorted := manifestNames names
  match sorted.findSome? identFault? with
  | some fault => .error (.identifier fault)
  | none =>
    match sorted.findSome? nameFault? with
    | some fault => .error (.unreadable fault)
    | none => .ok (manifest names)

end Module

/-! ### From documents -/

/-- A module generated from a document. -/
structure GeneratedModule where
  name : String
  fileName : String
  code : String
  statistics : Statistics
  deriving Repr, Inhabited

/-- The module of a document at a path. -/
def Document.generate (document : Document) (path : String) : Except CodeError GeneratedModule := do
  let service := Metadata.service path
  let (tools, statistics) := document.tools service
  let code ← Module.generate (Metadata.ofDocument document path) service tools
  let name := Metadata.moduleName service
  return ⟨name, name ++ ".rs", code, statistics⟩

end Toolwright
