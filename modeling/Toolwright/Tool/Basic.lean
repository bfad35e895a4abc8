import Toolwright.Tool.Naming
import Toolwright.Tool.Request

/-!
# Tools

A tool makes one request of one service. `Document.tools` turns every operation of a document that has an
id into one, in the order of the document, and accounts for what it did.
-/

namespace Toolwright

variable [Romanization]

/-- A tool and everything needed to generate its code. -/
structure Tool where
  name : String
  operationId : String
  /-- The method of the request, in capitals. -/
  method : String
  path : String
  description : String
  responseDescription : String
  service : String
  baseUrl : String
  /-- The parameters: the required ones, then the others, each as declared. -/
  parameters : List Parameter
  body : BodyPlan
  deriving Repr, Inhabited

namespace Tool

/-- The parameters outside of the body as declared. -/
def located (tool : Tool) : List Parameter :=
  (tool.parameters.filter (!·.isBody)).mergeSort fun a b => a.declaredIndex ≤ b.declaredIndex

/-- The identifiers of the required parameters. -/
def requiredNames (tool : Tool) : List String :=
  (tool.parameters.filter (·.required)).map (·.ident)

/-- The parameter with an identifier. -/
def parameter? (tool : Tool) (ident : String) : Option Parameter :=
  tool.parameters.find? fun parameter => parameter.ident = ident

/-- Whether some parameter goes into a part of the request. -/
def uses (tool : Tool) (location : Location) : Bool :=
  tool.parameters.any fun parameter => parameter.location = location

end Tool

/-! ### From operations to tools -/

namespace Operation

/-- Whether a text says something. -/
def isSaid (text : String) : Bool :=
  text.toList.any fun c => !Text.isBlank c

/-- The description, or the summary if there is none. -/
def description (operation : Operation) : String :=
  (["description", "summary"].filterMap operation.entry.getString?).find? isSaid |>.getD ""

/-- What a response is called if nothing else is said about it. -/
def defaultResponse : String := "API response data"

/-- The description of the response to a request that succeeds. -/
def responseDescription (operation : Operation) : String :=
  match operation.entry.get? "responses" with
  | none => defaultResponse
  | some responses =>
    match ["200", "201", "204"].findSome? responses.get? with
    | none => defaultResponse
    | some response => ((response.getString? "description").filter isSaid).getD defaultResponse

end Operation

namespace Document

/-- The tool of an operation with a request. -/
def toolOf (document : Document) (service id name : String) (operation : Operation)
    (request : Request) : Tool where
  name := name
  operationId := id
  method := operation.method.name
  path := operation.path
  description := operation.description
  responseDescription := operation.responseDescription
  service := service
  baseUrl := document.baseUrl
  parameters := request.signature.ordered
  body := request.body

/-- The tools of some operations, named one after another, added to the account. -/
def toolsOf (document : Document) (service : String) (names : ToolNames)
    (statistics : Statistics) : List Operation → List Tool × Statistics
  | [] => ([], statistics)
  | operation :: rest =>
    match operation.id? with
    | none =>
      document.toolsOf service names
        (statistics.addSkipped operation.method.name operation.path) rest
    | some id =>
      let (name, renamed, names) := names.assign id operation.method.key
      let request := Request.ofOperation document id operation
      let tool := document.toolOf service id name operation request
      let statistics :=
        (statistics.addWarnings renamed).addTool tool.parameters.length
          |>.addWarnings request.signature.warnings
      let (tools, statistics) := document.toolsOf service names statistics rest
      (tool :: tools, statistics)

/-- The tools of a document for a service. -/
def tools (document : Document) (service : String) : List Tool × Statistics :=
  let operations := document.operations
  document.toolsOf service (ToolNames.ofOperations service operations) {} operations

end Document

end Toolwright
