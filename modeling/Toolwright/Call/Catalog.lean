import Toolwright.Call.Error
import Toolwright.Json.Reader
import Toolwright.Json.Printer

/-!
# Catalogues of tools

A host keeps the tools that it knows in a catalogue, in the order in which their names were first
registered. A tool registered under a name that is taken replaces the other one in its place.
-/

namespace Toolwright

/-- What a call answers: blocks of text, or why it makes no request. -/
abbrev CallOutput := Except CallError (List String)

/-- A tool as a host knows it. -/
structure ToolDescriptor where
  name : String
  description : String
  inputSchema : Json
  /-- What the tool does with its arguments. -/
  handler : Json → CallOutput

/-- The tools that a module registers, in order. -/
structure ToolModule where
  name : String
  tools : List ToolDescriptor

/-- A catalogue of tools. -/
structure Catalog where
  tools : List ToolDescriptor := []

namespace Catalog

/-- Puts a tool in the place of the one with its name, or at the end. -/
def put (tool : ToolDescriptor) : List ToolDescriptor → List ToolDescriptor
  | [] => [tool]
  | first :: rest => if first.name = tool.name then tool :: rest else first :: put tool rest

/-- The catalogue with one more tool. -/
def register (catalog : Catalog) (tool : ToolDescriptor) : Catalog :=
  ⟨put tool catalog.tools⟩

/-- The catalogue with the tools of some modules. -/
def registerModules (catalog : Catalog) (modules : List ToolModule) : Catalog :=
  (modules.flatMap (·.tools)).foldl register catalog

/-- The tool with a name. -/
def get? (catalog : Catalog) (name : String) : Option ToolDescriptor :=
  catalog.tools.find? fun tool => tool.name = name

/-- The names of the tools in order. -/
def names (catalog : Catalog) : List String :=
  catalog.tools.map (·.name)

/-- The number of tools. -/
def size (catalog : Catalog) : Nat :=
  catalog.tools.length

/-- Whether there is no tool. -/
def isEmpty (catalog : Catalog) : Bool :=
  catalog.tools.isEmpty

/-- Calls the tool with a name. -/
def call (catalog : Catalog) (name : String) (arguments : Json) : CallOutput :=
  match catalog.get? name with
  | some tool => tool.handler arguments
  | none => .error (.unknownTool name)

end Catalog

/-- The content of a response with a body: JSON without its blanks, and any other text as it is. -/
def responseContent (body : String) : String :=
  match Json.ofText body with
  | .ok value => value.render
  | .error _ => body

end Toolwright
