import Toolwright.Document.Basic
import Toolwright.Name.Allocator
import Toolwright.Name.Reserved
import Toolwright.Tool.Warning

/-!
# Names of tools

A tool is called after its operation id without the method in front, with the tag of the service before
it. Operations that would have one name keep their methods, so `getWidget` and `postWidget` stay
apart. A number is added only where names are equal even so.
-/

namespace Toolwright

variable [Romanization]

/-- The names of the tools of one service. -/
structure ToolNames where
  service : String
  /-- The names without methods that belong to several operations. -/
  shared : List String
  assigned : Allocator := {}
  deriving Repr, Inhabited

namespace ToolNames

/-- The names that the operations of a document have without their methods, in order. -/
def shortNames (operations : List Operation) : List String :=
  operations.filterMap fun operation =>
    operation.id?.map fun id => Name.snakeForMethod id operation.method.key

/-- No name assigned yet. -/
def ofOperations (service : String) (operations : List Operation) : ToolNames where
  service := service
  shared :=
    let names := shortNames operations
    (names.filter fun name => names.count name > 1).eraseDups

/-- Whether a name without a method belongs to several operations. -/
def isShared (names : ToolNames) (name : String) : Bool :=
  names.shared.contains name

/-- The name of an operation within its service. -/
def base (names : ToolNames) (id method : String) : String :=
  let short := Name.snakeForMethod id method
  if names.isShared short then Name.snake id else short

/-- The name with the tag of the service. -/
def qualified (names : ToolNames) (base : String) : String :=
  if names.service.isEmpty then Name.ensure (Name.safe base base)
  else if base.isEmpty then names.service ++ "_unnamed"
  else names.service ++ "_" ++ base

/-- Names the tool of an operation: the name, a warning if it is not the one wanted, and the names
with it. -/
def assign (names : ToolNames) (id method : String) : String × List Warning × ToolNames :=
  let wanted := names.qualified (names.base id method)
  let (name, assigned) := names.assigned.claim wanted
  (name, if name = wanted then [] else [.toolRenamed id wanted name],
    { names with assigned := assigned })

end ToolNames

end Toolwright
