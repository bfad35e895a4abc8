import Toolwright.Document.FilePath
import Toolwright.Tool.Basic

/-!
# What a module is about

One module is generated from one specification. The name of the file says which service it is for, the
document itself says the rest.
-/

namespace Toolwright

variable [Romanization]

/-- The facts that stand at the top of a generated module. -/
structure Metadata where
  title : String
  version : String
  /-- The name of the file of the specification. -/
  source : String
  deriving DecidableEq, Repr, Inhabited

namespace Metadata

/-- The tag of the service that the specification at a path describes. -/
def service (path : String) : String :=
  Name.serviceTag ((FilePath.stem? path).getD "")

/-- The name of the module for a service. -/
def moduleName (service : String) : String :=
  "generated_" ++ service ++ "_tools"

/-- The version of a document that states none. -/
def unknownVersion : String := "unversioned"

/-- The facts about the specification at a path. -/
def ofDocument (document : Document) (path : String) : Metadata where
  title := document.title?.getD ((service path).map Char.toUpper)
  version := document.version?.getD unknownVersion
  source := (FilePath.fileName? path).getD ""

end Metadata

end Toolwright
