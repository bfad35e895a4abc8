import Toolwright.Document.Load
import Toolwright.Files.Tree

/-!
# Documents in files

The document that a file of a tree holds.
-/

namespace Toolwright

/-- Why the file at a path cannot be read, in full. -/
def FileFault.reading (fault : FileFault) (path : String) : String :=
  path ++ ": unable to open file: " ++ fault.message ++ ": IO error"

/-- The document in the file at a path. That its language is known is checked first. -/
def FileTree.document (tree : FileTree) (path : String) : Except LoadError Document := do
  let format ← Format.ofPath path
  match tree.read path with
  | .ok text => Document.ofText format text
  | .error fault => .error (.unreadable path (fault.reading path))

end Toolwright
