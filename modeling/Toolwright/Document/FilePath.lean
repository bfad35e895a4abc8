import Toolwright.Text.Pieces

/-!
# Names of files

The parts of a path that matter here: the name of the file it leads to, and of that name the
extension and what is before it.
-/

namespace Toolwright.FilePath

open Text

/-- The steps of a path; empty ones and those that stay where they are do not count. -/
def steps (path : String) : List (List Char) :=
  (pieces (· == '/') path.toList).filter fun step => !step.isEmpty && step != ['.']

/-- The name of the file, if the path ends in one. -/
def fileName? (path : String) : Option String :=
  match (steps path).getLast? with
  | some ['.', '.'] => none
  | some name => some (String.ofList name)
  | none => none

/-- The name cut at its last dot, if that is not its first character. -/
def cut? (name : List Char) : Option (List Char × List Char) :=
  let extension := (name.reverse.takeWhile (· != '.')).reverse
  let before := name.take (name.length - extension.length - 1)
  if extension.length < name.length && !before.isEmpty then some (before, extension) else none

/-- The extension of the file. -/
def extension? (path : String) : Option String :=
  ((fileName? path).bind fun name => cut? name.toList).map fun parts => String.ofList parts.2

/-- The name of the file without its extension. -/
def stem? (path : String) : Option String :=
  (fileName? path).map fun name =>
    match cut? name.toList with
    | some (before, _) => String.ofList before
    | none => name

/-- The path of a file within a directory. -/
def join (directory name : String) : String :=
  if name.startsWith "/" || directory.isEmpty then name
  else if directory.endsWith "/" then directory ++ name
  else directory ++ "/" ++ name

end Toolwright.FilePath
