import Toolwright.Document.FilePath

/-!
# Trees of files

The files that a command can see, as a finite map from places to what is there. A place is the list of
the names that lead to it from the root. Reading and writing follow the rules of a POSIX file system
for the cases that can occur here: nothing there, a file where a directory is needed, a
directory where a file is needed.
-/

namespace Toolwright

/-- What is at a place. -/
inductive Entry where
  | file (content : List UInt8)
  | directory
  deriving DecidableEq, Repr, Inhabited

/-- Why a place cannot be used. -/
inductive FileFault where
  | notFound
  | alreadyThere
  | noDevice
  | notDirectory
  | isDirectory
  deriving DecidableEq, Repr, Inhabited

/-- The message for a place that cannot be used. -/
def FileFault.message : FileFault → String
  | notFound => "No such file or directory (os error 2)"
  | alreadyThere => "File exists (os error 17)"
  | noDevice => "No such device (os error 19)"
  | notDirectory => "Not a directory (os error 20)"
  | isDirectory => "Is a directory (os error 21)"

/-- A place: the names that lead to it from the root. -/
abbrev Place := List String

/-- Files and directories and the place from which paths start. The root is always there. -/
structure FileTree where
  start : Place := []
  entries : List (Place × Entry) := []
  deriving Inhabited

namespace FileTree

/-- What is at a place. -/
def get? (tree : FileTree) (place : Place) : Option Entry :=
  if place = [] then some .directory else tree.entries.lookup place

/-- The tree with something at a place. -/
def put (tree : FileTree) (place : Place) (entry : Entry) : FileTree :=
  if (tree.entries.lookup place).isSome then
    { tree with entries := tree.entries.map fun (other, old) =>
        if other = place then (other, entry) else (other, old) }
  else { tree with entries := tree.entries ++ [(place, entry)] }

/-- The place that some steps lead to. All but the last must lead to directories. -/
def walk (tree : FileTree) (place : Place) : List String → Except FileFault Place
  | [] => .ok place
  | step :: rest =>
    match tree.get? place with
    | none => .error .notFound
    | some (.file _) => .error .notDirectory
    | some .directory =>
      if step = "." then tree.walk place rest
      else if step = ".." then tree.walk place.dropLast rest
      else tree.walk (place ++ [step]) rest

/-- The steps of a path. A slash at its end is a step that stays where it is, so that only a
directory can be before it. -/
def steps (path : String) : List String :=
  let steps := (Text.pieces (· == '/') path.toList).filter (!·.isEmpty)
  steps.map String.ofList ++ (if path.endsWith "/" then ["."] else [])

/-- The place from which the steps of a path start. -/
def base (tree : FileTree) (path : String) : Place :=
  if path.startsWith "/" then [] else tree.start

/-- The place that a path leads to. -/
def locate (tree : FileTree) (path : String) : Except FileFault Place :=
  if path.isEmpty then .error .notFound else tree.walk (tree.base path) (steps path)

/-- What a path leads to. -/
def find (tree : FileTree) (path : String) : Except FileFault Entry := do
  let place ← tree.locate path
  match tree.get? place with
  | some entry => .ok entry
  | none => .error .notFound

/-- The content of a file. -/
def read (tree : FileTree) (path : String) : Except FileFault (List UInt8) := do
  match ← tree.find path with
  | .file content => .ok content
  | .directory => .error .noDevice

/-- The name of what is at a place if that is directly within a directory. -/
def nameWithin? (directory place : Place) : Option String :=
  match place.getLast? with
  | some name => if place.dropLast = directory then some name else none
  | none => none

/-- What is directly in a directory, with names. -/
def list (tree : FileTree) (path : String) : Except FileFault (List (String × Entry)) := do
  let place ← tree.locate path
  match tree.get? place with
  | none => .error .notFound
  | some (.file _) => .error .notDirectory
  | some .directory =>
    .ok (tree.entries.filterMap fun (other, entry) =>
      (nameWithin? place other).map fun name => (name, entry))

/-- Writes a file. What was in it before is lost. -/
def write (tree : FileTree) (path : String) (content : List UInt8) :
    Except FileFault FileTree := do
  let place ← tree.locate path
  match tree.get? place with
  | some .directory => .error .isDirectory
  | _ => .ok (tree.put place (.file content))

/-- The directories on the way along some steps, those that are not there made. -/
def makeAlong (tree : FileTree) (place : Place) : List String → Except FileFault FileTree
  | [] => .ok tree
  | step :: rest =>
    if step = "." then tree.makeAlong place rest
    else if step = ".." then tree.makeAlong place.dropLast rest
    else
      let next := place ++ [step]
      match tree.get? next with
      | some .directory => tree.makeAlong next rest
      | some (.file _) => .error (if rest.all (· = ".") then .alreadyThere else .notDirectory)
      | none => (tree.put next .directory).makeAlong next rest

/-- Makes a directory and all that are missing on the way to it. -/
def makeDirectories (tree : FileTree) (path : String) : Except FileFault FileTree :=
  tree.makeAlong (tree.base path) (steps path)

end FileTree

end Toolwright
