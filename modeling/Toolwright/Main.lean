import Std.Time.Format
import Toolwright.CommandLine.Run

/-!
# The program

The outermost layer. It looks at the files that a command line is about, lets the library say what is
to be done, and does it.
-/

namespace Toolwright

/-- The tree with what the file system has at a path and at all places on the way to it. -/
def FileTree.observe (tree : FileTree) (path : String) : IO FileTree := do
  let mut tree := tree
  let mut place := tree.base path
  for step in FileTree.steps path do
    if step = ".." then place := place.dropLast
    else if step ≠ "." then
      place := place ++ [step]
      let file := (← IO.currentDir) / ("/" ++ "/".intercalate place)
      if ← file.isDir then tree := tree.put place .directory
      else if ← file.pathExists then
        tree := tree.put place (.file (← IO.FS.readBinFile file).toList)
  return tree

/-- The tree with what is directly in a directory. -/
def FileTree.observeWithin (tree : FileTree) (path : String) : IO FileTree := do
  let directory := (← IO.currentDir) / path
  let mut tree ← tree.observe path
  if ← directory.isDir then
    for entry in ← directory.readDir do
      tree ← tree.observe (FilePath.join path entry.fileName)
  return tree

/-- The files that a task is about. -/
def Task.observe (task : Task) : IO FileTree := do
  let start := FileTree.steps (← IO.currentDir).toString
  let tree : FileTree := { start }
  let tree ← tree.observe (← IO.currentDir).toString
  match task with
  | .generate options => do (← tree.observeWithin options.input).observeWithin options.output
  | .listOperations path => tree.observe path

/-- Writes the files and makes the directories of a tree that another tree does not have. -/
def FileTree.materialize (before after : FileTree) : IO Unit := do
  for (place, entry) in after.entries do
    if before.get? place ≠ some entry then
      let file := (← IO.currentDir) / ("/" ++ "/".intercalate place)
      match entry with
      | .directory => IO.FS.createDirAll file
      | .file content => IO.FS.writeBinFile file ⟨content.toArray⟩

/-- A number in two digits. -/
def twoDigits (number : Nat) : String :=
  if number < 10 then "0" ++ toString number else toString number

/-- The time of day. -/
def clock : IO String := do
  let now ← Std.Time.PlainTime.now
  let parts := [now.hour.val, now.minute.val, now.second.val].map fun part =>
    twoDigits part.toNat
  return "[" ++ ":".intercalate parts ++ "]"

/-- Says what a report says. -/
def Pen.say (pen : Pen) (report : Report) : IO Unit := do
  let output ← IO.getStdout
  let error ← IO.getStderr
  for (stream, line) in report do
    let text := pen.line line ++ "\n"
    match stream with
    | .output => output.putStr text
    | .error => error.putStr text

end Toolwright

open Toolwright

/-- Runs the program. -/
def main (arguments : List String) : IO UInt32 := do
  let colorless := ((← IO.getEnv "NO_COLOR").getD "") ≠ ""
  let terminal : Terminal :=
    { announcement? := ← IO.getEnv "COLORFGBG"
      colorless
      isPresent := ← (← IO.getStdout).isTty }
  let tree ←
    match Invocation.ofArguments arguments with
    | .ok invocation => invocation.task.observe
    | .error _ => pure {}
  let outcome := Outcome.ofArguments arguments terminal tree
  tree.materialize outcome.tree
  let pen : Pen := { palette := outcome.palette, colorless, clock := ← clock }
  pen.say outcome.report
  return outcome.exitCode.toUInt32
