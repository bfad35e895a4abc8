import Toolwright.Console.Report
import Toolwright.Document.File
import Toolwright.Module.Generate

/-!
# Batches

One module is generated from every specification of a directory, and a manifest for all of them.
A specification that cannot be made into a module is reported and left out; it does not
keep the others from being generated. The one thing that does is a name that cannot be made into an
identifier: the program breaks off there and writes no manifest.

`Batch.step` is what happens to one specification. It reads one file and writes at most one, after everything
that can go wrong with the specification has not. `Batch.run` takes the steps in the order of the file
names and writes the manifest of the modules that the steps have generated.
-/

namespace Toolwright

/-- What a batch works on and what it says. -/
structure BatchOptions where
  /-- The directory of the specifications. -/
  input : String := "specs"
  /-- The directory of the modules. -/
  output : String := "generated"
  /-- Whether all warnings are shown. -/
  verbose : Bool := false
  /-- Whether only errors are shown. -/
  quiet : Bool := false
  deriving DecidableEq, Repr, Inhabited

/-- Why a specification becomes no module. -/
inductive BatchFailure where
  | load (error : LoadError)
  | code (error : CodeError)
  | file (fault : FileFault)
  deriving Repr, Inhabited

/-- The error with which the program breaks off, if it does. -/
def BatchFailure.breaking? : BatchFailure → Option CodeError
  | code (.identifier message) => some (.identifier message)
  | _ => none

/-- The message for a specification that becomes no module, with what caused it. -/
def BatchFailure.message : BatchFailure → String
  | load error => error.message ++ ((error.cause?.map fun cause => ": " ++ cause).getD "")
  | code error => error.message
  | file fault => fault.message

/-- Why a batch does not succeed. -/
inductive BatchError where
  | file (fault : FileFault)
  | code (error : CodeError)
  | noSpecifications (directory : String)
  /-- Some specifications became no modules. -/
  | failures (failed all : Nat)
  deriving DecidableEq, Repr, Inhabited

/-- Whether the program broke off. -/
def BatchError.breaksOff : BatchError → Bool
  | code (.identifier _) => true
  | _ => false

/-- The message for a batch that does not succeed. -/
def BatchError.message : BatchError → String
  | file fault => fault.message
  | code error => error.message
  | noSpecifications directory =>
    "no .json, .yaml or .yml specifications found in " ++ directory
  | failures failed all => toString failed ++ " of " ++ toString all ++ " specifications failed"

/-- A module that has been written. -/
structure WrittenModule where
  module : GeneratedModule
  /-- The path of its file. -/
  path : String
  deriving Repr, Inhabited

/-- What a batch has done so far. -/
structure Batch where
  tree : FileTree
  /-- The modules generated, in order. -/
  written : List WrittenModule := []
  /-- The paths of the specifications that became no modules, in order. -/
  failed : List (String × BatchFailure) := []
  report : Report := []
  deriving Inhabited

namespace Batch

/-! ### What is said -/

/-- What is said unless only errors are. -/
def info (options : BatchOptions) (lines : List Line) : Report :=
  if options.quiet then [] else lines.map fun line => (.output, line)

/-- That a search begins. -/
def scanning (options : BatchOptions) : Report :=
  info options
    [.stamped [⟨.primary, "Scanning " ++ options.input ++ " for specifications"⟩]]

/-- That a specification is taken up. -/
def processing (options : BatchOptions) (path : String) : Report :=
  info options [.stamped [⟨.primary, "Processing " ++ path⟩]]

/-- That a file is written. -/
def generated (options : BatchOptions) (path : String) : Report :=
  info options [.stamped [⟨.success, "Generated " ++ path⟩]]

/-- The numbers of a module. Those that only count troubles are left out if there are none. -/
def numbers (statistics : Statistics) : List Line :=
  let trouble (label : String) (count : Nat) : List Line :=
    if count = 0 then [] else [.statistic label (toString count)]
  [.statistic "Tools generated:" (toString statistics.tools),
    .statistic "Parameters generated:" (toString statistics.parameters)] ++
    trouble "Operations skipped:" statistics.skippedOperations ++
    trouble "Warnings:" statistics.warnings.length

/-- A warning, if it is to be shown. What was left out always is, as long as not only errors are. -/
def warning (options : BatchOptions) (warning : Warning) : Report :=
  let shown (heading : String) : Report :=
    [(.error, .spans [⟨.accent, heading⟩, ⟨.primary, warning.text⟩])]
  if options.quiet then []
  else if warning.isOmission then shown "Skipped:"
  else if options.verbose then shown "Warning:"
  else []

/-- What a module contains and what was left out of it. -/
def statistics (options : BatchOptions) (statistics : Statistics) : Report :=
  info options (numbers statistics) ++ statistics.warnings.flatMap (warning options)

/-- That a specification becomes no module. -/
def failure (path : String) (failure : BatchFailure) : Report :=
  [(.error, .stamped [⟨.failure, "Failed: " ++ path⟩, ⟨.primary, failure.message⟩])]

/-- What has been done in the end. -/
def summary (options : BatchOptions) (batch : Batch) : Report :=
  let count := "Generated " ++ toString batch.written.length ++ " tool modules"
  if batch.failed.isEmpty then info options [.blank, .stamped [⟨.success, count⟩]]
  else
    let failed := toString batch.failed.length ++ " specifications failed"
    [(.error, .blank), (.error, .stamped [⟨.failure, count ++ ", " ++ failed⟩])]

/-! ### What is done -/

/-- The paths of the specifications directly in a directory, by file name. -/
def specifications (tree : FileTree) (directory : String) : Except FileFault (List String) := do
  let entries ← tree.list directory
  let names := entries.filterMap fun (name, entry) =>
    match entry with
    | .file _ => if Format.isSupported name then some name else none
    | .directory => none
  return (names.mergeSort fun a b => decide (a ≤ b)).map (FilePath.join directory)

/-- The tree with the module of a specification in it, and the module. -/
def generate (options : BatchOptions) (tree : FileTree) (path : String) :
    Except BatchFailure (FileTree × WrittenModule) := do
  let document ← (tree.document path).mapError .load
  let module ← (document.generate path).mapError .code
  let destination := FilePath.join options.output module.fileName
  let tree ← (tree.write destination module.code.toUTF8.toList).mapError .file
  return (tree, ⟨module, destination⟩)

/-- The batch after one more specification, with the error if the program breaks off at it. That it is taken
up is the last that is said then. -/
def step (options : BatchOptions) (batch : Batch) (path : String) : Batch × Option CodeError :=
  let report := batch.report ++ processing options path
  match generate options batch.tree path with
  | .ok (tree, written) =>
    ({ batch with
        tree
        written := batch.written ++ [written]
        report := report ++ statistics options written.module.statistics ++
          generated options written.path }, none)
  | .error error =>
    match error.breaking? with
    | some breaking => ({ batch with report }, some breaking)
    | none =>
      ({ batch with
          failed := batch.failed ++ [(path, error)]
          report := report ++ failure path error }, none)

/-- The name of the manifest's file. -/
def manifestName : String := "mod.rs"

/-- The batch with the manifest of its modules written. -/
def writeManifest (options : BatchOptions) (batch : Batch) : Except BatchError Batch := do
  let path := FilePath.join options.output manifestName
  let manifest ←
    (Module.generateManifest (batch.written.map (·.module.name))).mapError .code
  let tree ← (batch.tree.write path manifest.toUTF8.toList).mapError .file
  return { batch with tree, report := batch.report ++ generated options path }

/-- The batch before its first specification, and the specifications. -/
def start (options : BatchOptions) (tree : FileTree) : Except BatchError (Batch × List String) := do
  let paths ← (specifications tree options.input).mapError .file
  if paths.isEmpty then throw (.noSpecifications options.input)
  let tree ← (tree.makeDirectories options.output).mapError .file
  return ({ tree, report := scanning options }, paths)

/-- The batch after its specifications and before the manifest, with the error if the program broke off at
one of them. -/
def process (options : BatchOptions) (batch : Batch) : List String → Batch × Option CodeError
  | [] => (batch, none)
  | path :: rest =>
    match step options batch path with
    | (batch, some error) => (batch, some error)
    | (batch, none) => batch.process options rest

/-- The error of a batch in which something failed. -/
def error? (batch : Batch) : Option BatchError :=
  if batch.failed.isEmpty then none
  else some (.failures batch.failed.length (batch.failed.length + batch.written.length))

/-- Runs a batch: what has been done in the end, and the error if there is one. A batch that cannot begin
says no more than that it tried. -/
def run (options : BatchOptions) (tree : FileTree) : Batch × Option BatchError :=
  match start options tree with
  | .error error => ({ tree, report := scanning options }, some error)
  | .ok (batch, paths) =>
    match batch.process options paths with
    | (batch, some error) => (batch, some (.code error))
    | (batch, none) =>
      match batch.writeManifest options with
      | .error error => (batch, some error)
      | .ok batch =>
        ({ batch with report := batch.report ++ batch.summary options }, batch.error?)

end Batch

end Toolwright
