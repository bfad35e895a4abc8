import Mathlib.Data.List.TakeWhile
import Toolwright.Proofs.Batch.Outcome

/-!
# Whole runs

A run lists the specifications, makes the directory of the modules, takes the steps and writes the manifest.
Once it has begun it is determined by the tree it begins with and the specifications: what it has written,
what has failed, which files there are in the end and whether it comes to its end (`ran`). It
does not if the program breaks off at a specification or the manifest cannot be written (`ending?`);
that some specifications fail does not keep it from its end.
-/

namespace Toolwright

/-- Whether all modules and the manifest have been written, though some specifications have failed. -/
def BatchError.isFinal : BatchError → Bool
  | failures _ _ => true
  | _ => false

namespace Batch

open FilePath (join)

variable {options : BatchOptions} {tree : FileTree} {output : Place} {paths : List String}

/-! ### Manifests -/

/-- The tree with the manifest of some modules in their directory. -/
def saveManifest (output : Place) (tree : FileTree) (written : List WrittenModule) : FileTree :=
  tree.put (output ++ [manifestName])
    (.file (Module.manifest (written.map (·.module.name))).toUTF8.toList)

/-- Why a run has not come to its end. That specifications have failed is no such reason. -/
def stopped? (error? : Option BatchError) : Option BatchError :=
  error?.filter (!·.isFinal)

/-- Why the run on some specifications does not come to its end, if it does not. -/
def ending? (options : BatchOptions) (output : Place) (tree : FileTree) (paths : List String) :
    Option BatchError :=
  match paths.findSome? (breaking? options tree) with
  | some error => some (.code error)
  | none =>
    if tree.get? (output ++ [manifestName]) = some .directory then some (.file .isDirectory) else none

/-- The tree after the run on some specifications. -/
def finalTree (options : BatchOptions) (output : Place) (tree : FileTree) (paths : List String) :
    FileTree :=
  let made := made options tree (reached options tree paths)
  let saved := saveAll output tree made
  match ending? options output tree paths with
  | some _ => saved
  | none => saveManifest output saved (made.map Prod.snd)

/-- What has been done in a run on some specifications that begins with a tree. -/
structure Ran (options : BatchOptions) (output : Place) (tree : FileTree) (paths : List String)
    (after : Batch × Option BatchError) : Prop where
  tree_eq : after.1.tree = finalTree options output tree paths
  written : after.1.written = (made options tree (reached options tree paths)).map Prod.snd
  failed : after.1.failed = missed options tree (reached options tree paths)
  stopped : stopped? after.2 = ending? options output tree paths

theorem Rewritten.finalTree (houtput : tree.Opens options.output output) (paths : List String) :
    Rewritten output tree (finalTree options output tree paths) := by
  have hsaved := (Rewritten.refl output tree).saveAll houtput (reached options tree paths)
  rw [Batch.finalTree]
  cases hending : ending? options output tree paths with
  | some error => exact hsaved
  | none =>
    refine hsaved.put isSupported_manifestName fun hthere => ?_
    rw [ending?, if_pos hthere] at hending
    split at hending <;> cases hending

end Batch

end Toolwright
