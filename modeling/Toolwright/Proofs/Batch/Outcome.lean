import Toolwright.Proofs.Batch.Specifications

/-!
# What becomes of specifications

A specification is read, made into a module and written, in this order, so what can go wrong goes wrong
before anything has changed (`generate_eq`). What has changed afterwards is one file among the
modules, and no specification is read there. So what becomes of a specification (`outcome`) does not
depend on what was written before it (`Rewritten.generate_eq`), and a batch does with its
specifications what becomes of each by itself (`process_eq`).

`step_eq` is the one account of a step. `Rewritten` is the invariant that carries it from step to step.
-/

namespace Toolwright.Batch

open FileTree (IsName)
open FilePath (join)

variable {options : BatchOptions} {tree other : FileTree} {place directory output : Place}
  {path : String} {paths : List String} {content : List UInt8}

/-! ### One specification -/

/-- What a specification is made into before anything is written. -/
def result (tree : FileTree) (path : String) : Except BatchFailure GeneratedModule := do
  let document ← (tree.document path).mapError .load
  (document.generate path).mapError .code

/-- What a specification becomes. -/
def outcome (options : BatchOptions) (tree : FileTree) (path : String) :
    Except BatchFailure WrittenModule :=
  (generate options tree path).map Prod.snd

/-- The tree with a module in the directory of the modules. -/
def save (output : Place) (tree : FileTree) (module : GeneratedModule) : FileTree :=
  tree.put (output ++ [module.fileName]) (.file module.code.toUTF8.toList)

/-- A module is named after the service of its specification. -/
theorem names_of_result {module : GeneratedModule} (h : result tree path = .ok module) :
    module.name = Metadata.moduleName (Metadata.service path) ∧
      module.fileName = Metadata.fileName (Metadata.service path) := by
  rw [result] at h
  cases hdocument : tree.document path with
  | error error => rw [hdocument] at h; cases h
  | ok document =>
    rw [hdocument] at h
    change (document.generate path).mapError _ = _ at h
    rw [Document.generate] at h
    dsimp only at h
    generalize Module.generate _ _ _ = code at h
    cases code with
    | error error => cases h
    | ok code =>
      cases h
      exact ⟨rfl, rfl⟩

theorem isName_of_result {module : GeneratedModule} (h : result tree path = .ok module) :
    IsName module.fileName := by
  rw [(names_of_result h).2]
  exact Metadata.isName_fileName path

/-- **What can go wrong with a specification goes wrong before anything is written**: a module, once
generated, is only kept from being written by a directory of its name. -/
theorem generate_eq (houtput : tree.Opens options.output output) (path : String) :
    generate options tree path = (result tree path).bind fun module =>
      if tree.get? (output ++ [module.fileName]) = some .directory then
        .error (.file .isDirectory)
      else .ok (save output tree module, ⟨module, join options.output module.fileName⟩) := by
  have hgenerate : generate options tree path = (result tree path).bind fun module =>
      let destination := join options.output module.fileName
      ((tree.write destination module.code.toUTF8.toList).mapError .file).bind fun after =>
        .ok (after, ⟨module, destination⟩) := by
    rw [generate, result]
    cases tree.document path <;> rfl
  rw [hgenerate]
  cases hresult : result tree path with
  | error failure => rfl
  | ok module =>
    dsimp only [Except.bind]
    rw [FileTree.write_of_locate (houtput.locate_join (isName_of_result hresult))]
    by_cases hthere : tree.get? (output ++ [module.fileName]) = some .directory
    · rw [if_pos hthere, if_pos hthere]
      rfl
    · rw [if_neg hthere, if_neg hthere]
      rfl

theorem outcome_eq (houtput : tree.Opens options.output output) (path : String) :
    outcome options tree path = (result tree path).bind fun module =>
      if tree.get? (output ++ [module.fileName]) = some .directory then
        .error (.file .isDirectory)
      else .ok ⟨module, join options.output module.fileName⟩ := by
  rw [outcome, generate_eq houtput]
  cases result tree path with
  | error failure => rfl
  | ok module =>
    dsimp only [Except.bind]
    split <;> rfl

theorem result_of_outcome {written : WrittenModule} (houtput : tree.Opens options.output output)
    (h : outcome options tree path = .ok written) :
    result tree path = .ok written.module ∧
      written.path = join options.output written.module.fileName ∧
        tree.get? (output ++ [written.module.fileName]) ≠ some .directory := by
  rw [outcome_eq houtput] at h
  cases hresult : result tree path with
  | error failure => rw [hresult] at h; cases h
  | ok module =>
    rw [hresult] at h
    dsimp only [Except.bind] at h
    split at h
    · cases h
    · next hfree =>
      cases h
      exact ⟨rfl, rfl, hfree⟩

/-! ### Modules among other files -/

/-- The tree `other` is `tree` after some files in the directory of the modules have been written, none of
them a specification. -/
structure Rewritten (output : Place) (tree other : FileTree) : Prop where
  start : other.start = tree.start
  directories : ∀ place, other.get? place = some .directory ↔ tree.get? place = some .directory
  others : ∀ place, (∀ name, place = output ++ [name] → Format.isSupported name = true) →
    other.get? place = tree.get? place

namespace Rewritten

theorem refl (output : Place) (tree : FileTree) : Rewritten output tree tree :=
  ⟨rfl, fun _ => Iff.rfl, fun _ _ => rfl⟩

theorem put {name : String} (h : Rewritten output tree other)
    (hname : Format.isSupported name = false)
    (hfree : tree.get? (output ++ [name]) ≠ some .directory) :
    Rewritten output tree (other.put (output ++ [name]) (.file content)) := by
  have hne : output ++ [name] ≠ [] := FileTree.inside_ne_nil _ _
  refine ⟨by rw [FileTree.start_put, h.start], fun found => ?_, fun found hfound => ?_⟩
  · rw [FileTree.get?_put other hne]
    split
    · next hsame =>
      rw [hsame]
      exact iff_of_false (fun he => by cases he) hfree
    · exact h.directories found
  · rw [FileTree.get?_put other hne, if_neg, h.others found hfound]
    intro hsame
    rw [hfound name hsame] at hname
    cases hname

theorem opens {path : String} (h : Rewritten output tree other) (hopens : tree.Opens path place) :
    other.Opens path place :=
  hopens.mono h.start fun place hplace => (h.directories place).mpr hplace

theorem locate (h : Rewritten output tree other) (hplace : tree.locate path = .ok place) :
    other.locate path = .ok place := by
  rw [FileTree.locate] at hplace ⊢
  split at hplace
  · cases hplace
  · next hpath =>
    rw [if_neg hpath, FileTree.base, h.start]
    exact FileTree.walk_mono (fun place hthere => (h.directories place).mpr hthere) hplace

/-- What a specification becomes does not depend on the modules that are written before. -/
theorem generate_eq (h : Rewritten output tree other)
    (houtput : tree.Opens options.output output) (hresult : result other path = result tree path) :
    generate options other path =
      (outcome options tree path).map fun written => (save output other written.module, written) := by
  rw [Batch.generate_eq (h.opens houtput), outcome_eq houtput, hresult]
  cases result tree path with
  | error failure => rfl
  | ok module =>
    dsimp only [Except.bind]
    rw [if_congr (h.directories _) rfl rfl]
    split <;> rfl

theorem save {written : WrittenModule} (h : Rewritten output tree other)
    (houtput : tree.Opens options.output output) (hwritten : outcome options tree path = .ok written) :
    Rewritten output tree (save output other written.module) := by
  obtain ⟨hresult, -, hfree⟩ := result_of_outcome houtput hwritten
  refine h.put ?_ hfree
  rw [(names_of_result hresult).2]
  exact Metadata.isSupported_fileName path

end Rewritten

/-! ### One specification after another -/

/-- The error with which the program breaks off after a failure, if it does. -/
def breakingOf? {α : Type} : Except BatchFailure α → Option CodeError
  | .ok _ => none
  | .error failure => failure.breaking?

/-- The error with which the program breaks off at a specification, if it does. -/
def breaking? (options : BatchOptions) (tree : FileTree) (path : String) : Option CodeError :=
  breakingOf? (outcome options tree path)

theorem breaking?_of_error {failure : BatchFailure} (h : outcome options tree path = .error failure) :
    breaking? options tree path = failure.breaking? := congrArg breakingOf? h

/-- The specifications that are taken up to their end: those before the one at which the program breaks
off. -/
def reached (options : BatchOptions) (tree : FileTree) (paths : List String) : List String :=
  paths.takeWhile fun path => (breaking? options tree path).isNone

theorem reached_cons_of_none (h : breaking? options tree path = none) (paths : List String) :
    reached options tree (path :: paths) = path :: reached options tree paths :=
  List.takeWhile_cons_of_pos (by rw [h]; rfl)

theorem reached_cons_of_some {error : CodeError} (h : breaking? options tree path = some error)
    (paths : List String) : reached options tree (path :: paths) = [] :=
  List.takeWhile_cons_of_neg (by rw [h]; simp)

/-- The modules that some specifications become, with the specifications. -/
def made (options : BatchOptions) (tree : FileTree) (paths : List String) :
    List (String × WrittenModule) :=
  paths.filterMap fun path =>
    match outcome options tree path with
    | .ok written => some (path, written)
    | .error _ => none

/-- Why some specifications become no modules, with the specifications. -/
def missed (options : BatchOptions) (tree : FileTree) (paths : List String) :
    List (String × BatchFailure) :=
  paths.filterMap fun path =>
    match outcome options tree path with
    | .ok _ => none
    | .error failure => some (path, failure)

/-- The tree with some modules written, one after another. -/
def saveAll (output : Place) (tree : FileTree) (made : List (String × WrittenModule)) : FileTree :=
  made.foldl (fun tree entry => save output tree entry.2.module) tree

section

variable {written : WrittenModule} {failure : BatchFailure}

theorem made_cons_of_ok (h : outcome options tree path = .ok written) (paths : List String) :
    made options tree (path :: paths) = (path, written) :: made options tree paths :=
  List.filterMap_cons_some (by rw [h])

theorem made_cons_of_error (h : outcome options tree path = .error failure) (paths : List String) :
    made options tree (path :: paths) = made options tree paths :=
  List.filterMap_cons_none (by rw [h])

end

theorem Rewritten.saveAll (h : Rewritten output tree other) (houtput : tree.Opens options.output output)
    (paths : List String) : Rewritten output tree (saveAll output other (made options tree paths)) := by
  induction paths generalizing other with
  | nil => exact h
  | cons path paths ih =>
    cases houtcome : outcome options tree path with
    | ok written =>
      rw [made_cons_of_ok houtcome]
      exact ih (h.save houtput houtcome)
    | error failure =>
      rw [made_cons_of_error houtcome]
      exact ih h

/-- What has been done with some specifications: what becomes of each by itself. -/
structure Processed (options : BatchOptions) (output : Place) (tree : FileTree) (paths : List String)
    (before after : Batch) : Prop where
  saved : after.tree = saveAll output before.tree (made options tree paths)
  written : after.written = before.written ++ (made options tree paths).map Prod.snd
  failed : after.failed = before.failed ++ missed options tree paths

namespace Processed

variable {before after : Batch}

theorem nil (options : BatchOptions) (output : Place) (tree : FileTree) (batch : Batch)
    (report : Report) : Processed options output tree [] batch { batch with report } :=
  ⟨rfl, (List.append_nil _).symm, (List.append_nil _).symm⟩

end Processed

end Toolwright.Batch
