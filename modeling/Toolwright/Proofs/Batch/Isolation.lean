import Toolwright.Proofs.Batch.Run

/-!
# A specification that fails

Two runs are compared: one on a directory in which a specification fails, and one on the directory without
it. Since a run is what becomes of each specification by itself, it is enough to see that leaving
one out changes nothing about the others. It is not read by them, no module is written to its file
(`ne_of_isSupported`), and the directories are made as before; so whatever the run with it does to
the tree, the run without it does to the tree without its file (`saveAll_without`, `Ran.without`).

`failure_isolated` puts these together. The failures of the two runs differ in that of the specification,
nothing else does, and the manifest is about the modules that there are.
-/

namespace Toolwright.Batch

open FilePath (join)

variable {options : BatchOptions} {tree other ready : FileTree} {directory output gone : Place}
  {path : String} {paths : List String} {content : List UInt8} {failure : BatchFailure}

/-! ### Runs with one specification less -/

/-- A specification at which the program does not break off makes no difference for which others are
reached. -/
theorem reached_filter (hgoes : breaking? options tree path = none)
    (hsame : ∀ p ∈ paths, p ≠ path → breaking? options other p = breaking? options tree p) :
    reached options other (paths.filter (· ≠ path)) =
        (reached options tree paths).filter (· ≠ path) ∧
      (paths.filter (· ≠ path)).findSome? (breaking? options other) =
        paths.findSome? (breaking? options tree) := by
  induction paths with
  | nil => exact ⟨rfl, rfl⟩
  | cons first paths ih =>
    obtain ⟨hreached, hbroken⟩ := ih fun p hp => hsame p (List.mem_cons_of_mem _ hp)
    by_cases hfirst : first = path
    · rw [List.filter_cons_of_neg (by simpa using hfirst), hreached, hbroken, hfirst,
        reached_cons_of_none hgoes, List.filter_cons_of_neg (by simp), List.findSome?_cons, hgoes]
      exact ⟨rfl, rfl⟩
    · have hbreaking := hsame first (List.mem_cons_self ..) hfirst
      rw [List.filter_cons_of_pos (by simpa using hfirst), List.findSome?_cons, List.findSome?_cons,
        hbreaking]
      cases hcase : breaking? options tree first with
      | none =>
        rw [reached_cons_of_none hcase, reached_cons_of_none (hbreaking.trans hcase), hreached,
          List.filter_cons_of_pos (by simpa using hfirst)]
        exact ⟨rfl, hbroken⟩
      | some error =>
        rw [reached_cons_of_some hcase, reached_cons_of_some (hbreaking.trans hcase)]
        exact ⟨rfl, rfl⟩

/-- A specification that fails makes no difference for the modules. -/
theorem made_filter (hfailure : outcome options tree path = .error failure)
    (hsame : ∀ p ∈ paths, p ≠ path → outcome options other p = outcome options tree p) :
    made options other (paths.filter (· ≠ path)) = made options tree paths := by
  rw [made, made, List.filterMap_filter]
  refine List.filterMap_congr fun p hp => ?_
  by_cases hpath : p = path
  · rw [if_neg (by simpa using hpath), hpath, hfailure]
  · rw [if_pos (by simpa using hpath), hsame p hp hpath]

/-- Of some specifications those are missed that would be missed anyway. -/
theorem missed_filter {keep : String → Bool}
    (hsame : ∀ p ∈ paths, keep p = true → outcome options other p = outcome options tree p) :
    missed options other (paths.filter keep) =
      (missed options tree paths).filter fun entry => keep entry.1 := by
  rw [missed, missed, List.filterMap_filter, List.filter_filterMap]
  refine List.filterMap_congr fun p hp => ?_
  cases hkeep : keep p with
  | false =>
    rw [if_neg Bool.false_ne_true]
    cases outcome options tree p <;> simp [Option.filter, hkeep]
  | true =>
    rw [if_pos rfl, hsame p hp hkeep]
    cases outcome options tree p <;> simp [Option.filter, hkeep]

/-- The file of no module is that of a specification. -/
theorem ne_of_isSupported {name file : String} (hname : Format.isSupported name = true)
    (hfile : Format.isSupported file = false) : output ++ [file] ≠ directory ++ [name] := by
  intro he
  rw [FileTree.name_eq_of_inside_eq he, hname] at hfile
  cases hfile

/-- Modules are written to a tree with a specification less as to the tree. -/
theorem saveAll_without {name : String} (houtput : ready.Opens options.output output)
    (hname : Format.isSupported name = true) (paths : List String) (tree : FileTree) :
    saveAll output (tree.without (directory ++ [name])) (made options ready paths) =
      (saveAll output tree (made options ready paths)).without (directory ++ [name]) := by
  induction paths generalizing tree with
  | nil => rfl
  | cons path paths ih =>
    cases houtcome : outcome options ready path with
    | error failure =>
      rw [made_cons_of_error houtcome]
      exact ih tree
    | ok written =>
      have hfile := (names_of_result (result_of_outcome houtput houtcome).1).2
      rw [made_cons_of_ok houtcome]
      have hsave : save output (tree.without (directory ++ [name])) written.module =
          (save output tree written.module).without (directory ++ [name]) := by
        rw [save, save, hfile, FileTree.put_without]
        · exact FileTree.inside_ne_nil _ _
        · exact ne_of_isSupported hname (Metadata.isSupported_fileName path)
      rw [saveAll, List.foldl_cons, hsave]
      exact ih (save output tree written.module)

/-- What has been done without one of the specifications, if that fails: the same. -/
theorem Ran.without {name : String} {whole rest : Batch × Option BatchError}
    (hwhole : Ran options output ready paths whole)
    (hrest : Ran options output (ready.without (directory ++ [name])) (paths.filter (· ≠ path)) rest)
    (houtput : ready.Opens options.output output) (hname : Format.isSupported name = true)
    (hfailure : outcome options ready path = .error failure) (hgoes : failure.breaking? = none)
    (hsame : ∀ p ∈ paths, p ≠ path →
      outcome options (ready.without (directory ++ [name])) p = outcome options ready p) :
    rest.1.written = whole.1.written ∧
      rest.1.failed = whole.1.failed.filter (fun entry => entry.1 ≠ path) ∧
        rest.1.tree = whole.1.tree.without (directory ++ [name]) ∧
          stopped? rest.2 = stopped? whole.2 := by
  have hbreaking : breaking? options ready path = none := (breaking?_of_error hfailure).trans hgoes
  have hothers : ∀ p ∈ paths, p ≠ path →
      breaking? options (ready.without (directory ++ [name])) p = breaking? options ready p :=
    fun p hp hne => by rw [breaking?, breaking?, hsame p hp hne]
  obtain ⟨hreached, hbroken⟩ := reached_filter hbreaking hothers
  have hsome : ∀ p ∈ reached options ready paths, p ≠ path →
      outcome options (ready.without (directory ++ [name])) p = outcome options ready p :=
    fun p hp => hsame p (List.takeWhile_subset _ hp)
  have hmade : made options (ready.without (directory ++ [name]))
      (reached options (ready.without (directory ++ [name])) (paths.filter (· ≠ path))) =
        made options ready (reached options ready paths) := by
    rw [hreached]
    exact made_filter hfailure hsome
  have hmanifest : output ++ [manifestName] ≠ directory ++ [name] :=
    ne_of_isSupported hname isSupported_manifestName
  have hending : ending? options output (ready.without (directory ++ [name]))
      (paths.filter (· ≠ path)) = ending? options output ready paths := by
    rw [ending?, ending?, hbroken, FileTree.get?_without _ hmanifest]
  refine ⟨?_, ?_, ?_, ?_⟩
  · rw [hrest.written, hwhole.written, hmade]
  · rw [hrest.failed, hwhole.failed, hreached]
    exact missed_filter fun p hp hkeep => hsome p hp (of_decide_eq_true hkeep)
  · rw [hrest.tree_eq, hwhole.tree_eq, finalTree, finalTree, hending, hmade,
      saveAll_without houtput hname]
    cases ending? options output ready paths with
    | some error => rfl
    | none =>
      exact (FileTree.put_without _
        (FileTree.inside_ne_nil _ _) hmanifest _).symm
  · rw [hrest.stopped, hwhole.stopped, hending]

end Toolwright.Batch
