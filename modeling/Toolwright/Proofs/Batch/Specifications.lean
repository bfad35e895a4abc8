import Mathlib.Data.List.Sort
import Mathlib.Data.String.Basic
import Toolwright.Batch.Basic
import Toolwright.Proofs.Files.Tree
import Toolwright.Proofs.Module.Identifiers

/-!
# The specifications of a directory

The specifications are the files directly in a directory whose extension names a language, in the order of
their names (`specifications_of_locate`). Each is read at its own place, no two have one path
(`Found.nodup`), and taking the file of one away takes it from the list and leaves the others as they
are (`Found.without`).

No module is a specification. Its file is named after its service, so that it has a name like any
other file (`Metadata.isName_fileName`), and has an extension that names no language
(`Metadata.isSupported_fileName`).
-/

namespace Toolwright

/-! ### Names of files -/

namespace FilePath

open FileTree (IsName)

theorem fileName?_of_isName {name : String} (h : IsName name) : fileName? name = some name := by
  have hhere : name.toList ≠ ['.'] := fun he => h.notHere (String.toList_inj.mp he)
  have hup : name.toList ≠ ['.', '.'] := fun he => h.notUp (String.toList_inj.mp he)
  have hsteps : steps name = [name.toList] := by
    rw [steps, h.pieces_eq]
    simp [h.nonempty, hhere]
  rw [fileName?, hsteps, List.getLast?_singleton]
  split
  · next he => exact absurd (Option.some.inj he) hup
  · next last _ he => rw [← Option.some.inj he, String.ofList_toList]
  · next he => cases he

/-- The extension is what follows the last dot. -/
theorem extension?_of_toList {name : String} (h : IsName name) (extension : List Char)
    {before : List Char} (hname : name.toList = before ++ '.' :: extension) (hbefore : before ≠ [])
    (hextension : '.' ∉ extension) : extension? name = some (String.ofList extension) := by
  have htail : ((before ++ '.' :: extension).reverse.takeWhile (· != '.')).reverse = extension := by
    rw [List.reverse_append, List.reverse_cons, List.append_assoc, List.takeWhile_append_of_pos,
      List.singleton_append, List.takeWhile_cons_of_neg, List.append_nil, List.reverse_reverse]
    · simp
    · intro c hc
      exact bne_iff_ne.mpr fun he => hextension (he ▸ List.mem_reverse.mp hc)
  have hcut : cut? name.toList = some (before, extension) := by
    have hlength : (before ++ '.' :: extension).length - extension.length - 1 = before.length := by
      rw [List.length_append, List.length_cons]
      omega
    rw [cut?, hname, htail, hlength, List.take_left]
    simp [hbefore]
    omega
  rw [extension?, fileName?_of_isName h, Option.bind_some, hcut]
  rfl

/-- A file of the language of the modules is no specification. -/
theorem isSupported_eq_false {name : String} (h : IsName name) (before : List Char)
    (hname : name.toList = before ++ ".rs".toList) (hbefore : before ≠ []) :
    Format.isSupported name = false := by
  have hlower : (String.ofList ['r', 's']).map Char.toLower = "rs" := by decide +kernel
  rw [Format.isSupported, Format.ofPath, extension?_of_toList h ['r', 's'] hname hbefore (by decide),
    Option.map_some, hlower]
  rfl

end FilePath

namespace Metadata

open FileTree (IsName)

/-- The name of the file of the module for a service. -/
def fileName (service : String) : String := moduleName service ++ ".rs"

theorem toList_fileName (service : String) :
    (fileName service).toList =
      ("generated_".toList ++ service.toList ++ "_tools".toList) ++ ".rs".toList := by
  simp only [fileName, moduleName, String.toList_append]

theorem isWord_service (path : String) : Name.IsWord (service path) :=
  (Name.usable_serviceTag _).isWord

theorem isName_fileName (path : String) : IsName (fileName (service path)) := by
  have hlist := toList_fileName (service path)
  have hshape : ∀ {short : String}, short.length < 3 → fileName (service path) ≠ short := by
    rintro short hshort rfl
    rw [← String.length_toList, hlist] at hshort
    simp at hshort
    omega
  refine ⟨hshape (by decide), fun hslash => ?_, hshape (by decide), hshape (by decide)⟩
  rw [hlist] at hslash
  simp at hslash
  exact absurd (isWord_service path _ hslash) (by decide)

theorem isSupported_fileName (path : String) :
    Format.isSupported (fileName (service path)) = false :=
  FilePath.isSupported_eq_false (isName_fileName path) _ (toList_fileName _) (by simp)

end Metadata

theorem isName_manifestName : FileTree.IsName Batch.manifestName := by decide

theorem isSupported_manifestName : Format.isSupported Batch.manifestName = false :=
  FilePath.isSupported_eq_false isName_manifestName ['m', 'o', 'd'] rfl (by decide)

namespace Batch

open FileTree (IsName)
open FilePath (join)

variable {options : BatchOptions} {tree other : FileTree} {place directory output gone : Place}
  {path : String} {paths : List String} {content : List UInt8}

/-! ### Specifications -/

theorem nameWithin?_eq_some_iff {name : String} :
    FileTree.nameWithin? directory place = some name ↔ place = directory ++ [name] := by
  unfold FileTree.nameWithin?
  cases hlast : place.getLast? with
  | none =>
    rw [List.getLast?_eq_none_iff.mp hlast]
    simp
  | some last =>
    obtain ⟨front, rfl⟩ := List.getLast?_eq_some_iff.mp hlast
    rw [List.dropLast_concat]
    simp only [Option.ite_none_right_eq_some, Option.some.injEq]
    constructor
    · rintro ⟨rfl, rfl⟩
      rfl
    · intro he
      exact ⟨List.append_inj_left' he rfl, FileTree.name_eq_of_inside_eq he⟩

/-- The name of a specification directly in a directory. -/
def specificationName? (directory : Place) (entry : Place × Entry) : Option String :=
  match entry.2 with
  | .file _ => (FileTree.nameWithin? directory entry.1).filter Format.isSupported
  | .directory => none

theorem specificationName?_eq_some_iff {entry : Place × Entry} {name : String} :
    specificationName? directory entry = some name ↔
      entry.1 = directory ++ [name] ∧ Format.isSupported name = true ∧
        ∃ content, entry.2 = .file content := by
  obtain ⟨place, entry⟩ := entry
  cases entry with
  | directory => simp [specificationName?]
  | file content => simp [specificationName?, Option.filter_eq_some_iff, nameWithin?_eq_some_iff]

/-- The names of the specifications directly in a directory, in the order of the tree. -/
def specificationNames (tree : FileTree) (directory : Place) : List String :=
  tree.entries.filterMap (specificationName? directory)

theorem mem_specificationNames_iff (h : tree.WellFormed) {name : String} :
    name ∈ specificationNames tree directory ↔
      Format.isSupported name = true ∧
        ∃ content, tree.get? (directory ++ [name]) = some (.file content) := by
  have hne : directory ++ [name] ≠ [] := FileTree.inside_ne_nil _ _
  rw [specificationNames, List.mem_filterMap, FileTree.get?_of_ne_nil tree hne]
  constructor
  · rintro ⟨⟨place, entry⟩, hentry, hname⟩
    obtain ⟨rfl, hsupported, content, rfl⟩ := specificationName?_eq_some_iff.mp hname
    exact ⟨hsupported, content, h.lookup_of_mem hentry⟩
  · rintro ⟨hsupported, content, hthere⟩
    exact ⟨(directory ++ [name], .file content), FileTree.mem_of_lookup hthere,
      specificationName?_eq_some_iff.mpr ⟨rfl, hsupported, content, rfl⟩⟩

theorem isName_of_mem_specificationNames (h : tree.WellFormed) {name : String}
    (hname : name ∈ specificationNames tree directory) : IsName name := by
  obtain ⟨-, content, hthere⟩ := (mem_specificationNames_iff h).mp hname
  rw [FileTree.get?_of_ne_nil _ (FileTree.ne_nil_of_get?_file hthere)] at hthere
  exact h.named _ (FileTree.mem_of_lookup hthere) name
    (List.mem_append_right _ (List.mem_singleton.mpr rfl))

theorem nodup_specificationNames (h : tree.WellFormed) (directory : Place) :
    (specificationNames tree directory).Nodup := by
  have hplaces : ∀ entries : List (Place × Entry),
      ((entries.filterMap (specificationName? directory)).map fun name => directory ++ [name]).Sublist
        (entries.map Prod.fst) := by
    intro entries
    induction entries with
    | nil => exact List.Sublist.slnil
    | cons entry entries ih =>
      cases hname : specificationName? directory entry with
      | none =>
        rw [List.filterMap_cons_none hname, List.map_cons]
        exact ih.cons _
      | some name =>
        rw [List.filterMap_cons_some hname, List.map_cons, List.map_cons,
          (specificationName?_eq_some_iff.mp hname).1]
        exact ih.cons_cons _
  exact .of_map _ (h.distinct.sublist (hplaces tree.entries))

/-- A specification that is taken away is the only one that is missed. -/
theorem specificationNames_without (tree : FileTree) (directory : Place) (name : String) :
    specificationNames (tree.without (directory ++ [name])) directory =
      (specificationNames tree directory).filter (· ≠ name) := by
  rw [specificationNames, specificationNames, FileTree.without, List.filterMap_filter,
    List.filter_filterMap]
  refine List.filterMap_congr fun entry _ => ?_
  cases hname : specificationName? directory entry with
  | none => simp
  | some found =>
    rw [(specificationName?_eq_some_iff.mp hname).1]
    simp [Option.filter, List.append_cancel_left_eq]

/-- The specifications that are found. -/
structure Found (input : String) (tree : FileTree) (directory : Place) (paths : List String) : Prop where
  located : tree.locate input = .ok directory
  there : tree.get? directory = some .directory
  paths_eq : paths =
    ((specificationNames tree directory).mergeSort fun a b => decide (a ≤ b)).map (join input)

theorem Found.opens {input : String} (h : Found input tree directory paths) :
    tree.Opens input directory :=
  FileTree.opens_of_locate h.located h.there

theorem Found.nodup {input : String} (h : Found input tree directory paths) (htree : tree.WellFormed) :
    paths.Nodup := by
  have hnames := (List.mergeSort_perm (specificationNames tree directory)
    fun a b => decide (a ≤ b)).nodup_iff.mpr (nodup_specificationNames htree directory)
  rw [h.paths_eq]
  refine hnames.map_on fun name hname other hother he => ?_
  rw [List.mem_mergeSort] at hname hother
  exact FileTree.join_inj (isName_of_mem_specificationNames htree hname)
    (isName_of_mem_specificationNames htree hother) he

theorem mergeSort_filter (names : List String) (keep : String → Bool) :
    ((names.filter keep).mergeSort fun a b => decide (a ≤ b)) =
      (names.mergeSort fun a b => decide (a ≤ b)).filter keep := by
  refine List.Perm.eq_of_sortedLE List.sortedLE_mergeSort
    (List.sortedLE_mergeSort.pairwise.filter keep).sortedLE ?_
  exact (List.mergeSort_perm _ _).trans ((List.mergeSort_perm names _).symm.filter keep)

/-- Without the file of a specification the others are found. -/
theorem Found.without {input name : String} (h : Found input tree directory paths)
    (htree : tree.WellFormed) (hname : FileTree.IsName name)
    (hgone : tree.get? (directory ++ [name]) = some (.file content)) :
    Found input (tree.without (directory ++ [name])) directory
      (paths.filter (· ≠ join input name)) where
  located := FileTree.locate_without hgone h.located
  there := FileTree.directory_of_without_file hgone h.there
  paths_eq := by
    rw [specificationNames_without, mergeSort_filter, h.paths_eq, List.filter_map]
    refine congrArg (List.map (join input)) (List.filter_congr fun other hother => ?_)
    rw [List.mem_mergeSort] at hother
    have hsame : join input other = join input name ↔ other = name :=
      ⟨FileTree.join_inj (isName_of_mem_specificationNames htree hother) hname,
        congrArg (join input)⟩
    simp [hsame]

end Batch

end Toolwright
