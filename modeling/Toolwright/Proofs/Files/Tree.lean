import Mathlib.Data.List.Basic
import Mathlib.Data.String.Basic
import Toolwright.Files.Tree
import Toolwright.Proofs.Text.Pieces

/-!
# Trees of files

What can be said of a tree is what is found in it (`FileTree.get?`). Putting something at one place leaves
all others as they are (`get?_put`), a path that leads somewhere goes on leading there as long as no
directory goes away (`walk_mono`), and making directories only adds some (`exists_walk_of_makeAlong`).
A file that is taken away is missed only where it was: what a tree without it answers and becomes is
what the tree answers and becomes, without it (`put_without`, `walk_without`, `makeAlong_without`).

The file of a name in a directory is at that name behind the place of the directory
(`Opens.locate_join`), for a path is taken apart again where it was put together (`steps_join`).
-/

namespace Toolwright

namespace FileTree

variable {tree other : FileTree} {place found gone : Place} {entry : Entry}
  {content : List UInt8}

theorem inside_ne_nil (place : Place) (name : String) : place ++ [name] ≠ [] :=
  List.append_ne_nil_of_right_ne_nil place (List.cons_ne_nil name [])

theorem name_eq_of_inside_eq {name other : String} (h : place ++ [name] = found ++ [other]) :
    name = other :=
  List.singleton_inj.mp (List.append_inj_right' h rfl)

/-! ### What is found -/

theorem get?_of_ne_nil (tree : FileTree) (h : place ≠ []) :
    tree.get? place = tree.entries.lookup place := if_neg h

@[simp] theorem get?_nil (tree : FileTree) : tree.get? [] = some .directory := rfl

theorem ne_nil_of_get?_file (h : tree.get? place = some (.file content)) : place ≠ [] := by
  rintro rfl
  rw [get?_nil] at h
  cases h

@[simp] theorem start_put (tree : FileTree) (place : Place) (entry : Entry) :
    (tree.put place entry).start = tree.start := by
  unfold put
  split <;> rfl

@[simp] theorem base_put (tree : FileTree) (place : Place) (entry : Entry) (path : String) :
    (tree.put place entry).base path = tree.base path := by
  rw [base, base, start_put]

/-- What is found after what is at a place has been replaced. -/
theorem lookup_replace (entries : List (Place × Entry)) (place : Place) (entry : Entry)
    (found : Place) :
    (entries.map fun e => if e.1 = place then (e.1, entry) else (e.1, e.2)).lookup found =
      if found = place then (entries.lookup found).map fun _ => entry
      else entries.lookup found := by
  induction entries with
  | nil => simp
  | cons e entries ih =>
    rw [List.map_cons, List.lookup_cons, List.lookup_cons, ih]
    by_cases hsame : found = e.1
    · subst hsame
      by_cases hplace : e.1 = place <;> simp [hplace]
    · have hmissed : (found == (if e.1 = place then (e.1, entry) else (e.1, e.2)).1) = false := by
        split <;> simpa using hsame
      rw [hmissed, beq_false_of_ne hsame]

/-- **Putting something at a place leaves the others as they are.** -/
theorem get?_put (tree : FileTree) (h : place ≠ []) (entry : Entry) (found : Place) :
    (tree.put place entry).get? found =
      if found = place then some entry else tree.get? found := by
  by_cases hroot : found = []
  · rw [hroot, get?_nil, get?_nil, if_neg h.symm]
  rw [get?_of_ne_nil _ hroot, get?_of_ne_nil _ hroot, put]
  by_cases hthere : (tree.entries.lookup place).isSome
  · rw [if_pos hthere]
    change List.lookup found (tree.entries.map
      fun e => if e.1 = place then (e.1, entry) else (e.1, e.2)) = _
    rw [lookup_replace]
    split
    · next hsame =>
      obtain ⟨old, hold⟩ := Option.isSome_iff_exists.mp hthere
      rw [hsame, hold]
      rfl
    · rfl
  · rw [if_neg hthere, List.lookup_append, List.lookup_cons, List.lookup_nil]
    by_cases hsame : found = place
    · rw [if_pos hsame, hsame, Option.not_isSome_iff_eq_none.mp hthere, beq_self_eq_true]
      rfl
    · rw [if_neg hsame, beq_false_of_ne hsame, Option.or_none]

theorem mem_of_lookup (h : tree.entries.lookup place = some entry) : (place, entry) ∈ tree.entries := by
  obtain ⟨front, back, hentries, -⟩ := List.lookup_eq_some_iff.mp h
  rw [hentries]
  exact List.mem_append_right front (List.mem_cons_self ..)

/-! ### A place that is missed -/

/-- The tree without what is at a place. -/
def without (tree : FileTree) (place : Place) : FileTree :=
  { tree with entries := tree.entries.filter fun e => e.1 ≠ place }

@[simp] theorem base_without (tree : FileTree) (gone : Place) (path : String) :
    (tree.without gone).base path = tree.base path := rfl

theorem get?_without (tree : FileTree) (h : found ≠ gone) :
    (tree.without gone).get? found = tree.get? found := by
  have hlookup : ∀ entries : List (Place × Entry),
      (entries.filter fun e => e.1 ≠ gone).lookup found = entries.lookup found := by
    intro entries
    induction entries with
    | nil => rfl
    | cons e entries ih =>
      rw [List.filter_cons, List.lookup_cons]
      by_cases hgone : e.1 = gone
      · have hmissed : (found == e.1) = false := beq_false_of_ne fun he => h (he.trans hgone)
        rw [if_neg (by simpa using hgone), ih, hmissed]
      · rw [if_pos (by simpa using hgone), List.lookup_cons, ih]
  rw [get?, get?]
  exact if_congr Iff.rfl rfl (hlookup tree.entries)

/-- It makes no difference whether something is put before or after another place is emptied. -/
theorem put_without (tree : FileTree) (hroot : found ≠ []) (h : found ≠ gone) (entry : Entry) :
    (tree.put found entry).without gone = (tree.without gone).put found entry := by
  have hlookup : (tree.without gone).entries.lookup found = tree.entries.lookup found := by
    rw [← get?_of_ne_nil _ hroot, ← get?_of_ne_nil _ hroot, get?_without tree h]
  unfold put
  rw [hlookup]
  split
  · unfold without
    rw [List.filter_map]
    congr 2
    refine List.filter_congr fun e _ => ?_
    rw [Function.comp]
    dsimp only
    split_ifs <;> rfl
  · unfold without
    simp [List.filter_append, h]

/-- A walk leads to where it led as long as no directory goes away. -/
theorem walk_mono
    (hdirectories : ∀ place, tree.get? place = some .directory → other.get? place = some .directory)
    {steps : List String} (h : tree.walk place steps = .ok found) :
    other.walk place steps = .ok found := by
  induction steps generalizing place with
  | nil => exact h
  | cons step rest ih =>
    rw [walk] at h ⊢
    cases hplace : tree.get? place with
    | none => rw [hplace] at h; cases h
    | some at_place =>
      cases at_place with
      | file content => rw [hplace] at h; cases h
      | directory =>
        rw [hplace] at h
        rw [hdirectories place hplace]
        dsimp only at h ⊢
        split_ifs at h ⊢ with hhere hup
        · exact ih h
        · exact ih h
        · exact ih h

theorem walk_append (tree : FileTree) (place : Place) (first second : List String) :
    tree.walk place (first ++ second) =
      (tree.walk place first).bind fun found => tree.walk found second := by
  induction first generalizing place with
  | nil => rfl
  | cons step first ih =>
    rw [List.cons_append, walk, walk]
    cases tree.get? place with
    | none => rfl
    | some at_place =>
      cases at_place with
      | file content => rfl
      | directory =>
        dsimp only
        split_ifs with hhere hup
        · exact ih place
        · exact ih place.dropLast
        · exact ih (place ++ [step])

theorem directory_of_without_file (hgone : tree.get? gone = some (.file content))
    (h : tree.get? place = some .directory) : (tree.without gone).get? place = some .directory := by
  have hne : place ≠ gone := by
    rintro rfl
    rw [hgone] at h
    cases h
  rw [get?_without tree hne, h]

/-- No walk that leads somewhere passes a file. -/
theorem walk_without (hgone : tree.get? gone = some (.file content)) {steps : List String}
    (h : tree.walk place steps = .ok found) : (tree.without gone).walk place steps = .ok found :=
  walk_mono (fun _ => directory_of_without_file hgone) h

theorem locate_without {path : String} (hgone : tree.get? gone = some (.file content))
    (h : tree.locate path = .ok place) : (tree.without gone).locate path = .ok place := by
  rw [locate] at h ⊢
  split at h
  · cases h
  · next hpath =>
    rw [if_neg hpath]
    exact walk_without hgone h

/-! ### Paths -/

/-- What a file or directory can be called within another. -/
structure IsName (name : String) : Prop where
  nonempty : name ≠ ""
  unbroken : '/' ∉ name.toList
  notHere : name ≠ "."
  notUp : name ≠ ".."

instance (name : String) : Decidable (IsName name) :=
  decidable_of_iff (name ≠ "" ∧ '/' ∉ name.toList ∧ name ≠ "." ∧ name ≠ "..")
    ⟨fun ⟨h₁, h₂, h₃, h₄⟩ => ⟨h₁, h₂, h₃, h₄⟩, fun ⟨h₁, h₂, h₃, h₄⟩ => ⟨h₁, h₂, h₃, h₄⟩⟩

/-- The steps of a path without the one that a slash at its end stands for. -/
def names (path : String) : List String :=
  ((Text.pieces (· == '/') path.toList).filter (!·.isEmpty)).map String.ofList

theorem steps_eq (path : String) :
    steps path = names path ++ (if path.endsWith "/" then ["."] else []) := rfl

theorem endsWith_slash_iff (path : String) :
    path.endsWith "/" = true ↔ ∃ front, path.toList = front ++ ['/'] := by
  have h : path.toSlice.endsWith "/" = true ↔ "/".toList <:+ path.toSlice.copy.toList :=
    String.Slice.endsWith_string_iff
  rw [String.copy_toSlice] at h
  exact h.trans ⟨fun ⟨front, hfront⟩ => ⟨front, hfront.symm⟩, fun ⟨front, hfront⟩ => ⟨front, hfront.symm⟩⟩

namespace IsName

variable {name : String}

theorem toList_ne_nil (h : IsName name) : name.toList ≠ [] :=
  fun he => h.nonempty (String.toList_eq_nil_iff.mp he)

theorem pieces_eq (h : IsName name) : Text.pieces (· == '/') name.toList = [name.toList] := by
  rw [Text.pieces_eq_splitOn, List.splitOn_eq_singleton h.unbroken]

theorem startsWith_slash (h : IsName name) : name.startsWith "/" = false := by
  rw [String.startsWith_string_eq_false_iff]
  rintro ⟨rest, hrest⟩
  exact h.unbroken (hrest ▸ List.mem_append_left rest (List.mem_singleton.mpr rfl))

/-- A path does not end in a slash if it ends in a name. -/
theorem endsWith_slash (h : IsName name) {path : String} (front : List Char)
    (hpath : path.toList = front ++ name.toList) : path.endsWith "/" = false := by
  rw [Bool.eq_false_iff, Ne, endsWith_slash_iff]
  rintro ⟨rest, hrest⟩
  have hlast : name.toList.getLast h.toList_ne_nil = '/' := by
    have hwhole : (front ++ name.toList).getLast (by simp [h.toList_ne_nil]) = '/' := by
      simp only [← hpath, hrest, List.getLast_concat]
    rwa [List.getLast_append_of_ne_nil _ h.toList_ne_nil] at hwhole
  exact h.unbroken (hlast ▸ List.getLast_mem h.toList_ne_nil)

end IsName

open FilePath (join)

theorem names_append {path : String} {front rest : List Char}
    (h : path.toList = front ++ '/' :: rest) :
    names path = names (String.ofList front) ++ names (String.ofList rest) := by
  simp only [names, h, String.toList_ofList, Text.pieces_eq_splitOn]
  rw [List.splitOn_append_cons_self, List.filter_append, List.map_append]

theorem names_of_isName {name : String} (h : IsName name) : names name = [name] := by
  simp [names, h.pieces_eq, h.nonempty]

/-- How a path continues that of its directory. -/
theorem toList_join {name : String} (h : IsName name) (directory : String) :
    (directory = "" ∧ join directory name = name) ∨
      (∃ front, directory.toList = front ++ ['/'] ∧
        (join directory name).toList = front ++ '/' :: name.toList) ∨
      (directory ≠ "" ∧
        (join directory name).toList = directory.toList ++ '/' :: name.toList) := by
  rw [join, h.startsWith_slash, Bool.false_or]
  split_ifs with hempty hslash
  · exact .inl ⟨String.isEmpty_iff.mp hempty, rfl⟩
  · obtain ⟨front, hfront⟩ := (endsWith_slash_iff directory).mp hslash
    exact .inr (.inl ⟨front, hfront, by simp [hfront]⟩)
  · exact .inr (.inr ⟨fun he => hempty (String.isEmpty_iff.mpr he), by simp⟩)

/-- **A path is taken apart where it was put together.** -/
theorem steps_join {name : String} (h : IsName name) (directory : String) :
    steps (join directory name) = names directory ++ [name] := by
  rcases toList_join h directory with ⟨rfl, hjoin⟩ | ⟨front, hfront, hjoin⟩ | ⟨-, hjoin⟩
  · rw [hjoin, steps_eq, h.endsWith_slash [] rfl, names_of_isName h]
    rfl
  · rw [steps_eq, h.endsWith_slash (front ++ ['/']) (by rw [hjoin, List.append_cons]),
      names_append hjoin, names_append hfront, String.ofList_toList, names_of_isName h]
    simp [names, Text.pieces]
  · rw [steps_eq, h.endsWith_slash (directory.toList ++ ['/'])
      (by rw [hjoin, List.append_cons]), names_append hjoin, String.ofList_toList,
      String.ofList_toList, names_of_isName h]
    exact List.append_nil _

theorem join_inj {directory name other : String} (h : IsName name) (hother : IsName other)
    (he : join directory name = join directory other) : name = other := by
  have hsteps := steps_join h directory
  rw [he, steps_join hother] at hsteps
  exact (List.singleton_inj.mp (List.append_cancel_left hsteps)).symm

theorem startsWith_slash_iff (path : String) :
    path.startsWith "/" = true ↔ path.toList.head? = some '/' := by
  rw [String.startsWith_string_iff]
  cases path.toList with
  | nil => simp
  | cons c rest => simp [eq_comm]

theorem base_join {name : String} (h : IsName name) (tree : FileTree) (directory : String) :
    tree.base (join directory name) = tree.base directory := by
  have hbegin : ((join directory name).startsWith "/") = directory.startsWith "/" := by
    rw [Bool.eq_iff_iff]
    rcases toList_join h directory with ⟨rfl, hjoin⟩ | ⟨front, hfront, hjoin⟩ | ⟨hempty, hjoin⟩
    · rw [hjoin, h.startsWith_slash]
      decide +kernel
    · rw [startsWith_slash_iff, startsWith_slash_iff, hjoin, hfront]
      cases front <;> rfl
    · rw [startsWith_slash_iff, startsWith_slash_iff, hjoin]
      cases hchars : directory.toList with
      | nil => exact absurd (String.toList_eq_nil_iff.mp hchars) hempty
      | cons c rest => rfl
  rw [base, base, hbegin]

/-- Only a directory cannot be written over. -/
theorem write_of_locate {path : String} (h : tree.locate path = .ok place) (content : List UInt8) :
    tree.write path content =
      if tree.get? place = some .directory then .error .isDirectory
      else .ok (tree.put place (.file content)) := by
  rw [write, h]
  dsimp only [bind, Except.bind]
  split
  · next hthere => rw [if_pos hthere]
  · next hthere => rw [if_neg hthere]

/-! ### Directories -/

/-- A path that leads to a directory, whether or not a slash is at its end. -/
structure Opens (tree : FileTree) (directory : String) (place : Place) : Prop where
  leads : tree.walk (tree.base directory) (names directory) = .ok place
  there : tree.get? place = some .directory

theorem Opens.unique {directory : String} (h : tree.Opens directory place)
    (hfound : tree.Opens directory found) : place = found := by
  have hboth := h.leads.symm.trans hfound.leads
  cases hboth
  rfl

theorem Opens.mono {directory : String} (h : tree.Opens directory place)
    (hstart : other.start = tree.start)
    (hdirectories : ∀ place, tree.get? place = some .directory → other.get? place = some .directory) :
    other.Opens directory place where
  leads := by
    rw [base, hstart]
    exact walk_mono hdirectories h.leads
  there := hdirectories place h.there

/-- A directory is where it was after a file has been taken away. -/
theorem Opens.without {directory : String} (h : tree.Opens directory place)
    (hgone : tree.get? gone = some (.file content)) : (tree.without gone).Opens directory place :=
  h.mono rfl fun _ => directory_of_without_file hgone

/-- **The file of a name in a directory is at that name behind the place of the directory.** -/
theorem Opens.locate_join {directory name : String} (h : tree.Opens directory place)
    (hname : IsName name) : tree.locate (join directory name) = .ok (place ++ [name]) := by
  have hpath : (join directory name).isEmpty = false := by
    rw [Bool.eq_false_iff, Ne, String.isEmpty_iff]
    intro hempty
    have hsteps := steps_join hname directory
    rw [hempty] at hsteps
    have hnone : steps "" = [] := by decide +kernel
    rw [hnone] at hsteps
    exact inside_ne_nil (names directory) name hsteps.symm
  rw [locate, hpath, if_neg Bool.false_ne_true, steps_join hname, base_join hname, walk_append,
    h.leads]
  simp [Except.bind, walk, h.there, hname.notHere, hname.notUp]

/-- A path that leads to a directory does so without the slash at its end. -/
theorem opens_of_walk {directory : String}
    (h : tree.walk (tree.base directory) (steps directory) = .ok place)
    (hthere : tree.get? place = some .directory) : tree.Opens directory place := by
  refine ⟨?_, hthere⟩
  rw [steps_eq] at h
  split at h
  · rw [walk_append] at h
    cases hnames : tree.walk (tree.base directory) (names directory) with
    | error fault => rw [hnames] at h; cases h
    | ok found =>
      rw [hnames] at h
      -- the slash is a step that leads to where it starts, and only from a directory
      change tree.walk found ["."] = .ok place at h
      rw [walk] at h
      split at h
      · cases h
      · cases h
      · rw [if_pos rfl] at h
        exact h
  · rwa [List.append_nil] at h

theorem opens_of_locate {directory : String} (h : tree.locate directory = .ok place)
    (hthere : tree.get? place = some .directory) : tree.Opens directory place := by
  rw [locate] at h
  split at h
  · cases h
  · exact opens_of_walk h hthere

/-! ### Making directories -/

/-- Nothing is gone and nothing is changed. -/
structure Extends (tree other : FileTree) : Prop where
  start : other.start = tree.start
  kept : ∀ place entry, tree.get? place = some entry → other.get? place = some entry

theorem Extends.refl (tree : FileTree) : tree.Extends tree := ⟨rfl, fun _ _ h => h⟩

theorem Extends.trans {last : FileTree} (h : tree.Extends other) (hlast : other.Extends last) :
    tree.Extends last :=
  ⟨hlast.start.trans h.start, fun place entry hthere =>
    hlast.kept place entry (h.kept place entry hthere)⟩

theorem Extends.opens {directory : String} (h : tree.Extends other)
    (hopens : tree.Opens directory place) : other.Opens directory place :=
  hopens.mono h.start fun place => h.kept place _

/-- What is known of a tree: nothing is at two places, everything has a name and is in a directory, and
paths start in one. -/
structure WellFormed (tree : FileTree) : Prop where
  distinct : (tree.entries.map Prod.fst).Nodup
  named : ∀ entry ∈ tree.entries, ∀ name ∈ entry.1, IsName name
  rooted : ∀ entry ∈ tree.entries, tree.get? entry.1.dropLast = some .directory
  start : tree.get? tree.start = some .directory

instance (tree : FileTree) : Decidable tree.WellFormed :=
  decidable_of_iff
    ((tree.entries.map Prod.fst).Nodup ∧ (∀ entry ∈ tree.entries, ∀ name ∈ entry.1, IsName name) ∧
      (∀ entry ∈ tree.entries, tree.get? entry.1.dropLast = some .directory) ∧
        tree.get? tree.start = some .directory)
    ⟨fun ⟨h₁, h₂, h₃, h₄⟩ => ⟨h₁, h₂, h₃, h₄⟩, fun ⟨h₁, h₂, h₃, h₄⟩ => ⟨h₁, h₂, h₃, h₄⟩⟩

namespace WellFormed

theorem lookup_of_mem (h : tree.WellFormed) (hentry : (place, entry) ∈ tree.entries) :
    tree.entries.lookup place = some entry := by
  obtain ⟨front, back, hentries⟩ := List.append_of_mem hentry
  have hdistinct := h.distinct
  rw [hentries, List.map_append, List.nodup_append] at hdistinct
  refine List.lookup_eq_some_iff.mpr ⟨front, back, hentries, fun e he => bne_iff_ne.mpr ?_⟩
  exact (hdistinct.2.2 e.1 (List.mem_map_of_mem he) place (List.mem_map_of_mem
    (List.mem_cons_self ..) : place ∈ ((place, entry) :: back).map Prod.fst)).symm

/-- A tree stays as it should be without one of its files. -/
theorem without (h : tree.WellFormed) (hgone : tree.get? gone = some (.file content)) :
    (tree.without gone).WellFormed where
  distinct := h.distinct.sublist (List.filter_sublist.map _)
  named entry hentry := h.named entry (List.mem_of_mem_filter hentry)
  rooted entry hentry :=
    directory_of_without_file hgone (h.rooted entry (List.mem_of_mem_filter hentry))
  start := directory_of_without_file hgone h.start

end WellFormed

end FileTree

end Toolwright
