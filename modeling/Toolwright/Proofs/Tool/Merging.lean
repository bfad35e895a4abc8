import Mathlib.Data.List.Pairwise
import Toolwright.Proofs.Json.Same
import Toolwright.Proofs.Tool.Placement
import Toolwright.Proofs.Tool.Sources

/-!
# Declarations merged

The parameters that a path declares for all its methods are merged with those of one operation.
`Document.declarations_eq` says what this gives: the declarations of the path, each replaced by the
last one of the operation for the same parameter if there is one, and then the other declarations of
the operation. No two of them are of the same parameter (`Document.unlike_declarations`). The located
parameters of a tool are those declared, in the same order.

Declarations are of the same parameter if they have the same name and the same `in`, as it is
written. A parameter of the query can be written in several ways, with `in` or without, and so
one parameter can stay declared twice; `nodup_located_iff` says that this is how it happens, and
only in the query.
-/

namespace Toolwright

namespace Signature

/-! ### Declarations of one parameter -/

/-- Whether two values have the same value under a key, or none. -/
def sameEntry (key : String) (a b : Json) : Bool :=
  match a.get? key, b.get? key with
  | some x, some y => x.same y
  | none, none => true
  | _, _ => false

theorem sameDeclaration_iff {a b : Json} : sameDeclaration a b = true ↔
    sameEntry "name" a b = true ∧ sameEntry "in" a b = true :=
  Bool.and_eq_true_iff

section

variable {key : String} {a b c : Json}

theorem sameEntry_iff : sameEntry key a b = true ↔
    a.get? key = none ∧ b.get? key = none ∨
      ∃ x y, a.get? key = some x ∧ b.get? key = some y ∧ x.same y = true := by
  unfold sameEntry
  cases a.get? key <;> cases b.get? key <;> simp

theorem sameEntry_refl (key : String) (ha : a.Distinct) : sameEntry key a a = true := by
  rw [sameEntry_iff]
  cases hget : a.get? key with
  | none => exact .inl ⟨rfl, rfl⟩
  | some value => exact .inr ⟨value, value, rfl, rfl, (ha.get? hget).same_refl⟩

theorem sameEntry_symm (ha : a.Distinct) (hb : b.Distinct) (h : sameEntry key a b = true) :
    sameEntry key b a = true := by
  rw [sameEntry_iff] at h ⊢
  rcases h with ⟨hnone, hnone'⟩ | ⟨x, y, hx, hy, hsame⟩
  · exact .inl ⟨hnone', hnone⟩
  · exact .inr ⟨y, x, hy, hx, (ha.get? hx).same_symm (hb.get? hy) hsame⟩

theorem sameEntry_trans (ha : a.Distinct) (h : sameEntry key a b = true)
    (h' : sameEntry key b c = true) : sameEntry key a c = true := by
  rw [sameEntry_iff] at h h' ⊢
  rcases h with ⟨hnone, hb⟩ | ⟨x, y, hx, hy, hsame⟩
  · rcases h' with ⟨-, hnone'⟩ | ⟨y', z, hy', -, -⟩
    · exact .inl ⟨hnone, hnone'⟩
    · rw [hb] at hy'
      cases hy'
  · rcases h' with ⟨hb, -⟩ | ⟨y', z, hy', hz, hsame'⟩
    · rw [hb] at hy
      cases hy
    · rw [hy, Option.some.injEq] at hy'
      subst hy'
      exact .inr ⟨x, z, hx, hz, (ha.get? hx).same_trans hsame hsame'⟩

/-- A text is the same as itself only. -/
theorem getString?_eq_of_sameEntry (h : sameEntry key a b = true) :
    a.getString? key = b.getString? key := by
  rw [Json.getString?, Json.getString?]
  rcases sameEntry_iff.mp h with ⟨hnone, hnone'⟩ | ⟨x, y, hx, hy, hsame⟩
  · rw [hnone, hnone']
  · rw [hx, hy, Option.bind_some, Option.bind_some]
    cases x <;> cases y <;> simp_all [Json.same, Json.string?]

theorem sameEntry_of_getString? {text : String} (ha : a.getString? key = some text)
    (hb : b.getString? key = some text) : sameEntry key a b = true := by
  have htext : ∀ {value : Json}, value.getString? key = some text →
      value.get? key = some (.string text) := by
    intro value hvalue
    obtain ⟨found, hfound, hstring⟩ := Option.bind_eq_some_iff.mp hvalue
    cases found <;> simp_all [Json.string?]
  rw [sameEntry_iff]
  exact .inr ⟨_, _, htext ha, htext hb, by simp [Json.same]⟩

theorem sameDeclaration_refl (ha : a.Distinct) : sameDeclaration a a = true :=
  sameDeclaration_iff.mpr ⟨sameEntry_refl "name" ha, sameEntry_refl "in" ha⟩

theorem sameDeclaration_symm (ha : a.Distinct) (hb : b.Distinct) (h : sameDeclaration a b = true) :
    sameDeclaration b a = true := by
  obtain ⟨hname, hin⟩ := sameDeclaration_iff.mp h
  exact sameDeclaration_iff.mpr ⟨sameEntry_symm ha hb hname, sameEntry_symm ha hb hin⟩

theorem sameDeclaration_trans (ha : a.Distinct) (h : sameDeclaration a b = true)
    (h' : sameDeclaration b c = true) : sameDeclaration a c = true := by
  obtain ⟨hname, hin⟩ := sameDeclaration_iff.mp h
  obtain ⟨hname', hin'⟩ := sameDeclaration_iff.mp h'
  exact sameDeclaration_iff.mpr ⟨sameEntry_trans ha hname hname', sameEntry_trans ha hin hin'⟩

/-- Declarations of the same parameter as two of one parameter are of one parameter. -/
theorem sameDeclaration_congr (ha : a.Distinct) (hb : b.Distinct) (h : sameDeclaration a b = true)
    (c : Json) : sameDeclaration a c = sameDeclaration b c := by
  rw [Bool.eq_iff_iff]
  exact ⟨sameDeclaration_trans hb (sameDeclaration_symm ha hb h), sameDeclaration_trans ha h⟩

end

/-! ### Merging -/

/-- The last of some declarations of the same parameter as a declaration, or the declaration itself if
there is none. -/
def latest (own : List Json) (declaration : Json) : Json :=
  (own.filter (sameDeclaration declaration)).getLastD declaration

/-- No two of the declarations are of the same parameter. -/
def Unlike (declarations : List Json) : Prop :=
  declarations.Pairwise fun a b => sameDeclaration a b = false

variable {merged own more : List Json} {declaration : Json}

/-- A declaration of another parameter comes last. -/
theorem merge_append_of_unlike (h : ∀ other ∈ merged, sameDeclaration other declaration = false)
    (more : List Json) : merge (merged ++ more) declaration = merged ++ merge more declaration := by
  induction merged with
  | nil => rfl
  | cons first rest ih =>
    rw [List.forall_mem_cons] at h
    rw [List.cons_append, merge, if_neg (by simp [h.1]), ih h.2, List.cons_append]

/-- A declaration of a parameter that is declared takes the place of that declaration. -/
theorem merge_append_of_like (hunlike : Unlike merged)
    (hdistinct : ∀ other ∈ merged, other.Distinct) (hdeclaration : declaration.Distinct)
    (h : ∃ other ∈ merged, sameDeclaration other declaration = true) (more : List Json) :
    merge (merged ++ more) declaration =
      merged.map (fun other => if sameDeclaration other declaration then declaration else other) ++
        more := by
  induction merged with
  | nil => simp at h
  | cons first rest ih =>
    obtain ⟨hfirst, hrest⟩ := List.pairwise_cons.mp hunlike
    rw [List.forall_mem_cons] at hdistinct
    rw [List.cons_append, merge, List.map_cons, List.cons_append]
    by_cases hsame : sameDeclaration first declaration = true
    · -- the others are not of this parameter
      have hothers : rest.map (fun other =>
          if sameDeclaration other declaration then declaration else other) = rest := by
        refine List.map_congr_left (g := id) (fun other hother => if_neg fun hlike => ?_) |>.trans
          (List.map_id rest)
        have hlike' := sameDeclaration_symm (hdistinct.2 other hother) hdeclaration hlike
        have := sameDeclaration_trans hdistinct.1 hsame hlike'
        rw [hfirst other hother] at this
        cases this
      rw [if_pos hsame, if_pos hsame, hothers]
    · rw [if_neg hsame, if_neg hsame]
      refine congrArg _ (ih hrest hdistinct.2 ?_)
      simpa [hsame] using h

theorem distinct_merge (hdistinct : ∀ other ∈ merged, other.Distinct)
    (hdeclaration : declaration.Distinct) :
    ∀ other ∈ merge merged declaration, other.Distinct := by
  intro other hother
  rcases mem_merge hother with hother | rfl
  · exact hdistinct other hother
  · exact hdeclaration

theorem unlike_nil : Unlike [] := List.Pairwise.nil

/-- Merging a declaration leaves no parameter declared twice. -/
theorem Unlike.merge (hunlike : Unlike merged) (hdistinct : ∀ other ∈ merged, other.Distinct)
    (hdeclaration : declaration.Distinct) : Unlike (Signature.merge merged declaration) := by
  by_cases h : ∃ other ∈ merged, sameDeclaration other declaration = true
  · rw [← merged.append_nil, merge_append_of_like hunlike hdistinct hdeclaration h, List.append_nil,
      Unlike, List.pairwise_map]
    refine hunlike.imp_of_mem fun {a b} ha hb hab => ?_
    rw [Bool.eq_false_iff] at hab ⊢
    intro hlike
    have ha' := hdistinct a ha
    have hb' := hdistinct b hb
    split at hlike <;> rename_i hac
    · split at hlike <;> rename_i hbc
      · exact hab (sameDeclaration_trans ha' hac (sameDeclaration_symm hb' hdeclaration hbc))
      · exact hab (sameDeclaration_trans ha' hac hlike)
    · split at hlike <;> rename_i hbc
      · exact hac hlike
      · exact hab hlike
  · push Not at h
    simp only [Bool.not_eq_true] at h
    rw [← merged.append_nil, merge_append_of_unlike h, Unlike, List.pairwise_append]
    refine ⟨hunlike, List.pairwise_singleton _ _, fun a ha b hb => ?_⟩
    rw [List.mem_singleton.mp hb]
    exact h a ha

theorem Unlike.foldl_merge (hunlike : Unlike merged) (hdistinct : ∀ other ∈ merged, other.Distinct)
    (hown : ∀ other ∈ own, other.Distinct) : Unlike (own.foldl Signature.merge merged) := by
  induction own generalizing merged with
  | nil => exact hunlike
  | cons first rest ih =>
    rw [List.forall_mem_cons] at hown
    exact ih (hunlike.merge hdistinct hown.1) (distinct_merge hdistinct hown.1) hown.2

theorem latest_cons_of_like {first : Json} (hdeclaration : declaration.Distinct)
    (hfirst : first.Distinct) (h : sameDeclaration declaration first = true) (rest : List Json) :
    latest (first :: rest) declaration = latest rest first := by
  rw [latest, List.filter_cons_of_pos h, List.getLastD_cons, latest]
  refine congrArg (fun like => List.getLastD like first) (List.filter_congr fun other _ => ?_)
  exact sameDeclaration_congr hdeclaration hfirst h other

theorem latest_cons_of_unlike {first : Json} (h : sameDeclaration declaration first = false)
    (rest : List Json) : latest (first :: rest) declaration = latest rest declaration := by
  rw [latest, List.filter_cons_of_neg (by simp [h]), latest]

theorem latest_cons {first : Json} (hdeclaration : declaration.Distinct) (hfirst : first.Distinct)
    (rest : List Json) : latest (first :: rest) declaration =
      latest rest (if sameDeclaration declaration first then first else declaration) := by
  split <;> rename_i hsame
  · exact latest_cons_of_like hdeclaration hfirst hsame rest
  · exact latest_cons_of_unlike (by simpa using hsame) rest

/-- What takes the place of a declaration is of the same parameter. -/
theorem sameDeclaration_ite {first : Json} (hdeclaration : declaration.Distinct)
    (hfirst : first.Distinct) (other : Json) :
    sameDeclaration (if sameDeclaration declaration first then first else declaration) other =
      sameDeclaration declaration other := by
  split <;> rename_i hsame
  · exact (sameDeclaration_congr hdeclaration hfirst hsame other).symm
  · rfl

/-- **What merging gives**: every declaration that there was, or the last new one of the same parameter
in its place, and then the new declarations of other parameters, merged with what else there was. -/
theorem foldl_merge_append (hunlike : Unlike merged) (hdistinct : ∀ other ∈ merged, other.Distinct)
    (hown : ∀ other ∈ own, other.Distinct) (more : List Json) :
    own.foldl merge (merged ++ more) = merged.map (latest own) ++
      (own.filter fun other => !merged.any (sameDeclaration · other)).foldl merge more := by
  induction own generalizing merged more with
  | nil =>
    have hsame : merged.map (latest []) = merged := List.map_id merged
    rw [hsame]
    rfl
  | cons first rest ih =>
    rw [List.forall_mem_cons] at hown
    rw [List.foldl_cons]
    by_cases h : ∃ other ∈ merged, sameDeclaration other first = true
    · have hmerge := Unlike.merge hunlike hdistinct hown.1
      have hmerge' := distinct_merge hdistinct hown.1
      have hplain := merge_append_of_like hunlike hdistinct hown.1 h []
      rw [List.append_nil, List.append_nil] at hplain
      rw [hplain] at hmerge hmerge'
      rw [merge_append_of_like hunlike hdistinct hown.1 h, ih hmerge hmerge' hown.2, List.map_map,
        List.filter_cons_of_neg (by simpa using h)]
      congr 1
      · refine List.map_congr_left fun other hother => ?_
        exact (latest_cons (hdistinct other hother) hown.1 rest).symm
      · refine congrArg (List.foldl merge more) (List.filter_congr fun other _ => ?_)
        refine congrArg not ?_
        rw [List.any_map, Bool.eq_iff_iff, List.any_eq_true, List.any_eq_true]
        refine exists_congr fun old => and_congr_right fun hold => ?_
        rw [Function.comp_apply, sameDeclaration_ite (hdistinct old hold) hown.1]
    · push Not at h
      simp only [Bool.not_eq_true] at h
      rw [merge_append_of_unlike h, ih hunlike hdistinct hown.2,
        List.filter_cons_of_pos (by simpa using h), List.foldl_cons]
      congr 1
      refine List.map_congr_left fun other hother => ?_
      exact (latest_cons_of_unlike (h other hother) rest).symm

theorem exists_mem_merge (hdistinct : ∀ other ∈ merged, other.Distinct)
    (hdeclaration : declaration.Distinct) {old : Json} (h : old ∈ merged ∨ old = declaration) :
    ∃ other ∈ merge merged declaration, sameDeclaration old other = true := by
  induction merged with
  | nil =>
    obtain rfl := h.resolve_left List.not_mem_nil
    exact ⟨old, List.mem_cons_self, sameDeclaration_refl hdeclaration⟩
  | cons first rest ih =>
    rw [List.forall_mem_cons] at hdistinct
    rw [merge]
    split <;> rename_i hsame
    · rcases h with h | rfl
      · rcases List.mem_cons.mp h with rfl | h
        · exact ⟨declaration, List.mem_cons_self, hsame⟩
        · exact ⟨old, List.mem_cons_of_mem _ h, sameDeclaration_refl (hdistinct.2 old h)⟩
      · exact ⟨old, List.mem_cons_self, sameDeclaration_refl hdeclaration⟩
    · by_cases hold : old = first
      · subst hold
        exact ⟨old, List.mem_cons_self, sameDeclaration_refl hdistinct.1⟩
      · obtain ⟨other, hother, hlike⟩ := ih hdistinct.2 (by simpa [hold] using h)
        exact ⟨other, List.mem_cons_of_mem _ hother, hlike⟩

/-- A parameter that is declared stays declared. -/
theorem exists_mem_foldl_merge (hdistinct : ∀ other ∈ merged, other.Distinct)
    (hown : ∀ other ∈ own, other.Distinct) (h : declaration ∈ merged ∨ declaration ∈ own) :
    ∃ other ∈ own.foldl merge merged, sameDeclaration declaration other = true := by
  induction own generalizing merged declaration with
  | nil =>
    have hmem := h.resolve_right List.not_mem_nil
    exact ⟨declaration, hmem, sameDeclaration_refl (hdistinct declaration hmem)⟩
  | cons first rest ih =>
    rw [List.forall_mem_cons] at hown
    have hmerge := distinct_merge hdistinct hown.1
    by_cases hrest : declaration ∈ rest
    · exact ih hmerge hown.2 (.inr hrest)
    · have hhere : declaration ∈ merged ∨ declaration = first := by simpa [hrest] using h
      obtain ⟨other, hother, hlike⟩ := exists_mem_merge hdistinct hown.1 hhere
      obtain ⟨last, hlast, hlike'⟩ := ih hmerge hown.2 (.inl hother)
      have hdeclaration : declaration.Distinct := by
        rcases hhere with hmem | rfl
        · exact hdistinct declaration hmem
        · exact hown.1
      exact ⟨last, hlast, sameDeclaration_trans hdeclaration hlike hlike'⟩

end Signature

/-! ### The declarations of an operation -/

namespace Document

/-- The declarations listed in the entry of a path or of an operation, with references followed. -/
def listed (document : Document) (entry : Json) : List Json :=
  (((entry.get? "parameters").bind Json.items?).getD []).filterMap document.target?

variable {document : Document} {operation : Operation}

theorem distinct_listed {entry : Json} (h : entry.Distinct) :
    ∀ declaration ∈ document.listed entry, declaration.Distinct := by
  intro declaration hmem
  obtain ⟨declared, hdeclared, htarget⟩ := List.mem_filterMap.mp hmem
  refine distinct_target? ?_ htarget
  cases hlist : (entry.get? "parameters").bind Json.items? with
  | none => simp [hlist] at hdeclared
  | some items =>
    obtain ⟨list, hget, hitems⟩ := Option.bind_eq_some_iff.mp hlist
    rw [hlist, Option.getD_some] at hdeclared
    exact (h.get? hget).items hitems declared hdeclared

theorem declarations_eq_foldl (document : Document) (operation : Operation) :
    document.declarations operation =
      (document.listed operation.entry).foldl Signature.merge
        ((document.listed operation.pathItem).foldl Signature.merge []) := by
  rw [declarations, List.filterMap_append, List.foldl_append]
  rfl

theorem mem_listed_of_mem_declarations {declaration : Json}
    (h : declaration ∈ document.declarations operation) :
    declaration ∈ document.listed operation.pathItem ++ document.listed operation.entry := by
  rw [declarations, List.filterMap_append] at h
  exact (Request.mem_foldl_merge h).resolve_left List.not_mem_nil

/-- No two declarations of an operation are of the same parameter. -/
theorem unlike_declarations (h : operation ∈ document.operations) :
    Signature.Unlike (document.declarations operation) := by
  obtain ⟨hitem, hentry⟩ := distinct_of_mem_operations h
  have hdistinct : ∀ declaration ∈ document.listed operation.pathItem, declaration.Distinct :=
    distinct_listed hitem
  have hpath := Signature.unlike_nil.foldl_merge (by simp) hdistinct
  rw [declarations_eq_foldl]
  refine hpath.foldl_merge (fun declaration hmem => ?_) (distinct_listed hentry)
  exact distinct_listed hitem declaration
    ((Request.mem_foldl_merge hmem).resolve_left List.not_mem_nil)

/-- Of whatever parameter something is listed, something is declared. -/
theorem exists_mem_declarations (h : operation ∈ document.operations) {declaration : Json}
    (hlisted : declaration ∈
      document.listed operation.pathItem ++ document.listed operation.entry) :
    ∃ other ∈ document.declarations operation,
      Signature.sameDeclaration declaration other = true := by
  obtain ⟨hitem, hentry⟩ := distinct_of_mem_operations h
  rw [declarations, List.filterMap_append]
  refine Signature.exists_mem_foldl_merge (by simp) (fun other hother => ?_) (.inr hlisted)
  rcases List.mem_append.mp hother with hother | hother
  · exact distinct_listed hitem other hother
  · exact distinct_listed hentry other hother

/-- **An operation declares the parameters of its path and its own**: in the place of each of the first
stands the last of its own for the same parameter, if there is one. -/
theorem declarations_eq (h : operation ∈ document.operations) :
    let path := document.listed operation.pathItem
    let own := document.listed operation.entry
    document.declarations operation =
      (path.foldl Signature.merge []).map (Signature.latest own) ++
        (own.filter fun other => !path.any (Signature.sameDeclaration · other)).foldl
          Signature.merge [] := by
  intro path own
  obtain ⟨hitem, hentry⟩ := distinct_of_mem_operations h
  have hpath : ∀ other ∈ path, other.Distinct := distinct_listed hitem
  have hown : ∀ other ∈ own, other.Distinct := distinct_listed hentry
  have hmem : ∀ other ∈ path.foldl Signature.merge [], other ∈ path :=
    fun other hother => (Request.mem_foldl_merge hother).resolve_left List.not_mem_nil
  have hunlike := Signature.unlike_nil.foldl_merge (by simp) hpath
  have hmerged := Signature.foldl_merge_append hunlike
    (fun other hother => hpath other (hmem other hother)) hown []
  rw [List.append_nil] at hmerged
  rw [declarations_eq_foldl, hmerged]
  refine congrArg _ (congrArg _ (List.filter_congr fun other _ => congrArg not ?_))
  -- the merged declarations of the path are of the same parameters as all that are listed
  rw [Bool.eq_iff_iff, List.any_eq_true, List.any_eq_true]
  constructor
  · rintro ⟨first, hfirst, hsame⟩
    exact ⟨first, hmem first hfirst, hsame⟩
  · rintro ⟨first, hfirst, hsame⟩
    have hnone : ∀ other ∈ ([] : List Json), other.Distinct := by simp
    obtain ⟨last, hlast, hlike⟩ := Signature.exists_mem_foldl_merge hnone hpath (.inr hfirst)
    refine ⟨last, hlast, ?_⟩
    exact Signature.sameDeclaration_trans (hpath last (hmem last hlast))
      (Signature.sameDeclaration_symm (hpath first hfirst) (hpath last (hmem last hlast)) hlike)
      hsame

end Document

/-! ### Located parameters -/

namespace Request

/-- The name and the place of the parameter that is declared, if it goes anywhere but into the body. -/
def place? (declaration : Json) : Option (String × Location) :=
  match declaration.getString? "name", Location.ofDeclared? (declaration.getString? "in") with
  | some name, some location => if location = .body then none else some (name, location)
  | _, _ => none

theorem place?_eq_some {declaration : Json} {name : String} {location : Location} :
    place? declaration = some (name, location) ↔
      declaration.getString? "name" = some name ∧
        Location.ofDeclared? (declaration.getString? "in") = some location ∧ location ≠ .body := by
  unfold place?
  cases declaration.getString? "name" with
  | none => simp
  | some name =>
    cases Location.ofDeclared? (declaration.getString? "in") with
    | none => simp
    | some location =>
      dsimp only
      split <;> grind

/-- Outside of the query there is one way to write where a parameter goes. -/
theorem getString?_in_of_ne_query {declaration : Json} {location : Location}
    (h : Location.ofDeclared? (declaration.getString? "in") = some location)
    (hne : location ≠ .query) : declaration.getString? "in" = some location.label := by
  cases hin : declaration.getString? "in" with
  | none =>
    rw [hin] at h
    cases h
    exact absurd rfl hne
  | some declared =>
    rw [hin] at h
    have hlabel := List.find?_some h
    rw [← of_decide_eq_true hlabel]

/-- Declarations of one name and place are of the same parameter, but that two of the query must be
written alike. -/
theorem sameDeclaration_iff_of_place? {a b : Json} {name : String} {location : Location}
    (ha : place? a = some (name, location)) (hb : place? b = some (name, location)) :
    Signature.sameDeclaration a b = true ↔
      (location = .query → Signature.sameEntry "in" a b = true) := by
  obtain ⟨hname, hlocation, -⟩ := place?_eq_some.mp ha
  obtain ⟨hname', hlocation', -⟩ := place?_eq_some.mp hb
  rw [Signature.sameDeclaration_iff]
  constructor
  · intro h _
    exact h.2
  · intro h
    refine ⟨Signature.sameEntry_of_getString? hname hname', ?_⟩
    by_cases hquery : location = .query
    · exact h hquery
    · exact Signature.sameEntry_of_getString? (getString?_in_of_ne_query hlocation hquery)
        (getString?_in_of_ne_query hlocation' hquery)

/-- Declarations of the same parameter have one name and place. -/
theorem place?_eq_of_sameDeclaration {a b : Json} (h : Signature.sameDeclaration a b = true) :
    place? a = place? b := by
  obtain ⟨hname, hin⟩ := Signature.sameDeclaration_iff.mp h
  rw [place?, place?, Signature.getString?_eq_of_sameEntry hname,
    Signature.getString?_eq_of_sameEntry hin]

section

variable [Romanization] {document : Document}

/-- The parameter asked for by a declaration of one outside of the body. -/
def located? (declaration : Json) : Option Candidate :=
  (place? declaration).map fun (name, location) => locatedCandidate declaration name location

theorem filter_askedByDeclaration (document : Document) (declaration : Json) :
    (askedByDeclaration document declaration).filter (fun c => c.location ≠ .body) =
      (located? declaration).toList := by
  unfold askedByDeclaration located? place?
  cases declaration.getString? "name" with
  | none => rfl
  | some name =>
    cases Location.ofDeclared? (declaration.getString? "in") with
    | none => rfl
    | some location =>
      cases location with
      | body =>
        refine List.filter_eq_nil_iff.mpr fun c hc => ?_
        dsimp only at hc
        split at hc
        · simp [location_of_mem_askedByProperties hc]
        · simp at hc
      | query | path | header => rfl

theorem location_of_mem_askedByBody {declared : Json} {candidate : Candidate}
    (h : candidate ∈ askedByBody document declared) : candidate.location = .body := by
  unfold askedByBody at h
  split at h
  · simp at h
  · split at h
    · simp at h
    · split_ifs at h
      · simp at h
      · unfold askedBySchema at h
        split at h
        · exact Expansion.location_of_mem_askedOfAll h
        · exact location_of_mem_askedByProperties h

/-- An operation asks for the located parameters that it declares. -/
theorem filter_asked (document : Document) (operation : Operation) :
    (asked document operation).filter (fun c => c.location ≠ .body) =
      (document.declarations operation).filterMap located? := by
  have hbody : (((operation.entry.get? "requestBody").map (askedByBody document)).getD []).filter
      (fun c => c.location ≠ .body) = [] := by
    refine List.filter_eq_nil_iff.mpr fun c hc => ?_
    cases hentry : operation.entry.get? "requestBody" with
    | none => simp [hentry] at hc
    | some declared =>
      rw [hentry] at hc
      simp [location_of_mem_askedByBody hc]
  rw [asked, List.filter_append, hbody, List.append_nil, List.filter_flatMap,
    List.filterMap_eq_flatMap_toList]
  exact List.flatMap_congr fun declaration _ => filter_askedByDeclaration document declaration

end

end Request

/-! ### Tools -/

namespace Document

variable {document : Document} {operation : Operation}

/-- No name and place is declared twice if those of the query are always written alike. -/
theorem nodup_places_iff (h : operation ∈ document.operations) :
    let listed := document.listed operation.pathItem ++ document.listed operation.entry
    ((document.declarations operation).filterMap Request.place?).Nodup ↔
      ∀ a ∈ listed, ∀ b ∈ listed, ∀ name, Request.place? a = some (name, .query) →
        Request.place? b = some (name, .query) → Signature.sameEntry "in" a b = true := by
  intro listed
  obtain ⟨hitem, hentry⟩ := distinct_of_mem_operations h
  have hdistinct : ∀ a ∈ listed, a.Distinct :=
    List.forall_mem_append.mpr ⟨distinct_listed hitem, distinct_listed hentry⟩
  rw [List.Nodup, List.pairwise_filterMap]
  constructor
  · intro hnodup a ha b hb name hplace hplace'
    -- what is declared of the two parameters in the end
    obtain ⟨a', ha', haa⟩ := exists_mem_declarations h ha
    obtain ⟨b', hb', hbb⟩ := exists_mem_declarations h hb
    rw [Request.place?_eq_of_sameDeclaration haa] at hplace
    rw [Request.place?_eq_of_sameDeclaration hbb] at hplace'
    have heq : a' = b' := by
      by_contra hne
      have hsymm : Std.Symm fun a a' : Json => ∀ p, Request.place? a = some p →
          ∀ p', Request.place? a' = some p' → p ≠ p' :=
        ⟨fun _ _ hxy p hp p' hp' he => hxy p' hp' p hp he.symm⟩
      exact hnodup.forall ha' hb' hne _ hplace _ hplace' rfl
    subst heq
    have hb'' := Signature.sameDeclaration_symm (hdistinct b hb)
      (hdistinct a' (mem_listed_of_mem_declarations ha')) hbb
    exact (Signature.sameDeclaration_iff.mp
      (Signature.sameDeclaration_trans (hdistinct a ha) haa hb'')).2
  · intro halike
    refine (unlike_declarations h).imp_of_mem fun {a b} ha hb hab p hplace p' hplace' he => ?_
    subst he
    have hsame := (Request.sameDeclaration_iff_of_place? hplace hplace').mpr fun hquery => by
      rw [show p = (p.1, Location.query) by rw [← hquery]] at hplace hplace'
      exact halike a (mem_listed_of_mem_declarations ha) b (mem_listed_of_mem_declarations hb) p.1
        hplace hplace'
    rw [hab] at hsame
    cases hsame

variable [Romanization]

/-- The located parameters of a tool are in the order in which they were added. -/
theorem located_toolOf (document : Document) (service id name : String) (operation : Operation) :
    let request := Request.ofOperation document id operation
    (document.toolOf service id name operation request).located =
      request.signature.parameters.filter (!·.isBody) :=
  (Request.coherent_ofOperation document id operation).mergeSort_filter_ordered fun p => !p.isBody

/-- The located parameters of a tool are those that its operation declares, in order. -/
theorem forall₂_located (document : Document) (service id name : String) (operation : Operation) :
    let tool := document.toolOf service id name operation (Request.ofOperation document id operation)
    List.Forall₂ (fun c p => p.toCandidate = { c with ident := p.ident })
      ((document.declarations operation).filterMap Request.located?) tool.located := by
  intro tool
  rw [located_toolOf, ← Request.filter_asked]
  refine List.rel_filter (fun c p hcp => ?_) (Request.candidates_ofOperation document id operation)
  have hlocation : p.location = c.location := by rw [hcp]
  simp [Parameter.isBody, hlocation]

theorem map_located (document : Document) (service id name : String) (operation : Operation) :
    let tool := document.toolOf service id name operation (Request.ofOperation document id operation)
    tool.located.map (fun p => (p.declaredName, p.location)) =
      (document.declarations operation).filterMap Request.place? := by
  intro tool
  have hpairs := map_eq_of_forall₂ (f := fun c : Candidate => (c.declaredName, c.location))
    (g := fun p : Parameter => (p.declaredName, p.location))
    (forall₂_located document service id name operation) fun c p hcp => by rw [hcp]
  rw [← hpairs, List.map_filterMap]
  refine List.filterMap_congr fun declaration _ => ?_
  rw [Request.located?, Option.map_map]
  exact Option.map_id'

/-- **Located parameters are declared once, as long as `in` is written alike.** They are those that the
operation declares: in the place of each that its path declares stands the last of its own for the
same parameter, if there is one, and the others of its own come after these. Two have one name and
place just if two parameters of the query are listed under one name with `in` written in two ways. -/
theorem nodup_located_iff (h : operation ∈ document.operations) (service id toolName : String) :
    let path := document.listed operation.pathItem
    let own := document.listed operation.entry
    let tool := document.toolOf service id toolName operation
      (Request.ofOperation document id operation)
    List.Forall₂ (fun c p => p.toCandidate = { c with ident := p.ident })
        ((document.declarations operation).filterMap Request.located?) tool.located ∧
      document.declarations operation =
        (path.foldl Signature.merge []).map (Signature.latest own) ++
          (own.filter fun other => !path.any (Signature.sameDeclaration · other)).foldl
            Signature.merge [] ∧
      (∀ a b name location, Request.place? a = some (name, location) →
        Request.place? b = some (name, location) →
          (Signature.sameDeclaration a b = true ↔
            (location = .query → Signature.sameEntry "in" a b = true))) ∧
      ((tool.located.map fun p => (p.declaredName, p.location)).Nodup ↔
        ∀ a ∈ path ++ own, ∀ b ∈ path ++ own, ∀ name, Request.place? a = some (name, .query) →
          Request.place? b = some (name, .query) → Signature.sameEntry "in" a b = true) := by
  intro path own tool
  refine ⟨forall₂_located document service id toolName operation, declarations_eq h,
    fun a b name location ha hb => Request.sameDeclaration_iff_of_place? ha hb, ?_⟩
  rw [map_located]
  exact nodup_places_iff h

end Document

/-! ### Examples -/

namespace Document

/-- A document with one operation; `path` are the parameters that its path declares, `own` its own. -/
def withParameters (path own : List Json) : Document :=
  .ofRoot <| .object [("paths", .object [("/items", .object [("parameters", .array path),
    ("get", .object [("operationId", .string "listItems"), ("parameters", .array own)])])])]

/-- A declaration of a parameter with a place. -/
def declaring (name place : String) : Json :=
  .object [("name", .string name), ("in", .string place)]

theorem nodup_located_ofTenants :
    let document := withParameters [declaring "id" "path", declaring "tenant" "header"]
      [declaring "force" "query", .object [("name", .string "id"), ("in", .string "path"),
        ("required", .bool true)]]
    let operation := document.operations.head (by decide +kernel)
    let listed := document.listed operation.pathItem ++ document.listed operation.entry
    let tool := document.toolOf "items" "listItems" "list_items" operation
      (Request.ofOperation document "listItems" operation)
    operation ∈ document.operations ∧
      tool.located.map (fun p => (p.declaredName, p.location, p.required)) =
        [("id", .path, true), ("tenant", .header, false), ("force", .query, false)] ∧
      ∀ a ∈ listed, ∀ b ∈ listed, ∀ name, Request.place? a = some (name, .query) →
        Request.place? b = some (name, .query) → Signature.sameEntry "in" a b = true := by
  intro document operation listed tool
  have hoperation : operation ∈ document.operations := List.head_mem _
  obtain ⟨-, -, -, hiff⟩ := nodup_located_iff hoperation "items" "listItems" "list_items"
  refine ⟨hoperation, ?_, hiff.mp ?_⟩
  all_goals
    rw [located_toolOf]
    decide +kernel

/-- `limit` is a parameter of the query for the path and for the operation; the path does not say
so, and both stay. -/
theorem doubled_ofLimits :
    let document := withParameters [.object [("name", .string "limit")]] [declaring "limit" "query"]
    let operation := document.operations.head (by decide +kernel)
    let tool := document.toolOf "items" "listItems" "list_items" operation
      (Request.ofOperation document "listItems" operation)
    operation ∈ document.operations ∧
      document.operations.map (fun operation => operation.path) = ["/items"] ∧
      tool.located.map (fun p => (p.ident, p.declaredName, p.location)) =
        [("limit", "limit", .query), ("limit_2", "limit", .query)] ∧
      ¬ (tool.located.map fun p => (p.declaredName, p.location)).Nodup := by
  intro document operation tool
  refine ⟨List.head_mem _, by decide +kernel, ?_⟩
  rw [located_toolOf]
  decide +kernel

end Document

end Toolwright
