import Toolwright.Proofs.Tool.Unfolding

/-!
# What leaves are called

The names for which leaves ask depend on where all the leaves of the tree are: a leaf asks for its own
name, unless one elsewhere has it too, and then for the name of its place (`Expansion.wanted`). Since
the first pass finds exactly the places at which the second one adds parameters, in the same order,
no leaf is named by a rule for another tree (`leaves_agree`).

A name that no other leaf has is not always given as it is. The place of a leaf that shares its
name may be written like it, as the place `user`, `name` is written like the property `user_name`,
and so may what is put for a reserved word. Who comes first is given the name, and the other a number
(`ownName_iff`): that may well be the leaf whose own name it is (`numbered_ofAccounts`).
-/

namespace Toolwright

namespace Expansion

/-! ### Names that leaves have in common -/

/-- `IsShared places path`: at some place another leaf has the name of the leaf at this one. -/
def IsShared (places : List (List String)) (path : List String) : Prop :=
  ∃ other ∈ places, other.getLastD "" = path.getLastD "" ∧ underscoreJoin other ≠ underscoreJoin path

instance (places : List (List String)) (path : List String) : Decidable (IsShared places path) :=
  inferInstanceAs (Decidable (∃ other ∈ places, _))

/-- The own name of a leaf as an identifier. -/
def ownName (path : List String) : String :=
  Name.ensure (Name.safe (path.getLastD "") (underscoreJoin path))

/-- The place of a leaf as an identifier. -/
def placeName (path : List String) : String :=
  Name.ensure (Name.safe (underscoreJoin path) (underscoreJoin path))

/-- The identifier for which a leaf asks, among leaves at some places. -/
def wanted (places : List (List String)) (path : List String) : String :=
  if IsShared places path then placeName path else ownName path

/-- A leaf whose name no other leaf has asks for that name. -/
theorem wanted_eq_ownName {before after : List (List String)} {path : List String}
    (h : ∀ other ∈ before ++ after, other.getLastD "" ≠ path.getLastD "") :
    wanted (before ++ path :: after) path = ownName path := by
  rw [wanted, if_neg]
  rintro ⟨other, hother, hname, hplace⟩
  rw [List.mem_append, List.mem_cons, or_left_comm, ← List.mem_append] at hother
  rcases hother with rfl | hother
  · exact hplace rfl
  · exact h other hother hname

variable [Romanization]

theorem mem_sharedNames {tree : List (Property × Expansion)} {path : List String}
    (hpath : path ∈ leafPathsOfAll [] tree) :
    path.getLastD "" ∈ sharedNames tree ↔ IsShared (leafPathsOfAll [] tree) path := by
  simp only [sharedNames, leafNames, List.mem_eraseDups, List.mem_map, List.mem_filter,
    List.any_eq_true, Bool.and_eq_true, decide_eq_true_eq]
  constructor
  · rintro ⟨_, ⟨⟨leaf, hleaf, rfl⟩, _, ⟨other, hother, rfl⟩, hname, hplace⟩, hsame⟩
    -- two leaves have the name at different places, so one of them is elsewhere
    by_cases h : underscoreJoin leaf = underscoreJoin path
    · exact ⟨other, hother, hname.trans hsame, fun he => hplace (he.trans h.symm)⟩
    · exact ⟨leaf, hleaf, hsame, h⟩
  · rintro ⟨other, hother, hname, hplace⟩
    exact ⟨_, ⟨⟨path, hpath, rfl⟩, _, ⟨other, hother, rfl⟩, hname, hplace⟩, rfl⟩

theorem leafIdent_sharedNames {tree : List (Property × Expansion)} {path : List String}
    (hpath : path ∈ leafPathsOfAll [] tree) :
    leafIdent (sharedNames tree) path = wanted (leafPathsOfAll [] tree) path := by
  have hshared := mem_sharedNames hpath
  rw [leafIdent, leafNames, wanted]
  dsimp only
  by_cases h : IsShared (leafPathsOfAll [] tree) path
  · rw [if_pos h, if_pos (List.contains_iff_mem.mpr (hshared.mpr h)), placeName]
  · rw [if_neg h, if_neg (fun hmem => h (hshared.mp (List.contains_iff_mem.mp hmem))), ownName]

end Expansion

/-! ### Leaves and their parameters -/

section

variable [Romanization]

/-- The leaves of a nested object and the parameters that are added for them: every leaf asks for the
identifier that is due among the places of all leaves, and is given what claiming it in its turn
gives. -/
theorem exists_leaves (document : Document) (stack : List String) (schema : Json) (s : Signature) :
    let tree := Expansion.ofSchema document stack schema
    let shared := Expansion.sharedNames tree
    let places := Expansion.leafPathsOfAll [] tree
    let (nodes, t) := s.addNested document stack schema
    ∃ visits added,
      Flattens document shared [] [] schema (Schema.propertyList schema) ⟨stack, s⟩ nodes visits
        ⟨stack, t⟩ ∧
      (leavesOf visits).map Visit.path = places ∧
      (∀ visit ∈ leavesOf visits,
        (visit.candidate shared).ident = Expansion.wanted places visit.path) ∧
      t.parameters = s.parameters ++ added ∧
      List.Forall₂ (fun visit p => p.toCandidate = { visit.candidate shared with ident := p.ident })
        (leavesOf visits) added ∧
      added.map (·.ident) = s.idents.claimAll (places.map (Expansion.wanted places)) := by
  intro tree shared places
  obtain ⟨visits, added, hpass, (hplaces : (leavesOf visits).map Visit.path = places), hparameters,
    hcandidates, hidents, -⟩ := exists_pass document shared [] [] stack schema s
  have hwanted : ∀ visit ∈ leavesOf visits,
      (visit.candidate shared).ident = Expansion.wanted places visit.path := by
    intro visit hvisit
    have hpath : visit.path ∈ places := by
      rw [← hplaces]
      exact List.mem_map_of_mem hvisit
    exact Expansion.leafIdent_sharedNames hpath
  have hasked : ((leavesOf visits).map fun visit => (visit.candidate shared).ident) =
      places.map (Expansion.wanted places) :=
    calc (leavesOf visits).map fun visit => (visit.candidate shared).ident
      _ = (leavesOf visits).map fun visit => Expansion.wanted places visit.path :=
        List.map_congr_left hwanted
      _ = ((leavesOf visits).map Visit.path).map (Expansion.wanted places) := by
        rw [List.map_map]
        rfl
      _ = places.map (Expansion.wanted places) := by rw [hplaces]
  rw [hasked] at hidents
  exact ⟨visits, added, hpass, hplaces, hwanted, hparameters, hcandidates, hidents⟩

/-- **Both passes meet the same leaves.** The first pass has one outcome, and so has the second; the
places that the first one finds are, in the same order, those of the leaves for which the second adds
parameters, and either leaves the stack as it was. So a leaf asks for the identifier that is due among
these places, and the identifiers given are those that claiming them in this order gives. -/
theorem leaves_agree (document : Document) (stack : List String) (schema : Json) (s : Signature) :
    let shared := Expansion.sharedNames (Expansion.ofSchema document stack schema)
    let (nodes, t) := s.addNested document stack schema
    ∃ places visits added,
      (∀ found left, Collects document [] stack (Schema.propertyList schema) found left ↔
        found = places ∧ left = stack) ∧
      (∀ nodes' visits' after,
        Flattens document shared [] [] schema (Schema.propertyList schema) ⟨stack, s⟩
          nodes' visits' after ↔ nodes' = nodes ∧ visits' = visits ∧ after = ⟨stack, t⟩) ∧
      (∀ visit ∈ visits, visit.path = visit.source.map Name.snake ∧
        visit.source.getLast? = some visit.property.name) ∧
      (leavesOf visits).map Visit.path = places ∧
      (∀ visit ∈ leavesOf visits,
        (visit.candidate shared).ident = Expansion.wanted places visit.path) ∧
      t.parameters = s.parameters ++ added ∧
      List.Forall₂ (fun visit p => p.toCandidate = { visit.candidate shared with ident := p.ident })
        (leavesOf visits) added ∧
      added.map (·.ident) = s.idents.claimAll (places.map (Expansion.wanted places)) := by
  obtain ⟨visits, added, hpass, hplaces, hadded⟩ := exists_leaves document stack schema s
  refine ⟨_, visits, added, fun found left => ?_, fun nodes' visits' after => hpass.outcome_iff,
    hpass.path_eq rfl, hplaces, hadded⟩
  rw [← hplaces]
  exact hpass.collects_iff

/-- The parameters that are added for a nested object have, in order, the names of the leaves at its
places. -/
theorem names_addNested (document : Document) (stack : List String) (schema : Json) (operation : String) :
    let places := Expansion.leafPathsOfAll [] (Expansion.ofSchema document stack schema)
    let parameters := (Signature.addNested { operation } document stack schema).2.parameters
    parameters.map (fun p => Name.snake p.declaredName) = places.map (·.getLastD "") ∧
      parameters.map (·.ident) =
        Allocator.claimAll {} (places.map (Expansion.wanted places)) := by
  intro places parameters
  obtain ⟨visits, added, hpass, (hplaces : (leavesOf visits).map Visit.path = places), -,
    (hparameters : parameters = added), hcandidates, hidents⟩ :=
    exists_leaves document stack schema { operation }
  have hdeclared : (leavesOf visits).map (·.property.name) = added.map (·.declaredName) := by
    rw [← List.forall₂_eq_eq_eq, List.forall₂_map_left_iff, List.forall₂_map_right_iff]
    exact hcandidates.imp fun visit p h => (congrArg Candidate.declaredName h).symm
  have hlast : ∀ visit ∈ leavesOf visits,
      Name.snake visit.property.name = visit.path.getLastD "" :=
    fun visit hvisit => (hpass.getLastD_path rfl visit (List.mem_of_mem_filter hvisit)).symm
  rw [hparameters]
  refine ⟨?_, hidents⟩
  calc added.map (fun p => Name.snake p.declaredName)
    _ = (added.map (·.declaredName)).map Name.snake := by
      rw [List.map_map]
      rfl
    _ = (leavesOf visits).map fun visit => Name.snake visit.property.name := by
      rw [← hdeclared, List.map_map]
      rfl
    _ = (leavesOf visits).map fun visit => visit.path.getLastD "" := List.map_congr_left hlast
    _ = places.map (·.getLastD "") := by
      rw [← hplaces, List.map_map]
      rfl

/-- **When a leaf keeps its own name.** A leaf that shares its name with no other one is never named after
its place. It is given its name as it is, or with a number, and that only if a leaf before it was given
the name; such a leaf asked for it, or for a name of which it is a numbered one. -/
theorem ownName_iff (document : Document) (stack : List String) (schema : Json) (operation : String)
    {before after : List (List String)} {path : List String}
    (hplaces : Expansion.leafPathsOfAll [] (Expansion.ofSchema document stack schema) =
      before ++ path :: after)
    (honce : ∀ other ∈ before ++ after, other.getLastD "" ≠ path.getLastD "") :
    let own := Expansion.ownName path
    let others := before.map (Expansion.wanted (before ++ path :: after))
    ∃ earlier p later,
      (Signature.addNested { operation := operation } document stack schema).2.parameters =
        earlier ++ p :: later ∧
      earlier.length = before.length ∧
      Name.snake p.declaredName = path.getLastD "" ∧
      Allocator.Varies own p.ident ∧
      (p.ident = own ↔ ∀ q ∈ earlier, q.ident ≠ own) ∧
      (own ∈ others → p.ident ≠ own) ∧
      (p.ident ≠ own → ∃ other ∈ others, Allocator.Varies other own) := by
  intro own others
  obtain ⟨hnames, hidents⟩ := names_addNested document stack schema operation
  generalize (Signature.addNested { operation := operation } document stack schema).2.parameters =
    parameters at hnames hidents ⊢
  rw [hplaces, List.map_append, List.map_cons, Expansion.wanted_eq_ownName honce,
    Allocator.claimAll_append, Allocator.claimAll] at hidents
  obtain ⟨earlier, rest, rfl, hearlier, hrest⟩ := List.map_eq_append_iff.mp hidents
  obtain ⟨p, later, rfl, hp, -⟩ := List.map_eq_cons_iff.mp hrest
  have hlength : earlier.length = before.length := by
    have h := (Allocator.forall₂_claimAll {} others).length_eq
    rw [← hearlier, List.length_map, List.length_map] at h
    exact h.symm
  have hgiven : own ∈ Allocator.claimAll {} others ↔ ∃ q ∈ earlier, q.ident = own := by
    rw [← hearlier, List.mem_map]
  -- when the leaf claims its name, those taken are the names given to the leaves before it
  have hkept : p.ident = own ↔ own ∉ Allocator.claimAll {} others := by
    rw [hp]
    refine Allocator.choose_eq_self_iff.trans (not_congr ?_)
    rw [Allocator.reserving, List.append_nil, List.mem_reverse]
  refine ⟨earlier, p, later, rfl, hlength, ?_, ?_, ?_, fun hother => ?_, fun hrenamed => ?_⟩
  · rw [hplaces, List.map_append, List.map_append, List.map_cons, List.map_cons] at hnames
    have hlengths : (earlier.map fun p => Name.snake p.declaredName).length =
        (before.map (·.getLastD "")).length := by
      rw [List.length_map, List.length_map, hlength]
    exact (List.cons.inj (List.append_inj hnames hlengths).2).1
  · rw [hp]
    exact Allocator.varies_choose _ own
  · rw [hkept, hgiven]
    push Not
    exact Iff.rfl
  · rw [Ne, hkept, not_not]
    exact (Allocator.mem_claimAll_or_taken hother).resolve_right List.not_mem_nil
  · rw [Ne, hkept, not_not] at hrenamed
    exact Allocator.varies_of_mem_claimAll hrenamed

end

/-! ### A name that is taken -/

namespace Document

/-- Two objects with a name each, and a property whose name is written like the place of the first
name. -/
def accounts : Json :=
  objectSchema [("user", objectSchema [("name", textSchema)]),
    ("product", objectSchema [("name", textSchema)]), ("user_name", textSchema)]

theorem ofSchema_accounts : Expansion.ofSchema (.ofRoot accounts) [] accounts =
    [(⟨"user", objectSchema [("name", textSchema)], false⟩,
        .object [] [(⟨"name", textSchema, false⟩, .leaf [] textSchema)]),
      (⟨"product", objectSchema [("name", textSchema)], false⟩,
        .object [] [(⟨"name", textSchema, false⟩, .leaf [] textSchema)]),
      (⟨"user_name", textSchema, false⟩, .leaf [] textSchema)] := by
  have hobject : Expansion.ofProperty (.ofRoot accounts) [] (objectSchema [("name", textSchema)]) =
      .object [] [(⟨"name", textSchema, false⟩, .leaf [] textSchema)] := by
    rw [ofProperty_objectSchema, ← ofProperty_textSchema]
    rfl
  rw [Expansion.ofSchema_eq_ofProperties, ← hobject, ← ofProperty_textSchema]
  rfl

theorem leafPaths_accounts :
    Expansion.leafPathsOfAll [] (Expansion.ofSchema (.ofRoot accounts) [] accounts) =
      [["user", "name"], ["product", "name"]] ++ ["user_name"] :: [] := by
  rw [ofSchema_accounts]
  decide +kernel

/-- The property `user_name` is not given its name, for which the name of the user asks before it. -/
theorem ownName_ofAccounts :
    (∀ other ∈ [["user", "name"], ["product", "name"]] ++ [], other.getLastD "" ≠ "user_name") ∧
      ∃ earlier p later,
        (Signature.addNested { operation := "op" } (.ofRoot accounts) [] accounts).2.parameters =
          earlier ++ p :: later ∧
        earlier.length = 2 ∧ Name.snake p.declaredName = "user_name" ∧
        Allocator.Varies "user_name" p.ident ∧ p.ident ≠ "user_name" := by
  have honce : ∀ other ∈ [["user", "name"], ["product", "name"]] ++ [],
      other.getLastD "" ≠ ["user_name"].getLastD "" := by decide
  have hown : Expansion.ownName ["user_name"] = "user_name" := by decide +kernel
  obtain ⟨earlier, p, later, hparameters, hlength, hname, hvaries, -, htaken, -⟩ :=
    ownName_iff (.ofRoot accounts) [] accounts "op" leafPaths_accounts honce
  rw [hown] at hvaries htaken
  exact ⟨honce, earlier, p, later, hparameters, hlength, hname, hvaries, htaken (by decide +kernel)⟩

/-- It is called `user_name_2`, though no other leaf has its name. -/
theorem numbered_ofAccounts :
    let places := Expansion.leafPathsOfAll [] (Expansion.ofSchema (.ofRoot accounts) [] accounts)
    let (nodes, t) := Signature.addNested { operation := "op" } (.ofRoot accounts) [] accounts
    places.map (·.getLastD "") = ["name", "name", "user_name"] ∧
      Expansion.ownName ["user_name"] = "user_name" ∧
      t.parameters.map (·.sourcePath) = ["user.name", "product.name", "user_name"] ∧
      t.parameters.map (·.ident) = ["user_name", "product_name", "user_name_2"] ∧
      (BodyNode.fieldsOfAll nodes).map (·.ident) = ["user_name", "product_name", "user_name_2"] ∧
      t.warnings = [.identifierRenamed "op" "user_name" "user_name_2"] := by
  rw [Signature.addNested, ofSchema_accounts]
  decide +kernel

end Document

end Toolwright
