import Toolwright.Proofs.Tool.Passes

/-!
# The passes end

Whatever a document refers to, in circles or not, both passes come to an end (`passes_end`): the
second one makes of the properties of a schema what reading the unfolded schema as a tree gives
(`exists_flattens`). The measure by which the tree is finite is that of `Expansion.ofSchema`: every
reference followed leaves fewer to follow, and where none is followed the schema gets smaller.

A property whose references lead back to one that is being followed ends a path. It is a leaf that
takes an object, and one warning tells of it (`Flattens.recursions`).
-/

namespace Toolwright

/-! ### Trees, property by property -/

namespace Expansion

/-- Some properties of a schema, unfolded. -/
def ofProperties (document : Document) (above : List String) (schema : Json)
    (properties : List (String × Json)) : List (Property × Expansion) :=
  properties.map fun entry =>
    (⟨entry.1, entry.2, Schema.requires schema entry.1⟩, ofProperty document above entry.2)

theorem ofSchema_eq_ofProperties (document : Document) (above : List String) (schema : Json) :
    ofSchema document above schema =
      ofProperties document above schema (Schema.propertyList schema) :=
  ofSchema_eq document above schema

theorem ofProperties_cons (document : Document) (above : List String) (schema : Json) (name : String)
    (declared : Json) (rest : List (String × Json)) :
    ofProperties document above schema ((name, declared) :: rest) =
      (⟨name, declared, Schema.requires schema name⟩, ofProperty document above declared) ::
        ofProperties document above schema rest := rfl

/-- A property that leads to an object is gone into. -/
theorem ofProperty_of_expanded {document : Document} {above references : List String}
    {declared target : Json}
    (h : Target.ofSchema document above declared = .found references target)
    (hexpandable : Schema.isExpandable target = true) :
    ofProperty document above declared =
      .object references (ofProperties document (above ++ references) target
        (Schema.propertyList target)) := by
  rw [ofProperty, h]
  dsimp only
  rw [if_pos hexpandable, ofSchema_eq_ofProperties]

/-- What a property is that is not gone into. -/
def ofTarget : Target → Expansion
  | .found references schema => .leaf references schema
  | .recursive reference => .recursive reference
  | .unresolved error => .unresolved error

/-- A property that leads to anything else is not gone into. -/
theorem ofProperty_eq_ofTarget {document : Document} {above : List String} {declared : Json}
    {target : Target} (h : Target.ofSchema document above declared = target)
    (hleaf : target.isExpanded = false) :
    ofProperty document above declared = ofTarget target := by
  rw [ofProperty, h]
  cases target with
  | found references schema =>
    exact if_neg (ne_true_of_eq_false hleaf)
  | recursive reference | unresolved error => rfl

/-- A property that leads to a schema other than an object with properties is a leaf. -/
theorem ofProperty_of_found {document : Document} {above references : List String}
    {declared target : Json}
    (h : Target.ofSchema document above declared = .found references target)
    (hleaf : Schema.isExpandable target = false) :
    ofProperty document above declared = .leaf references target :=
  ofProperty_eq_ofTarget h hleaf

variable {document : Document} {above : List String} {declared : Json}

/-- An object that is declared right here is gone into without following anything. -/
theorem ofProperty_of_object (h : declared.reference? = none)
    (hexpandable : Schema.isExpandable declared = true) :
    ofProperty document above declared =
      .object [] (ofProperties document above declared (Schema.propertyList declared)) := by
  rw [ofProperty_of_expanded (Target.ofSchema_of_reference?_eq_none h document above) hexpandable,
    List.append_nil]

/-- Anything else that is declared right here is a leaf. -/
theorem ofProperty_of_leaf (h : declared.reference? = none)
    (hleaf : Schema.isExpandable declared = false) :
    ofProperty document above declared = .leaf [] declared :=
  ofProperty_of_found (Target.ofSchema_of_reference?_eq_none h document above) hleaf

/-- Induction on properties as they are unfolded: what holds of no properties, and of one more if it holds
of the others and, where the one is gone into, of the properties of the object to which it leads. -/
theorem induction_propertyList (document : Document)
    {motive : List String → Json → List (String × Json) → Prop}
    (nil : ∀ {above schema}, motive above schema [])
    (leaf : ∀ {above schema name declared rest followed target},
      Follows document above [] declared followed target → target.isExpanded = false →
        motive above schema rest → motive above schema ((name, declared) :: rest))
    (object : ∀ {above schema name declared rest followed target},
      Follows document above [] declared followed (.found followed target) →
        Schema.isExpandable target = true →
          motive (above ++ followed) target (Schema.propertyList target) →
            motive above schema rest → motive above schema ((name, declared) :: rest))
    (above : List String) (schema : Json) : motive above schema (Schema.propertyList schema) := by
  -- The inner induction, along one list of properties.
  have of_targets : ∀ {above : List String} {schema : Json} {properties : List (String × Json)},
      (∀ entry ∈ properties, ∀ references target,
        Target.ofSchema document above entry.2 = .found references target →
          motive (above ++ references) target (Schema.propertyList target)) →
        motive above schema properties := by
    intro above schema properties h
    induction properties with
    | nil => exact nil
    | cons entry rest ih =>
      obtain ⟨name, declared⟩ := entry
      rw [List.forall_mem_cons] at h
      obtain ⟨hbelow, hrest⟩ := h
      obtain ⟨followed, chain⟩ := exists_follows document above [] declared
      have htarget := follows_ofSchema chain
      generalize Target.follow document above [] declared = target at chain htarget
      cases hexpanded : target.isExpanded with
      | false => exact leaf chain hexpanded (ih hrest)
      | true =>
        cases target with
        | found references target =>
          obtain ⟨rfl, -⟩ := chain.followed_eq
          exact object chain hexpanded (hbelow followed target htarget) (ih hrest)
        | recursive reference | unresolved error => cases hexpanded
  induction above, schema using ofSchema.induct document with
  | case1 above schema hnone =>
    rw [Schema.propertyList, hnone]
    exact nil
  | case2 above schema properties hdeclared ih =>
    rw [Schema.propertyList, hdeclared]
    exact of_targets fun entry hentry => ih entry.1 entry.2 hentry

end Expansion

namespace Document

/-- The schema of texts. -/
def textSchema : Json := .object [("type", .string "string")]

/-- The schema of objects with some properties. -/
def objectSchema (properties : List (String × Json)) : Json :=
  .object [("type", .string "object"), ("properties", .object properties)]

theorem ofProperty_textSchema (document : Document) (above : List String) :
    Expansion.ofProperty document above textSchema = .leaf [] textSchema :=
  Expansion.ofProperty_of_leaf rfl (by decide +kernel)

theorem ofProperty_objectSchema (document : Document) (above : List String) (name : String)
    (declared : Json) (rest : List (String × Json)) :
    Expansion.ofProperty document above (objectSchema ((name, declared) :: rest)) =
      .object [] (Expansion.ofProperties document above (objectSchema ((name, declared) :: rest))
        ((name, declared) :: rest)) :=
  Expansion.ofProperty_of_object rfl rfl

end Document

variable [Romanization]

/-- Any other property is a leaf, and reading it gives what the pass makes of it. -/
theorem Visit.flatten_ofProperty {document : Document} {visit : Visit}
    (h : Target.ofSchema document visit.above visit.property.declared = visit.target)
    (hleaf : visit.target.isExpanded = false) (shared : List String) (s : Signature) :
    Expansion.flatten shared visit.path visit.source visit.property s
        (Expansion.ofProperty document visit.above visit.property.declared) = visit.add shared s ∧
      Expansion.leafPaths visit.path
        (Expansion.ofProperty document visit.above visit.property.declared) = [visit.path] ∧
      Expansion.asked shared visit.path visit.source visit.property
        (Expansion.ofProperty document visit.above visit.property.declared) =
          [visit.candidate shared] := by
  rw [Expansion.ofProperty_eq_ofTarget h hleaf]
  obtain ⟨above, path, source, property, followed, target⟩ := visit
  cases target <;> exact ⟨rfl, rfl, rfl⟩

/-! ### The second pass reads a tree -/

/-- With references on the stack, the second pass makes of properties, wherever they are, what reading
them as a tree gives, and meets the leaves of that tree. -/
def ReadAsTree (document : Document) (shared above : List String) (schema : Json)
    (properties : List (String × Json)) : Prop :=
  ∀ path source s, ∃ visits,
    Flattens document shared path source schema properties ⟨above, s⟩
        (Expansion.flattenAll shared path source s
          (Expansion.ofProperties document above schema properties)).1 visits
        ⟨above, (Expansion.flattenAll shared path source s
          (Expansion.ofProperties document above schema properties)).2⟩ ∧
      Expansion.leafPathsOfAll path (Expansion.ofProperties document above schema properties) =
        (leavesOf visits).map Visit.path ∧
      Expansion.askedOfAll shared path source
          (Expansion.ofProperties document above schema properties) =
        (leavesOf visits).map (Visit.candidate shared)

namespace ReadAsTree

variable {document : Document} {shared above followed : List String} {schema declared : Json}
  {name : String} {rest : List (String × Json)}

/-- A step into an object. -/
theorem object {target : Json}
    (chain : Follows document above [] declared followed (.found followed target))
    (expandable : Schema.isExpandable target = true)
    (hbelow : ReadAsTree document shared (above ++ followed) target (Schema.propertyList target))
    (hrest : ReadAsTree document shared above schema rest) :
    ReadAsTree document shared above schema ((name, declared) :: rest) := by
  intro path source s
  obtain ⟨below, hbelow, hplaces, hasked⟩ := hbelow (path ++ [Name.snake name]) (source ++ [name]) s
  obtain ⟨visits, hvisits, hplaces', hasked'⟩ := hrest path source
    (Expansion.flattenAll shared (path ++ [Name.snake name]) (source ++ [name]) s
      (Expansion.ofProperties document (above ++ followed) target (Schema.propertyList target))).2
  have hobject : (Target.found followed target).isExpanded = true := expandable
  rw [Expansion.ofProperties_cons,
    Expansion.ofProperty_of_expanded (follows_ofSchema chain) expandable, Expansion.flattenAll,
    Expansion.leafPathsOfAll, Expansion.askedOfAll, Expansion.flatten, Expansion.leafPaths,
    Expansion.asked]
  refine ⟨_ :: (below ++ visits), .object chain expandable hbelow ?_, ?_, ?_⟩
  · rw [List.take_left]
    exact hvisits
  · rw [leavesOf_cons_of_expanded hobject, leavesOf_append, List.map_append, hplaces, hplaces']
  · rw [leavesOf_cons_of_expanded hobject, leavesOf_append, List.map_append, hasked, hasked']

/-- A step past a leaf. -/
theorem leaf {target : Target} (chain : Follows document above [] declared followed target)
    (outside : target.isExpanded = false) (hrest : ReadAsTree document shared above schema rest) :
    ReadAsTree document shared above schema ((name, declared) :: rest) := by
  intro path source s
  let visit := Pass.visit ⟨above, s⟩ path source schema name declared followed target
  have htarget : Target.ofSchema document visit.above visit.property.declared = visit.target :=
    follows_ofSchema chain
  obtain ⟨hflatten, hplace, hask⟩ := Visit.flatten_ofProperty htarget outside shared s
  obtain ⟨visits, hvisits, hplaces, hasked⟩ := hrest path source (visit.add shared s).2
  rw [Expansion.ofProperties_cons, Expansion.flattenAll, Expansion.leafPathsOfAll,
    Expansion.askedOfAll]
  refine ⟨visit :: visits, ?_, ?_, ?_⟩
  · have hnode : Flattens document shared path source schema ((name, declared) :: rest) ⟨above, s⟩
        ((visit.add shared s).1 :: _) (visit :: visits) _ := .leaf chain outside hvisits
    rw [← hflatten] at hnode
    exact hnode
  · rw [leavesOf_cons_of_leaf outside, List.map_cons, ← hplaces]
    exact congrArg (· ++ _) hplace
  · rw [leavesOf_cons_of_leaf outside, List.map_cons, ← hasked]
    exact congrArg (· ++ _) hask

end ReadAsTree

theorem readAsTree (document : Document) (shared above : List String) (schema : Json) :
    ReadAsTree document shared above schema (Schema.propertyList schema) :=
  Expansion.induction_propertyList document
    (fun path source s => ⟨[], .done path source _ ⟨_, s⟩, rfl, rfl⟩) .leaf .object above schema

/-- **The second pass ends**, with the stack as it was, and gives what reading the unfolded schema
gives. -/
theorem exists_flattens (document : Document) (shared path source above : List String) (schema : Json)
    (s : Signature) :
    ∃ visits,
      Flattens document shared path source schema (Schema.propertyList schema) ⟨above, s⟩
          (Expansion.flattenAll shared path source s
            (Expansion.ofSchema document above schema)).1 visits
          ⟨above, (Expansion.flattenAll shared path source s
            (Expansion.ofSchema document above schema)).2⟩ ∧
        Expansion.leafPathsOfAll path (Expansion.ofSchema document above schema) =
          (leavesOf visits).map Visit.path ∧
        Expansion.askedOfAll shared path source (Expansion.ofSchema document above schema) =
          (leavesOf visits).map (Visit.candidate shared) := by
  rw [Expansion.ofSchema_eq_ofProperties]
  exact readAsTree document shared above schema path source s

/-- A whole pass: every leaf that it meets becomes a parameter, which is what the leaf asks for but for
the identifier, and a field of the plan. -/
theorem exists_pass (document : Document) (shared path source stack : List String) (schema : Json)
    (s : Signature) :
    let tree := Expansion.ofSchema document stack schema
    let (nodes, t) := Expansion.flattenAll shared path source s tree
    ∃ visits added,
      Flattens document shared path source schema (Schema.propertyList schema) ⟨stack, s⟩ nodes visits
        ⟨stack, t⟩ ∧
      (leavesOf visits).map Visit.path = Expansion.leafPathsOfAll path tree ∧
      t.parameters = s.parameters ++ added ∧
      List.Forall₂ (fun visit p => p.toCandidate = { visit.candidate shared with ident := p.ident })
        (leavesOf visits) added ∧
      added.map (·.ident) =
        s.idents.claimAll ((leavesOf visits).map fun visit => (visit.candidate shared).ident) ∧
      BodyNode.fieldsOfAll nodes = added.map Parameter.field := by
  obtain ⟨visits, hpass, hplaces, hasked⟩ :=
    exists_flattens document shared path source stack schema s
  obtain ⟨added, hparameters, hcandidates, hidents, hfields⟩ :=
    (Expansion.flattenAll_fills shared path source s
      (Expansion.ofSchema document stack schema)).exists_parameters
  rw [hasked, List.forall₂_map_left_iff] at hcandidates
  rw [hasked, List.map_map] at hidents
  rw [BodyNode.map_snd_leavesOfAll] at hfields
  exact ⟨visits, added, hpass, hplaces.symm, hparameters, hcandidates, hidents, hfields⟩

/-! ### Recursive properties -/

namespace Flattens

variable {document : Document} {shared path source : List String} {schema : Json}
  {properties : List (String × Json)} {before after : Pass} {nodes : List BodyNode}
  {visits : List Visit}

theorem operation_eq
    (h : Flattens document shared path source schema properties before nodes visits after) :
    after.signature.operation = before.signature.operation := by
  induction h with
  | done _ _ _ _ => rfl
  | object _ _ _ _ ihn iho => exact iho.trans ihn
  | leaf _ _ _ iho => exact iho.trans (Visit.operation_add ..)

/-- **A property that is recursive is warned of once**, and nothing else is warned of in this way. -/
theorem recursions
    (h : Flattens document shared path source schema properties before nodes visits after) :
    after.signature.warnings.filter Warning.isRecursion =
      before.signature.warnings.filter Warning.isRecursion ++
        (visits.filterMap fun visit => visit.target.recursion?).map
          (.recursiveSchema before.signature.operation) := by
  induction h with
  | done _ _ _ _ => exact (List.append_nil _).symm
  | object _ _ nested _ ihn iho =>
    have hsame := nested.operation_eq
    rw [iho, ihn, hsame, List.filterMap_cons_none rfl, List.filterMap_append, List.map_append,
      List.append_assoc]
  | @leaf _ _ _ _ _ _ target _ before _ _ _ _ _ _ iho =>
    rw [iho, Visit.recursions_add, Visit.operation_add, List.append_assoc, ← List.map_append]
    congr 2
    cases target <;> rfl

end Flattens

/-- **Both passes end, on every document.** Chains of references end in one way. The second pass has one
outcome, which is that of reading the unfolded schema, and so has the first; either leaves the stack as
it was, after each property of an object as well as at the end. No reference is followed twice on the
way to a property, and none that was on the stack at first. A property whose references come back is a
leaf that takes an object, and it is warned of once. -/
theorem passes_end (document : Document) (shared path source stack : List String) (schema : Json)
    (s : Signature) :
    (∀ above declared, ∃! outcome : List String × Target,
      Follows document above [] declared outcome.1 outcome.2) ∧
    let (nodes, t) := Expansion.flattenAll shared path source s
      (Expansion.ofSchema document stack schema)
    ∃ visits added,
      (∀ nodes' visits' after,
        Flattens document shared path source schema (Schema.propertyList schema) ⟨stack, s⟩
          nodes' visits' after ↔ nodes' = nodes ∧ visits' = visits ∧ after = ⟨stack, t⟩) ∧
      (∀ found left, Collects document path stack (Schema.propertyList schema) found left ↔
        found = (leavesOf visits).map Visit.path ∧ left = stack) ∧
      (∀ visit ∈ visits,
        Follows document visit.above [] visit.property.declared visit.followed visit.target ∧
        (visit.source.length = source.length + 1 → visit.above = stack) ∧
        ∃ trail, visit.above ++ visit.followed = stack ++ trail ∧ trail.Nodup ∧
          trail.Disjoint stack) ∧
      (∀ visit ∈ visits, ∀ reference, visit.target = .recursive reference →
        reference ∈ visit.above ++ visit.followed ∧ visit ∈ leavesOf visits ∧
          visit.type = .object) ∧
      t.parameters = s.parameters ++ added ∧
      List.Forall₂ (fun visit p => p.toCandidate = { visit.candidate shared with ident := p.ident })
        (leavesOf visits) added ∧
      BodyNode.fieldsOfAll nodes = added.map Parameter.field ∧
      t.warnings.filter Warning.isRecursion = s.warnings.filter Warning.isRecursion ++
        (visits.filterMap fun visit => visit.target.recursion?).map
          (.recursiveSchema s.operation) := by
  obtain ⟨visits, added, hpass, -, hparameters, hcandidates, -, hfields⟩ :=
    exists_pass document shared path source stack schema s
  refine ⟨fun above declared => existsUnique_follows document above [] declared, visits, added,
    fun nodes' visits' after => hpass.outcome_iff, fun found left => hpass.collects_iff,
    fun visit hvisit => ⟨hpass.follows visit hvisit, (hpass.above_of_sibling visit hvisit).2, ?_⟩,
    fun visit hvisit reference htarget => ⟨?_, ?_, ?_⟩, hparameters, hcandidates, hfields,
    hpass.recursions⟩
  · exact hpass.trail (List.append_nil stack).symm List.nodup_nil (List.disjoint_nil_left stack)
      visit hvisit
  · have hchain := hpass.follows visit hvisit
    rw [htarget] at hchain
    exact hchain.mem_of_recursive
  · refine List.mem_filter.mpr ⟨hvisit, ?_⟩
    rw [Visit.isLeaf, htarget]
    rfl
  · rw [Visit.type, htarget]

end Toolwright
