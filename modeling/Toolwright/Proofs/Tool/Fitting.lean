import Toolwright.Proofs.Tool.Sources
import Toolwright.Proofs.Tool.Unfolding

/-!
# What fits a body

A schema says by its properties which objects fit it (`Schema.TakesAll`): every member is a property, and
its value one that the property takes. A property that leads to an object with properties, once its
references are followed, takes an object with members that fits there; any other takes anything but
null. `Request.Fits` says so of the schemas that declare the body of an operation, in the three ways
in which this can be done. None of this knows of a plan.

The plan of the operation says it by its entries (`BodyPlan.fits`), and that comes to the same
(`fits_iff`). For what is flattened it is an induction along the properties as they are unfolded
(`takesAsDeclared`): whatever names have been given so far, the entry of a property takes what
the property takes.
-/

namespace Toolwright

/-! ### What fits a schema -/

namespace Schema

mutual

/-- `Takes document above declared value`: a property that is declared so takes a value; `above` are
references that are being followed. -/
inductive Takes (document : Document) : List String → Json → Json → Prop where
  /-- A property that leads to an object with properties takes an object with members. -/
  | object {above references : List String} {declared target : Json} {members : List (String × Json)}
      (chain : Follows document above [] declared references (.found references target))
      (expandable : isExpandable target = true) (nonempty : members ≠ [])
      (inner : TakesAll document (above ++ references) target members) :
      Takes document above declared (.object members)
  /-- Any other property takes anything but null. -/
  | leaf {above followed : List String} {declared value : Json} {target : Target}
      (chain : Follows document above [] declared followed target)
      (outside : target.isExpanded = false) (given : value ≠ .null) :
      Takes document above declared value

/-- `TakesAll document above schema members`: every member is a property of a schema, which takes its
value. -/
inductive TakesAll (document : Document) : List String → Json → List (String × Json) → Prop where
  /-- There are no members. -/
  | nil {above : List String} {schema : Json} : TakesAll document above schema []
  /-- There is one more. -/
  | cons {above : List String} {schema declared value : Json} {key : String}
      {members : List (String × Json)} (property : (key, declared) ∈ propertyList schema)
      (first : Takes document above declared value) (rest : TakesAll document above schema members) :
      TakesAll document above schema ((key, value) :: members)

end

variable {document : Document} {above followed : List String} {declared schema value : Json}
  {members : List (String × Json)}

theorem takesAll_iff :
    TakesAll document above schema members ↔
      ∀ member ∈ members, ∃ declared, (member.1, declared) ∈ propertyList schema ∧
        Takes document above declared member.2 := by
  induction members with
  | nil => exact iff_of_true .nil fun _ hmember => absurd hmember List.not_mem_nil
  | cons member members ih =>
    rw [List.forall_mem_cons, ← ih]
    constructor
    · rintro (_ | ⟨property, first, rest⟩)
      exact ⟨⟨_, property, first⟩, rest⟩
    · rintro ⟨⟨declared, property, first⟩, rest⟩
      exact .cons property first rest

theorem takes_iff_of_leaf {target : Target}
    (chain : Follows document above [] declared followed target)
    (outside : target.isExpanded = false) : Takes document above declared value ↔ value ≠ .null := by
  refine ⟨fun h => ?_, .leaf chain outside⟩
  cases h with
  | object _ _ _ _ => exact nofun
  | leaf _ _ given => exact given

theorem takes_iff_of_object {target : Json}
    (chain : Follows document above [] declared followed (.found followed target))
    (expandable : isExpandable target = true) :
    Takes document above declared value ↔ ∃ members, value = .object members ∧ members ≠ [] ∧
      TakesAll document (above ++ followed) target members := by
  constructor
  · intro h
    cases h with
    | object chain' _ nonempty inner =>
      obtain ⟨rfl, htarget⟩ := chain.unique chain'
      cases htarget
      exact ⟨_, rfl, nonempty, inner⟩
    | leaf chain' outside _ =>
      obtain ⟨-, rfl⟩ := chain.unique chain'
      cases expandable.symm.trans outside
  · rintro ⟨members, rfl, nonempty, inner⟩
    exact .object chain expandable nonempty inner

/-- Every member is a property at the top of a schema, with any value but null. -/
def TakesAtTop (schema : Json) (members : List (String × Json)) : Prop :=
  ∀ member ∈ members, member.1 ∈ propertyKeys schema ∧ member.2 ≠ .null

end Schema

/-! ### What fits a plan -/

namespace BodyNode

mutual

/-- Whether an entry takes a value: a parameter takes any value but null, a nested object a
non-empty object with a place for every member. -/
def takes (value : Json) : BodyNode → Bool
  | .leaf _ =>
    match value with
    | .null => false
    | _ => true
  | .object _ _ children =>
    match value with
    | .object members => !members.isEmpty && members.all fun member => takesAmong member children
    | _ => false

/-- Whether one of some entries takes a member. -/
def takesAmong (member : String × Json) : List BodyNode → Bool
  | [] => false
  | node :: rest => (node.key == member.1 && takes member.2 node) || takesAmong member rest

end

theorem takesAmong_iff {member : String × Json} {nodes : List BodyNode} :
    takesAmong member nodes = true ↔
      ∃ node ∈ nodes, node.key = member.1 ∧ takes member.2 node = true := by
  induction nodes with
  | nil => simp [takesAmong]
  | cons node rest ih =>
    rw [takesAmong, Bool.or_eq_true, Bool.and_eq_true, beq_iff_eq, ih]
    simp only [List.mem_cons, exists_eq_or_imp]

theorem keys_subset_of_takesAmong {members : List (String × Json)} {nodes : List BodyNode}
    (h : ∀ member ∈ members, takesAmong member nodes = true) :
    Members.keys members ⊆ nodes.map key := by
  intro key hkey
  obtain ⟨member, hmember, rfl⟩ := List.mem_map.mp hkey
  obtain ⟨node, hnode, hsame, -⟩ := takesAmong_iff.mp (h member hmember)
  rw [← hsame]
  exact List.mem_map_of_mem hnode

theorem takes_leaf_iff {value : Json} {field : BodyField} :
    takes value (.leaf field) = true ↔ value ≠ .null := by
  cases value with
  | null => exact iff_of_false Bool.false_ne_true fun h => h rfl
  | _ => exact iff_of_true rfl nofun

theorem takes_object_iff {value : Json} {key container : String} {children : List BodyNode} :
    takes value (.object key container children) = true ↔
      ∃ members, value = .object members ∧ members ≠ [] ∧
        ∀ member ∈ members, takesAmong member children = true := by
  cases value with
  | object members =>
    rw [takes, Bool.and_eq_true, List.all_eq_true, Bool.not_eq_true',
      ← Bool.not_eq_true, List.isEmpty_iff]
    exact ⟨fun h => ⟨members, rfl, h⟩, by rintro ⟨_, ⟨⟩, h⟩; exact h⟩
  | _ => exact iff_of_false Bool.false_ne_true (by rintro ⟨_, ⟨⟩, -⟩)

theorem takesAmong_map_leaf_iff {member : String × Json} {fields : List BodyField} :
    takesAmong member (fields.map BodyNode.leaf) = true ↔
      member.1 ∈ fields.map (·.key) ∧ member.2 ≠ .null := by
  rw [takesAmong_iff]
  constructor
  · rintro ⟨_, hnode, hkey, htakes⟩
    obtain ⟨field, hfield, rfl⟩ := List.mem_map.mp hnode
    exact ⟨List.mem_map.mpr ⟨field, hfield, hkey⟩, takes_leaf_iff.mp htakes⟩
  · rintro ⟨hkey, hvalue⟩
    obtain ⟨field, hfield, hkey⟩ := List.mem_map.mp hkey
    exact ⟨_, List.mem_map_of_mem hfield, hkey, takes_leaf_iff.mpr hvalue⟩

end BodyNode

/-- Whether an object fits a plan: every member is taken by an entry. -/
def BodyPlan.fits (plan : BodyPlan) (payload : List (String × Json)) : Bool :=
  payload.all fun member => BodyNode.takesAmong member plan.entries

/-- What fits entries without nested objects. -/
theorem BodyPlan.fits_iff_of_leaves {plan : BodyPlan} {fields : List BodyField}
    (h : plan.entries = fields.map BodyNode.leaf) (payload : List (String × Json)) :
    plan.fits payload = true ↔
      ∀ member ∈ payload, member.1 ∈ fields.map (·.key) ∧ member.2 ≠ .null := by
  rw [fits, h, List.all_eq_true]
  exact forall₂_congr fun _ _ => BodyNode.takesAmong_map_leaf_iff

/-! ### What fits an operation -/

namespace Request

variable {document : Document} {operation : Operation} {wrapper : Option String}
  {payload : List (String × Json)}

/-- `Fits document operation wrapper payload`: an object fits what declares the body of an operation,
under the wrapper if that has one. -/
inductive Fits (document : Document) (operation : Operation) :
    Option String → List (String × Json) → Prop where
  /-- A body parameter declares its properties at the top. -/
  | parameter {declaration schema : Json} {payload : List (String × Json)}
      (declared : declaration ∈ document.declarations operation)
      (target : bodySchema? document declaration = some schema)
      (members : Schema.TakesAtTop schema payload) : Fits document operation none payload
  /-- So does a request body without the wrapper. -/
  | direct {content schema : Json} {payload : List (String × Json)}
      (declared : (operation.entry.get? "requestBody").bind (content? document) = some content)
      (target : document.target? content = some schema)
      (plain : ∀ property inner, ¬ Wraps document schema property inner)
      (members : Schema.TakesAtTop schema payload) : Fits document operation none payload
  /-- Under the wrapper properties are declared at any depth. -/
  | wrapped {content schema property inner : Json} {payload : List (String × Json)}
      (declared : (operation.entry.get? "requestBody").bind (content? document) = some content)
      (target : document.target? content = some schema)
      (wraps : Wraps document schema property inner)
      (members : Schema.TakesAll document
        (content.reference?.toList ++ property.reference?.toList) inner payload) :
      Fits document operation (some wrapperKey) payload

/-! Each way in which a plan can come about has its own kind of objects that fit. -/

/-- Without a request body, what fits is what the one body parameter takes. -/
theorem fits_iff_of_bare (hsources : (bodySources document operation).length ≤ 1)
    (bare : ∀ schema,
      (operation.entry.get? "requestBody").bind (contentSchema? document) = some schema →
        Schema.propertyKeys schema = []) (hne : payload ≠ []) :
    Fits document operation wrapper payload ↔ none = wrapper ∧ ∀ member ∈ payload,
      member.1 ∈ ((document.declarations operation).filterMap (bodySchema? document)).flatMap
        Schema.propertyKeys ∧ member.2 ≠ .null := by
  constructor
  · intro h
    cases h with
    | parameter declared target members =>
      exact ⟨rfl, fun member hmember => ⟨List.mem_flatMap.mpr
        ⟨_, List.mem_filterMap.mpr ⟨_, declared, target⟩, (members member hmember).1⟩,
          (members member hmember).2⟩⟩
    | direct declared target _ members =>
      obtain ⟨member, hmember⟩ := List.exists_mem_of_ne_nil payload hne
      have hkey := (members member hmember).1
      rw [bare _ ((bind_contentSchema? declared).trans target)] at hkey
      exact absurd hkey List.not_mem_nil
    | wrapped declared target wraps _ =>
      have hkeys := bare _ ((bind_contentSchema? declared).trans target)
      rw [Schema.propertyKeys, wraps.only] at hkeys
      cases hkeys
  · rintro ⟨rfl, hmembers⟩
    have hlength : ((document.declarations operation).filterMap (bodySchema? document)).length ≤ 1 :=
      Nat.le_trans (by rw [bodySources, List.length_append]; exact Nat.le_add_right _ _) hsources
    cases hschemas : (document.declarations operation).filterMap (bodySchema? document) with
    | nil =>
      obtain ⟨member, hmember⟩ := List.exists_mem_of_ne_nil payload hne
      have hkey := (hmembers member hmember).1
      rw [hschemas] at hkey
      exact absurd hkey List.not_mem_nil
    | cons schema rest =>
      rw [hschemas, List.length_cons] at hlength
      obtain rfl : rest = [] := List.length_eq_zero_iff.mp (by omega)
      obtain ⟨declaration, hdeclared, htarget⟩ :=
        List.mem_filterMap.mp (hschemas ▸ List.mem_cons_self)
      rw [hschemas, List.flatMap_singleton] at hmembers
      exact .parameter hdeclared htarget hmembers

section

variable {content schema : Json} (hsources : (bodySources document operation).length ≤ 1)
  (declared : (operation.entry.get? "requestBody").bind (content? document) = some content)
  (target : document.target? content = some schema)
include hsources declared target

/-- Where a request body has a schema, what fits is what that takes. -/
theorem fits_iff_of_content :
    Fits document operation wrapper payload ↔
      none = wrapper ∧ (∀ property inner, ¬ Wraps document schema property inner) ∧
          Schema.TakesAtTop schema payload ∨
        ∃ property inner, some wrapperKey = wrapper ∧ Wraps document schema property inner ∧
          Schema.TakesAll document (content.reference?.toList ++ property.reference?.toList) inner
            payload := by
  have hnone := bodySchemas_eq_nil hsources ((bind_contentSchema? declared).trans target)
  constructor
  · intro h
    cases h with
    | parameter declared' target' _ =>
      have hmem := List.mem_filterMap.mpr ⟨_, declared', target'⟩
      rw [hnone] at hmem
      exact absurd hmem List.not_mem_nil
    | direct declared' target' plain members =>
      cases declared.symm.trans declared'
      cases target.symm.trans target'
      exact .inl ⟨rfl, plain, members⟩
    | wrapped declared' target' wraps members =>
      cases declared.symm.trans declared'
      cases target.symm.trans target'
      exact .inr ⟨_, _, rfl, wraps, members⟩
  · rintro (⟨rfl, plain, members⟩ | ⟨property, inner, rfl, wraps, members⟩)
    · exact .direct declared target plain members
    · exact .wrapped declared target wraps members

end

end Request

/-! ### What is flattened -/

variable [Romanization]

namespace Expansion

/-- With references being followed, the entries of some properties take what these properties take. -/
def TakesAsDeclared (document : Document) (above : List String) (schema : Json)
    (properties : List (String × Json)) : Prop :=
  ∀ shared path source s member,
    BodyNode.takesAmong member
        (flattenAll shared path source s (ofProperties document above schema properties)).1 = true ↔
      ∃ declared, (member.1, declared) ∈ properties ∧ Schema.Takes document above declared member.2

namespace TakesAsDeclared

variable {document : Document} {above followed : List String} {schema declared : Json}
  {name : String} {rest : List (String × Json)}

/-- A step past a property whose entry takes what it takes. -/
theorem cons
    (hfirst : ∀ shared path source property s value,
      BodyNode.takes value (flatten shared path source property s
        (ofProperty document above declared)).1 = true ↔ Schema.Takes document above declared value)
    (hrest : TakesAsDeclared document above schema rest) :
    TakesAsDeclared document above schema ((name, declared) :: rest) := by
  intro shared path source s member
  rw [ofProperties_cons, flattenAll, BodyNode.takesAmong, Bool.or_eq_true, Bool.and_eq_true,
    beq_iff_eq, key_flatten, hfirst, hrest]
  constructor
  · rintro (⟨rfl, htakes⟩ | ⟨other, hother, htakes⟩)
    · exact ⟨declared, List.mem_cons_self, htakes⟩
    · exact ⟨other, List.mem_cons_of_mem _ hother, htakes⟩
  · rintro ⟨other, hother, htakes⟩
    rcases List.mem_cons.mp hother with heq | hother
    · cases heq
      exact .inl ⟨rfl, htakes⟩
    · exact .inr ⟨other, hother, htakes⟩

theorem object {target : Json}
    (chain : Follows document above [] declared followed (.found followed target))
    (expandable : Schema.isExpandable target = true)
    (hbelow : TakesAsDeclared document (above ++ followed) target (Schema.propertyList target))
    (hrest : TakesAsDeclared document above schema rest) :
    TakesAsDeclared document above schema ((name, declared) :: rest) := by
  refine hrest.cons fun shared path source property s value => ?_
  rw [ofProperty_of_expanded (follows_ofSchema chain) expandable, flatten,
    BodyNode.takes_object_iff, Schema.takes_iff_of_object chain expandable]
  refine exists_congr fun members => and_congr_right fun _ => and_congr_right fun _ => ?_
  rw [Schema.takesAll_iff]
  exact forall₂_congr fun member _ => hbelow shared path source s member

theorem leaf {target : Target} (chain : Follows document above [] declared followed target)
    (outside : target.isExpanded = false) (hrest : TakesAsDeclared document above schema rest) :
    TakesAsDeclared document above schema ((name, declared) :: rest) := by
  refine hrest.cons fun shared path source property s value => ?_
  rw [ofProperty_eq_ofTarget (follows_ofSchema chain) outside,
    Schema.takes_iff_of_leaf chain outside]
  cases target <;> exact BodyNode.takes_leaf_iff

end TakesAsDeclared

theorem takesAsDeclared (document : Document) (above : List String) (schema : Json) :
    TakesAsDeclared document above schema (Schema.propertyList schema) :=
  induction_propertyList document
    (fun _ _ _ _ _ => iff_of_false Bool.false_ne_true (by rintro ⟨_, ⟨⟩, -⟩)) .leaf .object above schema

/-- **Flattening keeps what fits**: the entries take the objects that the schema takes. -/
theorem takesAmong_flattenAll_iff (document : Document) (above : List String) (schema : Json)
    (shared path source : List String) (s : Signature) (members : List (String × Json)) :
    (∀ member ∈ members, BodyNode.takesAmong member
        (flattenAll shared path source s (ofSchema document above schema)).1 = true) ↔
      Schema.TakesAll document above schema members := by
  rw [Schema.takesAll_iff, ofSchema_eq_ofProperties]
  exact forall₂_congr fun member _ => takesAsDeclared document above schema shared path source s member

end Expansion

/-! ### The plan of an operation -/

/-- **What fits the schemas of an operation is what fits its plan.** -/
theorem Request.fits_iff {document : Document} {operation : Operation} {wrapper : Option String}
    {payload : List (String × Json)} (hsources : (bodySources document operation).length ≤ 1)
    (id : String) (hne : payload ≠ []) :
    let plan := (ofOperation document id operation).body
    Fits document operation wrapper payload ↔ plan.wrapper = wrapper ∧ plan.fits payload = true := by
  intro plan
  cases bodyPart_ofOperation document id operation with
  | nothing hwrapper hnodes bare =>
    have hentries : plan.entries = plan.legacyFields.map BodyNode.leaf := by
      rw [BodyPlan.entries, show plan.nodes = [] from hnodes, List.append_nil]
    rw [show plan.wrapper = none from hwrapper, BodyPlan.fits_iff_of_leaves hentries,
      show plan.legacyFields.map (·.key) = _ from legacyFields_ofOperation document id operation]
    exact fits_iff_of_bare hsources bare hne
  | @direct content schema fields declared target plain hkeys hwrapper hnodes =>
    have hlegacy := legacyFields_eq_nil hsources ((bind_contentSchema? declared).trans target) id
    have hentries : plan.entries = fields.map BodyNode.leaf := by
      rw [BodyPlan.entries, show plan.legacyFields = [] from hlegacy, hnodes]
      rfl
    rw [show plan.wrapper = none from hwrapper, BodyPlan.fits_iff_of_leaves hentries, hkeys,
      fits_iff_of_content hsources declared target]
    constructor
    · rintro (⟨rfl, -, members⟩ | ⟨_, _, -, wraps, -⟩)
      · exact ⟨rfl, members⟩
      · exact absurd wraps (plain _ _)
    · rintro ⟨rfl, members⟩
      exact .inl ⟨rfl, plain, members⟩
  | @wrapped content schema property inner shared s declared target wraps hwrapper hnodes =>
    have hlegacy := legacyFields_eq_nil hsources ((bind_contentSchema? declared).trans target) id
    have hentries : plan.entries = plan.nodes := by
      rw [BodyPlan.entries, show plan.legacyFields = [] from hlegacy]
      rfl
    rw [show plan.wrapper = _ from hwrapper, BodyPlan.fits, hentries, List.all_eq_true,
      show plan.nodes = _ from hnodes, Expansion.takesAmong_flattenAll_iff,
      fits_iff_of_content hsources declared target]
    constructor
    · rintro (⟨rfl, plain, -⟩ | ⟨_, _, rfl, wraps', members⟩)
      · exact absurd wraps (plain _ _)
      · obtain ⟨rfl, rfl⟩ := wraps.unique wraps'
        exact ⟨rfl, members⟩
    · rintro ⟨rfl, members⟩
      exact .inr ⟨_, _, rfl, wraps, members⟩

end Toolwright
