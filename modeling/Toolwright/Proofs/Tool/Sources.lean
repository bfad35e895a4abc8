import Toolwright.Proofs.Document.Distinct
import Toolwright.Proofs.Tool.Asked

/-!
# Where the entries of a plan come from

The body of an operation is declared by body parameters, whose properties become legacy fields
(`legacyFields_ofOperation`), and by a request body, which gives the other entries in one of three
ways (`BodyPart`, `bodyPart_ofOperation`): none, one for each of its properties, or those of what is
under the wrapper, flattened. `Request.bodySources` are the schemas that say so. If there is one
at most, no two entries have the same key (`keysDistinct_ofOperation`).
-/

namespace Toolwright

theorem Schema.propertyKeys_ne_nil {schema : Json} (h : isExpandable schema = true) :
    propertyKeys schema ≠ [] := by
  have hproperties := (Bool.and_eq_true_iff.mp h).2
  intro hnil
  rw [propertyKeys, Members.keys, List.map_eq_nil_iff] at hnil
  cases hdeclared : properties? schema with
  | none => rw [hdeclared] at hproperties; cases hproperties
  | some properties =>
    rw [hdeclared, Option.getD_some] at hnil
    rw [hdeclared, hnil] at hproperties
    cases hproperties

theorem Location.ofDeclared?_eq_body {declared : Option String} :
    ofDeclared? declared = some .body ↔ declared = some "body" := by
  cases declared with
  | none => simp [ofDeclared?]
  | some name =>
    constructor
    · intro h
      have hlabel := List.find?_some h
      simpa [label, eq_comm] using hlabel
    · intro h
      cases h
      rfl

/-! ### Schemas of bodies -/

namespace Request

/-- The schema of a declaration, if that is of a body parameter. -/
def bodySchema? (document : Document) (declaration : Json) : Option Json :=
  if (declaration.getString? "name").isSome ∧ declaration.getString? "in" = some "body" then
    (declaration.get? "schema").bind document.target?
  else none

/-- The schemas that declare the body of an operation. -/
def bodySources (document : Document) (operation : Operation) : List Json :=
  (document.declarations operation).filterMap (bodySchema? document) ++
    ((operation.entry.get? "requestBody").bind (contentSchema? document)).toList

theorem mem_foldl_merge {declarations merged : List Json} {declaration : Json}
    (h : declaration ∈ declarations.foldl Signature.merge merged) :
    declaration ∈ merged ∨ declaration ∈ declarations := by
  induction declarations generalizing merged with
  | nil => exact .inl h
  | cons first rest ih =>
    rcases ih h with h | h
    · rcases Signature.mem_merge h with h | rfl
      · exact .inl h
      · exact .inr List.mem_cons_self
    · exact .inr (List.mem_cons_of_mem _ h)

theorem distinct_of_mem_declarations {document : Document} {operation : Operation}
    (hoperation : operation ∈ document.operations) {declaration : Json}
    (h : declaration ∈ document.declarations operation) : declaration.Distinct := by
  obtain ⟨hitem, hentry⟩ := Document.distinct_of_mem_operations hoperation
  have hlisted : ∀ value : Json, value.Distinct →
      ∀ declared ∈ ((value.get? "parameters").bind Json.items?).getD [], declared.Distinct := by
    intro value hvalue declared hdeclared
    cases hlist : (value.get? "parameters").bind Json.items? with
    | none => rw [hlist] at hdeclared; exact absurd hdeclared List.not_mem_nil
    | some items =>
      rw [hlist] at hdeclared
      obtain ⟨list, hget, hitems⟩ := Option.bind_eq_some_iff.mp hlist
      exact (hvalue.get? hget).items hitems declared hdeclared
  rcases mem_foldl_merge h with h | h
  · exact absurd h List.not_mem_nil
  · obtain ⟨declared, hdeclared, htarget⟩ := List.mem_filterMap.mp h
    refine Document.distinct_target? ?_ htarget
    rcases List.mem_append.mp hdeclared with hdeclared | hdeclared
    · exact hlisted operation.pathItem hitem declared hdeclared
    · exact hlisted operation.entry hentry declared hdeclared

/-- No object in a schema that declares a body has a key twice. -/
theorem distinct_of_mem_bodySources {document : Document} {operation : Operation}
    (hoperation : operation ∈ document.operations) {schema : Json}
    (h : schema ∈ bodySources document operation) : schema.Distinct := by
  rcases List.mem_append.mp h with h | h
  · obtain ⟨declaration, hdeclaration, hschema⟩ := List.mem_filterMap.mp h
    unfold bodySchema? at hschema
    split_ifs at hschema
    obtain ⟨declared, hget, htarget⟩ := Option.bind_eq_some_iff.mp hschema
    have hdistinct := distinct_of_mem_declarations hoperation hdeclaration
    exact Document.distinct_target? (hdistinct.get? hget) htarget
  · obtain ⟨declared, hget, hschema⟩ := Option.bind_eq_some_iff.mp (Option.mem_toList.mp h)
    obtain ⟨inner, hinner, htarget⟩ := Option.bind_eq_some_iff.mp hschema
    obtain ⟨body, hbody, hpointer⟩ := Option.bind_eq_some_iff.mp hinner
    have hentry := (Document.distinct_of_mem_operations hoperation).2
    exact Document.distinct_target?
      ((Document.distinct_target? (hentry.get? hget) hbody).pointer? hpointer) htarget

theorem bind_contentSchema? {document : Document} {entry content : Json}
    (declared : (entry.get? "requestBody").bind (content? document) = some content) :
    (entry.get? "requestBody").bind (contentSchema? document) = document.target? content := by
  obtain ⟨body, hbody, hcontent⟩ := Option.bind_eq_some_iff.mp declared
  rw [hbody, Option.bind_some, contentSchema?, hcontent, Option.bind_some]

/-- Where a request body has a schema and there is one source at most, no body parameter declares
anything. -/
theorem bodySchemas_eq_nil {document : Document} {operation : Operation} {schema : Json}
    (hsources : (bodySources document operation).length ≤ 1)
    (h : (operation.entry.get? "requestBody").bind (contentSchema? document) = some schema) :
    (document.declarations operation).filterMap (bodySchema? document) = [] := by
  rw [bodySources, h, Option.toList_some, List.length_append, List.length_singleton] at hsources
  exact List.length_eq_zero_iff.mp (by omega)

/-- `Wraps document schema property inner`: the wrapper is all that a schema declares, and it leads to an
object with properties. -/
structure Wraps (document : Document) (schema property inner : Json) : Prop where
  only : Schema.properties? schema = some [(wrapperKey, property)]
  target : document.target? property = some inner
  expandable : Schema.isExpandable inner = true

theorem Wraps.wrapped?_eq {document : Document} {schema property inner : Json}
    (h : Wraps document schema property inner) :
    wrapped? document schema = some (inner, property.reference?) := by
  rw [wrapped?, h.only]
  dsimp only
  rw [if_pos rfl, h.target, Option.filter_some, if_pos h.expandable]
  rfl

theorem exists_wraps {document : Document} {schema inner : Json} {reference : Option String}
    (h : wrapped? document schema = some (inner, reference)) :
    ∃ property, Wraps document schema property inner ∧ property.reference? = reference := by
  unfold wrapped? at h
  split at h
  · rename_i key property hproperties
    split_ifs at h with hkey
    obtain ⟨found, hfound, heq⟩ := Option.map_eq_some_iff.mp h
    cases heq
    obtain ⟨htarget, hexpandable⟩ := Option.filter_eq_some_iff.mp hfound
    exact ⟨property, ⟨hkey ▸ hproperties, htarget, hexpandable⟩, rfl⟩
  · cases h

theorem Wraps.unique {document : Document} {schema property inner property' inner' : Json}
    (h : Wraps document schema property inner) (h' : Wraps document schema property' inner') :
    property = property' ∧ inner = inner' := by
  cases h.only.symm.trans h'.only
  cases h.target.symm.trans h'.target
  exact ⟨rfl, rfl⟩

/-- What is wrapped is distinct if the schema around it is. -/
theorem Wraps.distinct {document : Document} {schema property inner : Json}
    (h : Wraps document schema property inner) (hdistinct : schema.Distinct) : inner.Distinct :=
  Document.distinct_target? ((Schema.distinct_properties hdistinct h.only).2 _ List.mem_cons_self)
    h.target

end Request

/-! ### Keys at the top of a plan -/

variable [Romanization]

theorem Expansion.keys_flattenAll (shared path source : List String) (s : Signature)
    (tree : List (Property × Expansion)) :
    (flattenAll shared path source s tree).1.map BodyNode.key = tree.map (·.1.name) := by
  induction tree generalizing s with
  | nil => rfl
  | cons head rest ih =>
    obtain ⟨property, expansion⟩ := head
    rw [flattenAll, List.map_cons, List.map_cons, key_flatten, ih]

namespace Expansion

mutual

theorem keysDistinct_flatten {shared path source : List String} {property : Property}
    {s : Signature} : ∀ {expansion : Expansion},
    (∀ references properties, expansion = object references properties → NamesDistinct properties) →
      (flatten shared path source property s expansion).1.KeysDistinct
  | .object references properties, h => by
    rw [flatten]
    exact keysDistinct_flattenAll (h references properties rfl)
  | .leaf _ _, _ | .recursive _, _ | .unresolved _, _ => by
    rw [flatten]
    exact trivial

/-- Properties with different names become entries with different keys. -/
theorem keysDistinct_flattenAll {shared path source : List String} {s : Signature} :
    ∀ {tree : List (Property × Expansion)}, NamesDistinct tree →
      BodyNode.KeysDistinctAll (flattenAll shared path source s tree).1
  | [], _ => trivial
  | (property, expansion) :: rest, h => by
    obtain ⟨hhere, hbelow⟩ := h
    obtain ⟨hfresh, hrest⟩ := List.nodup_cons.mp hhere
    rw [flattenAll, BodyNode.KeysDistinctAll, key_flatten, keys_flattenAll]
    refine ⟨hfresh, keysDistinct_flatten fun references properties he => ?_,
      keysDistinct_flattenAll (.intro hrest fun p references properties hmem =>
        hbelow p references properties (List.mem_cons_of_mem _ hmem))⟩
    exact hbelow property references properties (he ▸ List.mem_cons_self)

end

end Expansion

namespace Request

variable {document : Document} {r : Request}

theorem keys_addProperties (s : Signature) (schema : Json) (properties : List (String × Json)) :
    (s.addProperties document schema properties).1.map (·.key) = Members.keys properties := by
  induction properties generalizing s with
  | nil => rfl
  | cons property rest ih =>
    obtain ⟨name, declared⟩ := property
    rw [Signature.addProperties, List.map_cons, ih]
    rfl

theorem legacyFields_addBodyParameter (declaration : Json) (name : String) :
    (r.addBodyParameter document declaration name).body.legacyFields.map (·.key) =
      r.body.legacyFields.map (·.key) ++
        (((declaration.get? "schema").bind document.target?).map Schema.propertyKeys).getD [] := by
  unfold addBodyParameter
  cases declaration.get? "schema" with
  | none => exact (List.append_nil _).symm
  | some schema =>
    dsimp only [Option.bind_some]
    rw [← r.signature.resolve_fst document schema]
    rcases r.signature.resolve document schema with ⟨target, t⟩
    cases target with
    | none => exact (List.append_nil _).symm
    | some target =>
      dsimp only
      rw [List.map_append, keys_addProperties]
      rfl

theorem legacyFields_addDeclaration (document : Document) (r : Request) (declaration : Json) :
    (addDeclaration document r declaration).body.legacyFields.map (·.key) =
      r.body.legacyFields.map (·.key) ++
        ((bodySchema? document declaration).map Schema.propertyKeys).getD [] := by
  have hkeep : ∀ r' : Request, r'.body = r.body → bodySchema? document declaration = none →
      r'.body.legacyFields.map (·.key) = r.body.legacyFields.map (·.key) ++
        ((bodySchema? document declaration).map Schema.propertyKeys).getD [] := by
    intro r' hbody hnone
    rw [hbody, hnone]
    exact (List.append_nil _).symm
  unfold addDeclaration
  cases hname : declaration.getString? "name" with
  | none => exact hkeep _ rfl (by rw [bodySchema?, hname]; rfl)
  | some name =>
    have hother (h : declaration.getString? "in" ≠ some "body") :
        bodySchema? document declaration = none := if_neg fun hb => h hb.2
    dsimp only
    by_cases hform : declaration.getString? "in" = some "formData"
    · rw [if_pos hform]
      exact hkeep _ rfl (hother (by rw [hform]; decide))
    · rw [if_neg hform]
      have hbody : Location.ofDeclared? (declaration.getString? "in") = some .body ↔
          declaration.getString? "in" = some "body" := Location.ofDeclared?_eq_body
      cases hlocation : Location.ofDeclared? (declaration.getString? "in") with
      | none => exact hkeep _ rfl (hother fun h => by rw [hbody.mpr h] at hlocation; cases hlocation)
      | some location =>
        cases location with
        | body =>
          rw [bodySchema?, if_pos ⟨by rw [hname]; rfl, hbody.mp hlocation⟩]
          exact legacyFields_addBodyParameter declaration name
        | query | path | header =>
          exact hkeep _ rfl (hother fun h => by rw [hbody.mpr h] at hlocation; cases hlocation)

theorem legacyFields_addDeclarations (document : Document) (r : Request) (declarations : List Json) :
    (declarations.foldl (addDeclaration document) r).body.legacyFields.map (·.key) =
      r.body.legacyFields.map (·.key) ++
        (declarations.filterMap (bodySchema? document)).flatMap Schema.propertyKeys := by
  induction declarations generalizing r with
  | nil => exact (List.append_nil _).symm
  | cons declaration rest ih =>
    rw [List.foldl_cons, ih, legacyFields_addDeclaration, List.append_assoc]
    cases hschema : bodySchema? document declaration with
    | none => rw [List.filterMap_cons_none hschema]; rfl
    | some schema => rw [List.filterMap_cons_some hschema, List.flatMap_cons]; rfl

theorem legacyFields_addSchema (document : Document) (r : Request) (reference : Option String)
    (schema : Json) :
    (r.addSchema document reference schema).body.legacyFields = r.body.legacyFields := by
  unfold addSchema
  cases wrapped? document schema <;> rfl

/-- What a request body makes of the plan of an operation. -/
inductive BodyPart (document : Document) (operation : Operation) (plan : BodyPlan) : Prop where
  /-- Nothing, if there is no schema with properties. -/
  | nothing (wrapper : plan.wrapper = none) (nodes : plan.nodes = [])
      (bare : ∀ schema,
        (operation.entry.get? "requestBody").bind (contentSchema? document) = some schema →
          Schema.propertyKeys schema = [])
  /-- Entries for the properties of its schema as they are. -/
  | direct {content schema : Json} {fields : List BodyField}
      (declared : (operation.entry.get? "requestBody").bind (content? document) = some content)
      (target : document.target? content = some schema)
      (plain : ∀ property inner, ¬ Wraps document schema property inner)
      (keys : fields.map (·.key) = Schema.propertyKeys schema)
      (wrapper : plan.wrapper = none) (nodes : plan.nodes = fields.map BodyNode.leaf)
  /-- What is under the wrapper, flattened. -/
  | wrapped {content schema property inner : Json} {shared : List String} {s : Signature}
      (declared : (operation.entry.get? "requestBody").bind (content? document) = some content)
      (target : document.target? content = some schema)
      (wraps : Wraps document schema property inner)
      (wrapper : plan.wrapper = some wrapperKey)
      (nodes : plan.nodes = (Expansion.flattenAll shared [] [] s (Expansion.ofSchema document
        (content.reference?.toList ++ property.reference?.toList) inner)).1)

/-- A schema adds its properties as they are or flattens what is wrapped. -/
theorem bodyPart_addSchema {operation : Operation} {content schema : Json}
    (declared : (operation.entry.get? "requestBody").bind (content? document) = some content)
    (target : document.target? content = some schema) (hnodes : r.body.nodes = [])
    (hwrapper : r.body.wrapper = none) :
    BodyPart document operation (r.addSchema document content.reference? schema).body := by
  unfold addSchema
  cases hwrapped : wrapped? document schema with
  | none =>
    have hkeys : (r.signature.addProperties document schema _).1.map (·.key) =
        Schema.propertyKeys schema := keys_addProperties ..
    refine .direct declared target (fun property inner hwraps => ?_) hkeys hwrapper ?_
    · cases hwrapped.symm.trans hwraps.wrapped?_eq
    dsimp only
    rw [hnodes, List.nil_append]
  | some found =>
    obtain ⟨inner, reference⟩ := found
    obtain ⟨property, hwraps, rfl⟩ := exists_wraps hwrapped
    exact .wrapped declared target hwraps rfl rfl

/-! ### The plan of an operation -/

/-- The legacy fields of an operation are the properties of its body parameters. -/
theorem legacyFields_ofOperation (document : Document) (id : String) (operation : Operation) :
    (ofOperation document id operation).body.legacyFields.map (·.key) =
      ((document.declarations operation).filterMap (bodySchema? document)).flatMap
        Schema.propertyKeys := by
  obtain ⟨t, -, hr⟩ := ofOperation_eq document id operation
  have hdeclared := legacyFields_addDeclarations document { signature := t }
    (document.declarations operation)
  rw [hr]
  dsimp only
  cases operation.entry.get? "requestBody" with
  | none => exact hdeclared
  | some declared =>
    rw [Option.map_some, Option.getD_some]
    rcases addRequestBody_cases document _ declared with
      ⟨u, -, -, -, hadd⟩ | ⟨u, content, schema, -, -, -, -, hadd⟩
    · rw [hadd]
      exact hdeclared
    · rw [hadd, legacyFields_addSchema]
      exact hdeclared

/-- The other entries are those of the request body. -/
theorem bodyPart_ofOperation (document : Document) (id : String) (operation : Operation) :
    BodyPart document operation (ofOperation document id operation).body := by
  obtain ⟨t, -, hr⟩ := ofOperation_eq document id operation
  have hempty : (Request.body { signature := t }).nodes = [] := rfl
  obtain ⟨-, hnodes, hwrapper⟩ :=
    extends_addDeclarations document hempty (document.declarations operation)
  rw [hr]
  dsimp only
  cases hbody : operation.entry.get? "requestBody" with
  | none => exact .nothing hwrapper hnodes (by rw [hbody]; exact nofun)
  | some declared =>
    rw [Option.map_some, Option.getD_some]
    rcases addRequestBody_cases document _ declared with
      ⟨u, -, -, hbare, hadd⟩ | ⟨u, content, schema, -, hcontent, hschema, -, hadd⟩
    · rw [hadd]
      refine .nothing hwrapper hnodes fun schema hschema => ?_
      rw [hbody, Option.bind_some] at hschema
      rw [Schema.propertyKeys, hbare schema hschema]
      rfl
    · rw [hadd]
      exact bodyPart_addSchema (by rw [hbody]; exact hcontent) hschema hnodes hwrapper

/-- If there is a wrapper, it is `request_data`, and there is something to wrap. -/
theorem wrapper_ofOperation (document : Document) (id : String) (operation : Operation) :
    let plan := (ofOperation document id operation).body
    plan.wrapper = none ∨ plan.wrapper = some wrapperKey ∧ plan.nodes ≠ [] := by
  cases bodyPart_ofOperation document id operation with
  | nothing hwrapper => exact .inl hwrapper
  | direct _ _ _ _ hwrapper => exact .inl hwrapper
  | @wrapped content _ property inner shared s _ _ hwraps hwrapper hnodes =>
    refine .inr ⟨hwrapper, fun hnil => ?_⟩
    have hkeys := Expansion.keys_flattenAll shared [] [] s
      (Expansion.ofSchema document (content.reference?.toList ++ property.reference?.toList) inner)
    rw [← hnodes, hnil, Expansion.names_ofSchema] at hkeys
    exact Schema.propertyKeys_ne_nil hwraps.expandable hkeys.symm

theorem legacyFields_eq_nil {document : Document} {operation : Operation} {schema : Json}
    (hsources : (bodySources document operation).length ≤ 1)
    (h : (operation.entry.get? "requestBody").bind (contentSchema? document) = some schema)
    (id : String) : (ofOperation document id operation).body.legacyFields = [] := by
  have hkeys := legacyFields_ofOperation document id operation
  rw [bodySchemas_eq_nil hsources h] at hkeys
  exact List.map_eq_nil_iff.mp hkeys

/-- **With one source at most, entries have different keys**, and they are all legacy fields or all
entries of a request body. -/
theorem keysDistinct_ofOperation {document : Document} {operation : Operation}
    (hoperation : operation ∈ document.operations)
    (hsources : (bodySources document operation).length ≤ 1) (id : String) :
    let plan := (ofOperation document id operation).body
    BodyNode.KeysDistinctAll plan.entries ∧
      (plan.legacyFields = [] ∨ plan.nodes = [] ∧ plan.wrapper = none) := by
  intro plan
  have hcontent : ∀ {content schema : Json},
      (operation.entry.get? "requestBody").bind (content? document) = some content →
        document.target? content = some schema → schema.Distinct ∧ plan.legacyFields = [] := by
    intro content schema hdeclared htarget
    have hschema := (bind_contentSchema? hdeclared).trans htarget
    refine ⟨distinct_of_mem_bodySources hoperation ?_, legacyFields_eq_nil hsources hschema id⟩
    rw [bodySources, hschema]
    exact List.mem_append_right _ (List.mem_singleton_self schema)
  cases bodyPart_ofOperation document id operation with
  | nothing hwrapper hnodes =>
    refine ⟨?_, .inr ⟨hnodes, hwrapper⟩⟩
    rw [BodyPlan.entries, hnodes, List.append_nil]
    refine BodyNode.keysDistinctAll_map_leaf ?_
    have hdistinct : ∀ schema ∈ (document.declarations operation).filterMap (bodySchema? document),
        schema.Distinct := fun schema hschema =>
      distinct_of_mem_bodySources hoperation (List.mem_append_left _ hschema)
    rw [bodySources] at hsources
    rw [legacyFields_ofOperation]
    generalize (document.declarations operation).filterMap (bodySchema? document) = schemas
      at hsources hdistinct
    rcases schemas with _ | ⟨schema, _ | ⟨other, rest⟩⟩
    · exact List.nodup_nil
    · rw [List.flatMap_singleton]
      exact Schema.nodup_propertyKeys (hdistinct schema List.mem_cons_self)
    · simp at hsources
  | direct hdeclared htarget _ hkeys _ hnodes =>
    obtain ⟨hdistinct, hempty⟩ := hcontent hdeclared htarget
    refine ⟨?_, .inl hempty⟩
    rw [BodyPlan.entries, hempty, hnodes]
    refine BodyNode.keysDistinctAll_map_leaf ?_
    rw [hkeys]
    exact Schema.nodup_propertyKeys hdistinct
  | wrapped hdeclared htarget hwraps _ hnodes =>
    obtain ⟨hdistinct, hempty⟩ := hcontent hdeclared htarget
    refine ⟨?_, .inl hempty⟩
    rw [BodyPlan.entries, hempty, hnodes]
    exact Expansion.keysDistinct_flattenAll
      (Expansion.namesDistinct_ofSchema document _ (hwraps.distinct hdistinct))

end Request

end Toolwright
