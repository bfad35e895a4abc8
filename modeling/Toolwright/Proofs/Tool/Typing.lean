import Toolwright.Proofs.Tool.Merging
import Toolwright.Proofs.Tool.Unfolding

/-!
# Where types are read

The type of a parameter is read off a schema, and a schema may be a reference, which may lead to
another one, and so on. How much of the chain is followed depends on where the parameter is declared
(`Reach`): for a parameter outside of the body nothing of it, for a property at the top of a body one
step, and for a leaf of a nested body all of it. Such a leaf is not followed if it comes back to a
reference that is being followed already; but on the way down only objects are met, so that this costs a
type only if the reference is one by which the body itself was reached (`Reading.type_whole_eq_iff`).
`Request.readings` lists the parameters of an operation in this view.

A schema that is no reference has one type wherever it is used. With references it has the
type of the schema at the end only where that is reached, or by coincidence: `types_ofOperation`
says when, for every parameter. One schema can so have two types in one operation
(`mistyped_ofCounts`).
-/

namespace Toolwright

/-! ### Chains met from elsewhere -/

/-- The schema at the end of the chain that begins with a reference. -/
def Document.Leads (document : Document) (reference : String) (target : Json) : Prop :=
  ∃ next followed, document.resolve reference = .ok next ∧
    Follows document [] [] next followed (.found followed target)

theorem Document.Leads.unique {document : Document} {reference : String} {target other : Json}
    (h : document.Leads reference target) (h' : document.Leads reference other) : target = other := by
  obtain ⟨next, followed, hnext, hchain⟩ := h
  obtain ⟨next', followed', hnext', hchain'⟩ := h'
  rw [hnext, Except.ok.injEq] at hnext'
  subst hnext'
  cases (hchain.unique hchain').2
  rfl

namespace Follows

variable {document : Document} {above chain followed references : List String} {schema reached : Json}

theorem chain_prefix {target : Target} (h : Follows document above chain schema followed target) :
    chain <+: followed := by
  induction h with
  | found _ => exact List.prefix_refl _
  | recursive _ _ => exact List.prefix_refl _
  | unresolved _ _ _ => exact List.prefix_append _ _
  | next _ _ _ _ ih => exact (List.prefix_append _ _).trans ih

/-- A chain that follows no reference more has reached its end. -/
theorem eq_of_length_le
    (h : Follows document above chain schema followed (.found references reached))
    (hlength : followed.length ≤ chain.length) : reached = schema := by
  cases h with
  | found _ => rfl
  | next _ _ _ rest =>
    have hlonger := rest.chain_prefix.length_le
    rw [List.length_append, List.length_singleton] at hlonger
    omega

/-- A chain that reaches its end reaches it also if nothing is being followed and some of what led to it
is forgotten. -/
theorem forget {first rest : List String}
    (h : Follows document above (first ++ rest) schema followed (.found references reached)) :
    ∃ others, Follows document [] rest schema others (.found others reached) := by
  generalize hchain : first ++ rest = chain at h
  generalize htarget : Target.found references reached = target at h
  induction h generalizing rest with
  | found end_ =>
    cases htarget
    exact ⟨rest, .found end_⟩
  | recursive _ _ => cases htarget
  | unresolved _ _ _ => cases htarget
  | @next chain followed schema next reference target link fresh step _ ih =>
    subst hchain
    obtain ⟨others, h⟩ := ih (List.append_assoc first rest [reference]).symm htarget
    have hfresh : ¬ (reference ∈ [] ∨ reference ∈ rest) := fun hseen =>
      fresh (.inr (List.mem_append_right first (hseen.resolve_left List.not_mem_nil)))
    exact ⟨others, .next link hfresh step h⟩

/-- Every reference on the way leads to the end. -/
theorem leads {reference : String}
    (h : Follows document above chain schema followed (.found references reached))
    (hmem : reference ∈ followed) (hnew : reference ∉ chain) : document.Leads reference reached := by
  generalize htarget : Target.found references reached = target at h
  induction h with
  | found _ => exact absurd hmem hnew
  | recursive _ _ => cases htarget
  | unresolved _ _ _ => cases htarget
  | @next chain followed schema next first target link fresh step rest ih =>
    by_cases hfirst : reference = first
    · subst hfirst
      rw [← htarget, ← List.append_nil (chain ++ [reference])] at rest
      obtain ⟨others, h⟩ := rest.forget
      exact ⟨next, others, step, h⟩
    · refine ih hmem (fun hseen => ?_) htarget
      rcases List.mem_append.mp hseen with hseen | hseen
      · exact hnew hseen
      · exact hfirst (List.mem_singleton.mp hseen)

/-- While other references are being followed a chain leads to the same schema, unless it meets one of
these. -/
theorem found_or_recursive
    (h : Follows document [] chain schema followed (.found references reached))
    (hchain : chain.Disjoint above) :
    (followed.Disjoint above ∧
        Follows document above chain schema followed (.found references reached)) ∨
      (¬ followed.Disjoint above ∧
        ∃ others reference, Follows document above chain schema others (.recursive reference)) := by
  generalize htarget : Target.found references reached = target at h
  induction h with
  | found end_ =>
    cases htarget
    exact .inl ⟨hchain, .found end_⟩
  | recursive _ _ => cases htarget
  | unresolved _ _ _ => cases htarget
  | @next chain followed schema next reference target link fresh step rest ih =>
    by_cases hmeets : reference ∈ above
    · have hfollowed : reference ∈ followed :=
        rest.chain_prefix.subset (List.mem_append_right _ (List.mem_singleton_self reference))
      exact .inr ⟨fun hdisjoint => hdisjoint hfollowed hmeets, chain, reference,
        .recursive link (.inl hmeets)⟩
    · have hfresh : ¬ (reference ∈ above ∨ reference ∈ chain) :=
        fun h => h.elim hmeets fun h => fresh (.inr h)
      have hchain' : (chain ++ [reference]).Disjoint above :=
        List.disjoint_append_left.mpr ⟨hchain, List.singleton_disjoint.mpr hmeets⟩
      rcases ih hchain' htarget with ⟨hdisjoint, h⟩ | ⟨hmet, others, other, h⟩
      · exact .inl ⟨hdisjoint, .next link hfresh step h⟩
      · exact .inr ⟨hmet, others, other, .next link hfresh step h⟩

end Follows

/-! ### Readings -/

/-- An object with properties has the type of objects. -/
theorem Schema.parameterType_eq_object {schema : Json} (h : isExpandable schema = true) :
    parameterType schema = .object := by
  rw [isExpandable, Bool.and_eq_true, beq_iff_eq] at h
  rw [parameterType, h.1]
  rfl

/-- How far references are followed for a type. -/
inductive Reach where
  /-- Not at all. -/
  | written
  | once
  /-- To the end of the chain, unless it meets a reference that is being followed already: one of those by
  which the body was reached, or one on the way down from there. -/
  | whole (outer inner : List String)

/-- Where the type of a parameter is read. -/
structure Reading where
  name : String
  location : Location
  /-- The schema as written, perhaps a reference. -/
  schema : Json
  reach : Reach

/-- The type of what could not be followed to its end is that of objects. -/
def Target.type : Target → ParameterType
  | found _ schema => Schema.parameterType schema
  | _ => .object

/-- A candidate as far as its type is concerned. -/
def Candidate.typed (candidate : Candidate) : String × Location × ParameterType :=
  (candidate.declaredName, candidate.location, candidate.type)

namespace Reading

/-- The type that a reading gives. -/
def type (document : Document) (reading : Reading) : ParameterType :=
  match reading.reach with
  | .written => Schema.parameterType reading.schema
  | .once => ((document.target? reading.schema).map Schema.parameterType).getD .object
  | .whole outer inner => (Target.ofSchema document (outer ++ inner) reading.schema).type

/-- What a reading gives of a candidate. -/
def typed (document : Document) (reading : Reading) : String × Location × ParameterType :=
  (reading.name, reading.location, reading.type document)

/-- Whether a reading gives the type of the schema to which some references lead: they are followed that
far, or it is the same type by coincidence. On the way down only objects are met, so that it is those by
which the body was reached that count. -/
def ReadsEnd (document : Document) (reading : Reading) (references : List String) (target : Json) :
    Prop :=
  match reading.reach with
  | .written => references = [] ∨ Schema.parameterType reading.schema = Schema.parameterType target
  | .once =>
    references.length ≤ 1 ∨ ∃ next, document.target? reading.schema = some next ∧
      Schema.parameterType next = Schema.parameterType target
  | .whole outer _ => references.Disjoint outer ∨ Schema.parameterType target = .object

/-- The references on the way down to a leaf lead to objects. -/
def ThroughObjects (document : Document) (reading : Reading) : Prop :=
  ∀ outer inner, reading.reach = .whole outer inner → ∀ reference ∈ inner,
    ∃ object, document.Leads reference object ∧ Schema.isExpandable object = true

variable {document : Document} {reading : Reading} {references : List String} {target : Json}

theorem type_written_eq_iff
    (h : Follows document [] [] reading.schema references (.found references target)) :
    Schema.parameterType reading.schema = Schema.parameterType target ↔
      references = [] ∨ Schema.parameterType reading.schema = Schema.parameterType target := by
  refine ⟨.inr, fun hreads => hreads.elim (fun hnil => ?_) id⟩
  rw [h.eq_of_length_le (Nat.le_of_eq (congrArg List.length hnil))]

theorem type_once_eq_iff
    (h : Follows document [] [] reading.schema references (.found references target)) :
    ((document.target? reading.schema).map Schema.parameterType).getD .object =
        Schema.parameterType target ↔
      references.length ≤ 1 ∨ ∃ next, document.target? reading.schema = some next ∧
        Schema.parameterType next = Schema.parameterType target := by
  cases h with
  | found end_ =>
    have htarget : document.target? reading.schema = some reading.schema := by
      rw [Document.target?, end_]
    rw [htarget]
    exact iff_of_true rfl (.inl (Nat.zero_le 1))
  | @next _ _ _ next reference _ link _ step rest =>
    have htarget : document.target? reading.schema = some next := by
      rw [Document.target?, link]
      dsimp only
      rw [step]
      rfl
    rw [htarget, Option.map_some, Option.getD_some]
    constructor
    · intro hsame
      exact .inr ⟨next, rfl, hsame⟩
    · rintro (hlength | ⟨_, ⟨⟩, hsame⟩)
      · rw [rest.eq_of_length_le hlength]
      · exact hsame

theorem type_whole_eq_iff {outer inner : List String}
    (hinner : ∀ reference ∈ inner,
      ∃ object, document.Leads reference object ∧ Schema.isExpandable object = true)
    (h : Follows document [] [] reading.schema references (.found references target)) :
    (Target.ofSchema document (outer ++ inner) reading.schema).type = Schema.parameterType target ↔
      references.Disjoint outer ∨ Schema.parameterType target = .object := by
  rcases h.found_or_recursive (List.disjoint_nil_left (outer ++ inner)) with
    ⟨hdisjoint, hfound⟩ | ⟨hmeets, _, _, hrecursive⟩
  · rw [follows_ofSchema hfound]
    exact iff_of_true rfl (.inl (List.disjoint_append_right.mp hdisjoint).1)
  · rw [follows_ofSchema hrecursive]
    refine ⟨fun hobject => .inr hobject.symm, fun hreads => hreads.elim (fun houter => ?_) Eq.symm⟩
    -- Then it is a reference on the way down that is met, and the chain ends where that leads.
    by_contra hne
    refine hmeets (List.disjoint_append_right.mpr ⟨houter, fun reference hmem hmet => hne ?_⟩)
    obtain ⟨object, hleads, hexpandable⟩ := hinner reference hmet
    rw [(h.leads hmem List.not_mem_nil).unique hleads, Schema.parameterType_eq_object hexpandable]
    rfl

/-- When a reading gives the type of the schema at the end of a chain. -/
theorem type_eq_iff (hobjects : reading.ThroughObjects document)
    (h : Follows document [] [] reading.schema references (.found references target)) :
    reading.type document = Schema.parameterType target ↔
      reading.ReadsEnd document references target := by
  unfold type ReadsEnd
  cases hreach : reading.reach with
  | written => exact type_written_eq_iff h
  | once => exact type_once_eq_iff h
  | whole outer inner => exact type_whole_eq_iff (hobjects outer inner hreach) h

/-- A schema that is no reference is read to its end everywhere. -/
theorem type_eq_of_reference?_eq_none (hobjects : reading.ThroughObjects document)
    (h : reading.schema.reference? = none) :
    reading.type document = Schema.parameterType reading.schema := by
  refine (type_eq_iff hobjects (.found h)).mpr ?_
  unfold ReadsEnd
  cases reading.reach with
  | written => exact .inl rfl
  | once => exact .inl (Nat.zero_le 1)
  | whole outer inner => exact .inl (List.disjoint_nil_left outer)

end Reading

namespace Expansion

mutual

/-- The readings of the leaves below a property, in order. -/
def readings (outer inner : List String) (property : Property) : Expansion → List Reading
  | object references properties => readingsOfAll outer (inner ++ references) properties
  | leaf _ _ | recursive _ | unresolved _ =>
    [⟨property.name, .body, property.declared, .whole outer inner⟩]

/-- The readings of the leaves below some properties, in order. -/
def readingsOfAll (outer inner : List String) : List (Property × Expansion) → List Reading
  | [] => []
  | (property, expansion) :: rest =>
    readings outer inner property expansion ++ readingsOfAll outer inner rest

end

theorem readings_ofTarget (outer inner : List String) (property : Property) (target : Target) :
    readings outer inner property (ofTarget target) =
      [⟨property.name, .body, property.declared, .whole outer inner⟩] := by
  cases target <;> rfl

/-- The way down to a leaf goes through objects. -/
theorem throughObjects_readingsOfAll (document : Document) (outer : List String) (schema : Json) :
    ∀ reading ∈ readingsOfAll outer [] (ofSchema document outer schema),
      reading.ThroughObjects document := by
  have hgeneral : ∀ inner, outer = outer ++ inner →
      (∀ reference ∈ inner,
        ∃ object, document.Leads reference object ∧ Schema.isExpandable object = true) →
      ∀ reading ∈ readingsOfAll outer inner
          (ofProperties document outer schema (Schema.propertyList schema)),
        reading.ThroughObjects document := by
    refine induction_propertyList document
      (motive := fun above schema properties => ∀ inner, above = outer ++ inner →
        (∀ reference ∈ inner,
          ∃ object, document.Leads reference object ∧ Schema.isExpandable object = true) →
        ∀ reading ∈ readingsOfAll outer inner (ofProperties document above schema properties),
          reading.ThroughObjects document)
      (fun _ _ _ _ hreading => absurd hreading List.not_mem_nil)
      (fun chain outside hrest inner habove hinner reading hreading => ?_)
      (fun chain expandable hbelow hrest inner habove hinner reading hreading => ?_) outer schema
    · rw [ofProperties_cons, ofProperty_eq_ofTarget (follows_ofSchema chain) outside, readingsOfAll,
        readings_ofTarget, List.singleton_append] at hreading
      rcases List.mem_cons.mp hreading with rfl | hreading
      · rintro _ _ ⟨⟩
        exact hinner
      · exact hrest inner habove hinner reading hreading
    · rw [ofProperties_cons, ofProperty_of_expanded (follows_ofSchema chain) expandable,
        readingsOfAll, readings] at hreading
      rcases List.mem_append.mp hreading with hreading | hreading
      · refine hbelow _ (by rw [habove, List.append_assoc]) (fun reference hmem => ?_) reading hreading
        rcases List.mem_append.mp hmem with hmem | hmem
        · exact hinner reference hmem
        · exact ⟨_, chain.leads hmem List.not_mem_nil, expandable⟩
      · exact hrest inner habove hinner reading hreading
  rw [ofSchema_eq_ofProperties]
  exact hgeneral [] (List.append_nil outer).symm fun _ hmem => absurd hmem List.not_mem_nil

end Expansion

/-! ### The readings of an operation -/

namespace Request

/-- The readings of the properties of a schema. -/
def readingsByProperties (schema : Json) : List Reading :=
  (Schema.propertyList schema).map fun entry => ⟨entry.1, .body, entry.2, .once⟩

/-- The readings of a declared parameter. -/
def readingsByDeclaration (document : Document) (declaration : Json) : List Reading :=
  match declaration.getString? "name" with
  | none => []
  | some name =>
    match Location.ofDeclared? (declaration.getString? "in") with
    | some .body =>
      match (declaration.get? "schema").bind document.target? with
      | some schema => readingsByProperties schema
      | none => []
    | some location => [⟨name, location, (declaration.get? "schema").getD declaration, .written⟩]
    | none => []

/-- The readings of a body with a schema; `reference` is the one by which it was reached. -/
def readingsBySchema (document : Document) (reference : Option String) (schema : Json) :
    List Reading :=
  match wrapped? document schema with
  | some (inner, innerReference) =>
    let outer := reference.toList ++ innerReference.toList
    Expansion.readingsOfAll outer [] (Expansion.ofSchema document outer inner)
  | none => readingsByProperties schema

/-- The readings of a request body. -/
def readingsByBody (document : Document) (declared : Json) : List Reading :=
  match (document.target? declared).bind (Json.pointer? · "/content/application~1json/schema") with
  | none => []
  | some schema =>
    match document.target? schema with
    | none => []
    | some resolved =>
      if (Schema.propertyList resolved).isEmpty then []
      else readingsBySchema document schema.reference? resolved

/-- The readings of the parameters of an operation, in order. -/
def readings (document : Document) (operation : Operation) : List Reading :=
  (document.declarations operation).flatMap (readingsByDeclaration document) ++
    ((operation.entry.get? "requestBody").map (readingsByBody document)).getD []

variable {document : Document}

theorem throughObjects_of_mem_readingsByProperties {schema : Json} {reading : Reading}
    (h : reading ∈ readingsByProperties schema) : reading.ThroughObjects document := by
  obtain ⟨entry, -, rfl⟩ := List.mem_map.mp h
  rintro _ _ ⟨⟩

theorem throughObjects_of_mem_readingsByDeclaration {declaration : Json} {reading : Reading}
    (h : reading ∈ readingsByDeclaration document declaration) : reading.ThroughObjects document := by
  unfold readingsByDeclaration at h
  split at h
  · exact absurd h List.not_mem_nil
  · split at h
    · split at h
      · exact throughObjects_of_mem_readingsByProperties h
      · exact absurd h List.not_mem_nil
    · rw [List.mem_singleton.mp h]
      rintro _ _ ⟨⟩
    · exact absurd h List.not_mem_nil

theorem throughObjects_of_mem_readingsBySchema {reference : Option String} {schema : Json}
    {reading : Reading} (h : reading ∈ readingsBySchema document reference schema) :
    reading.ThroughObjects document := by
  unfold readingsBySchema at h
  split at h
  · exact Expansion.throughObjects_readingsOfAll document _ _ reading h
  · exact throughObjects_of_mem_readingsByProperties h

/-- The ways down to the leaves of an operation go through objects. -/
theorem throughObjects_of_mem_readings {operation : Operation} {reading : Reading}
    (h : reading ∈ readings document operation) : reading.ThroughObjects document := by
  rcases List.mem_append.mp h with h | h
  · obtain ⟨declaration, -, h⟩ := List.mem_flatMap.mp h
    exact throughObjects_of_mem_readingsByDeclaration h
  · cases hbody : operation.entry.get? "requestBody" with
    | none =>
      rw [hbody] at h
      exact absurd h List.not_mem_nil
    | some declared =>
      rw [hbody, Option.map_some, Option.getD_some, readingsByBody] at h
      split at h
      · exact absurd h List.not_mem_nil
      · split at h
        · exact absurd h List.not_mem_nil
        · split_ifs at h
          · exact absurd h List.not_mem_nil
          · exact throughObjects_of_mem_readingsBySchema h

end Request

/-! ### Types as they are read -/

section

variable [Romanization]

namespace Expansion

theorem typed_ofTarget (shared path source : List String) (property : Property) (target : Target) :
    (asked shared path source property (ofTarget target)).map Candidate.typed =
      [(property.name, .body, target.type)] := by
  cases target <;> rfl

/-- What the leaves below the properties of a schema ask for has the types that their readings give. -/
theorem typed_askedOfAll (document : Document) (shared outer : List String) (schema : Json) :
    (askedOfAll shared [] [] (ofSchema document outer schema)).map Candidate.typed =
      (readingsOfAll outer [] (ofSchema document outer schema)).map (Reading.typed document) := by
  have hgeneral : ∀ inner path source, outer = outer ++ inner →
      (askedOfAll shared path source
          (ofProperties document outer schema (Schema.propertyList schema))).map Candidate.typed =
        (readingsOfAll outer inner
          (ofProperties document outer schema (Schema.propertyList schema))).map
            (Reading.typed document) := by
    refine induction_propertyList document
      (motive := fun above schema properties => ∀ inner path source, above = outer ++ inner →
        (askedOfAll shared path source (ofProperties document above schema properties)).map
            Candidate.typed =
          (readingsOfAll outer inner (ofProperties document above schema properties)).map
            (Reading.typed document))
      (fun _ _ _ _ => rfl) (fun chain outside hrest inner path source habove => ?_)
      (fun chain expandable hbelow hrest inner path source habove => ?_) outer schema
    · have htarget := follows_ofSchema chain
      rw [ofProperties_cons, askedOfAll, readingsOfAll, List.map_append, List.map_append,
        ofProperty_eq_ofTarget htarget outside, typed_ofTarget, readings_ofTarget,
        hrest inner path source habove]
      rw [habove] at htarget
      rw [← htarget]
      rfl
    · rw [ofProperties_cons, askedOfAll, readingsOfAll, List.map_append, List.map_append,
        ofProperty_of_expanded (follows_ofSchema chain) expandable, asked, readings,
        hrest inner path source habove,
        hbelow (inner ++ _) _ _ (by rw [habove, List.append_assoc])]
  rw [ofSchema_eq_ofProperties]
  exact hgeneral [] [] [] (List.append_nil outer).symm

end Expansion

namespace Request

variable {document : Document}

theorem typed_askedByProperties (schema : Json) :
    (askedByProperties document schema).map Candidate.typed =
      (readingsByProperties schema).map (Reading.typed document) := by
  rw [askedByProperties, readingsByProperties, List.map_map, List.map_map]
  rfl

theorem typed_askedByDeclaration (declaration : Json) :
    (askedByDeclaration document declaration).map Candidate.typed =
      (readingsByDeclaration document declaration).map (Reading.typed document) := by
  unfold askedByDeclaration readingsByDeclaration
  cases declaration.getString? "name" with
  | none => rfl
  | some name =>
    cases Location.ofDeclared? (declaration.getString? "in") with
    | none => rfl
    | some location =>
      cases location with
      | body =>
        dsimp only
        cases (declaration.get? "schema").bind document.target? with
        | none => rfl
        | some schema => exact typed_askedByProperties schema
      | query | path | header => rfl

theorem typed_askedBySchema (reference : Option String) (schema : Json) :
    (askedBySchema document reference schema).map Candidate.typed =
      (readingsBySchema document reference schema).map (Reading.typed document) := by
  unfold askedBySchema readingsBySchema
  cases wrapped? document schema with
  | none => exact typed_askedByProperties schema
  | some found =>
    obtain ⟨inner, innerReference⟩ := found
    dsimp only
    exact Expansion.typed_askedOfAll document _ _ inner

theorem typed_askedByBody (declared : Json) :
    (askedByBody document declared).map Candidate.typed =
      (readingsByBody document declared).map (Reading.typed document) := by
  unfold askedByBody readingsByBody
  cases (document.target? declared).bind (Json.pointer? · "/content/application~1json/schema") with
  | none => rfl
  | some schema =>
    dsimp only
    cases document.target? schema with
    | none => rfl
    | some resolved =>
      dsimp only
      rw [← Schema.propertyList]
      split_ifs
      · rfl
      · exact typed_askedBySchema schema.reference? resolved

/-- What an operation asks for has the types that its readings give. -/
theorem typed_asked (document : Document) (operation : Operation) :
    (asked document operation).map Candidate.typed =
      (readings document operation).map (Reading.typed document) := by
  rw [asked, readings, List.map_append, List.map_append, List.map_flatMap, List.map_flatMap]
  congr 1
  · exact List.flatMap_congr fun declaration _ => typed_askedByDeclaration declaration
  · cases operation.entry.get? "requestBody" with
    | none => rfl
    | some declared => exact typed_askedByBody declared

/-- The types of parameters are those that the readings give. -/
theorem readings_ofOperation (document : Document) (id : String) (operation : Operation) :
    List.Forall₂ (fun reading p => p.declaredName = reading.name ∧ p.location = reading.location ∧
        p.type = reading.type document)
      (readings document operation) (ofOperation document id operation).signature.parameters := by
  have htyped : (readings document operation).map (Reading.typed document) =
      (ofOperation document id operation).signature.parameters.map
        fun p => p.toCandidate.typed := by
    rw [← typed_asked]
    refine map_eq_of_forall₂ (candidates_ofOperation document id operation) fun c p hcp => ?_
    rw [hcp]
    rfl
  have hsame : List.Forall₂ Eq ((readings document operation).map (Reading.typed document))
      ((ofOperation document id operation).signature.parameters.map
        fun p => p.toCandidate.typed) := by
    rw [htyped]
    exact List.forall₂_same.mpr fun _ _ => rfl
  rw [List.forall₂_map_left_iff, List.forall₂_map_right_iff] at hsame
  refine hsame.imp fun reading p h => ?_
  obtain ⟨hname, hlocation, htype⟩ : reading.name = p.declaredName ∧
      reading.location = p.location ∧ reading.type document = p.type := by
    simpa [Reading.typed, Candidate.typed] using h
  exact ⟨hname.symm, hlocation.symm, htype.symm⟩

/-- **The type of a parameter is that of the schema at the end of its chain of references just if the
chain is read that far**, or by coincidence: always if there is no chain, so that a schema that is no
reference has one type in all places. -/
theorem types_ofOperation (document : Document) (id : String) (operation : Operation) :
    List.Forall₂ (fun reading p => p.declaredName = reading.name ∧ p.location = reading.location ∧
        (reading.schema.reference? = none → p.type = Schema.parameterType reading.schema) ∧
        ∀ references target,
          Follows document [] [] reading.schema references (.found references target) →
            (p.type = Schema.parameterType target ↔ reading.ReadsEnd document references target))
      (readings document operation) (ofOperation document id operation).signature.parameters := by
  have hreadings := readings_ofOperation document id operation
  have hobjects : ∀ reading ∈ readings document operation, reading.ThroughObjects document :=
    fun reading => throughObjects_of_mem_readings
  refine ((List.forall₂_and_left _ _).mpr ⟨hobjects, hreadings⟩).imp ?_
  rintro reading p ⟨hobjects, hname, hlocation, htype⟩
  rw [htype]
  exact ⟨hname, hlocation, Reading.type_eq_of_reference?_eq_none hobjects,
    fun _ _ => Reading.type_eq_iff hobjects⟩

end Request

end

/-! ### An example -/

namespace Document

/-- A reference to a definition. -/
def defined (name : String) : Json := .object [("$ref", .string ("#/definitions/" ++ name))]

/-- The schema of counts. -/
def countSchema : Json := .object [("type", .string "integer")]

/-- A document that defines counts and another name for them. Its one operation takes a count in the
query, and two in the body, one of them by its other name. -/
def ofCounts : Document :=
  .ofRoot <| .object [("paths", .object [("/items", .object [("post", .object [
    ("operationId", .string "addItems"),
    ("parameters", .array [
      .object [("name", .string "limit"), ("in", .string "query"), ("schema", defined "Count")],
      .object [("name", .string "body"), ("in", .string "body"), ("schema", .object [
        ("properties", .object [("count", defined "Count"), ("alias", defined "Alias")])])]])])])]),
    ("definitions", .object [("Count", countSchema), ("Alias", defined "Count")])]

theorem follows_count : Follows ofCounts [] [] (defined "Count") ["#/definitions/Count"]
    (.found ["#/definitions/Count"] countSchema) :=
  .next rfl (by decide) rfl (.found rfl)

theorem follows_alias : Follows ofCounts [] [] (defined "Alias")
    ["#/definitions/Alias", "#/definitions/Count"]
    (.found ["#/definitions/Alias", "#/definitions/Count"] countSchema) :=
  .next rfl (by decide) rfl (.next rfl (by decide) rfl (.found rfl))

/-- The chain of the count in the body is read to its end. -/
theorem types_ofOperation_ofCounts :
    let operation := ofCounts.operations.head (by decide +kernel)
    let parameters := (Request.ofOperation ofCounts "addItems" operation).signature.parameters
    Request.readings ofCounts operation =
        [⟨"limit", .query, defined "Count", .written⟩, ⟨"count", .body, defined "Count", .once⟩,
          ⟨"alias", .body, defined "Alias", .once⟩] ∧
      parameters.length = 3 ∧
      ∀ p, parameters[1]? = some p → p.type = Schema.parameterType countSchema := by
  intro operation parameters
  have hlength : parameters.length = 3 := by decide +kernel
  refine ⟨rfl, hlength, fun p hp => ?_⟩
  obtain ⟨hbound, rfl⟩ := List.getElem?_eq_some_iff.mp hp
  obtain ⟨-, -, -, hend⟩ := (Request.types_ofOperation ofCounts "addItems" operation).get
    (i := 1) (Nat.lt_of_lt_of_eq hbound hlength) hbound
  exact (hend _ _ follows_count).mpr (.inl (Nat.le_refl 1))

/-- The chains of `limit` and `alias` end where that of `count` ends; but `limit` and `alias` are
texts, and `count` is an integer. -/
theorem mistyped_ofCounts :
    let operation := ofCounts.operations.head (by decide +kernel)
    operation ∈ ofCounts.operations ∧
      Follows ofCounts [] [] (defined "Count") ["#/definitions/Count"]
        (.found ["#/definitions/Count"] countSchema) ∧
      Follows ofCounts [] [] (defined "Alias") ["#/definitions/Alias", "#/definitions/Count"]
        (.found ["#/definitions/Alias", "#/definitions/Count"] countSchema) ∧
      Schema.isExpandable countSchema = false ∧ Schema.parameterType countSchema = .integer ∧
      Request.readings ofCounts operation =
        [⟨"limit", .query, defined "Count", .written⟩, ⟨"count", .body, defined "Count", .once⟩,
          ⟨"alias", .body, defined "Alias", .once⟩] ∧
      (Request.ofOperation ofCounts "addItems" operation).signature.parameters.map
          (fun p => (p.declaredName, p.location, p.type)) =
        [("limit", .query, .string), ("count", .body, .integer), ("alias", .body, .string)] :=
  ⟨List.head_mem _, follows_count, follows_alias, by decide +kernel, by decide +kernel, rfl,
    by decide +kernel⟩

end Document

end Toolwright
