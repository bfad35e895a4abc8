import Toolwright.Proofs.Tool.Notices
import Toolwright.Proofs.Tool.Typing

/-!
# References that lead nowhere

A property of a body may refer to something that is not there. Its parameter then takes an object, since
nothing is known of it. Whether this is also warned of depends on where the property is declared: a leaf
of a nested body is, since its references are followed with a warning (`Reading.noted`), but at the
top of a body a reference is followed only for the sake of a type and a description, and that it leads
nowhere goes unsaid (`unwarned_ofOwners`).

`lost_ofOperation` says both of every operation, and from where exactly its warnings about references
come: from the entries that are followed once (`Request.followed`) and from the leaves of nested
bodies.
-/

namespace Toolwright

/-! ### What is noted where types are read -/

namespace Reading

variable {document : Document} {id message : String} {reading : Reading}

/-- The warnings that are due where a type is read: only for a schema that is followed to the end. -/
def noted (document : Document) (id : String) (reading : Reading) : List Warning :=
  match reading.reach with
  | .whole outer inner => (Target.ofSchema document (outer ++ inner) reading.schema).noted id
  | _ => []

theorem mem_noted_iff : .unresolvedReference id message ∈ reading.noted document id ↔
    ∃ outer inner error, reading.reach = .whole outer inner ∧
      Target.ofSchema document (outer ++ inner) reading.schema = .unresolved error ∧
      error.message = message := by
  unfold noted
  cases hreach : reading.reach with
  | written | once => simp
  | whole outer inner =>
    cases htarget : Target.ofSchema document (outer ++ inner) reading.schema <;>
      simp [Target.noted, htarget, eq_comm]

end Reading

namespace Expansion

theorem noted_ofTarget (id : String) (target : Target) : noted id (ofTarget target) = target.noted id := by
  cases target <;> rfl

/-- The leaves of a tree are warned of where their types are read. -/
theorem notedOfAll_eq_readings (document : Document) (id : String) (outer : List String)
    (schema : Json) :
    notedOfAll id (ofSchema document outer schema) =
      (readingsOfAll outer [] (ofSchema document outer schema)).flatMap
        (Reading.noted document id) := by
  have hgeneral : ∀ inner, outer = outer ++ inner →
      notedOfAll id (ofProperties document outer schema (Schema.propertyList schema)) =
        (readingsOfAll outer inner
          (ofProperties document outer schema (Schema.propertyList schema))).flatMap
            (Reading.noted document id) := by
    refine induction_propertyList document
      (motive := fun above schema properties => ∀ inner, above = outer ++ inner →
        notedOfAll id (ofProperties document above schema properties) =
          (readingsOfAll outer inner (ofProperties document above schema properties)).flatMap
            (Reading.noted document id))
      (fun _ _ => rfl) (fun chain outside hrest inner habove => ?_)
      (fun chain expandable hbelow hrest inner habove => ?_) outer schema
    · have htarget := follows_ofSchema chain
      rw [ofProperties_cons, notedOfAll, readingsOfAll, List.flatMap_append,
        ofProperty_eq_ofTarget htarget outside, noted_ofTarget, readings_ofTarget,
        hrest inner habove, List.flatMap_singleton, ← htarget, habove]
      rfl
    · rw [ofProperties_cons, notedOfAll, readingsOfAll, List.flatMap_append,
        ofProperty_of_expanded (follows_ofSchema chain) expandable, noted, readings,
        hrest inner habove, hbelow (inner ++ _) (by rw [habove, List.append_assoc])]
  rw [ofSchema_eq_ofProperties]
  exact hgeneral [] (List.append_nil outer).symm

end Expansion

/-! ### From where the warnings come -/

namespace Request

/-- The schema of a body parameter as it is declared. -/
def bodyDeclared? (declaration : Json) : Option Json :=
  if (declaration.getString? "name").isSome ∧ declaration.getString? "in" = some "body" then
    declaration.get? "schema"
  else none

/-- The schema of the content of a request body as it is declared. -/
def contentDeclared? (document : Document) (declared : Json) : Option Json :=
  (document.target? declared).bind (Json.pointer? · "/content/application~1json/schema")

/-- The values of an operation that are followed once, with a warning if they lead nowhere: the parameters
as they are listed, the schemas of body parameters, the request body and the schema of its
content. -/
def followed (document : Document) (operation : Operation) : List Json :=
  listed operation ++ ((document.declarations operation).filterMap bodyDeclared? ++
    (operation.entry.get? "requestBody").toList.flatMap fun declared =>
      declared :: (contentDeclared? document declared).toList)

variable {document : Document} {id message : String}

theorem mem_notedByDeclaration_iff {declaration : Json} :
    .unresolvedReference id message ∈ notedByDeclaration document id declaration ↔
      ∃ schema, bodyDeclared? declaration = some schema ∧
        .unresolvedReference id message ∈ document.lost id schema := by
  unfold notedByDeclaration bodyDeclared?
  cases hname : declaration.getString? "name" with
  | none => simp
  | some name =>
    dsimp only
    by_cases hform : declaration.getString? "in" = some "formData"
    · simp [hform]
    · rw [if_neg hform]
      by_cases hbody : declaration.getString? "in" = some "body"
      · rw [hbody]
        cases declaration.get? "schema" <;> simp [Location.ofDeclared?, Location.label]
      · have hother : Location.ofDeclared? (declaration.getString? "in") ≠ some .body :=
          fun h => hbody (Location.ofDeclared?_eq_body.mp h)
        cases hlocation : Location.ofDeclared? (declaration.getString? "in") with
        | none => simp [hbody]
        | some location => cases location <;> simp_all

/-- Nothing is noted where the types of properties at the top of a body are read. -/
theorem noted_readingsByProperties (document : Document) (id : String) (schema : Json) :
    (readingsByProperties schema).flatMap (Reading.noted document id) = [] := by
  rw [List.flatMap_eq_nil_iff]
  intro reading hreading
  obtain ⟨entry, -, rfl⟩ := List.mem_map.mp hreading
  rfl

theorem noted_readingsByDeclaration (document : Document) (id : String) (declaration : Json) :
    (readingsByDeclaration document declaration).flatMap (Reading.noted document id) = [] := by
  unfold readingsByDeclaration
  split
  · rfl
  · split
    · split
      · exact noted_readingsByProperties document id _
      · rfl
    · rfl
    · rfl

theorem notedBySchema_eq_readings (reference : Option String) (schema : Json) :
    notedBySchema document id reference schema =
      (readingsBySchema document reference schema).flatMap (Reading.noted document id) := by
  unfold notedBySchema readingsBySchema
  cases wrapped? document schema with
  | none => exact (noted_readingsByProperties document id schema).symm
  | some found =>
    obtain ⟨inner, innerReference⟩ := found
    exact Expansion.notedOfAll_eq_readings document id _ inner

theorem mem_notedByBody_iff {declared : Json} :
    .unresolvedReference id message ∈ notedByBody document id declared ↔
      (∃ value ∈ declared :: (contentDeclared? document declared).toList,
        .unresolvedReference id message ∈ document.lost id value) ∨
      ∃ reading ∈ readingsByBody document declared,
        .unresolvedReference id message ∈ reading.noted document id := by
  unfold notedByBody readingsByBody contentDeclared?
  cases hdeclared : document.target? declared with
  | none => simp
  | some body =>
    dsimp only [Option.bind_some]
    cases hpointer : body.pointer? "/content/application~1json/schema" with
    | none =>
      dsimp only
      split_ifs <;> simp [Document.lost_of_target? hdeclared]
    | some schema =>
      dsimp only
      cases hschema : document.target? schema with
      | none => simp [Document.lost_of_target? hdeclared]
      | some resolved =>
        dsimp only
        rw [← Schema.propertyList]
        split_ifs
        · simp [Document.lost_of_target? hdeclared, Document.lost_of_target? hschema]
        · rw [notedBySchema_eq_readings, List.mem_flatMap]
          simp [Document.lost_of_target? hdeclared, Document.lost_of_target? hschema]

/-- A reference is warned of where it is followed once, or at a leaf of a nested body. -/
theorem mem_noted_iff {operation : Operation} :
    .unresolvedReference id message ∈ noted document id operation ↔
      (∃ value ∈ followed document operation,
        .unresolvedReference id message ∈ document.lost id value) ∨
      ∃ reading ∈ readings document operation,
        .unresolvedReference id message ∈ reading.noted document id := by
  have hdeclarations : .unresolvedReference id message ∈
        (document.declarations operation).flatMap (notedByDeclaration document id) ↔
      ∃ value ∈ (document.declarations operation).filterMap bodyDeclared?,
        .unresolvedReference id message ∈ document.lost id value := by
    simp only [List.mem_flatMap, mem_notedByDeclaration_iff, List.mem_filterMap]
    constructor
    · rintro ⟨declaration, hmem, schema, hschema, hlost⟩
      exact ⟨schema, ⟨declaration, hmem, hschema⟩, hlost⟩
    · rintro ⟨schema, ⟨declaration, hmem, hschema⟩, hlost⟩
      exact ⟨declaration, hmem, schema, hschema, hlost⟩
  have hquiet : ¬ ∃ reading ∈
      (document.declarations operation).flatMap (readingsByDeclaration document),
        .unresolvedReference id message ∈ reading.noted document id := by
    rintro ⟨reading, hreading, hmem⟩
    obtain ⟨declaration, -, hreading⟩ := List.mem_flatMap.mp hreading
    have hnone := noted_readingsByDeclaration document id declaration
    rw [List.flatMap_eq_nil_iff] at hnone
    rw [hnone reading hreading] at hmem
    exact absurd hmem List.not_mem_nil
  have hbody : .unresolvedReference id message ∈
        ((operation.entry.get? "requestBody").map (notedByBody document id)).getD [] ↔
      (∃ value ∈ (operation.entry.get? "requestBody").toList.flatMap fun declared =>
          declared :: (contentDeclared? document declared).toList,
        .unresolvedReference id message ∈ document.lost id value) ∨
      ∃ reading ∈ ((operation.entry.get? "requestBody").map (readingsByBody document)).getD [],
        .unresolvedReference id message ∈ reading.noted document id := by
    cases operation.entry.get? "requestBody" with
    | none => simp
    | some declared =>
      rw [Option.map_some, Option.getD_some, mem_notedByBody_iff, Option.toList_some,
        List.flatMap_singleton, Option.map_some, Option.getD_some]
  rw [noted, List.mem_append, List.mem_append, List.mem_flatMap, hdeclarations, hbody]
  simp only [followed, readings, List.mem_append, or_and_right, exists_or]
  rw [or_iff_right hquiet, or_assoc, or_assoc]

end Request

/-! ### How far a body is followed -/

/-- What is known of a reading in a body: either its schema is a property at the top and is followed once,
or it is a leaf of a nested body and is followed to the end. The references by which that body was
reached lead somewhere. -/
def Reading.IsInBody (document : Document) (reading : Reading) : Prop :=
  reading.reach = .once ∨ ∃ outer inner, reading.reach = .whole outer inner ∧
    ∀ reference ∈ outer, ∃ target, document.resolve reference = .ok target

namespace Expansion

mutual

theorem reach_of_mem_readings {outer inner : List String} {property : Property} {reading : Reading} :
    ∀ {expansion : Expansion}, reading ∈ readings outer inner property expansion →
      ∃ inner, reading.reach = .whole outer inner
  | .object references properties, h => by
    rw [readings] at h
    exact reach_of_mem_readingsOfAll h
  | .leaf _ _, h | .recursive _, h | .unresolved _, h => by
    rw [readings, List.mem_singleton] at h
    rw [h]
    exact ⟨inner, rfl⟩

theorem reach_of_mem_readingsOfAll {outer inner : List String} {reading : Reading} :
    ∀ {properties : List (Property × Expansion)},
      reading ∈ readingsOfAll outer inner properties → ∃ inner, reading.reach = .whole outer inner
  | (property, expansion) :: rest, h => by
    rw [readingsOfAll, List.mem_append] at h
    rcases h with h | h
    · exact reach_of_mem_readings h
    · exact reach_of_mem_readingsOfAll h

end

end Expansion

/-- A reference that stands for something leads there. -/
theorem Document.exists_resolve {document : Document} {value target : Json}
    (h : document.target? value = some target) :
    ∀ reference ∈ value.reference?.toList, ∃ found, document.resolve reference = .ok found := by
  intro reference hmem
  rw [target?, Option.mem_toList.mp hmem] at h
  dsimp only at h
  cases hresolve : document.resolve reference with
  | ok found => exact ⟨found, rfl⟩
  | error error =>
    rw [hresolve] at h
    cases h

namespace Request

variable {document : Document} {reading : Reading}

theorem isInBody_of_mem_readingsByProperties {schema : Json}
    (h : reading ∈ readingsByProperties schema) : reading.IsInBody document := by
  obtain ⟨entry, -, rfl⟩ := List.mem_map.mp h
  exact .inl rfl

theorem isInBody_of_mem_readingsByDeclaration {declaration : Json}
    (h : reading ∈ readingsByDeclaration document declaration) (hbody : reading.location = .body) :
    reading.IsInBody document := by
  unfold readingsByDeclaration at h
  split at h
  · exact absurd h List.not_mem_nil
  · split at h
    · split at h
      · exact isInBody_of_mem_readingsByProperties h
      · exact absurd h List.not_mem_nil
    · rename_i location hother _
      rw [List.mem_singleton.mp h] at hbody
      exact absurd hbody hother
    · exact absurd h List.not_mem_nil

/-- What is wrapped is reached by references that lead somewhere. -/
theorem exists_resolve_of_wrapped? {schema inner : Json} {innerReference : Option String}
    (h : wrapped? document schema = some (inner, innerReference)) :
    ∀ reference ∈ innerReference.toList, ∃ found, document.resolve reference = .ok found := by
  unfold wrapped? at h
  split at h
  · split_ifs at h
    obtain ⟨found, hfound, heq⟩ := Option.map_eq_some_iff.mp h
    cases heq
    exact Document.exists_resolve (Option.filter_eq_some_iff.mp hfound).1
  · cases h

theorem isInBody_of_mem_readingsBySchema {reference : Option String} {schema : Json}
    (hreference : ∀ name ∈ reference.toList, ∃ found, document.resolve name = .ok found)
    (h : reading ∈ readingsBySchema document reference schema) : reading.IsInBody document := by
  unfold readingsBySchema at h
  split at h
  · rename_i inner innerReference hwrapped
    obtain ⟨below, hreach⟩ := Expansion.reach_of_mem_readingsOfAll h
    refine .inr ⟨_, below, hreach, fun name hname => ?_⟩
    rcases List.mem_append.mp hname with hname | hname
    · exact hreference name hname
    · exact exists_resolve_of_wrapped? hwrapped name hname
  · exact isInBody_of_mem_readingsByProperties h

/-- The readings in the body of an operation. -/
theorem isInBody_of_mem_readings {operation : Operation} (h : reading ∈ readings document operation)
    (hbody : reading.location = .body) : reading.IsInBody document := by
  rcases List.mem_append.mp h with h | h
  · obtain ⟨declaration, -, h⟩ := List.mem_flatMap.mp h
    exact isInBody_of_mem_readingsByDeclaration h hbody
  · cases hentry : operation.entry.get? "requestBody" with
    | none =>
      rw [hentry] at h
      exact absurd h List.not_mem_nil
    | some declared =>
      rw [hentry, Option.map_some, Option.getD_some, readingsByBody] at h
      split at h
      · exact absurd h List.not_mem_nil
      · split at h
        · exact absurd h List.not_mem_nil
        · rename_i hschema
          split_ifs at h
          · exact absurd h List.not_mem_nil
          · exact isInBody_of_mem_readingsBySchema (Document.exists_resolve hschema) h

end Request

/-! ### References that lead nowhere -/

namespace Reading

variable {document : Document} {reading : Reading} {reference : String} {error : ReferenceError}

/-- Where a schema is followed to the end, a reference that leads nowhere is found out: it is none of those
that are being followed already, for all of these lead somewhere. -/
theorem target_of_lost {outer inner : List String}
    (houter : ∀ reference ∈ outer, ∃ target, document.resolve reference = .ok target)
    (hinner : ∀ reference ∈ inner,
      ∃ object, document.Leads reference object ∧ Schema.isExpandable object = true)
    {schema : Json} (hreference : schema.reference? = some reference)
    (hlost : document.resolve reference = .error error) :
    Target.ofSchema document (outer ++ inner) schema = .unresolved error := by
  have hfresh : ¬ (reference ∈ outer ++ inner ∨ reference ∈ []) := by
    intro hseen
    have hmem := List.mem_append.mp (hseen.resolve_right List.not_mem_nil)
    rcases hmem with hmem | hmem
    · obtain ⟨target, hresolve⟩ := houter reference hmem
      rw [hlost] at hresolve
      cases hresolve
    · obtain ⟨object, ⟨next, followed, hresolve, -⟩, -⟩ := hinner reference hmem
      rw [hlost] at hresolve
      cases hresolve
  exact follows_ofSchema (.unresolved hreference hfresh hlost)

/-- A property of a body that refers to nothing takes an object. -/
theorem type_of_lost (hbody : reading.IsInBody document) (hobjects : reading.ThroughObjects document)
    (hreference : reading.schema.reference? = some reference)
    (hlost : document.resolve reference = .error error) : reading.type document = .object := by
  unfold type
  rcases hbody with hreach | ⟨outer, inner, hreach, houter⟩
  · have hnowhere : document.target? reading.schema = none := by
      rw [Document.target?, hreference]
      dsimp only
      rw [hlost]
      rfl
    rw [hreach]
    dsimp only
    rw [hnowhere]
    rfl
  · rw [hreach]
    dsimp only
    rw [target_of_lost houter (hobjects outer inner hreach) hreference hlost]
    rfl

end Reading

section

variable [Romanization]

namespace Request

/-- **A property of a body that refers to nothing takes an object, and it is warned of just if it is a leaf
of a nested body.** The warnings about references come from the entries that are followed once, and from
the leaves of nested bodies; a property at the top of a body leaves none. -/
theorem lost_ofOperation (document : Document) (id : String) (operation : Operation) :
    let s := (ofOperation document id operation).signature
    List.Forall₂ (fun reading p => p.declaredName = reading.name ∧ p.location = reading.location ∧
        ∀ reference error, reading.location = .body →
          reading.schema.reference? = some reference → document.resolve reference = .error error →
            p.type = .object ∧
              (reading.reach = .once ∨ (∃ outer inner, reading.reach = .whole outer inner) ∧
                .unresolvedReference id error.message ∈ s.warnings))
      (readings document operation) s.parameters ∧
    ∀ message, .unresolvedReference id message ∈ s.warnings ↔
      (∃ value ∈ followed document operation, ∃ reference error,
        value.reference? = some reference ∧ document.resolve reference = .error error ∧
          error.message = message) ∨
      ∃ reading ∈ readings document operation, ∃ outer inner error,
        reading.reach = .whole outer inner ∧
          Target.ofSchema document (outer ++ inner) reading.schema = .unresolved error ∧
          error.message = message := by
  intro s
  have hwarnings : ∀ message, .unresolvedReference id message ∈ s.warnings ↔
      .unresolvedReference id message ∈ noted document id operation := by
    intro message
    rw [← notices_ofOperation, Signature.notices, List.mem_filter]
    exact (and_iff_left rfl).symm
  constructor
  · refine ((List.forall₂_and_left _ _).mpr
      ⟨fun reading h => h, readings_ofOperation document id operation⟩).imp ?_
    rintro reading p ⟨hmem, hname, hlocation, htype⟩
    refine ⟨hname, hlocation, fun reference error hbody hreference hlost => ?_⟩
    have hinBody := isInBody_of_mem_readings hmem hbody
    have hobjects := throughObjects_of_mem_readings hmem
    refine ⟨htype.trans (Reading.type_of_lost hinBody hobjects hreference hlost), ?_⟩
    rcases hinBody with hreach | ⟨outer, inner, hreach, houter⟩
    · exact .inl hreach
    · have htarget := Reading.target_of_lost houter (hobjects outer inner hreach) hreference hlost
      refine .inr ⟨⟨outer, inner, hreach⟩, ?_⟩
      rw [hwarnings, mem_noted_iff]
      exact .inr ⟨reading, hmem,
        Reading.mem_noted_iff.mpr ⟨outer, inner, error, hreach, htarget, rfl⟩⟩
  · intro message
    rw [hwarnings, mem_noted_iff]
    refine or_congr (exists_congr fun value => and_congr_right fun _ => ?_)
      (exists_congr fun reading => and_congr_right fun _ => Reading.mem_noted_iff)
    rw [Document.mem_lost_iff]
    refine exists_congr fun reference => exists_congr fun error => ?_
    simp [eq_comm]

end Request

end

/-! ### An owner that is missing -/

namespace Document

/-- A request body with a schema. -/
def bodyOf (schema : Json) : Json :=
  .object [("content", .object [("application/json", .object [("schema", schema)])])]

/-- A note with an owner, who is not defined. -/
def ownedNote : Json := objectSchema [("owner", defined "Owner")]

/-- A document in which three operations refer to an owner who is not defined: in a body parameter, in place
of what is to be wrapped, and in what is wrapped. -/
def ofOwners : Document :=
  .ofRoot <| .object [("paths", .object [("/notes", .object [
    ("post", .object [("operationId", .string "addNote"), ("parameters", .array [.object [
      ("name", .string "note"), ("in", .string "body"), ("schema", ownedNote)]])]),
    ("put", .object [("operationId", .string "putNote"),
      ("requestBody", bodyOf (objectSchema [("request_data", defined "Owner")]))]),
    ("patch", .object [("operationId", .string "editNote"),
      ("requestBody", bodyOf (objectSchema [("request_data", ownedNote)]))])])])]

theorem resolve_owner : ofOwners.resolve "#/definitions/Owner" =
    .error (.missing "#/definitions/Owner" "definitions") := rfl

theorem ofSchema_ownedNote : Expansion.ofSchema ofOwners [] ownedNote =
    [(⟨"owner", defined "Owner", false⟩,
      .unresolved (.missing "#/definitions/Owner" "definitions"))] := by
  have htarget : Target.ofSchema ofOwners [] (defined "Owner") =
      .unresolved (.missing "#/definitions/Owner" "definitions") :=
    follows_ofSchema (.unresolved rfl (by decide) resolve_owner)
  rw [Expansion.ofSchema_eq_ofProperties]
  show [((⟨"owner", defined "Owner", false⟩ : Property),
    Expansion.ofProperty ofOwners [] (defined "Owner"))] = _
  rw [Expansion.ofProperty_eq_ofTarget htarget rfl]
  rfl

/-- The owner in what is wrapped is an object, and is warned of. -/
theorem lost_ofOwners :
    let operation := ofOwners.operations.getLast (by decide +kernel)
    let s := (Request.ofOperation ofOwners "editNote" operation).signature
    Request.readings ofOwners operation = [⟨"owner", .body, defined "Owner", .whole [] []⟩] ∧
      (defined "Owner").reference? = some "#/definitions/Owner" ∧
      ofOwners.resolve "#/definitions/Owner" =
        .error (.missing "#/definitions/Owner" "definitions") ∧
      s.parameters.map (fun p => (p.declaredName, p.type)) = [("owner", .object)] ∧
      .unresolvedReference "editNote"
        (ReferenceError.missing "#/definitions/Owner" "definitions").message ∈ s.warnings := by
  intro operation s
  have hreadings : Request.readings ofOwners operation =
      [⟨"owner", .body, defined "Owner", .whole [] []⟩] := by
    show Expansion.readingsOfAll [] [] (Expansion.ofSchema ofOwners [] ownedNote) = _
    rw [ofSchema_ownedNote]
    rfl
  obtain ⟨hall, -⟩ := Request.lost_ofOperation ofOwners "editNote" operation
  rw [hreadings] at hall
  generalize hparameters : (Request.ofOperation ofOwners "editNote" operation).signature.parameters =
    parameters at hall
  cases hall with
  | cons hfirst hrest =>
    cases hrest
    obtain ⟨hname, -, hlost⟩ := hfirst
    obtain ⟨htype, hwarned⟩ := hlost _ _ rfl rfl resolve_owner
    refine ⟨hreadings, rfl, resolve_owner, ?_, ?_⟩
    · rw [List.map_singleton, hname, htype]
    · have hnested : Reach.whole [] [] ≠ .once := nofun
      exact (hwarned.resolve_left hnested).2

/-- The owner in the body parameter is an object, and so is what is to be wrapped; neither is warned of. -/
theorem unwarned_ofOwners :
    let operations := ofOwners.operations.take 2
    let requests := operations.map fun operation =>
      (Request.ofOperation ofOwners (operation.id?.getD "") operation).signature
    (defined "Owner").reference? = some "#/definitions/Owner" ∧
      ofOwners.resolve "#/definitions/Owner" =
        .error (.missing "#/definitions/Owner" "definitions") ∧
      operations.map (Request.readings ofOwners) =
        [[⟨"owner", .body, defined "Owner", .once⟩],
          [⟨"request_data", .body, defined "Owner", .once⟩]] ∧
      requests.map (fun s => s.operation) = ["addNote", "putNote"] ∧
      requests.map (fun s => s.parameters.map fun p => (p.declaredName, p.location, p.type)) =
        [[("owner", .body, .object)], [("request_data", .body, .object)]] ∧
      requests.map (fun s => s.warnings) = [[], []] := by
  intro operations requests
  refine ⟨rfl, resolve_owner, rfl, ?_⟩
  decide +kernel

end Document

end Toolwright
