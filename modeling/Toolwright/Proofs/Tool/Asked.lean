import Toolwright.Proofs.Tool.Filling

/-!
# What an operation asks for

`Request.asked` reads off a document which parameters an operation asks for, in order: one for every
declared parameter with a place in a request, one for every property of a body parameter, and those
of the request body, which are its leaves if it is wrapped and its properties if not. Nothing is
named here for good.

`Request.ofOperation` collects exactly these candidates (`extends_ofOperation`): its signature grows
by them from an empty one, and the leaves of its plan, read as dotted places and fields, are the
body parameters in the order in which they were added. Each function on the way has a lemma that
says so of its part.
-/

namespace Toolwright

/-! ### References and declarations -/

/-- The declarations of an operation, with references followed: those of its path, and then its own,
of which each takes the place of one of the same parameter. -/
def Document.declarations (document : Document) (operation : Operation) : List Json :=
  let listed (entry : Json) := ((entry.get? "parameters").bind Json.items?).getD []
  ((listed operation.pathItem ++ listed operation.entry).filterMap document.target?).foldl
    Signature.merge []

namespace Signature

theorem resolve_fst (s : Signature) (document : Document) (value : Json) :
    (s.resolve document value).1 = document.target? value := by
  unfold resolve Document.target?
  cases value.reference? with
  | none => rfl
  | some reference =>
    dsimp only
    cases document.resolve reference <;> rfl

/-- Following a reference may note that it leads nowhere. -/
theorem grows_resolve (s : Signature) (document : Document) (value : Json) :
    Grows s [] (s.resolve document value).2 := by
  unfold resolve
  cases value.reference? with
  | none => exact .done s
  | some reference =>
    dsimp only
    cases document.resolve reference with
    | ok _ => exact .done s
    | error _ => exact .noted s rfl

theorem mergeAll_fst (s : Signature) (document : Document) (merged declarations : List Json) :
    (s.mergeAll document merged declarations).1 =
      (declarations.filterMap document.target?).foldl merge merged := by
  induction declarations generalizing s merged with
  | nil => rfl
  | cons declaration rest ih =>
    have hfst := s.resolve_fst document declaration
    rw [mergeAll]
    rcases hr : s.resolve document declaration with ⟨target, t⟩
    rw [hr] at hfst
    cases target with
    | none => rw [List.filterMap_cons_none hfst.symm]; exact ih t merged
    | some resolved => rw [List.filterMap_cons_some hfst.symm]; exact ih t (merge merged resolved)

theorem grows_mergeAll (s : Signature) (document : Document) (merged declarations : List Json) :
    Grows s [] (s.mergeAll document merged declarations).2 := by
  induction declarations generalizing s merged with
  | nil => exact .done s
  | cons declaration rest ih =>
    have hgrows := s.grows_resolve document declaration
    rw [mergeAll]
    rcases hr : s.resolve document declaration with ⟨target, t⟩
    rw [hr] at hgrows
    cases target with
    | none => exact hgrows.trans (ih t merged)
    | some resolved => exact hgrows.trans (ih t (merge merged resolved))

theorem declarations_fst (s : Signature) (document : Document) (operation : Operation) :
    (s.declarations document operation).1 = document.declarations operation :=
  s.mergeAll_fst document [] _

theorem grows_declarations (s : Signature) (document : Document) (operation : Operation) :
    Grows s [] (s.declarations document operation).2 :=
  s.grows_mergeAll document [] _

end Signature

/-! ### Candidates -/

variable [Romanization]

namespace Expansion

mutual

/-- The candidates for the leaves below a property, in order. -/
def asked (shared path source : List String) (property : Property) : Expansion → List Candidate
  | object _ properties => askedOfAll shared path source properties
  | leaf _ schema =>
    [candidate shared path source property (Schema.parameterType schema)
      (Schema.description? property.declared <|> Schema.description? schema)]
  | recursive _ | unresolved _ =>
    [candidate shared path source property .object (Schema.description? property.declared)]

/-- The candidates for the leaves below some properties, in order. -/
def askedOfAll (shared path source : List String) : List (Property × Expansion) → List Candidate
  | [] => []
  | (property, expansion) :: rest =>
    asked shared (path ++ [Name.snake property.name]) (source ++ [property.name]) property expansion ++
      askedOfAll shared path source rest

end

mutual

theorem location_of_mem_asked {shared path source : List String} {property : Property}
    {candidate : Candidate} :
    ∀ {expansion : Expansion}, candidate ∈ asked shared path source property expansion →
      candidate.location = .body
  | .object _ properties, h => by
    rw [asked] at h
    exact location_of_mem_askedOfAll h
  | .leaf _ _, h | .recursive _, h | .unresolved _, h => by
    rw [asked, List.mem_singleton] at h
    rw [h]
    rfl

/-- The leaves of a body go into the body. -/
theorem location_of_mem_askedOfAll {shared path source : List String} {candidate : Candidate} :
    ∀ {properties : List (Property × Expansion)},
      candidate ∈ askedOfAll shared path source properties → candidate.location = .body
  | (property, expansion) :: rest, h => by
    rw [askedOfAll, List.mem_append] at h
    rcases h with h | h
    · exact location_of_mem_asked h
    · exact location_of_mem_askedOfAll h

end

end Expansion

namespace Request

/-- The candidates for the properties at the top of a body. -/
def askedByProperties (document : Document) (schema : Json) : List Candidate :=
  ((Schema.properties? schema).getD []).map fun (name, declared) =>
    Signature.propertyCandidate document schema name declared

/-- The candidates for a declared parameter. -/
def askedByDeclaration (document : Document) (declaration : Json) : List Candidate :=
  match declaration.getString? "name" with
  | none => []
  | some name =>
    match Location.ofDeclared? (declaration.getString? "in") with
    | some .body =>
      match (declaration.get? "schema").bind document.target? with
      | some schema => askedByProperties document schema
      | none => []
    | some location => [locatedCandidate declaration name location]
    | none => []

/-- The candidates for a body with a schema; `reference` is the one by which it was reached. -/
def askedBySchema (document : Document) (reference : Option String) (schema : Json) :
    List Candidate :=
  match wrapped? document schema with
  | some (inner, innerReference) =>
    let tree := Expansion.ofSchema document (reference.toList ++ innerReference.toList) inner
    Expansion.askedOfAll (Expansion.sharedNames tree) [] [] tree
  | none => askedByProperties document schema

/-- The schema that a request body declares for JSON, as it is declared. -/
def content? (document : Document) (declared : Json) : Option Json :=
  (document.target? declared).bind (Json.pointer? · "/content/application~1json/schema")

/-- The schema of a request body, with its reference followed. -/
def contentSchema? (document : Document) (declared : Json) : Option Json :=
  (content? document declared).bind document.target?

/-- The candidates for a request body. -/
def askedByBody (document : Document) (declared : Json) : List Candidate :=
  match (document.target? declared).bind (Json.pointer? · "/content/application~1json/schema") with
  | none => []
  | some schema =>
    match document.target? schema with
    | none => []
    | some resolved =>
      if ((Schema.properties? resolved).getD []).isEmpty then []
      else askedBySchema document schema.reference? resolved

/-- The candidates for the parameters of an operation, in order. -/
def asked (document : Document) (operation : Operation) : List Candidate :=
  (document.declarations operation).flatMap (askedByDeclaration document) ++
    ((operation.entry.get? "requestBody").map (askedByBody document)).getD []

end Request

/-! ### Flattening -/

namespace Expansion

theorem key_flatten (shared path source : List String) (property : Property) (s : Signature)
    (expansion : Expansion) :
    (flatten shared path source property s expansion).1.key = property.name := by
  cases expansion <;> rfl

mutual

/-- Flattening a property fills the leaves of its node. -/
theorem flatten_fills (shared path source : List String) (property : Property) (s : Signature) :
    ∀ expansion : Expansion,
      s.Fills source (asked shared path source property expansion)
        (flatten shared path source property s expansion).1.inner
        (flatten shared path source property s expansion).2
  | .object _ properties => by
    rw [asked, flatten]
    exact flattenAll_fills shared path source s properties
  | .leaf _ schema => by
    rw [asked, flatten]
    exact addLeaf_fills ..
  | .recursive _ => by
    rw [asked, flatten]
    exact (addLeaf_fills ..).warn rfl
  | .unresolved _ => by
    rw [asked, flatten]
    exact (addLeaf_fills ..).warn rfl

theorem flattenAll_fills (shared path source : List String) (s : Signature) :
    ∀ properties : List (Property × Expansion),
      s.Fills source (askedOfAll shared path source properties)
        (BodyNode.leavesOfAll (flattenAll shared path source s properties).1)
        (flattenAll shared path source s properties).2
  | [] => Signature.Fills.done s source
  | (property, expansion) :: rest => by
    have hfirst := flatten_fills shared (path ++ [Name.snake property.name])
      (source ++ [property.name]) property s expansion
    have hrest := flattenAll_fills shared path source (flatten shared
      (path ++ [Name.snake property.name]) (source ++ [property.name]) property s expansion).2 rest
    rw [askedOfAll, flattenAll, BodyNode.leavesOfAll, key_flatten]
    exact hfirst.under.append hrest

end

end Expansion

/-! ### Requests -/

namespace Signature

/-- Adding the properties of a body fills a leaf for each. -/
theorem addProperties_fills (s : Signature) (document : Document) (schema : Json)
    (properties : List (String × Json)) :
    s.Fills [] (properties.map fun (name, declared) => propertyCandidate document schema name declared)
      (BodyNode.leavesOfAll
        ((s.addProperties document schema properties).1.map BodyNode.leaf))
      (s.addProperties document schema properties).2 := by
  induction properties generalizing s with
  | nil => exact Fills.done s []
  | cons property rest ih =>
    obtain ⟨name, declared⟩ := property
    exact Fills.append (Fills.single s (propertyCandidate document schema name declared) [name] rfl)
      (ih _)

end Signature

namespace Request

variable {document : Document} {r : Request}

theorem location_of_mem_askedByProperties {schema : Json} {candidate : Candidate}
    (h : candidate ∈ askedByProperties document schema) : candidate.location = .body := by
  obtain ⟨property, -, rfl⟩ := List.mem_map.mp h
  rfl

/-! A declaration adds to nothing of the plan but the properties of a body parameter. -/

theorem extends_addLocated (declaration : Json) (name : String) {location : Location}
    (h : location ≠ .body) :
    Extends r [locatedCandidate declaration name location] (r.addLocated declaration name location) := by
  refine ⟨_, Signature.Grows.single r.signature _, rfl, ?_⟩
  have hbody : (r.signature.granted (locatedCandidate declaration name location)).isBody = false :=
    decide_eq_false h
  rw [List.map_singleton, List.filter_cons_of_neg (by rw [hbody]; exact Bool.false_ne_true)]
  exact (List.append_nil _).symm

theorem nodes_addBodyParameter (declaration : Json) (name : String) :
    (r.addBodyParameter document declaration name).body.nodes = r.body.nodes ∧
      (r.addBodyParameter document declaration name).body.wrapper = r.body.wrapper := by
  unfold addBodyParameter
  cases declaration.get? "schema" with
  | none => exact ⟨rfl, rfl⟩
  | some schema =>
    dsimp only
    rcases r.signature.resolve document schema with ⟨target, t⟩
    cases target <;> exact ⟨rfl, rfl⟩

theorem extends_addBodyParameter (hnodes : r.body.nodes = []) (declaration : Json) (name : String) :
    Extends r
      (match (declaration.get? "schema").bind document.target? with
        | some schema => askedByProperties document schema
        | none => [])
      (r.addBodyParameter document declaration name) := by
  unfold addBodyParameter
  cases declaration.get? "schema" with
  | none => exact .of_grows (.noted _ rfl) rfl
  | some schema =>
    dsimp only [Option.bind_some]
    have hgrows := r.signature.grows_resolve document schema
    rw [← r.signature.resolve_fst document schema]
    rcases hr : r.signature.resolve document schema with ⟨target, t⟩
    rw [hr] at hgrows
    cases target with
    | none => exact .of_grows hgrows rfl
    | some target =>
      have hfills : t.Fills [] (askedByProperties document target) _ _ :=
        t.addProperties_fills document target ((Schema.properties? target).getD [])
      refine .after hgrows (.of_fills hfills (fun _ hmem => location_of_mem_askedByProperties hmem) ?_)
      rw [BodyPlan.leaves, BodyPlan.leaves, BodyPlan.entries, BodyPlan.entries, hnodes,
        List.append_nil, List.append_nil, List.map_append, BodyNode.leavesOfAll_append]

theorem nodes_addDeclaration (document : Document) (r : Request) (declaration : Json) :
    (addDeclaration document r declaration).body.nodes = r.body.nodes ∧
      (addDeclaration document r declaration).body.wrapper = r.body.wrapper := by
  unfold addDeclaration
  cases declaration.getString? "name" with
  | none => exact ⟨rfl, rfl⟩
  | some name =>
    dsimp only
    split_ifs
    · exact ⟨rfl, rfl⟩
    · cases Location.ofDeclared? (declaration.getString? "in") with
      | none => exact ⟨rfl, rfl⟩
      | some location =>
        cases location with
        | body => exact nodes_addBodyParameter declaration name
        | query | path | header => exact ⟨rfl, rfl⟩

/-- A declaration extends a request by the candidates that it asks for. -/
theorem extends_addDeclaration (hnodes : r.body.nodes = []) (declaration : Json) :
    Extends r (askedByDeclaration document declaration) (addDeclaration document r declaration) := by
  unfold askedByDeclaration addDeclaration
  cases declaration.getString? "name" with
  | none => exact .of_grows (.noted _ rfl) rfl
  | some name =>
    dsimp only
    by_cases hform : declaration.getString? "in" = some "formData"
    · rw [if_pos hform, hform]
      exact .of_grows (.noted _ rfl) rfl
    · rw [if_neg hform]
      cases Location.ofDeclared? (declaration.getString? "in") with
      | none => exact .of_grows (.noted _ rfl) rfl
      | some location =>
        cases location with
        | body => exact extends_addBodyParameter hnodes declaration name
        | query | path | header => exact extends_addLocated declaration name (by decide)

theorem extends_addDeclarations (document : Document) {r : Request} (hnodes : r.body.nodes = [])
    (declarations : List Json) :
    Extends r (declarations.flatMap (askedByDeclaration document))
        (declarations.foldl (addDeclaration document) r) ∧
      (declarations.foldl (addDeclaration document) r).body.nodes = [] ∧
      (declarations.foldl (addDeclaration document) r).body.wrapper = r.body.wrapper := by
  induction declarations generalizing r with
  | nil => exact ⟨.of_grows (.done _) rfl, hnodes, rfl⟩
  | cons declaration rest ih =>
    obtain ⟨hkeep, hwrap⟩ := nodes_addDeclaration document r declaration
    obtain ⟨hext, hnodes', hwrap'⟩ := ih (hkeep.trans hnodes)
    rw [List.flatMap_cons, List.foldl_cons]
    exact ⟨(extends_addDeclaration hnodes declaration).trans hext, hnodes', hwrap'.trans hwrap⟩

/-- A body extends a request by the candidates that its schema asks for. -/
theorem extends_addSchema (r : Request) (hnodes : r.body.nodes = []) (reference : Option String)
    (schema : Json) :
    Extends r (askedBySchema document reference schema) (r.addSchema document reference schema) := by
  unfold askedBySchema addSchema
  cases wrapped? document schema with
  | none =>
    dsimp only
    have hfills := r.signature.addProperties_fills document schema ((Schema.properties? schema).getD [])
    refine .of_fills hfills (fun _ hmem => location_of_mem_askedByProperties hmem) ?_
    rw [BodyPlan.leaves, BodyPlan.leaves, BodyPlan.entries, BodyPlan.entries, hnodes,
      List.append_nil, List.nil_append, BodyNode.leavesOfAll_append]
  | some found =>
    obtain ⟨inner, innerReference⟩ := found
    dsimp only
    rw [Signature.addNested]
    have hfills := Expansion.flattenAll_fills (Expansion.sharedNames
      (Expansion.ofSchema document (reference.toList ++ innerReference.toList) inner)) [] []
      r.signature (Expansion.ofSchema document (reference.toList ++ innerReference.toList) inner)
    refine .of_fills hfills (fun _ hmem => Expansion.location_of_mem_askedOfAll hmem) ?_
    rw [BodyPlan.leaves, BodyPlan.leaves, BodyPlan.entries, BodyPlan.entries, hnodes,
      List.append_nil, BodyNode.leavesOfAll_append]

/-- What a request body can do: note why it asks for nothing, which it does only if there is no schema
with properties, or add what its schema asks for. -/
theorem addRequestBody_cases (document : Document) (r : Request) (declared : Json) :
    (∃ t, r.signature.Grows [] t ∧ askedByBody document declared = [] ∧
      (∀ schema, contentSchema? document declared = some schema →
        (Schema.properties? schema).getD [] = []) ∧
      r.addRequestBody document declared = { r with signature := t }) ∨
    ∃ t content schema, r.signature.Grows [] t ∧ content? document declared = some content ∧
      document.target? content = some schema ∧
      askedByBody document declared = askedBySchema document content.reference? schema ∧
      r.addRequestBody document declared =
        Request.addSchema { r with signature := t } document content.reference? schema := by
  unfold askedByBody addRequestBody contentSchema? content?
  have hgrows := r.signature.grows_resolve document declared
  rw [← r.signature.resolve_fst document declared]
  rcases hr : r.signature.resolve document declared with ⟨target, t⟩
  rw [hr] at hgrows
  cases target with
  | none => exact .inl ⟨t, hgrows, rfl, nofun, rfl⟩
  | some body =>
    dsimp only [Option.bind_some]
    cases hcontent : body.pointer? "/content/application~1json/schema" with
    | none =>
      left
      dsimp only
      split_ifs
      · exact ⟨_, hgrows.trans (.noted t rfl), rfl, nofun, rfl⟩
      · exact ⟨t, hgrows, rfl, nofun, rfl⟩
    | some content =>
      dsimp only [Option.bind_some]
      have hgrows' := t.grows_resolve document content
      rw [← t.resolve_fst document content]
      rcases hr' : t.resolve document content with ⟨target', u⟩
      rw [hr'] at hgrows'
      cases target' with
      | none => exact .inl ⟨u, hgrows.trans hgrows', rfl, nofun, rfl⟩
      | some schema =>
        dsimp only
        split_ifs with hbare
        · refine .inl ⟨_, hgrows.trans (.noted t rfl), rfl, fun other hother => ?_, rfl⟩
          rw [← Option.some.inj hother]
          exact List.isEmpty_iff.mp hbare
        · exact .inr ⟨t, content, schema, hgrows, rfl, by rw [← t.resolve_fst, hr'], rfl, rfl⟩

/-- A request body extends a request by the candidates that it asks for. -/
theorem extends_addRequestBody (hnodes : r.body.nodes = []) (declared : Json) :
    Extends r (askedByBody document declared) (r.addRequestBody document declared) := by
  rcases addRequestBody_cases document r declared with
    ⟨t, hgrows, hasked, -, hadd⟩ | ⟨t, content, schema, hgrows, -, -, hasked, hadd⟩
  · rw [hasked, hadd]
    exact .of_grows hgrows rfl
  · rw [hasked, hadd]
    exact .after hgrows (extends_addSchema { r with signature := t } hnodes content.reference? schema)

/-- An operation is read in two steps: the declared parameters are added, and then the request
body. -/
theorem ofOperation_eq (document : Document) (id : String) (operation : Operation) :
    ∃ t, Signature.Grows { operation := id } [] t ∧
      ofOperation document id operation =
        let declared :=
          (document.declarations operation).foldl (addDeclaration document) { signature := t }
        ((operation.entry.get? "requestBody").map (declared.addRequestBody document)).getD
          declared := by
  have hgrows := Signature.grows_declarations { operation := id } document operation
  refine ⟨_, hgrows, ?_⟩
  rw [← Signature.declarations_fst { operation := id }, ofOperation]
  cases operation.entry.get? "requestBody" <;> rfl

/-- **The request of an operation is the empty one extended by what the operation asks for.** -/
theorem extends_ofOperation (document : Document) (id : String) (operation : Operation) :
    Extends { signature := { operation := id } } (asked document operation)
      (ofOperation document id operation) := by
  obtain ⟨t, hgrows, hr⟩ := ofOperation_eq document id operation
  have hempty : (Request.body { signature := t }).nodes = [] := rfl
  obtain ⟨hdeclared, hnodes, -⟩ :=
    extends_addDeclarations document hempty (document.declarations operation)
  rw [hr, asked]
  refine .after hgrows ?_
  cases operation.entry.get? "requestBody" with
  | none =>
    rw [Option.map_none, Option.getD_none, List.append_nil]
    exact hdeclared
  | some declared =>
    rw [Option.map_some, Option.getD_some]
    exact hdeclared.trans (extends_addRequestBody hnodes declared)

end Request

end Toolwright
