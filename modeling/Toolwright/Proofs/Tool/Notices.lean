import Toolwright.Proofs.Tool.Asked

/-!
# What an operation is warned of

Apart from the warnings about names there are those about what is declared: that something is left out,
that a reference leads nowhere, or that a schema contains itself. `Request.noted` reads them off a
document, in order and part by part, as `Request.asked` does it with the parameters: first the
references in the lists of parameters, then every declaration, and at last the request body.

Collecting the parameters leaves exactly these warnings (`notices_ofOperation`). Each function on the
way has a lemma that says so of its part, in terms of `Signature.Notes`, which holds of one step and
of one step after another.
-/

namespace Toolwright

/-! ### Warnings noted on the way -/

namespace Signature

/-- The warnings that are not about names. -/
def notices (s : Signature) : List Warning :=
  s.warnings.filter fun warning => !warning.isOfName

/-- `Notes s warnings t`: the signature `s` became `t`, for the same operation, and these warnings were noted
on the way, besides those about names. -/
structure Notes (s : Signature) (warnings : List Warning) (t : Signature) : Prop where
  operation : t.operation = s.operation
  notices : t.notices = s.notices ++ warnings

namespace Notes

variable {s t u : Signature} {warnings more : List Warning}

theorem refl (s : Signature) : Notes s [] s := ⟨rfl, (List.append_nil _).symm⟩

theorem trans (h : Notes s warnings t) (h' : Notes t more u) : Notes s (warnings ++ more) u := by
  constructor
  · rw [h'.operation, h.operation]
  · rw [h'.notices, h.notices, List.append_assoc]

/-- A warning that is not about a name is noted. -/
theorem warn (s : Signature) {warning : Warning} (h : warning.isOfName = false) :
    Notes s [warning] (s.warn warning) := by
  constructor
  · rfl
  · show (s.warnings ++ [warning]).filter _ = _
    rw [List.filter_append, List.filter_cons_of_pos (by simp [h]), List.filter_nil]
    rfl

/-- Adding a parameter notes nothing but perhaps that it has another name. -/
theorem add (s : Signature) (candidate : Candidate) : Notes s [] (s.add candidate).2 := by
  have hname : (Parameter.renaming s.operation candidate (s.granted candidate)).filter
      (fun warning => !warning.isOfName) = [] := by
    unfold Parameter.renaming
    split <;> rfl
  constructor
  · rfl
  · rw [Signature.notices, warnings_add, List.filter_append, hname]
    rfl

end Notes

end Signature

/-! ### References -/

/-- The warning that is due for a value: that its reference leads nowhere. -/
def Document.lost (document : Document) (id : String) (value : Json) : List Warning :=
  match value.reference? with
  | none => []
  | some reference =>
    match document.resolve reference with
    | .ok _ => []
    | .error error => [.unresolvedReference id error.message]

/-- A warning is due for a value just if it stands for nothing. -/
theorem Document.lost_eq_nil_iff {document : Document} {id : String} {value : Json} :
    document.lost id value = [] ↔ document.target? value ≠ none := by
  unfold lost target?
  cases value.reference? with
  | none => simp
  | some reference =>
    dsimp only
    cases document.resolve reference <;> simp [Except.toOption]

/-- What stands for something is not warned of. -/
theorem Document.lost_of_target? {document : Document} {value target : Json}
    (h : document.target? value = some target) (id : String) : document.lost id value = [] := by
  rw [lost_eq_nil_iff, h]
  exact Option.some_ne_none target

theorem Document.mem_lost_iff {document : Document} {id : String} {value : Json}
    {warning : Warning} : warning ∈ document.lost id value ↔
      ∃ reference error, value.reference? = some reference ∧
        document.resolve reference = .error error ∧
        warning = .unresolvedReference id error.message := by
  unfold lost
  cases value.reference? with
  | none => simp
  | some reference =>
    dsimp only
    cases hresolve : document.resolve reference <;> simp [hresolve]

namespace Signature

theorem notes_resolve (s : Signature) (document : Document) (value : Json) :
    s.Notes (document.lost s.operation value) (s.resolve document value).2 := by
  unfold resolve Document.lost
  cases value.reference? with
  | none => exact .refl s
  | some reference =>
    dsimp only
    cases document.resolve reference with
    | ok _ => exact .refl s
    | error _ => exact .warn s rfl

theorem notes_mergeAll (s : Signature) (document : Document) (merged declarations : List Json) :
    s.Notes (declarations.flatMap (document.lost s.operation))
      (s.mergeAll document merged declarations).2 := by
  induction declarations generalizing s merged with
  | nil => exact .refl s
  | cons declaration rest ih =>
    have hnotes := s.notes_resolve document declaration
    rw [mergeAll, List.flatMap_cons]
    rcases hr : s.resolve document declaration with ⟨target, t⟩
    rw [hr] at hnotes
    have hoperation : t.operation = s.operation := hnotes.operation
    rw [← hoperation] at hnotes ⊢
    cases target with
    | none => exact hnotes.trans (ih t merged)
    | some resolved => exact hnotes.trans (ih t (merge merged resolved))

end Signature

/-! ### What is noted of the parts of an operation -/

/-- The warning that is due for a leaf whose references lead to a target. -/
def Target.noted (id : String) : Target → List Warning
  | found _ _ => []
  | recursive reference => [.recursiveSchema id reference]
  | unresolved error => [.unresolvedReference id error.message]

namespace Expansion

mutual

/-- The warnings about the leaves below a property, in order. -/
def noted (id : String) : Expansion → List Warning
  | object _ properties => notedOfAll id properties
  | leaf _ _ => []
  | recursive reference => [.recursiveSchema id reference]
  | unresolved error => [.unresolvedReference id error.message]

/-- The warnings about the leaves below some properties, in order. -/
def notedOfAll (id : String) : List (Property × Expansion) → List Warning
  | [] => []
  | (_, expansion) :: rest => noted id expansion ++ notedOfAll id rest

end

end Expansion

namespace Request

/-- The warnings about a declared parameter. -/
def notedByDeclaration (document : Document) (id : String) (declaration : Json) : List Warning :=
  match declaration.getString? "name" with
  | none => [.parameterSkipped id "<unnamed>" "missing name"]
  | some name =>
    let declared := declaration.getString? "in"
    if declared = some "formData" then [.formDataSkipped id name]
    else
      match Location.ofDeclared? declared with
      | some .body =>
        match declaration.get? "schema" with
        | none => [.parameterSkipped id name "body parameter without schema"]
        | some schema => document.lost id schema
      | some _ => []
      | none => [.parameterSkipped id name ("unsupported location '" ++ declared.getD "" ++ "'")]

/-- The warnings about a body with a schema; `reference` is the one by which it was reached. -/
def notedBySchema (document : Document) (id : String) (reference : Option String) (schema : Json) :
    List Warning :=
  match wrapped? document schema with
  | some (inner, innerReference) =>
    Expansion.notedOfAll id
      (Expansion.ofSchema document (reference.toList ++ innerReference.toList) inner)
  | none => []

/-- The warnings about a request body. -/
def notedByBody (document : Document) (id : String) (declared : Json) : List Warning :=
  match document.target? declared with
  | none => document.lost id declared
  | some body =>
    match body.pointer? "/content/application~1json/schema" with
    | none =>
      if (body.get? "content").isSome then
        [.unsupportedRequestBody id "no application/json content"]
      else []
    | some schema =>
      match document.target? schema with
      | none => document.lost id schema
      | some resolved =>
        if ((Schema.properties? resolved).getD []).isEmpty then
          [.unsupportedRequestBody id "schema declares no properties"]
        else notedBySchema document id schema.reference? resolved

/-- The parameters as they are listed, for the path of an operation and then for itself. -/
def listed (operation : Operation) : List Json :=
  ((operation.pathItem.get? "parameters").bind Json.items?).getD [] ++
    ((operation.entry.get? "parameters").bind Json.items?).getD []

/-- The warnings about what an operation declares, in order. -/
def noted (document : Document) (id : String) (operation : Operation) : List Warning :=
  (listed operation).flatMap (document.lost id) ++
    ((document.declarations operation).flatMap (notedByDeclaration document id) ++
      ((operation.entry.get? "requestBody").map (notedByBody document id)).getD [])

end Request

/-! ### Exactly these are noted -/

variable [Romanization]

namespace Expansion

mutual

/-- Flattening a property notes what is due for its leaves. -/
theorem notes_flatten (shared path source : List String) (property : Property) (s : Signature) :
    ∀ expansion : Expansion, s.Notes (noted s.operation expansion)
      (flatten shared path source property s expansion).2
  | .object _ properties => by
    rw [noted, flatten]
    exact notes_flattenAll shared path source s properties
  | .leaf _ _ => by
    rw [noted, flatten]
    exact .add s _
  | .recursive _ => by
    rw [noted, flatten]
    exact (Signature.Notes.warn s rfl).trans (.add _ _)
  | .unresolved _ => by
    rw [noted, flatten]
    exact (Signature.Notes.warn s rfl).trans (.add _ _)

theorem notes_flattenAll (shared path source : List String) (s : Signature) :
    ∀ properties : List (Property × Expansion), s.Notes (notedOfAll s.operation properties)
      (flattenAll shared path source s properties).2
  | [] => .refl s
  | (property, expansion) :: rest => by
    have hfirst := notes_flatten shared (path ++ [Name.snake property.name])
      (source ++ [property.name]) property s expansion
    have hrest := notes_flattenAll shared path source
      (flatten shared (path ++ [Name.snake property.name]) (source ++ [property.name]) property s
        expansion).2 rest
    rw [hfirst.operation] at hrest
    rw [notedOfAll, flattenAll]
    exact hfirst.trans hrest

end

end Expansion

/-- Adding the properties of a body notes nothing. -/
theorem Signature.notes_addProperties (s : Signature) (document : Document) (schema : Json)
    (properties : List (String × Json)) :
    s.Notes [] (s.addProperties document schema properties).2 := by
  induction properties generalizing s with
  | nil => exact .refl s
  | cons property rest ih =>
    obtain ⟨name, declared⟩ := property
    exact (Notes.add s _).trans (ih _)

namespace Request

variable {document : Document}

theorem notes_addBodyParameter (r : Request) (declaration : Json) (name : String) :
    r.signature.Notes
      (match declaration.get? "schema" with
        | none => [.parameterSkipped r.signature.operation name "body parameter without schema"]
        | some schema => document.lost r.signature.operation schema)
      (r.addBodyParameter document declaration name).signature := by
  unfold addBodyParameter
  cases declaration.get? "schema" with
  | none => exact .warn _ rfl
  | some schema =>
    dsimp only
    have hnotes := r.signature.notes_resolve document schema
    rcases hr : r.signature.resolve document schema with ⟨target, t⟩
    rw [hr] at hnotes
    cases target with
    | none => exact hnotes
    | some target =>
      have hadd := t.notes_addProperties document target ((Schema.properties? target).getD [])
      rw [← List.append_nil (document.lost _ _)]
      exact hnotes.trans hadd

/-- A declaration notes what is due for it. -/
theorem notes_addDeclaration (document : Document) (r : Request) (declaration : Json) :
    r.signature.Notes (notedByDeclaration document r.signature.operation declaration)
      (addDeclaration document r declaration).signature := by
  unfold notedByDeclaration addDeclaration
  cases declaration.getString? "name" with
  | none => exact .warn _ rfl
  | some name =>
    dsimp only
    by_cases hform : declaration.getString? "in" = some "formData"
    · rw [if_pos hform, if_pos hform]
      exact .warn _ rfl
    · rw [if_neg hform, if_neg hform]
      cases Location.ofDeclared? (declaration.getString? "in") with
      | none => exact .warn _ rfl
      | some location =>
        cases location with
        | body => exact notes_addBodyParameter r declaration name
        | query | path | header => exact .add _ _

/-- Declarations note what is due for them, one after another. -/
theorem notes_addDeclarations (document : Document) (r : Request) (declarations : List Json) :
    r.signature.Notes
      (declarations.flatMap (notedByDeclaration document r.signature.operation))
      (declarations.foldl (addDeclaration document) r).signature := by
  induction declarations generalizing r with
  | nil => exact .refl _
  | cons declaration rest ih =>
    have hfirst := notes_addDeclaration document r declaration
    have hrest := ih (addDeclaration document r declaration)
    rw [hfirst.operation] at hrest
    rw [List.foldl_cons, List.flatMap_cons]
    exact hfirst.trans hrest

theorem notes_addSchema (r : Request) (reference : Option String) (schema : Json) :
    r.signature.Notes (notedBySchema document r.signature.operation reference schema)
      (r.addSchema document reference schema).signature := by
  unfold notedBySchema addSchema
  cases wrapped? document schema with
  | none => exact r.signature.notes_addProperties document schema _
  | some found =>
    obtain ⟨inner, innerReference⟩ := found
    exact Expansion.notes_flattenAll _ [] [] r.signature _

/-- A request body notes what is due for it. -/
theorem notes_addRequestBody (document : Document) (r : Request) (declared : Json) :
    r.signature.Notes (notedByBody document r.signature.operation declared)
      (r.addRequestBody document declared).signature := by
  unfold notedByBody addRequestBody
  have hdeclared := r.signature.notes_resolve document declared
  rw [← r.signature.resolve_fst document declared]
  rcases hr : r.signature.resolve document declared with ⟨target, t⟩
  rw [hr] at hdeclared
  cases target with
  | none => exact hdeclared
  | some body =>
    have hfound : document.target? declared = some body := by
      rw [← r.signature.resolve_fst document declared, hr]
    rw [Document.lost_of_target? hfound] at hdeclared
    have hoperation : t.operation = r.signature.operation := hdeclared.operation
    dsimp only
    rw [← hoperation]
    cases body.pointer? "/content/application~1json/schema" with
    | none =>
      dsimp only
      split_ifs
      · exact hdeclared.trans (.warn t rfl)
      · exact hdeclared
    | some schema =>
      dsimp only
      have hschema := t.notes_resolve document schema
      rw [← t.resolve_fst document schema]
      rcases hr' : t.resolve document schema with ⟨target', u⟩
      rw [hr'] at hschema
      cases target' with
      | none => exact hdeclared.trans hschema
      | some resolved =>
        dsimp only
        split_ifs
        · exact hdeclared.trans (.warn t rfl)
        · exact hdeclared.trans (notes_addSchema { r with signature := t } schema.reference? resolved)

/-- **An operation is warned of what it declares, and of nothing else** but names. -/
theorem notices_ofOperation (document : Document) (id : String) (operation : Operation) :
    (ofOperation document id operation).signature.notices = noted document id operation := by
  have hlisted := Signature.notes_mergeAll { operation := id } document [] (listed operation)
  have hdeclared := notes_addDeclarations document
    { signature := (Signature.declarations { operation := id } document operation).2 }
    (document.declarations operation)
  rw [show (Signature.declarations { operation := id } document operation).2.operation = id from
    hlisted.operation] at hdeclared
  have hboth := Signature.Notes.trans hlisted hdeclared
  rw [ofOperation, noted, ← List.append_assoc]
  rw [← Signature.declarations_fst { operation := id }] at hboth ⊢
  cases operation.entry.get? "requestBody" with
  | none => exact (hboth.trans (.refl _)).notices
  | some declared =>
    have hbody := notes_addRequestBody document
      (List.foldl (addDeclaration document)
        { signature := (Signature.declarations { operation := id } document operation).2 }
        (Signature.declarations { operation := id } document operation).1) declared
    rw [hboth.operation] at hbody
    exact (hboth.trans hbody).notices

end Request

end Toolwright
