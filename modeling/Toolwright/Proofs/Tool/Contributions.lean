import Toolwright.Proofs.Tool.Merging
import Toolwright.Proofs.Tool.Notices
import Toolwright.Proofs.Tool.Shape

/-!
# What becomes of the entries of an operation

The entries of an operation are the parameters that it declares, once they are merged, and its request
body. Each should come to something: to a parameter at least, or to a warning that it was left out.
`contributions_ofOperation` splits what was collected of an operation into what each entry contributed,
and says which of them come to nothing at all. Of the declarations these are the body parameters whose
schema declares no properties (`unheard_ofFilter`); a request body always comes to something if it
has content.
-/

namespace Toolwright

/-! ### Warnings of what is left out -/

/-- Whether the warning is that something declared by an operation is left out. -/
def Warning.isLossOf (id : String) : Warning → Bool
  | parameterSkipped operation _ _ | formDataSkipped operation _
  | unsupportedRequestBody operation _ | unresolvedReference operation _ => operation = id
  | _ => false

/-- What became of an entry of an operation: parameters, and warnings about it. -/
structure Contribution where
  parameters : List Parameter
  warnings : List Warning

/-- Whether something came of an entry: a parameter, or a warning that something was left out. -/
def Contribution.IsHeard (id : String) (part : Contribution) : Prop :=
  part.parameters ≠ [] ∨ ∃ warning ∈ part.warnings, warning.isLossOf id = true

theorem Document.isLossOf_of_mem_lost {document : Document} {id : String} {value : Json}
    {warning : Warning} (h : warning ∈ document.lost id value) : warning.isLossOf id = true := by
  obtain ⟨reference, error, -, -, rfl⟩ := mem_lost_iff.mp h
  simp [Warning.isLossOf]

/-- What stands for nothing is warned of. -/
theorem Document.exists_mem_lost {document : Document} {value : Json}
    (h : document.target? value = none) (id : String) :
    ∃ warning ∈ document.lost id value, warning.isLossOf id = true := by
  have hne : document.lost id value ≠ [] := fun hnil => lost_eq_nil_iff.mp hnil h
  obtain ⟨warning, hmem⟩ := List.exists_mem_of_ne_nil _ hne
  exact ⟨warning, hmem, isLossOf_of_mem_lost hmem⟩

/-- Where a schema is found in a body, the body has content. -/
theorem Json.isSome_content_of_pointer? {body schema : Json}
    (h : body.pointer? "/content/application~1json/schema" = some schema) :
    (body.get? "content").isSome = true := by
  have hsegments : body.pointer? "/content/application~1json/schema" =
      ["content", "application/json", "schema"].foldlM
        (Reference.step? Reference.pointerIndex?) body := rfl
  rw [hsegments, List.foldlM_cons] at h
  obtain ⟨content, hcontent, -⟩ := Option.bind_eq_some_iff.mp h
  cases body with
  | object members => exact Option.isSome_iff_exists.mpr ⟨content, hcontent⟩
  | array items =>
    have hindex : Reference.pointerIndex? "content" = none := by decide +kernel
    rw [Reference.step?, hindex] at hcontent
    cases hcontent
  | _ => cases hcontent

/-! ### Contributions of what was asked for -/

namespace Request

/-- Whether a parameter is what was asked for, but for the identifier. -/
def Grants (candidate : Candidate) (p : Parameter) : Prop :=
  p.toCandidate = { candidate with ident := p.ident }

/-- Whether the contribution of an entry is the parameters that were asked for, and some warnings. -/
def Answers (asked : List Candidate) (noted : List Warning) (part : Contribution) : Prop :=
  List.Forall₂ Grants asked part.parameters ∧ part.warnings = noted

theorem Answers.isHeard_iff {asked : List Candidate} {noted : List Warning} {part : Contribution}
    (h : Answers asked noted part) (id : String) : part.IsHeard id ↔
      (asked ≠ [] ∨ ∃ warning ∈ noted, warning.isLossOf id = true) := by
  obtain ⟨hparameters, rfl⟩ := h
  have hempty : part.parameters = [] ↔ asked = [] := by
    rw [← List.length_eq_zero_iff, ← hparameters.length_eq, List.length_eq_zero_iff]
  rw [Contribution.IsHeard, ne_eq, hempty]

end Request

/-! ### Schemas with properties ask for something -/

section

variable [Romanization]

namespace Expansion

mutual

theorem IsFilled.asked_ne_nil {shared path source : List String} {property : Property} :
    ∀ {expansion : Expansion}, expansion.IsFilled → asked shared path source property expansion ≠ []
  | .object _ _, h => by
    rw [asked]
    exact h.2.askedOfAll_ne_nil h.1
  | .leaf _ _, _ | .recursive _, _ | .unresolved _, _ => by
    rw [asked]
    exact List.cons_ne_nil _ _

/-- A tree has a leaf if it has a property, and if all its objects have. -/
theorem AreFilled.askedOfAll_ne_nil {shared path source : List String} :
    ∀ {tree : List (Property × Expansion)}, AreFilled tree → tree ≠ [] →
      askedOfAll shared path source tree ≠ []
  | [], _, hne => absurd rfl hne
  | (property, expansion) :: rest, h, _ => by
    rw [askedOfAll]
    intro hnil
    exact h.1.asked_ne_nil (List.append_eq_nil_iff.mp hnil).1

end

end Expansion

namespace Request

variable {document : Document}

theorem askedByProperties_eq_nil_iff {schema : Json} :
    askedByProperties document schema = [] ↔ Schema.propertyList schema = [] :=
  List.map_eq_nil_iff

/-- A body with properties asks for something, whether it is wrapped or not. -/
theorem askedBySchema_ne_nil {schema : Json} (h : Schema.propertyList schema ≠ [])
    (reference : Option String) : askedBySchema document reference schema ≠ [] := by
  unfold askedBySchema
  cases hwrapped : wrapped? document schema with
  | none => exact fun hnil => h (askedByProperties_eq_nil_iff.mp hnil)
  | some found =>
    obtain ⟨inner, innerReference⟩ := found
    obtain ⟨property, hwraps, -⟩ := exists_wraps hwrapped
    apply (Expansion.areFilled_ofSchema document _ inner).askedOfAll_ne_nil
    intro hnil
    apply Schema.propertyKeys_ne_nil hwraps.expandable
    rw [← Expansion.names_ofSchema document (reference.toList ++ innerReference.toList), hnil,
      List.map_nil]

/-! ### Which entries come to nothing -/

/-- Whether a declaration is of a body parameter whose schema declares no properties. -/
def IsBlank (document : Document) (declaration : Json) : Prop :=
  ∃ schema, bodySchema? document declaration = some schema ∧ Schema.propertyList schema = []

/-- **A declaration asks for a parameter, or is warned of as left out, unless it is blank.** -/
theorem isHeard_iff_not_isBlank (document : Document) (id : String) (declaration : Json) :
    (askedByDeclaration document declaration ≠ [] ∨
      ∃ warning ∈ notedByDeclaration document id declaration, warning.isLossOf id = true) ↔
        ¬ IsBlank document declaration := by
  -- a declaration of anything but a body parameter is not blank
  have hother (h : ¬ ((declaration.getString? "name").isSome ∧
      declaration.getString? "in" = some "body")) : ¬ IsBlank document declaration := by
    rintro ⟨schema, hschema, -⟩
    rw [bodySchema?, if_neg h] at hschema
    cases hschema
  unfold askedByDeclaration notedByDeclaration
  cases hname : declaration.getString? "name" with
  | none => exact iff_of_true (.inr (by simp [Warning.isLossOf])) (hother (by simp [hname]))
  | some name =>
    dsimp only
    by_cases hform : declaration.getString? "in" = some "formData"
    · rw [if_pos hform]
      exact iff_of_true (.inr (by simp [Warning.isLossOf])) (hother (by simp [hform]))
    · rw [if_neg hform]
      cases hlocation : Location.ofDeclared? (declaration.getString? "in") with
      | none =>
        refine iff_of_true (.inr (by simp [Warning.isLossOf])) (hother fun h => ?_)
        rw [Location.ofDeclared?_eq_body.mpr h.2] at hlocation
        cases hlocation
      | some location =>
        cases location with
        | body =>
          have hbody : bodySchema? document declaration =
              (declaration.get? "schema").bind document.target? :=
            if_pos ⟨by rw [hname]; rfl, Location.ofDeclared?_eq_body.mp hlocation⟩
          rw [IsBlank, hbody]
          cases declaration.get? "schema" with
          | none => simp [Warning.isLossOf]
          | some schema =>
            dsimp only [Option.bind_some]
            cases htarget : document.target? schema with
            | none => exact iff_of_true (.inr (document.exists_mem_lost htarget id)) (by simp)
            | some target =>
              rw [Document.lost_of_target? htarget]
              simp [askedByProperties_eq_nil_iff]
        | query | path | header =>
          refine iff_of_true (.inl (List.cons_ne_nil _ _)) (hother fun h => ?_)
          rw [Location.ofDeclared?_eq_body.mpr h.2] at hlocation
          cases hlocation

/-- **A request body asks for a parameter, or is warned of as left out, if it has content** or is a
reference that leads nowhere. -/
theorem isHeard_iff_content (document : Document) (id : String) (declared : Json) :
    (askedByBody document declared ≠ [] ∨
      ∃ warning ∈ notedByBody document id declared, warning.isLossOf id = true) ↔
        ∀ body, document.target? declared = some body → (body.get? "content").isSome = true := by
  unfold askedByBody notedByBody
  cases hdeclared : document.target? declared with
  | none =>
    refine iff_of_true (.inr (document.exists_mem_lost hdeclared id)) ?_
    rintro _ ⟨⟩
  | some body =>
    dsimp only [Option.bind_some]
    cases hpointer : body.pointer? "/content/application~1json/schema" with
    | none =>
      dsimp only
      split_ifs with hcontent
      · exact iff_of_true (.inr (by simp [Warning.isLossOf])) (by simpa using hcontent)
      · exact iff_of_false (by simp) (by simpa using hcontent)
    | some schema =>
      have hcontent : ∀ other, some body = some other → (other.get? "content").isSome = true := by
        rintro _ ⟨⟩
        exact Json.isSome_content_of_pointer? hpointer
      dsimp only
      cases hschema : document.target? schema with
      | none => exact iff_of_true (.inr (document.exists_mem_lost hschema id)) hcontent
      | some resolved =>
        dsimp only
        rw [← Schema.propertyList]
        split_ifs with hempty
        · exact iff_of_true (.inr (by simp [Warning.isLossOf])) hcontent
        · refine iff_of_true (.inl (askedBySchema_ne_nil ?_ schema.reference?)) hcontent
          simpa using hempty

/-! ### Contributions -/

/-- What is granted for all declarations is what is granted for each, one after another. -/
theorem exists_contributions (document : Document) (id : String) {declarations : List Json}
    {more : List Candidate} {parameters : List Parameter}
    (h : List.Forall₂ Grants (declarations.flatMap (askedByDeclaration document) ++ more)
      parameters) :
    ∃ parts rest,
      List.Forall₂ (fun declaration part => Answers (askedByDeclaration document declaration)
        (notedByDeclaration document id declaration) part) declarations parts ∧
      List.Forall₂ Grants more rest ∧
      parameters = parts.flatMap Contribution.parameters ++ rest ∧
      parts.flatMap Contribution.warnings =
        declarations.flatMap (notedByDeclaration document id) := by
  induction declarations generalizing parameters with
  | nil => exact ⟨[], parameters, .nil, h, rfl, rfl⟩
  | cons declaration others ih =>
    rw [List.flatMap_cons, List.append_assoc] at h
    have hown := (List.forall₂_take_append _ _ _ h.flip).flip
    have hothers := (List.forall₂_drop_append _ _ _ h.flip).flip
    obtain ⟨parts, rest, hanswers, hrest, hparameters, hwarnings⟩ := ih hothers
    refine ⟨⟨_, notedByDeclaration document id declaration⟩ :: parts, rest,
      .cons ⟨hown, rfl⟩ hanswers, hrest, ?_, ?_⟩
    · rw [List.flatMap_cons, List.append_assoc, ← hparameters, List.take_append_drop]
    · rw [List.flatMap_cons, List.flatMap_cons, hwarnings]

/-- **What was collected of an operation is what became of its entries**: of its declarations, one after
another, and of its request body; besides, references in its lists of parameters that lead nowhere are
warned of. A declaration comes to something unless it is of a body parameter whose schema declares no
properties. A request body comes to something just if it has content or is a reference that leads
nowhere. -/
theorem contributions_ofOperation (document : Document) (id : String) (operation : Operation) :
    let s := (ofOperation document id operation).signature
    ∃ (parts : List Contribution) (body : Contribution),
      s.parameters = parts.flatMap Contribution.parameters ++ body.parameters ∧
      s.notices = (listed operation).flatMap (document.lost id) ++
        (parts.flatMap Contribution.warnings ++ body.warnings) ∧
      List.Forall₂ (fun declaration part =>
          List.Forall₂ Grants (askedByDeclaration document declaration) part.parameters ∧
            part.warnings = notedByDeclaration document id declaration ∧
            (part.IsHeard id ↔ ¬ IsBlank document declaration))
        (document.declarations operation) parts ∧
      (operation.entry.get? "requestBody" = none → body = ⟨[], []⟩) ∧
      ∀ declared, operation.entry.get? "requestBody" = some declared →
        List.Forall₂ Grants (askedByBody document declared) body.parameters ∧
          body.warnings = notedByBody document id declared ∧
          (body.IsHeard id ↔ ∀ value, document.target? declared = some value →
            (value.get? "content").isSome = true) := by
  intro s
  have hgranted : List.Forall₂ Grants (asked document operation) s.parameters :=
    candidates_ofOperation document id operation
  obtain ⟨parts, rest, hanswers, hrest, hparameters, hwarnings⟩ :=
    exists_contributions document id hgranted
  have hdeclarations : List.Forall₂ (fun declaration part =>
      List.Forall₂ Grants (askedByDeclaration document declaration) part.parameters ∧
        part.warnings = notedByDeclaration document id declaration ∧
        (part.IsHeard id ↔ ¬ IsBlank document declaration))
      (document.declarations operation) parts := by
    refine hanswers.imp fun declaration part h => ⟨h.1, h.2, ?_⟩
    rw [h.isHeard_iff, isHeard_iff_not_isBlank]
  refine ⟨parts, ⟨rest, ((operation.entry.get? "requestBody").map
    (notedByBody document id)).getD []⟩, hparameters, ?_, hdeclarations, fun hnone => ?_,
    fun declared hdeclared => ?_⟩
  · rw [notices_ofOperation, noted, hwarnings]
  · rw [hnone] at hrest ⊢
    cases hrest
    rfl
  · rw [hdeclared] at hrest ⊢
    have hbody : Answers (askedByBody document declared) (notedByBody document id declared)
        ⟨rest, notedByBody document id declared⟩ := ⟨hrest, rfl⟩
    refine ⟨hrest, rfl, ?_⟩
    exact (hbody.isHeard_iff id).trans (isHeard_iff_content document id declared)

end Request

end

/-! ### A body parameter of which nothing is heard -/

namespace Document

/-- A parameter for the body, which is a text. -/
def filter : Json :=
  .object [("name", .string "filter"), ("in", .string "body"), ("schema", textSchema)]

/-- The operation declares a body parameter that is a text. No parameter comes of it, and no warning. -/
theorem unheard_ofFilter :
    let document := withParameters [] [filter]
    let operation := document.operations.head (by decide +kernel)
    let s := (Request.ofOperation document "listItems" operation).signature
    operation ∈ document.operations ∧ document.declarations operation = [filter] ∧
      filter.getString? "name" = some "filter" ∧ filter.getString? "in" = some "body" ∧
      s.parameters = [] ∧ s.warnings = [] := by
  intro document operation s
  refine ⟨List.head_mem _, rfl, rfl, rfl, ?_⟩
  decide +kernel

end Document

end Toolwright
