import Toolwright.Proofs.Module.Execution
import Toolwright.Proofs.Tool.Placement
import Toolwright.Proofs.Tool.Shape

/-!
# The statements of a tool put its body together

The function of a tool declares the parts of its request, writes the properties of a body parameter,
and then the entries of the request body. Run on any arguments that the tool accepts, these
statements leave in the local for the body what the plan gives for the same arguments
(`runs_bodyStatements`), and they end: every statement finds the object and the argument that it
names. All names that the function declares are different from each other and from its arguments
(`nodup_declared`).
-/

namespace Toolwright

/-! ### Locals -/

/-- The locals are claimed one after another on top of the arguments. -/
theorem Locals.taken_ofArguments (arguments : List String) :
    (Locals.ofArguments arguments).scope.taken =
      let l := Locals.ofArguments arguments
      l.outcome :: l.url :: l.config :: l.body :: l.headers :: l.query :: arguments := by
  simp only [ofArguments, Allocator.claim, Allocator.reserving]

theorem Locals.nodup_ofArguments {arguments : List String} (h : arguments.Nodup) :
    (Locals.ofArguments arguments).scope.taken.Nodup := by
  have hquery := Allocator.nodup_claim (a := .reserving arguments) h "query"
  have hheaders := Allocator.nodup_claim hquery "headers"
  have hbody := Allocator.nodup_claim hheaders "body"
  have hconfig := Allocator.nodup_claim hbody "config"
  have hurl := Allocator.nodup_claim hconfig "url"
  exact Allocator.nodup_claim hurl "outcome"

/-! ### Declarations -/

theorem BodyNode.statementsOfAll_map_leaf (target : String) (a : Allocator)
    (fields : List BodyField) :
    statementsOfAll target a (fields.map leaf) = (fields.map (BodyField.statement target), a) := by
  induction fields with
  | nil => rfl
  | cons field rest ih =>
    rw [List.map_cons, statementsOfAll, statements]
    dsimp only
    rw [ih]
    rfl

/-- A list declared or not leaves the other names as they are. -/
theorem Statement.runAll_newPairs_if (scope : Scope) (condition : Bool) (target : String) :
    ∃ after, runAll scope (if condition then [.newPairs target] else []) = some after ∧
      ∀ name ≠ target, after name = scope name := by
  cases condition with
  | false => exact ⟨scope, rfl, fun _ _ => rfl⟩
  | true => exact ⟨_, rfl, fun name hne => Scope.declare_of_ne hne⟩

namespace Tool

variable {tool : Tool} {arguments : Arguments}

/-- A tool whose plan and parameters belong together. -/
structure WellFormed (tool : Tool) : Prop where
  distinct : (tool.parameters.map (·.ident)).Nodup
  fields : ∀ field ∈ tool.body.fields, ∃ p ∈ tool.parameters, p.field = field
  wrapped : tool.body.wrapper ≠ none → tool.body.nodes ≠ []

/-- Arguments for a tool: every required parameter has one. -/
def Accepts (tool : Tool) (arguments : Arguments) : Prop :=
  ∀ p ∈ tool.parameters, p.required = true → (arguments p.ident).isSome = true

/-- In the beginning every field of the plan has its argument. -/
theorem WellFormed.gives (h : tool.WellFormed) (harguments : tool.Accepts arguments)
    {field : BodyField} (hfield : field ∈ tool.body.fields) :
    (tool.scope arguments).Gives arguments field := by
  obtain ⟨p, hp, rfl⟩ := h.fields field hfield
  have hscope : tool.scope arguments p.ident =
      if p.required then (arguments p.ident).map Binding.given
      else some (.optional (arguments p.ident)) := by
    rw [scope, parameter?_of_mem h.distinct hp]
    rfl
  unfold Scope.Gives Parameter.field
  dsimp only
  by_cases hrequired : p.required = true
  · obtain ⟨value, hvalue⟩ := Option.isSome_iff_exists.mp (harguments p hp hrequired)
    rw [if_pos hrequired]
    refine ⟨value, hvalue, ?_⟩
    rw [hscope, if_pos hrequired, hvalue, Option.map_some]
  · rw [if_neg hrequired, hscope, if_neg hrequired]

theorem WellFormed.ident_mem (h : tool.WellFormed) {field : BodyField}
    (hfield : field ∈ tool.body.fields) : field.ident ∈ tool.parameters.map (·.ident) := by
  obtain ⟨p, hp, rfl⟩ := h.fields field hfield
  exact List.mem_map_of_mem hp

/-- The arguments are taken before the locals. -/
theorem mem_taken_locals {name : String} (h : name ∈ tool.parameters.map (·.ident)) :
    name ∈ tool.locals.scope.taken := by
  rw [locals, Locals.taken_ofArguments]
  simp only [List.mem_cons]
  exact .inr (.inr (.inr (.inr (.inr (.inr h)))))

/-- The local for the body is no argument, and no other local of the request. -/
theorem WellFormed.nodup_locals (h : tool.WellFormed) :
    (tool.locals.body :: tool.locals.headers :: tool.locals.query ::
      tool.parameters.map (·.ident)).Nodup := by
  have hall := Locals.nodup_ofArguments h.distinct
  rw [Locals.taken_ofArguments] at hall
  exact hall.of_cons.of_cons.of_cons

theorem WellFormed.body_not_mem (h : tool.WellFormed) :
    tool.locals.body ∉ tool.parameters.map (·.ident) := fun hmem =>
  (List.nodup_cons.mp h.nodup_locals).1 (List.mem_cons_of_mem _ (List.mem_cons_of_mem _ hmem))

/-- The declarations give the body an object without members, if the tool has a body. -/
theorem runs_declarations (h : tool.WellFormed) (scope : Scope) :
    ∃ after, Statement.runAll scope tool.declarations = some after ∧
      (tool.body.isEmpty = false → after tool.locals.body = some (.object [])) ∧
      (tool.body.isEmpty = true → after tool.locals.body = scope tool.locals.body) ∧
      ∀ name ∈ tool.parameters.map (·.ident), after name = scope name := by
  have hnodup := h.nodup_locals
  simp only [List.nodup_cons, List.mem_cons, not_or] at hnodup
  obtain ⟨⟨hbodyHeaders, hbodyQuery, hbodyFresh⟩, ⟨-, hheadersFresh⟩, hqueryFresh, -⟩ := hnodup
  obtain ⟨first, hrun, hfirst⟩ :=
    Statement.runAll_newPairs_if scope (tool.uses .query) tool.locals.query
  obtain ⟨second, hrun', hsecond⟩ :=
    Statement.runAll_newPairs_if first (tool.uses .header) tool.locals.headers
  have hne : ∀ {name target : String}, target ∉ tool.parameters.map (·.ident) →
      name ∈ tool.parameters.map (·.ident) → name ≠ target := by
    rintro name target hfresh hname rfl
    exact hfresh hname
  have hbefore : ∀ name ∈ tool.parameters.map (·.ident), second name = scope name := by
    intro name hname
    rw [hsecond name (hne hheadersFresh hname), hfirst name (hne hqueryFresh hname)]
  have hbody : second tool.locals.body = scope tool.locals.body := by
    rw [hsecond _ hbodyHeaders, hfirst _ hbodyQuery]
  rw [declarations, List.append_assoc, Statement.runAll_append hrun, Statement.runAll_append hrun']
  cases hempty : tool.body.isEmpty with
  | true => exact ⟨second, rfl, fun h => absurd h (by decide), fun _ => hbody, hbefore⟩
  | false =>
    refine ⟨_, rfl, fun _ => Scope.declare_self, fun h => absurd h (by decide), fun name hname => ?_⟩
    rw [Scope.declare_of_ne (hne hbodyFresh hname), hbefore name hname]

/-- The statements for the fields and entries of a body, run where it has no members yet, give what
the plan gives. -/
theorem writes_assignments (h : tool.WellFormed) {scope : Scope}
    (hbody : scope tool.locals.body = some (.object []))
    (hfields : ∀ field ∈ tool.body.fields, scope.Gives arguments field) :
    Statement.Writes tool.locals.scope.taken scope tool.locals.body
      (tool.legacyAssignments ++ tool.bodyAssignments) (tool.body.build arguments) := by
  have htaken : tool.locals.body ∈ tool.locals.scope.taken := by
    rw [locals, Locals.taken_ofArguments]
    simp
  have hident : ∀ field ∈ tool.body.fields, field.ident ∈ tool.locals.scope.taken :=
    fun field hfield => mem_taken_locals (h.ident_mem hfield)
  have hlegacy := BodyNode.writes_statementsOfAll arguments hbody htaken
    (tool.body.legacyFields.map BodyNode.leaf) (fun field hfield => by
      rw [BodyNode.fieldsOfAll_map_leaf] at hfield
      have hmem : field ∈ tool.body.fields := List.mem_append_left _ hfield
      exact ⟨hident field hmem, hfields field hmem⟩)
  rw [BodyNode.statementsOfAll_map_leaf] at hlegacy
  refine hlegacy.append (List.Subset.refl _) fun after hafter hframe => ?_
  have hnodes : ∀ field ∈ BodyNode.fieldsOfAll tool.body.nodes,
      field.ident ∈ tool.locals.scope.taken ∧ after.Gives arguments field := by
    intro field hfield
    have hmem : field ∈ tool.body.fields := List.mem_append_right _ hfield
    have hgives := hfields field hmem
    exact ⟨hident field hmem, hgives.of_eq (hframe _ (hident field hmem) (hgives.ne hbody))⟩
  rw [bodyAssignments, BodyPlan.build]
  cases tool.body.wrapper with
  | none => exact BodyNode.writes_statementsOfAll arguments hafter htaken tool.body.nodes hnodes
  | some key =>
    have hwrapped := BodyNode.writes_statements arguments hafter htaken
      (.object key key tool.body.nodes) hnodes
    rw [BodyNode.write] at hwrapped
    exact hwrapped

/-- Without a body there are no statements about one. -/
theorem WellFormed.assignments_eq_nil (h : tool.WellFormed) (hempty : tool.body.isEmpty = true) :
    tool.legacyAssignments ++ tool.bodyAssignments = [] := by
  obtain ⟨hlegacy, hnodes⟩ := Bool.and_eq_true_iff.mp hempty
  rw [List.isEmpty_iff] at hlegacy hnodes
  have hwrapper : tool.body.wrapper = none := by
    by_contra hsome
    exact h.wrapped hsome hnodes
  rw [legacyAssignments, bodyAssignments, hlegacy, hnodes, hwrapper]
  rfl

/-! ### Names -/

/-- The names declared for the objects of a body are taken on top of the locals. -/
theorem nodup_declared_bodyAssignments (h : tool.WellFormed) :
    ((tool.bodyAssignments.filterMap Statement.declared?).reverse ++ tool.locals.scope.taken).Nodup := by
  have hlocals := Locals.nodup_ofArguments h.distinct
  rw [bodyAssignments]
  cases tool.body.wrapper with
  | none =>
    dsimp only
    rw [← BodyNode.taken_statementsOfAll]
    exact BodyNode.nodup_statementsOfAll _ hlocals tool.body.nodes
  | some key =>
    dsimp only
    rw [← BodyNode.taken_statements]
    exact BodyNode.nodup_statements _ hlocals (.object key key tool.body.nodes)

/-- The names that the function of a tool declares: those of the parts of its request, of the
objects inside of the body, and of the locals for the call. -/
theorem declared_statements (tool : Tool) :
    tool.statements.filterMap Statement.declared? =
      tool.declarations.filterMap Statement.declared? ++
        tool.bodyAssignments.filterMap Statement.declared? ++
        [tool.locals.config, tool.locals.url, tool.locals.outcome] := by
  have hvalidation : tool.validation.filterMap Statement.declared? = [] := by
    unfold validation
    split <;> rfl
  have hlegacy : tool.legacyAssignments.filterMap Statement.declared? = [] := by
    rw [legacyAssignments, List.filterMap_map]
    exact List.filterMap_eq_nil_iff.mpr fun field _ => field.declared?_statement tool.locals.body
  have hlocation : tool.locationAssignments.filterMap Statement.declared? = [] := by
    refine List.filterMap_eq_nil_iff.mpr fun statement hmem => ?_
    obtain ⟨p, -, hp⟩ := List.mem_flatMap.mp hmem
    unfold locationAssignment at hp
    dsimp only at hp
    split at hp
    · rw [List.mem_singleton.mp hp]
      split <;> rfl
    · rw [List.mem_singleton.mp hp]
      split <;> rfl
    · exact absurd hp List.not_mem_nil
  have hurl : tool.urlStatements.filterMap Statement.declared? =
      [tool.locals.config, tool.locals.url] := by
    have hfill : ((tool.located.filter fun p => p.location = .path).map tool.substitution).filterMap
        Statement.declared? = [] := by
      rw [List.filterMap_map]
      refine List.filterMap_eq_nil_iff.mpr fun p _ => ?_
      rw [Function.comp_apply, substitution]
      split <;> rfl
    rw [urlStatements, List.filterMap_append, hfill, List.append_nil]
    rfl
  have hend : [tool.sending, .respond tool.locals.outcome].filterMap Statement.declared? =
      [tool.locals.outcome] := rfl
  rw [statements, List.filterMap_append, List.filterMap_append, List.filterMap_append,
    List.filterMap_append, List.filterMap_append, List.filterMap_append, hvalidation, hlegacy,
    hlocation, hurl, hend, List.nil_append, List.append_nil, List.append_nil, List.append_assoc]
  rfl

/-- **No name of the function hides another one**: its arguments and all that it declares have
different names. -/
theorem nodup_declared (h : tool.WellFormed) :
    (tool.parameters.map (·.ident) ++ tool.statements.filterMap Statement.declared?).Nodup := by
  have hall := nodup_declared_bodyAssignments h
  have hdeclarations : (tool.declarations.filterMap Statement.declared?).Sublist
      [tool.locals.query, tool.locals.headers, tool.locals.body] := by
    unfold declarations
    split_ifs <;> simp [Statement.declared?]
  have hperm : (tool.parameters.map (·.ident) ++ ([tool.locals.query, tool.locals.headers,
      tool.locals.body] ++ tool.bodyAssignments.filterMap Statement.declared? ++
        [tool.locals.config, tool.locals.url, tool.locals.outcome])).Perm
      ((tool.bodyAssignments.filterMap Statement.declared?).reverse ++
        tool.locals.scope.taken) := by
    refine List.perm_iff_count.mpr fun name => ?_
    have htaken : tool.locals.scope.taken = _ := Locals.taken_ofArguments _
    rw [htaken]
    simp only [locals, List.count_append, List.count_reverse, List.count_cons, List.count_nil]
    omega
  rw [declared_statements]
  refine (hperm.nodup_iff.mpr hall).sublist ?_
  exact ((hdeclarations.append_right _).append_right _).append_left _

end Tool

/-! ### Tools of documents -/

namespace Document

section

variable [Romanization] {document : Document} {service : String} {tool : Tool} {arguments : Arguments}

theorem wellFormed_of_mem_tools (h : tool ∈ (document.tools service).1) : tool.WellFormed := by
  obtain ⟨operation, -, id, name, rfl⟩ := mem_tools h
  refine ⟨nodup_idents_toolOf document service id name operation, fun field hfield => ?_,
    fun hw => ?_⟩
  · have hfields : (Request.ofOperation document id operation).body.fields = _ :=
      Request.fields_ofOperation document id operation
    rw [toolOf, hfields] at hfield
    obtain ⟨p, hp, rfl⟩ := List.mem_map.mp hfield
    exact ⟨p, Signature.mem_ordered.mpr (List.mem_of_mem_filter hp), rfl⟩
  · rcases Request.wrapper_ofOperation document id operation with hnone | ⟨-, hnodes⟩
    · exact absurd hnone hw
    · exact hnodes

/-- **The statements of a tool put its body together.** For all arguments that the tool accepts they
run to their end, leave what the plan gives in the local for the body, and leave the arguments as
they are; and no local has the name of an argument or of another local. -/
theorem runs_bodyStatements (htool : tool ∈ (document.tools service).1)
    (harguments : tool.Accepts arguments) :
    (∃ after, Statement.runAll (tool.scope arguments)
        (tool.declarations ++ tool.legacyAssignments ++ tool.bodyAssignments) = some after ∧
      after tool.locals.body =
        (if tool.body.isEmpty then none else some (.object (tool.body.build arguments))) ∧
      ∀ p ∈ tool.parameters, after p.ident = tool.scope arguments p.ident) ∧
    (tool.parameters.map (·.ident) ++ tool.statements.filterMap Statement.declared?).Nodup := by
  have h := wellFormed_of_mem_tools htool
  refine ⟨?_, Tool.nodup_declared h⟩
  obtain ⟨declared, hrun, hbody, hnobody, hkept⟩ := Tool.runs_declarations h (tool.scope arguments)
  rw [List.append_assoc, Statement.runAll_append hrun]
  cases hempty : tool.body.isEmpty with
  | true =>
    refine ⟨declared, ?_, ?_, fun p hp => hkept _ (List.mem_map_of_mem hp)⟩
    · rw [h.assignments_eq_nil hempty]
      rfl
    · have hnone : tool.parameter? tool.locals.body = none := by
        refine List.find?_eq_none.mpr fun p hp hident => h.body_not_mem ?_
        rw [← of_decide_eq_true hident]
        exact List.mem_map_of_mem hp
      rw [hnobody hempty, if_pos rfl, Tool.scope, hnone, Option.bind_none]
  | false =>
    have hgives : ∀ field ∈ tool.body.fields, declared.Gives arguments field := fun field hfield =>
      (h.gives harguments hfield).of_eq (hkept _ (h.ident_mem hfield))
    obtain ⟨after, hrun', hafter, hframe⟩ := Tool.writes_assignments h (hbody hempty) hgives
    refine ⟨after, hrun', ?_, fun p hp => ?_⟩
    · rw [hafter, if_neg Bool.false_ne_true]
    · have hident : p.ident ∈ tool.parameters.map (·.ident) := List.mem_map_of_mem hp
      have hne : p.ident ≠ tool.locals.body := by
        intro he
        exact h.body_not_mem (he ▸ hident)
      rw [hframe _ (Tool.mem_taken_locals hident) hne, hkept _ hident]

end

/-- The statements for a parcel of which only the name is given, besides what is required. The object
for the recipient is put together apart from the one around it. -/
theorem runs_bodyStatements_parcelTool :
    let arguments : Arguments := fun ident =>
      if ident = "express" then some (.bool true)
      else if ident = "name" then some (.string "Ada") else none
    parcelTool ∈ (ofParcels.tools "parcels").1 ∧ parcelTool.Accepts arguments ∧
      parcelTool.parameters.map (fun p => (p.ident, p.location, p.required)) =
        [("express", .query, true), ("type_value", .body, false), ("to_type", .body, false),
          ("name", .body, false)] ∧
      parcelTool.declarations ++ parcelTool.legacyAssignments ++ parcelTool.bodyAssignments =
        [.newPairs "query", .newObject "body", .newObject "request_data_obj",
          .insertIfGiven "request_data_obj" "type" "type_value", .newObject "to_obj",
          .insertIfGiven "to_obj" "type" "to_type", .insertIfGiven "to_obj" "name" "name",
          .attach "request_data_obj" "to" "to_obj",
          .attach "body" "request_data" "request_data_obj"] ∧
      (∃ after, Statement.runAll (parcelTool.scope arguments)
          (parcelTool.declarations ++ parcelTool.legacyAssignments ++ parcelTool.bodyAssignments) =
            some after ∧
        after "body" = some (.object [("request_data",
          .object [("to", .object [("name", .string "Ada")])])]) ∧
        ∀ p ∈ parcelTool.parameters, after p.ident = parcelTool.scope arguments p.ident) ∧
      (parcelTool.parameters.map (·.ident) ++
        parcelTool.statements.filterMap Statement.declared?).Nodup := by
  intro arguments
  have harguments : parcelTool.Accepts arguments := by
    rw [parcelTool, request_sendParcel]
    unfold Tool.Accepts
    decide +kernel
  have hlocal : parcelTool.locals.body = "body" := by
    rw [parcelTool, request_sendParcel]
    decide +kernel
  have hplan : parcelTool.body = _ := body_sendParcel
  obtain ⟨⟨after, hrun, hbody, hkept⟩, hnodup⟩ := runs_bodyStatements parcelTool_mem_tools harguments
  rw [hlocal, hplan] at hbody
  refine ⟨parcelTool_mem_tools, harguments, ?_, ?_, ⟨after, hrun, hbody, hkept⟩, hnodup⟩
  · rw [parcelTool, request_sendParcel]
    decide +kernel
  · rw [parcelTool, request_sendParcel]
    decide +kernel

end Document

end Toolwright
