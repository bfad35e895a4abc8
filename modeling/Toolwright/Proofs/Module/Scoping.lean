import Toolwright.Proofs.Module.BodyStatements
import Toolwright.Proofs.Module.Uses
import Toolwright.Proofs.Tool.Shape

/-!
# Names in scope

The function of a tool declares locals and uses them, and what decides on the one does not ask the other:
a part of the request is declared if some parameter goes there, or if the plan for the body is not
empty; it is filled parameter by parameter and field by field; and it is sent if it was declared.
Here the statements are read one after another with what is known so far
(`Statement.WellScoped`), starting from the arguments. `Tool.WellFormed` is all that a tool needs for its
statements to be in scope (`Tool.WellFormed.wellScoped_statements`), and so no name of its code is free
but those of its arguments (`Tool.WellFormed.mem_of_mem_free`). For the tools of a document
`Document.scoped_function` puts this together with the shape of their plans, from which it comes
that a wrapper wraps something.
-/

namespace Toolwright

open Source

namespace Statement

/-! ### Statements in a context -/

/-- `Fits context statement`: the statement uses only names of the context, for what they stand for
there. -/
structure Fits (context : List (String × Kind)) (statement : Statement) : Prop where
  uses : statement.uses ⊆ context
  checked : statement.checked ⊆ context.map Prod.fst

/-- `WellScoped context statements`: every statement in the row uses only names of the context and names
that were declared before. -/
inductive WellScoped : List (String × Kind) → List Statement → Prop where
  | nil (context : List (String × Kind)) : WellScoped context []
  | cons {context : List (String × Kind)} {statement : Statement} {rest : List Statement}
      (here : Fits context statement)
      (after : WellScoped (context ++ statement.declares?.toList) rest) :
      WellScoped context (statement :: rest)

variable {context more : List (String × Kind)} {statement : Statement}
  {statements rest : List Statement}

theorem map_fst_declares (statements : List Statement) :
    (statements.filterMap declares?).map Prod.fst = statements.filterMap declared? := by
  rw [List.map_filterMap]
  exact List.filterMap_congr fun statement _ => statement.declared?_eq.symm

theorem Fits.mono (h : Fits context statement) (hsub : context ⊆ more) : Fits more statement :=
  ⟨List.Subset.trans h.uses hsub, List.Subset.trans h.checked (List.map_subset _ hsub)⟩

/-- What a statement uses is known. -/
theorem Fits.names_subset (h : Fits context statement) :
    statement.names ⊆ context.map Prod.fst :=
  List.append_subset.mpr ⟨h.checked, List.map_subset _ h.uses⟩

/-- A statement that gives an argument to something, in one way if it is always given and in another if
it may have no value. -/
theorem Fits.argument {target argument : String} {kind : Kind} {required : Bool}
    {plain ifGiven : Statement} (htarget : (target, kind) ∈ context)
    (hargument : (argument, .argument required) ∈ context)
    (hplain : plain.uses = [(target, kind), (argument, .given)] ∧ plain.checked = [])
    (hifGiven : ifGiven.uses = [(target, kind), (argument, .optional)] ∧ ifGiven.checked = []) :
    Fits context (if required then plain else ifGiven) := by
  have hboth : [(target, kind), (argument, Kind.argument required)] ⊆ context :=
    List.cons_subset.mpr ⟨htarget, List.cons_subset.mpr ⟨hargument, List.nil_subset _⟩⟩
  cases required with
  | true => exact ⟨hplain.1.symm ▸ hboth, hplain.2.symm ▸ List.nil_subset _⟩
  | false => exact ⟨hifGiven.1.symm ▸ hboth, hifGiven.2.symm ▸ List.nil_subset _⟩

namespace WellScoped

theorem mono (h : WellScoped context statements) (hsub : context ⊆ more) :
    WellScoped more statements := by
  induction h generalizing more with
  | nil _ => exact .nil more
  | cons here _ ih =>
    exact .cons (here.mono hsub) (ih (List.append_subset.mpr
      ⟨List.Subset.trans hsub (List.subset_append_left _ _), List.subset_append_right _ _⟩))

/-- Statements after others may use what these declare. -/
theorem append (h : WellScoped context statements)
    (h' : WellScoped (context ++ statements.filterMap declares?) rest) :
    WellScoped context (statements ++ rest) := by
  induction h with
  | nil context =>
    rw [List.filterMap_nil, List.append_nil] at h'
    exact h'
  | @cons context statement others here _ ih =>
    refine .cons here (ih (h'.mono ?_))
    rw [← List.singleton_append, List.filterMap_append, ← List.append_assoc]
    cases hdeclares : statement.declares? <;> simp [hdeclares]

/-- Statements that need nothing of those before them. -/
theorem append_left (h : WellScoped context statements) (h' : WellScoped context rest) :
    WellScoped context (statements ++ rest) :=
  h.append (h'.mono (List.subset_append_left _ _))

/-- Statements that need nothing of each other. -/
theorem of_fits (h : ∀ statement ∈ statements, Fits context statement) :
    WellScoped context statements := by
  induction statements generalizing context with
  | nil => exact .nil context
  | cons statement rest ih =>
    obtain ⟨hfirst, hrest⟩ := List.forall_mem_cons.mp h
    exact .cons hfirst (ih fun other hother =>
      (hrest other hother).mono (List.subset_append_left _ _))

/-- Every statement uses names of the context and names that are declared among the statements. -/
theorem fits_of_mem (h : WellScoped context statements) (hmem : statement ∈ statements) :
    Fits (context ++ statements.filterMap declares?) statement := by
  induction h with
  | nil _ => exact absurd hmem List.not_mem_nil
  | @cons context first rest here _ ih =>
    rcases List.mem_cons.mp hmem with rfl | hmem
    · exact here.mono (List.subset_append_left _ _)
    · refine (ih hmem).mono ?_
      rw [← List.singleton_append, List.filterMap_append, ← List.append_assoc]
      cases hdeclares : first.declares? <;> simp [hdeclares]

/-- The code of statements takes from outside only names of the context, and the name of what a
function gives that goes well. -/
theorem mem_of_mem_free {name : String} (h : WellScoped context statements)
    (hname : name ∈ Stmt.freeOfAll (statements.flatMap code)) :
    name ∈ context.map Prod.fst ∨ name = "Ok" := by
  induction h with
  | nil _ => simp at hname
  | @cons context statement rest here _ ih =>
    rw [List.flatMap_cons, Stmt.mem_freeOfAll_append, bound_code, declared?_eq] at hname
    rcases hname with hname | ⟨hname, hbound⟩
    · exact (mem_names_of_mem_free hname).imp_left fun hused => here.names_subset hused
    · refine (ih hname).imp_left fun hmem => ?_
      rw [List.map_append, List.mem_append] at hmem
      refine hmem.resolve_right fun hdeclared => hbound ?_
      cases hdeclares : statement.declares? <;> simp_all

end WellScoped

end Statement

/-! ### Entries -/

theorem BodyField.fits_statement {context : List (String × Kind)} {target : String}
    {field : BodyField} (htarget : (target, .object) ∈ context)
    (hfield : (field.ident, .argument field.required) ∈ context) :
    Statement.Fits context (field.statement target) :=
  .argument htarget hfield ⟨rfl, rfl⟩ ⟨rfl, rfl⟩

namespace BodyNode

mutual

theorem wellScoped_statements {context : List (String × Kind)} {target : String} (a : Allocator)
    (htarget : (target, .object) ∈ context) : ∀ node : BodyNode,
    (∀ field ∈ node.fields, (field.ident, .argument field.required) ∈ context) →
      Statement.WellScoped context (node.statements target a).1
  | .leaf field, hfields => by
    rw [statements]
    exact .of_fits (List.forall_mem_singleton.mpr
      (field.fits_statement htarget (hfields field List.mem_cons_self)))
  | .object key container children, hfields => by
    rw [statements_object]
    have hholder : ((a.claimContainer container).1, Kind.object) ∈
        context ++ [((a.claimContainer container).1, .object)] := by simp
    have hchildren := wellScoped_statementsOfAll (a.claimContainer container).2 hholder children
      fun field hfield => List.mem_append_left _ (hfields field hfield)
    refine .cons ⟨List.nil_subset _, List.nil_subset _⟩ (hchildren.append (.of_fits ?_))
    refine List.forall_mem_singleton.mpr ⟨?_, List.nil_subset _⟩
    exact List.cons_subset.mpr ⟨List.mem_append_left _ (List.mem_append_left _ htarget),
      List.cons_subset.mpr ⟨List.mem_append_left _ hholder, List.nil_subset _⟩⟩

/-- The statements for some entries write into objects that they have declared, and into the
target. -/
theorem wellScoped_statementsOfAll {context : List (String × Kind)} {target : String} (a : Allocator)
    (htarget : (target, .object) ∈ context) : ∀ nodes : List BodyNode,
    (∀ field ∈ fieldsOfAll nodes, (field.ident, .argument field.required) ∈ context) →
      Statement.WellScoped context (statementsOfAll target a nodes).1
  | [], _ => .nil context
  | node :: rest, hfields => by
    rw [statementsOfAll]
    have hfirst := wellScoped_statements a htarget node fun field hfield =>
      hfields field (List.mem_append_left _ hfield)
    have hrest := wellScoped_statementsOfAll (node.statements target a).2 htarget rest
      fun field hfield => hfields field (List.mem_append_right _ hfield)
    exact hfirst.append (hrest.mono (List.subset_append_left _ _))

end

end BodyNode

/-! ### The function of a tool -/

namespace Tool

variable {tool : Tool}

/-- The arguments of a tool and what they stand for. -/
def context (tool : Tool) : List (String × Kind) :=
  tool.parameters.map fun p => (p.ident, .argument p.required)

/-- What is known after the declarations. -/
def declaredContext (tool : Tool) : List (String × Kind) :=
  tool.context ++ tool.declarations.filterMap Statement.declares?

theorem map_fst_context (tool : Tool) :
    tool.context.map Prod.fst = tool.parameters.map (·.ident) := by
  rw [context, List.map_map]
  rfl

theorem mem_context {p : Parameter} (h : p ∈ tool.parameters) :
    (p.ident, .argument p.required) ∈ tool.context :=
  List.mem_map_of_mem h

theorem context_subset (tool : Tool) : tool.context ⊆ tool.declaredContext :=
  List.subset_append_left _ _

theorem query_mem (h : tool.uses .query = true) :
    (tool.locals.query, .pairs) ∈ tool.declaredContext := by
  simp [declaredContext, declarations, h, Statement.declares?]

theorem headers_mem (h : tool.uses .header = true) :
    (tool.locals.headers, .pairs) ∈ tool.declaredContext := by
  simp [declaredContext, declarations, h, Statement.declares?]

theorem body_mem (h : tool.body.isEmpty = false) :
    (tool.locals.body, .object) ∈ tool.declaredContext := by
  simp [declaredContext, declarations, h, Statement.declares?]

theorem uses_of_mem {p : Parameter} (h : p ∈ tool.parameters) : tool.uses p.location = true :=
  List.any_eq_true.mpr ⟨p, h, decide_eq_true rfl⟩

theorem mem_of_mem_located {p : Parameter} (h : p ∈ tool.located) : p ∈ tool.parameters :=
  List.mem_of_mem_filter (List.mem_mergeSort.mp h)

theorem fits_validation : ∀ statement ∈ tool.validation, Statement.Fits tool.context statement := by
  unfold validation
  split_ifs
  · simp
  · refine List.forall_mem_singleton.mpr ⟨List.nil_subset _, ?_⟩
    rw [map_fst_context]
    exact List.Subset.refl _

theorem wellScoped_declarations (context : List (String × Kind)) :
    Statement.WellScoped context tool.declarations := by
  have hpairs : ∀ target, Statement.Fits context (.newPairs target) := fun target =>
    ⟨List.nil_subset _, List.nil_subset _⟩
  have hobject : ∀ target, Statement.Fits context (.newObject target) := fun target =>
    ⟨List.nil_subset _, List.nil_subset _⟩
  refine .of_fits fun statement hmem => ?_
  rw [declarations, List.mem_append, List.mem_append] at hmem
  rcases hmem with (hmem | hmem) | hmem
  · split_ifs at hmem
    · exact List.mem_singleton.mp hmem ▸ hpairs _
    · exact absurd hmem List.not_mem_nil
  · split_ifs at hmem
    · exact List.mem_singleton.mp hmem ▸ hpairs _
    · exact absurd hmem List.not_mem_nil
  · split_ifs at hmem
    · exact absurd hmem List.not_mem_nil
    · exact List.mem_singleton.mp hmem ▸ hobject _

/-- A field of the plan has its argument. -/
theorem WellFormed.field_mem (h : tool.WellFormed) {field : BodyField}
    (hfield : field ∈ tool.body.fields) :
    (field.ident, .argument field.required) ∈ tool.context := by
  obtain ⟨p, hp, rfl⟩ := h.fields field hfield
  exact mem_context hp

theorem isEmpty_eq_false_of_mem {field : BodyField} (h : field ∈ tool.body.legacyFields) :
    tool.body.isEmpty = false := by
  rw [BodyPlan.isEmpty, Bool.and_eq_false_iff, List.isEmpty_eq_false_iff]
  exact .inl (List.ne_nil_of_mem h)

theorem WellFormed.fits_legacyAssignments (h : tool.WellFormed) :
    ∀ statement ∈ tool.legacyAssignments, Statement.Fits tool.declaredContext statement := by
  intro statement hmem
  obtain ⟨field, hfield, rfl⟩ := List.mem_map.mp hmem
  exact field.fits_statement (body_mem (isEmpty_eq_false_of_mem hfield))
    (context_subset tool (h.field_mem (List.mem_append_left _ hfield)))

theorem fits_locationAssignments :
    ∀ statement ∈ tool.locationAssignments, Statement.Fits tool.declaredContext statement := by
  intro statement hmem
  obtain ⟨p, hp, hstatement⟩ := List.mem_flatMap.mp hmem
  have hargument := context_subset tool (mem_context (mem_of_mem_located hp))
  have huses := uses_of_mem (mem_of_mem_located hp)
  unfold locationAssignment at hstatement
  cases hlocation : p.location with
  | query =>
    rw [hlocation] at huses hstatement
    rw [List.mem_singleton.mp hstatement]
    exact .argument (query_mem huses) hargument ⟨rfl, rfl⟩ ⟨rfl, rfl⟩
  | header =>
    rw [hlocation] at huses hstatement
    rw [List.mem_singleton.mp hstatement]
    exact .argument (headers_mem huses) hargument ⟨rfl, rfl⟩ ⟨rfl, rfl⟩
  | path | body =>
    rw [hlocation] at hstatement
    exact absurd hstatement List.not_mem_nil

/-- The statements that put the request body together. -/
theorem WellFormed.wellScoped_bodyAssignments (h : tool.WellFormed) :
    Statement.WellScoped tool.declaredContext tool.bodyAssignments := by
  have hfields : ∀ field ∈ BodyNode.fieldsOfAll tool.body.nodes,
      (field.ident, .argument field.required) ∈ tool.declaredContext := fun field hfield =>
    context_subset tool (h.field_mem (List.mem_append_right _ hfield))
  have hbody : tool.body.nodes ≠ [] → (tool.locals.body, .object) ∈ tool.declaredContext := by
    intro hnodes
    refine body_mem ?_
    rw [BodyPlan.isEmpty, Bool.and_eq_false_iff, List.isEmpty_eq_false_iff,
      List.isEmpty_eq_false_iff]
    exact .inr hnodes
  unfold bodyAssignments
  cases hwrapper : tool.body.wrapper with
  | none =>
    cases hnodes : tool.body.nodes with
    | nil => exact .nil _
    | cons first rest =>
      rw [← hnodes]
      exact BodyNode.wellScoped_statementsOfAll _ (hbody (by simp [hnodes])) tool.body.nodes hfields
  | some key =>
    have hnodes : tool.body.nodes ≠ [] := h.wrapped (by simp [hwrapper])
    exact BodyNode.wellScoped_statements _ (hbody hnodes) (.object key key tool.body.nodes) hfields

theorem wellScoped_urlStatements {context : List (String × Kind)} (h : tool.context ⊆ context) :
    Statement.WellScoped context tool.urlStatements := by
  unfold urlStatements
  dsimp only
  rw [List.cons_append, List.cons_append, List.nil_append]
  refine .cons ⟨List.nil_subset _, List.nil_subset _⟩ (.cons ⟨?_, List.nil_subset _⟩ (.of_fits ?_))
  · exact List.cons_subset.mpr ⟨List.mem_append_right _ List.mem_cons_self, List.nil_subset _⟩
  · intro statement hmem
    obtain ⟨p, hp, rfl⟩ := List.mem_map.mp hmem
    have hargument := h (mem_context (mem_of_mem_located (List.mem_of_mem_filter hp)))
    exact .argument (List.mem_append_right _ List.mem_cons_self)
      (List.mem_append_left _ (List.mem_append_left _ hargument)) ⟨rfl, rfl⟩ ⟨rfl, rfl⟩

/-- The request is sent with the parts that were declared. -/
theorem fits_sending {context : List (String × Kind)} (h : tool.declaredContext ⊆ context)
    (hurl : (tool.locals.url, .url) ∈ context) : Statement.Fits context tool.sending := by
  refine ⟨?_, List.nil_subset _⟩
  rw [sending, Statement.uses, List.append_assoc, List.cons_append, List.cons_subset]
  refine ⟨hurl, List.append_subset.mpr ⟨?_, List.append_subset.mpr ⟨?_, ?_⟩⟩⟩
  · split_ifs with huses
    · exact List.cons_subset.mpr ⟨h (query_mem huses), List.nil_subset _⟩
    · exact List.nil_subset _
  · split_ifs with huses
    · exact List.cons_subset.mpr ⟨h (headers_mem huses), List.nil_subset _⟩
    · exact List.nil_subset _
  · split_ifs with hempty
    · exact List.nil_subset _
    · exact List.cons_subset.mpr ⟨h (body_mem (by simpa using hempty)), List.nil_subset _⟩

/-- **The statements of a tool are in scope**: each uses arguments and what was declared before. -/
theorem WellFormed.wellScoped_statements (h : tool.WellFormed) :
    Statement.WellScoped tool.context tool.statements := by
  have hend : Statement.WellScoped tool.declaredContext
      (tool.urlStatements ++ [tool.sending, .respond tool.locals.outcome]) := by
    refine (wellScoped_urlStatements (context_subset tool)).append (.cons (fits_sending ?_ ?_) ?_)
    · exact List.subset_append_left _ _
    · exact List.mem_append_right _ (List.mem_cons_of_mem _ List.mem_cons_self)
    · refine .cons ⟨?_, List.nil_subset _⟩ (.nil _)
      exact List.cons_subset.mpr ⟨List.mem_append_right _ List.mem_cons_self, List.nil_subset _⟩
  have hparts : Statement.WellScoped tool.declaredContext (tool.legacyAssignments ++
      (tool.locationAssignments ++ (tool.bodyAssignments ++
        (tool.urlStatements ++ [tool.sending, .respond tool.locals.outcome])))) :=
    .append_left (.of_fits h.fits_legacyAssignments) (.append_left (.of_fits fits_locationAssignments)
      (.append_left h.wellScoped_bodyAssignments hend))
  rw [statements]
  simp only [List.append_assoc] at hparts ⊢
  exact .append_left (.of_fits fits_validation) ((wellScoped_declarations tool.context).append hparts)

theorem WellFormed.ident_not_declared (h : tool.WellFormed) {p : Parameter}
    (hp : p ∈ tool.parameters) : p.ident ∉ tool.statements.filterMap Statement.declared? :=
  fun hdeclared =>
    (List.nodup_append.mp (nodup_declared h)).2.2 _ (List.mem_map_of_mem hp) _ hdeclared rfl

/-- What stands for an argument is never declared, so every use of an argument is that of its
parameter. -/
theorem WellFormed.kind_eq (h : tool.WellFormed) {statement : Statement}
    (hstatement : statement ∈ tool.statements) {p : Parameter} (hp : p ∈ tool.parameters)
    {kind : Kind} (huse : (p.ident, kind) ∈ statement.uses) : kind = .argument p.required := by
  rcases List.mem_append.mp ((h.wellScoped_statements.fits_of_mem hstatement).uses huse) with
    hmem | hmem
  · obtain ⟨q, hq, heq⟩ := List.mem_map.mp hmem
    rw [Prod.mk.injEq] at heq
    rw [← heq.2, List.inj_on_of_nodup_map h.distinct hq hp heq.1]
  · have hdeclared : p.ident ∈ tool.statements.filterMap Statement.declared? := by
      rw [← Statement.map_fst_declares]
      exact List.mem_map_of_mem (f := Prod.fst) hmem
    exact absurd hdeclared (h.ident_not_declared hp)

/-- The locals for the parts of a request. -/
def parts (tool : Tool) : List String :=
  [tool.locals.query, tool.locals.headers, tool.locals.body]

/-- The locals for the parts are called nothing that the code binds or takes for itself. -/
theorem not_mem_ownNames {name : String} (h : name ∈ tool.parts) :
    name ∉ "Ok" :: Statement.ownNames := by
  have hown : ∀ own ∈ "Ok" :: Statement.ownNames,
      own.toList.head? ∉ ["query", "headers", "body"].map fun word => word.toList.head? := by
    decide
  have hvaries : ∀ {word : String} (a : Allocator), word ∈ ["query", "headers", "body"] →
      a.choose word ∉ "Ok" :: Statement.ownNames := by
    intro word a hword hmem
    have hne : ∀ word ∈ ["query", "headers", "body"], word ≠ "" := by decide
    refine hown _ hmem ?_
    rw [(Allocator.varies_choose a word).head?_eq (hne word hword)]
    exact List.mem_map_of_mem hword
  simp only [parts, List.mem_cons, List.not_mem_nil, or_false] at h
  rcases h with rfl | rfl | rfl
  all_goals exact hvaries _ (by decide)

theorem WellFormed.ident_not_mem_parts (h : tool.WellFormed) {p : Parameter}
    (hp : p ∈ tool.parameters) : p.ident ∉ tool.parts := by
  have hnodup := h.nodup_locals
  have hident : p.ident ∈ tool.parameters.map (·.ident) := List.mem_map_of_mem hp
  simp only [List.nodup_cons, List.mem_cons, not_or] at hnodup
  obtain ⟨⟨-, -, hbody⟩, ⟨-, hheaders⟩, hquery, -⟩ := hnodup
  simp only [parts, List.mem_cons, List.not_mem_nil, or_false, not_or]
  exact ⟨fun he => hquery (he ▸ hident), fun he => hheaders (he ▸ hident),
    fun he => hbody (he ▸ hident)⟩

/-- A part of the request that is declared is sent. -/
theorem WellFormed.mem_names_sending (h : tool.WellFormed) {name : String} (hpart : name ∈ tool.parts)
    (hdeclared : name ∈ tool.statements.filterMap Statement.declared?) :
    name ∈ tool.sending.names := by
  have hnodup := List.nodup_append.mp (nodup_declared_bodyAssignments h)
  have htaken := hnodup.2.1
  rw [locals, Locals.taken_ofArguments] at htaken
  have hmem : name ∈ tool.locals.scope.taken := by
    rw [locals, Locals.taken_ofArguments]
    simp only [parts, locals] at hpart
    grind
  rw [declared_statements, List.mem_append, List.mem_append] at hdeclared
  rcases hdeclared with (hdeclared | hinner) | hlater
  · rw [sending, Statement.mem_names_send]
    simp only [declarations, List.filterMap_append, List.mem_append] at hdeclared
    rcases hdeclared with (hquery | hheaders) | hbody
    · split_ifs at hquery with huses
      · rw [if_pos huses]
        exact .inr (.inl (congrArg some (List.mem_singleton.mp hquery).symm))
      · exact absurd hquery List.not_mem_nil
    · split_ifs at hheaders with huses
      · rw [if_pos huses]
        exact .inr (.inr (.inl (congrArg some (List.mem_singleton.mp hheaders).symm)))
      · exact absurd hheaders List.not_mem_nil
    · split_ifs at hbody with hempty
      · exact absurd hbody List.not_mem_nil
      · rw [if_neg hempty]
        exact .inr (.inr (.inr (congrArg some (List.mem_singleton.mp hbody).symm)))
  · exact absurd rfl (hnodup.2.2 _ (List.mem_reverse.mpr hinner) _ hmem)
  · simp only [parts, locals] at hpart hlater
    simp only [List.nodup_cons] at htaken
    grind

theorem sending_mem (tool : Tool) : tool.sending ∈ tool.statements :=
  List.mem_append_right _ List.mem_cons_self

/-- The code of the function of a tool. -/
def code (tool : Tool) : List Stmt := tool.function.body

theorem code_eq (tool : Tool) : tool.code = tool.statements.flatMap Statement.code := rfl

theorem bound_code (tool : Tool) :
    tool.code.flatMap Stmt.bound = tool.statements.filterMap Statement.declared? := by
  rw [code_eq, List.flatMap_assoc, List.filterMap_eq_flatMap_toList]
  exact List.flatMap_congr fun statement _ => statement.bound_code

theorem exists_free_iff {tool : Tool} {name : String} :
    (∃ stmt ∈ tool.code, name ∈ stmt.free) ↔
      ∃ statement ∈ tool.statements, name ∈ Stmt.freeOfAll statement.code := by
  constructor
  · rintro ⟨stmt, hstmt, hname⟩
    obtain ⟨statement, hstatement, hmem⟩ := List.mem_flatMap.mp hstmt
    obtain ⟨only, honly⟩ := statement.exists_code_eq
    rw [honly, List.mem_singleton] at hmem
    subst hmem
    exact ⟨statement, hstatement, by rwa [honly, Stmt.freeOfAll_singleton]⟩
  · rintro ⟨statement, hstatement, hname⟩
    obtain ⟨only, honly⟩ := statement.exists_code_eq
    rw [honly, Stmt.freeOfAll_singleton] at hname
    exact ⟨only, List.mem_flatMap.mpr ⟨statement, hstatement, by simp [honly]⟩, hname⟩

/-- A part of the request is declared just if some statement reads or writes it. -/
theorem WellFormed.declared_iff (h : tool.WellFormed) {name : String} (hpart : name ∈ tool.parts) :
    name ∈ tool.code.flatMap Stmt.bound ↔ ∃ stmt ∈ tool.code, name ∈ stmt.free := by
  rw [bound_code, exists_free_iff]
  obtain ⟨hok, hown⟩ := not_or.mp (mt List.mem_cons.mpr (not_mem_ownNames hpart))
  constructor
  · intro hdeclared
    exact ⟨tool.sending, tool.sending_mem,
      Statement.mem_free_of_mem_names (h.mem_names_sending hpart hdeclared) hown⟩
  · rintro ⟨statement, hstatement, hfree⟩
    have hname := (Statement.mem_names_of_mem_free hfree).resolve_right hok
    have hknown := (h.wellScoped_statements.fits_of_mem hstatement).names_subset hname
    rw [List.map_append, map_fst_context, Statement.map_fst_declares, List.mem_append] at hknown
    refine hknown.resolve_left fun hargument => ?_
    obtain ⟨p, hp, rfl⟩ := List.mem_map.mp hargument
    exact h.ident_not_mem_parts hp hpart

/-- The code takes nothing from outside but its arguments, and the name of what a function gives that
goes well. -/
theorem WellFormed.mem_of_mem_free (h : tool.WellFormed) {name : String}
    (hname : name ∈ Stmt.freeOfAll tool.code) : name = "Ok" ∨ ∃ p ∈ tool.parameters, p.ident = name := by
  rcases h.wellScoped_statements.mem_of_mem_free hname with hargument | rfl
  · rw [map_fst_context] at hargument
    exact .inr (List.mem_map.mp hargument)
  · exact .inl rfl

/-- But where arguments are only checked, one that may have no value is used for its value, if it has
one, and any other one as it is. -/
theorem WellFormed.unwrapped_iff (h : tool.WellFormed) {statement : Statement}
    (hstatement : statement ∈ tool.statements)
    (hvalidate : ∀ arguments, statement ≠ .validate arguments) {p : Parameter}
    (hp : p ∈ tool.parameters) (hok : p.ident ≠ "Ok")
    (hfree : p.ident ∈ Stmt.freeOfAll statement.code) :
    p.ident ∈ statement.code.filterMap Stmt.unwrapped? ↔ p.required = false := by
  have hchecked : statement.checked = [] := by
    cases statement with
    | validate arguments => exact absurd rfl (hvalidate arguments)
    | _ => rfl
  have hname := (Statement.mem_names_of_mem_free hfree).resolve_right hok
  rw [Statement.names, hchecked, List.nil_append, List.mem_map] at hname
  obtain ⟨⟨_, kind⟩, huse, rfl⟩ := hname
  rw [Statement.unwrapped_code, List.mem_map]
  constructor
  · rintro ⟨⟨_, _⟩, hmem, rfl⟩
    obtain ⟨huse, hoptional⟩ := List.mem_filter.mp hmem
    rw [← Kind.argument_eq_optional, ← h.kind_eq hstatement hp huse]
    exact of_decide_eq_true hoptional
  · intro hrequired
    have hkind := h.kind_eq hstatement hp huse
    rw [Kind.argument_eq_optional.mpr hrequired] at hkind
    exact ⟨(p.ident, kind), List.mem_filter.mpr ⟨huse, decide_eq_true hkind⟩, rfl⟩

end Tool

/-! ### Tools of documents -/

namespace Document

section

variable [Romanization] {document : Document} {service : String} {tool : Tool}

theorem shape_of_mem_tools (h : tool ∈ (document.tools service).1) :
    BodyNode.AreFilled tool.body.nodes ∧ (tool.body.isEmpty = true ↔ tool.body.fields = []) := by
  obtain ⟨operation, -, id, name, rfl⟩ := mem_tools h
  exact ⟨Request.areFilled_ofOperation document id operation,
    Request.isEmpty_ofOperation document id operation⟩

theorem ident_ne_ok (h : tool ∈ (document.tools service).1) {p : Parameter}
    (hp : p ∈ tool.parameters) : p.ident ≠ "Ok" := by
  obtain ⟨operation, -, id, name, rfl⟩ := mem_tools h
  have husable := Request.usable_ofOperation (Signature.mem_ordered.mp hp)
  intro hok
  have hword := husable.isWord 'O' (by rw [hok]; decide)
  exact absurd hword (by decide)

/-- **The function of a tool is well scoped.** Whether its request has a body can be told from the
entries at the top, since every object has a leaf below it. Each part of the request has a local just
if some statement reads or writes it, each statement uses what was declared before, and nothing comes
from outside but the arguments: those that may have no value are used for the value if there is one,
the others as they are. -/
theorem scoped_function (h : tool ∈ (document.tools service).1) :
    (tool.body.wrapper ≠ none → tool.body.nodes ≠ []) ∧
      BodyNode.AreFilled tool.body.nodes ∧
      (tool.body.isEmpty = true ↔ tool.body.fields = []) ∧
      (∀ name ∈ [tool.locals.query, tool.locals.headers, tool.locals.body],
        name ∈ tool.code.flatMap Stmt.bound ↔ ∃ stmt ∈ tool.code, name ∈ stmt.free) ∧
      Statement.WellScoped tool.context tool.statements ∧
      (∀ name ∈ Stmt.freeOfAll tool.code, name = "Ok" ∨ ∃ p ∈ tool.parameters, p.ident = name) ∧
      ∀ statement ∈ tool.statements, (∀ arguments, statement ≠ .validate arguments) →
        ∀ p ∈ tool.parameters, p.ident ∈ Stmt.freeOfAll statement.code →
          (p.ident ∈ statement.code.filterMap Stmt.unwrapped? ↔ p.required = false) := by
  have hwell := wellFormed_of_mem_tools h
  obtain ⟨hfilled, hempty⟩ := shape_of_mem_tools h
  exact ⟨hwell.wrapped, hfilled, hempty, fun _ hpart => hwell.declared_iff hpart,
    hwell.wellScoped_statements, fun _ hname => hwell.mem_of_mem_free hname,
    fun _ hstatement hvalidate _ hp hfree =>
      hwell.unwrapped_iff hstatement hvalidate hp (ident_ne_ok h hp) hfree⟩

end

/-- The function that sends a parcel: it has no headers, its query is always given an argument, and the
object for the recipient one that may have no value. -/
theorem scoped_function_parcelTool :
    parcelTool ∈ (ofParcels.tools "parcels").1 ∧
      parcelTool.body.wrapper = some "request_data" ∧ parcelTool.body.nodes ≠ [] ∧
      BodyNode.AreFilled parcelTool.body.nodes ∧ parcelTool.body.fields ≠ [] ∧
      parcelTool.code.flatMap Stmt.bound =
        ["query", "body", "request_data_obj", "to_obj", "config", "url", "outcome"] ∧
      (∃ stmt ∈ parcelTool.code, "query" ∈ stmt.free) ∧
      (∃ stmt ∈ parcelTool.code, "body" ∈ stmt.free) ∧
      (¬ ∃ stmt ∈ parcelTool.code, "headers" ∈ stmt.free) ∧
      Statement.WellScoped parcelTool.context parcelTool.statements ∧
      (∀ name ∈ Stmt.freeOfAll parcelTool.code,
        name = "Ok" ∨ ∃ p ∈ parcelTool.parameters, p.ident = name) ∧
      "express" ∉ (Statement.push "query" "express" "express").code.filterMap Stmt.unwrapped? ∧
      "name" ∈ (Statement.insertIfGiven "to_obj" "name" "name").code.filterMap Stmt.unwrapped? := by
  have hbound : parcelTool.code.flatMap Stmt.bound =
      ["query", "body", "request_data_obj", "to_obj", "config", "url", "outcome"] := by
    rw [parcelTool, request_sendParcel]
    decide +kernel
  have hlocals : parcelTool.locals.query = "query" ∧ parcelTool.locals.headers = "headers" ∧
      parcelTool.locals.body = "body" := by
    rw [parcelTool, request_sendParcel]
    decide +kernel
  have hstatements : Statement.push "query" "express" "express" ∈ parcelTool.statements ∧
      Statement.insertIfGiven "to_obj" "name" "name" ∈ parcelTool.statements := by
    rw [parcelTool, request_sendParcel]
    decide +kernel
  obtain ⟨p, hp, hident, hrequired⟩ :
      ∃ p ∈ parcelTool.parameters, p.ident = "express" ∧ p.required = true := by
    rw [parcelTool, request_sendParcel]
    decide +kernel
  obtain ⟨q, hq, hname, hoptional⟩ :
      ∃ q ∈ parcelTool.parameters, q.ident = "name" ∧ q.required = false := by
    rw [parcelTool, request_sendParcel]
    decide +kernel
  have hplan : parcelTool.body = _ := body_sendParcel
  have hwrapper : parcelTool.body.wrapper = some "request_data" := by rw [hplan]
  obtain ⟨hwrapped, hfilled, hempty, hparts, hscoped, hfree, hunwrapped⟩ :=
    scoped_function parcelTool_mem_tools
  rw [hbound, hlocals.1, hlocals.2.1, hlocals.2.2] at hparts
  refine ⟨parcelTool_mem_tools, hwrapper, hwrapped (hwrapper ▸ Option.some_ne_none _), hfilled,
    fun hfields => ?_, hbound, (hparts _ (by decide)).mp (by decide), (hparts _ (by decide)).mp (by decide),
    fun hused => ?_, hscoped, hfree, fun hmem => ?_, ?_⟩
  · have hbare := hempty.mpr hfields
    rw [hplan] at hbare
    cases hbare
  · exact absurd ((hparts _ (by decide)).mpr hused) (by decide)
  · have hiff := hunwrapped _ hstatements.1 (fun _ heq => by cases heq) p hp
      (by rw [hident]; decide +kernel)
    rw [hident] at hiff
    cases hrequired.symm.trans (hiff.mp hmem)
  · have hiff := hunwrapped _ hstatements.2 (fun _ heq => by cases heq) q hq
      (by rw [hname]; decide +kernel)
    rw [hname] at hiff
    exact hiff.mpr hoptional

end Document

end Toolwright
