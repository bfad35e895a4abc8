import Toolwright.Module.Generate
import Toolwright.Proofs.Module.BodyStatements
import Toolwright.Proofs.Name.TypeName
import Toolwright.Proofs.Tool.Containers
import Toolwright.Proofs.Tool.Unfolding
import Toolwright.Proofs.Tool.Naming

/-!
# The identifiers of a module

The names of tools, of their types, parameters and locals reach the code of a module mended
(`identFault?_of_usable`, `identFault?_argumentsName`). The objects of a body do not: their locals
are called after the way to them as it is. So a module is generated from a document unless a nested
object right in a request body has a name that begins with a digit, and no keyword stands where a
name should (`generates_unless_numbered`). Such an object is not far to seek (`fails_ofSecondFactor`).
-/

namespace Toolwright

open Source

/-! ### The form of identifiers -/

namespace Name

/-- Names in ASCII that are more than digits are identifiers unless they begin with one. -/
theorem identFault?_of_identChars {name : String} (h : ∀ c ∈ name.toList, isIdentChar c = true)
    (hletter : ∃ c ∈ name.toList, c.isDigit = false) :
    identFault? name = if beginsWithDigit name then
      some (Text.quoted name ++ " is not a valid Ident") else none := by
  have hraw : Text.after? ['r', '#'] name.toList = none := by
    rw [Option.eq_none_iff_forall_ne_some]
    intro rest hrest
    have hmem : '#' ∈ name.toList := by
      rw [Text.after?_eq_some_iff.mp hrest]
      simp
    exact absurd (h _ hmem) (by decide)
  have hall : name.toList.all Char.isDigit = false := by
    obtain ⟨c, hc, hdigit⟩ := hletter
    exact List.all_eq_false.mpr ⟨c, hc, by rw [hdigit]; exact Bool.false_ne_true⟩
  rw [identFault?, hraw]
  dsimp only
  rw [formFault?, hall, String.ofList_toList, beginsWithDigit]
  cases hname : name.toList with
  | nil => rw [hname] at hall; cases hall
  | cons c rest =>
    rw [hname] at h
    have hfirst : (c == '_' || Text.startsIdentifier c) = !c.isDigit :=
      forall_identChar (P := fun c => (c == '_' || Text.startsIdentifier c) = !c.isDigit)
        (by decide +kernel) (h c List.mem_cons_self)
    have hrest : rest.all Text.continuesIdentifier = true :=
      List.all_eq_true.mpr fun d hd =>
        forall_identChar (P := fun d => Text.continuesIdentifier d = true) (by decide +kernel)
          (h d (List.mem_cons_of_mem _ hd))
    rw [isIdentForm, hfirst, hrest, Bool.and_true]
    cases hdigit : c.isDigit <;> simp [hdigit]

/-- A word with an underscore is an identifier unless it begins with a digit. -/
theorem identFault?_of_isWord {name : String} (h : IsWord name) (hcut : '_' ∈ name.toList) :
    identFault? name = if beginsWithDigit name then
      some (Text.quoted name ++ " is not a valid Ident") else none :=
  identFault?_of_identChars (fun c hc => isIdentChar_of_isWordChar (h c hc)) ⟨'_', hcut, rfl⟩

theorem identFault?_of_usable {name : String} (h : Usable name) : identFault? name = none := by
  obtain ⟨c, rest, hname, hdigit, -⟩ := h.exists_cons
  have hfirst : c ∈ name.toList := by
    rw [hname]
    exact List.mem_cons_self
  rw [identFault?_of_identChars (fun d hd => isIdentChar_of_isWordChar (h.isWord d hd))
    ⟨c, hfirst, hdigit⟩, h.beginsWithDigit, if_neg Bool.false_ne_true]

/-- All keywords are reserved. -/
theorem isKeyword_of_usable {name : String} (h : Usable name) : isKeyword name = false := by
  have hreserved : ∀ word ∈ keywords, isReserved word = true := by decide
  rw [Bool.eq_false_iff]
  intro hkeyword
  have := hreserved name (List.contains_iff_mem.mp hkeyword)
  rw [h.unreserved] at this
  cases this

theorem nameFault?_of_usable {name : String} (h : Usable name) : nameFault? name = none := by
  rw [nameFault?, isKeyword_of_usable h, if_neg Bool.false_ne_true]

end Name

/-! ### Reading a tool again -/

namespace Tool

theorem argumentFault?_of_usable {idents : List String} (h : ∀ ident ∈ idents, Name.Usable ident) :
    ∀ isFirst seen, argumentFault? isFirst seen idents = none := by
  induction idents with
  | nil => exact fun _ _ => rfl
  | cons ident rest ih =>
    intro isFirst seen
    obtain ⟨hident, hrest⟩ := List.forall_mem_cons.mp h
    have hself : ident ≠ "self" := by
      rintro rfl
      exact absurd hident.unreserved (by decide)
    rw [argumentFault?, if_neg hself, Name.isKeyword_of_usable hident, Bool.not_false, Bool.or_true,
      if_pos rfl]
    exact ih hrest false seen

theorem fieldFault?_of_usable {idents : List String} (h : ∀ ident ∈ idents, Name.Usable ident) :
    fieldFault? idents = none := by
  have hnames : (idents.findSome? fun ident => if ident = "_" then none else nameFault? ident) =
      none := by
    refine List.findSome?_eq_none_iff.mpr fun ident hident => ?_
    rw [Name.nameFault?_of_usable (h ident hident), ite_self]
  have hblank : idents.contains "_" = false := by
    rw [Bool.eq_false_iff]
    intro hmem
    exact absurd (h "_" (List.contains_iff_mem.mp hmem)).unreserved (by decide)
  rw [fieldFault?, hnames]
  dsimp only
  rw [hblank, if_neg Bool.false_ne_true]

/-- No keyword stands in the way of a tool with usable names. -/
theorem readingFault?_of_usable {tool : Tool} (hname : Name.Usable tool.name)
    (hidents : ∀ p ∈ tool.parameters, Name.Usable p.ident) {method : Method}
    (hmethod : tool.method = method.name) : tool.readingFault? = none := by
  have hall : ∀ ident ∈ tool.parameters.map (·.ident), Name.Usable ident := by
    intro ident hident
    obtain ⟨p, hp, rfl⟩ := List.mem_map.mp hident
    exact hidents p hp
  have hreads : methodFault? tool.method = none := by
    rw [hmethod]
    cases method <;> decide
  rw [readingFault?, Name.nameFault?_of_usable hname, argumentFault?_of_usable hall, hreads,
    fieldFault?_of_usable hall]
  rfl

end Tool

/-! ### The objects of a body -/

theorem BodyField.newIdents_statement (field : BodyField) (target : String) :
    (field.statement target).newIdents = [field.ident] := by
  unfold statement
  split <;> rfl

namespace BodyNode

mutual

theorem exists_of_mem_newIdents {target : String} {a : Allocator} {ident : String} :
    ∀ {node : BodyNode}, ident ∈ (node.statements target a).1.flatMap Statement.newIdents →
      (∃ field ∈ node.fields, field.ident = ident) ∨
        ∃ container ∈ node.containers, Allocator.Varies (container ++ "_obj") ident
  | .leaf field, h => by
    rw [statements, List.flatMap_singleton, field.newIdents_statement] at h
    exact .inl ⟨field, List.mem_cons_self, (List.mem_singleton.mp h).symm⟩
  | .object key container children, h => by
    rw [statements_object, List.flatMap_append, List.flatMap_cons, List.append_assoc,
      List.mem_append, List.mem_append] at h
    rcases h with h | h | h
    · rw [List.mem_singleton.mp h]
      exact .inr ⟨container, List.mem_cons_self, a.varies_choose (container ++ "_obj")⟩
    · rcases exists_of_mem_newIdentsOfAll h with hfield | ⟨inner, hinner, hvaries⟩
      · exact .inl hfield
      · exact .inr ⟨inner, List.mem_cons_of_mem _ hinner, hvaries⟩
    · exact absurd h List.not_mem_nil

/-- The statements for some entries have the identifiers of the arguments that they write, and names
for the objects of the entries. -/
theorem exists_of_mem_newIdentsOfAll {target : String} {a : Allocator} {ident : String} :
    ∀ {nodes : List BodyNode},
      ident ∈ (statementsOfAll target a nodes).1.flatMap Statement.newIdents →
      (∃ field ∈ fieldsOfAll nodes, field.ident = ident) ∨
        ∃ container ∈ containersOfAll nodes, Allocator.Varies (container ++ "_obj") ident
  | [], h => absurd h List.not_mem_nil
  | node :: rest, h => by
    rw [statementsOfAll, List.flatMap_append, List.mem_append] at h
    rcases h with h | h
    · rcases exists_of_mem_newIdents h with ⟨field, hfield, he⟩ | ⟨container, hcontainer, hvaries⟩
      · exact .inl ⟨field, List.mem_append_left _ hfield, he⟩
      · exact .inr ⟨container, List.mem_append_left _ hcontainer, hvaries⟩
    · rcases exists_of_mem_newIdentsOfAll h with ⟨field, hfield, he⟩ | ⟨container, hcontainer, hvaries⟩
      · exact .inl ⟨field, List.mem_append_right _ hfield, he⟩
      · exact .inr ⟨container, List.mem_append_right _ hcontainer, hvaries⟩

end

mutual

theorem exists_newIdent {target : String} {a : Allocator} {container : String} :
    ∀ {node : BodyNode}, container ∈ node.containers →
      ∃ ident ∈ (node.statements target a).1.flatMap Statement.newIdents,
        Allocator.Varies (container ++ "_obj") ident
  | .leaf _, h => absurd h List.not_mem_nil
  | .object key name children, h => by
    rw [containers, List.mem_cons] at h
    rw [statements_object, List.flatMap_append, List.flatMap_cons]
    rcases h with rfl | h
    · exact ⟨_, List.mem_append_left _ (List.mem_append_left _ List.mem_cons_self),
        a.varies_choose (container ++ "_obj")⟩
    · obtain ⟨ident, hident, hvaries⟩ := exists_newIdentOfAll h
      exact ⟨ident, List.mem_append_left _ (List.mem_append_right _ hident), hvaries⟩

/-- There is a name for every object. -/
theorem exists_newIdentOfAll {target : String} {a : Allocator} {container : String} :
    ∀ {nodes : List BodyNode}, container ∈ containersOfAll nodes →
      ∃ ident ∈ (statementsOfAll target a nodes).1.flatMap Statement.newIdents,
        Allocator.Varies (container ++ "_obj") ident
  | [], h => absurd h List.not_mem_nil
  | node :: rest, h => by
    rw [containersOfAll, List.mem_append] at h
    rw [statementsOfAll, List.flatMap_append]
    rcases h with h | h
    · obtain ⟨ident, hident, hvaries⟩ := exists_newIdent h
      exact ⟨ident, List.mem_append_left _ hident, hvaries⟩
    · obtain ⟨ident, hident, hvaries⟩ := exists_newIdentOfAll h
      exact ⟨ident, List.mem_append_right _ hident, hvaries⟩

end

end BodyNode

/-! ### Locals -/

/-- The names of the locals that every function may have. -/
def Locals.names (locals : Locals) : List String :=
  [locals.query, locals.headers, locals.body, locals.config, locals.url, locals.outcome]

theorem Locals.usable_names {arguments : List String} {name : String}
    (h : name ∈ (ofArguments arguments).names) : Name.Usable name := by
  have hwords : ∀ word ∈ ["query", "headers", "body", "config", "url", "outcome"],
      Name.isIdentifier word = true ∧ Name.isReserved word = false := by decide
  have husable : ∀ {word : String} (a : Allocator), word ∈ ["query", "headers", "body", "config",
      "url", "outcome"] → Name.Usable (a.choose word) := fun a hword =>
    Name.usable_choose ⟨(hwords _ hword).1, (hwords _ hword).2⟩ a
  simp only [names, List.mem_cons, List.not_mem_nil, or_false] at h
  rcases h with rfl | rfl | rfl | rfl | rfl | rfl
  all_goals exact husable _ (by decide)

/-! ### The body of a tool -/

namespace Tool

variable {tool : Tool}

/-- The identifiers that are new where a body is put together: arguments and objects. -/
theorem exists_of_mem_bodyIdents {ident : String}
    (h : ident ∈ tool.bodyAssignments.flatMap Statement.newIdents) :
    (∃ field ∈ tool.body.fields, field.ident = ident) ∨
      ∃ container, (container ∈ BodyNode.containersOfAll tool.body.nodes ∨
        tool.body.wrapper = some container) ∧ Allocator.Varies (container ++ "_obj") ident := by
  unfold bodyAssignments at h
  cases hwrapper : tool.body.wrapper with
  | none =>
    rw [hwrapper] at h
    rcases BodyNode.exists_of_mem_newIdentsOfAll h with
      ⟨field, hfield, he⟩ | ⟨container, hcontainer, hvaries⟩
    · exact .inl ⟨field, List.mem_append_right _ hfield, he⟩
    · exact .inr ⟨container, .inl hcontainer, hvaries⟩
  | some key =>
    rw [hwrapper] at h
    rcases BodyNode.exists_of_mem_newIdents h with
      ⟨field, hfield, he⟩ | ⟨container, hcontainer, hvaries⟩
    · exact .inl ⟨field, List.mem_append_right _ hfield, he⟩
    · rcases List.mem_cons.mp hcontainer with rfl | hcontainer
      · exact .inr ⟨container, .inr rfl, hvaries⟩
      · exact .inr ⟨container, .inl hcontainer, hvaries⟩

theorem exists_bodyIdent {container : String}
    (h : container ∈ BodyNode.containersOfAll tool.body.nodes) :
    ∃ ident ∈ tool.idents, Allocator.Varies (container ++ "_obj") ident := by
  have hbody : ∃ ident ∈ tool.bodyAssignments.flatMap Statement.newIdents,
      Allocator.Varies (container ++ "_obj") ident := by
    unfold bodyAssignments
    cases tool.body.wrapper with
    | none => exact BodyNode.exists_newIdentOfAll h
    | some key => exact BodyNode.exists_newIdent (List.mem_cons_of_mem _ h)
  obtain ⟨ident, hident, hvaries⟩ := hbody
  refine ⟨ident, ?_, hvaries⟩
  exact List.mem_append_left _ (List.mem_append_right _ hident)

end Tool

/-- The name for an object is an identifier unless the name of the object begins with a digit. -/
theorem identFault?_holder {container ident : String} (hword : Name.IsWord container)
    (h : Allocator.Varies (container ++ "_obj") ident) :
    Name.beginsWithDigit ident = Name.beginsWithDigit container ∧
      identFault? ident = if Name.beginsWithDigit ident then
        some (Text.quoted ident ++ " is not a valid Ident") else none := by
  have hcut : '_' ∈ (container ++ "_obj").toList := by
    rw [String.toList_append]
    exact List.mem_append_right _ (by decide)
  refine ⟨?_, Name.identFault?_of_isWord ?_ (Name.mem_of_varies h hcut)⟩
  · rw [Name.beginsWithDigit_of_varies h]
    exact Name.beginsWithDigit_append container (by decide)
  · exact Name.isWord_of_varies (hword.append (by decide)) h

theorem identFault?_argumentsName {tool : Tool} (h : Name.IsWord tool.name) :
    identFault? tool.argumentsName = none := by
  have hletter : 'A' ∈ tool.argumentsName.toList := by
    rw [Tool.argumentsName, String.toList_append]
    exact List.mem_append_right _ (by decide)
  have hchars : ∀ c ∈ tool.argumentsName.toList, Name.isIdentChar c = true := by
    intro c hc
    rw [Tool.argumentsName, String.toList_append] at hc
    rcases List.mem_append.mp hc with hc | hc
    · exact Name.isIdentChar_of_mem_typeName h c hc
    · exact List.all_eq_true.mp (by decide) c hc
  have hfirst : Name.beginsWithDigit tool.argumentsName = false := Name.beginsWithDigit_typeName _ _
  rw [Name.identFault?_of_identChars hchars ⟨'A', hletter, by decide⟩, hfirst,
    if_neg Bool.false_ne_true]

/-! ### Tools of documents -/

namespace Document

section

variable [Romanization] {document : Document} {service : String} {tool : Tool}

theorem usable_of_mem_parameters (h : tool ∈ (document.tools service).1) {p : Parameter}
    (hp : p ∈ tool.parameters) : Name.Usable p.ident := by
  obtain ⟨operation, -, id, name, rfl⟩ := mem_tools h
  exact Request.usable_ofOperation (Signature.mem_ordered.mp hp)

theorem usable_of_mem_fields (h : tool ∈ (document.tools service).1) {field : BodyField}
    (hfield : field ∈ tool.body.fields) : Name.Usable field.ident := by
  obtain ⟨p, hp, rfl⟩ := (wellFormed_of_mem_tools h).fields field hfield
  exact usable_of_mem_parameters h hp

theorem exists_method (h : tool ∈ (document.tools service).1) :
    ∃ method : Method, tool.method = method.name := by
  obtain ⟨operation, -, id, name, rfl⟩ := mem_tools h
  exact ⟨operation.method, rfl⟩

/-- The objects of an entry of a body begin like the entry. -/
theorem container_of_mem_nodes (h : tool ∈ (document.tools service).1) {node : BodyNode}
    (hnode : node ∈ tool.body.nodes) {container : String} (hcontainer : container ∈ node.containers) :
    Name.IsWord container ∧ (Name.beginsWithDigit container = true → node.isNumbered = true) := by
  obtain ⟨operation, -, id, name, rfl⟩ := mem_tools h
  exact ⟨(Request.container_of_mem_ofOperation hnode hcontainer).1,
    fun hdigit => (Request.isNumbered_iff hnode).mpr ⟨container, hcontainer, hdigit⟩⟩

theorem exists_numbered_container (h : tool ∈ (document.tools service).1) {node : BodyNode}
    (hnode : node ∈ tool.body.nodes) (hnumbered : node.isNumbered = true) :
    ∃ container ∈ node.containers, Name.beginsWithDigit container = true := by
  obtain ⟨operation, -, id, name, rfl⟩ := mem_tools h
  exact (Request.isNumbered_iff hnode).mp hnumbered

theorem wrapper_eq (h : tool ∈ (document.tools service).1) {key : String}
    (hkey : tool.body.wrapper = some key) : key = wrapperKey := by
  obtain ⟨operation, -, id, name, rfl⟩ := mem_tools h
  rcases Request.wrapper_ofOperation document id operation with hnone | ⟨hsome, -⟩
  · exact absurd (hkey.symm.trans hnone) (by simp)
  · exact Option.some.inj (hkey.symm.trans hsome)

/-- The names that are made for a tool are identifiers. -/
theorem identFault?_ownNames (hservice : Name.Usable service) (h : tool ∈ (document.tools service).1)
    {ident : String}
    (hident : ident ∈ [tool.method, tool.schemaName, tool.argumentsName, tool.handlerName]) :
    identFault? ident = none := by
  have hname := usable_name hservice h
  simp only [List.mem_cons, List.not_mem_nil, or_false] at hident
  rcases hident with rfl | rfl | rfl | rfl
  · obtain ⟨method, hmethod⟩ := exists_method h
    rw [hmethod]
    cases method <;> decide
  · exact Name.identFault?_of_usable (Name.usable_append hname (by decide) (by decide))
  · exact identFault?_argumentsName hname.isWord
  · exact Name.identFault?_of_usable (Name.usable_append hname (by decide) (by decide))

/-- What is new where a body is put together is an identifier, unless it is the local of an object whose
name begins with a digit. -/
theorem identFault?_bodyIdents (h : tool ∈ (document.tools service).1) {ident : String}
    (hident : ident ∈ tool.bodyAssignments.flatMap Statement.newIdents) :
    identFault? ident = none ∨ (∃ node ∈ tool.body.nodes, node.isNumbered = true) ∧
      Name.beginsWithDigit ident = true ∧
      identFault? ident = some (Text.quoted ident ++ " is not a valid Ident") := by
  rcases Tool.exists_of_mem_bodyIdents hident with
    ⟨field, hfield, rfl⟩ | ⟨container, hcontainer | hwrapper, hvaries⟩
  · exact .inl (Name.identFault?_of_usable (usable_of_mem_fields h hfield))
  · obtain ⟨node, hnode, hmem⟩ := BodyNode.mem_containersOfAll.mp hcontainer
    obtain ⟨hword, hnumbered⟩ := container_of_mem_nodes h hnode hmem
    obtain ⟨hfirst, hfault⟩ := identFault?_holder hword hvaries
    cases hdigit : Name.beginsWithDigit ident with
    | false =>
      rw [hdigit, if_neg Bool.false_ne_true] at hfault
      exact .inl hfault
    | true =>
      rw [hdigit, if_pos rfl] at hfault
      exact .inr ⟨⟨node, hnode, hnumbered (hfirst ▸ hdigit)⟩, rfl, hfault⟩
  · rw [wrapper_eq h hwrapper] at hvaries
    have husable : Name.Usable (wrapperKey ++ "_obj") := ⟨by decide, by decide⟩
    exact .inl (Name.identFault?_of_usable (Name.usable_of_varies husable hvaries))

/-- All identifiers of a tool are, unless one is the local of an object whose name begins with a
digit. -/
theorem identFault?_idents (hservice : Name.Usable service) (h : tool ∈ (document.tools service).1)
    {ident : String} (hident : ident ∈ tool.idents ++ tool.locals.names) :
    identFault? ident = none ∨ (∃ node ∈ tool.body.nodes, node.isNumbered = true) ∧
      Name.beginsWithDigit ident = true ∧
      identFault? ident = some (Text.quoted ident ++ " is not a valid Ident") := by
  rw [Tool.idents, List.mem_append, List.mem_append, List.mem_append, List.mem_append,
    List.mem_cons] at hident
  rcases hident with ((((rfl | hparameter) | hlegacy) | hbody) | hown) | hlocal
  · exact .inl (Name.identFault?_of_usable (usable_name hservice h))
  · obtain ⟨p, hp, rfl⟩ := List.mem_map.mp hparameter
    exact .inl (Name.identFault?_of_usable (usable_of_mem_parameters h hp))
  · obtain ⟨field, hfield, rfl⟩ := List.mem_map.mp hlegacy
    exact .inl (Name.identFault?_of_usable
      (usable_of_mem_fields h (List.mem_append_left _ hfield)))
  · exact identFault?_bodyIdents h hbody
  · exact .inl (identFault?_ownNames hservice h hown)
  · exact .inl (Name.identFault?_of_usable (Locals.usable_names hlocal))

/-- A nested object whose name begins with a digit has a local that is no identifier. -/
theorem exists_fault (h : tool ∈ (document.tools service).1) {node : BodyNode}
    (hnode : node ∈ tool.body.nodes) (hnumbered : node.isNumbered = true) :
    ∃ ident ∈ tool.idents, identFault? ident ≠ none := by
  obtain ⟨container, hcontainer, hdigit⟩ := exists_numbered_container h hnode hnumbered
  obtain ⟨ident, hident, hvaries⟩ :=
    Tool.exists_bodyIdent (BodyNode.mem_containersOfAll.mpr ⟨node, hnode, hcontainer⟩)
  obtain ⟨hfirst, hfault⟩ := identFault?_holder (container_of_mem_nodes h hnode hcontainer).1 hvaries
  refine ⟨ident, hident, ?_⟩
  rw [hfault, hfirst, hdigit, if_pos rfl]
  exact Option.some_ne_none _

theorem readingFault?_eq_none (hservice : Name.Usable service)
    (h : tool ∈ (document.tools service).1) : tool.readingFault? = none := by
  obtain ⟨method, hmethod⟩ := exists_method h
  exact Tool.readingFault?_of_usable (usable_name hservice h)
    (fun _ hp => usable_of_mem_parameters h hp) hmethod

/-- **When a module is generated.** The identifiers of a tool have the form of identifiers exactly if no
entry of its request body is an object whose normalised name begins with a digit. If that is so
of all tools, the module of a document is generated; otherwise it is not, because of an identifier
that begins with a digit. -/
theorem generates_unless_numbered (document : Document) (path : String) :
    let tools := (document.tools (Metadata.service path)).1
    (∀ tool ∈ tools, (∀ ident ∈ tool.idents ++ tool.locals.names, identFault? ident = none) ↔
        ∀ node ∈ tool.body.nodes, node.isNumbered = false) ∧
      match document.generate path with
      | .ok _ => ∀ tool ∈ tools, ∀ node ∈ tool.body.nodes, node.isNumbered = false
      | .error error => ∃ tool ∈ tools, (∃ node ∈ tool.body.nodes, node.isNumbered = true) ∧
          ∃ ident ∈ tool.idents, Name.beginsWithDigit ident = true ∧
            error = .identifier (Text.quoted ident ++ " is not a valid Ident") := by
  intro tools
  have hservice : Name.Usable (Metadata.service path) := Name.usable_serviceTag _
  have hlegal : ∀ tool ∈ tools, (∀ ident ∈ tool.idents ++ tool.locals.names,
      identFault? ident = none) ↔ ∀ node ∈ tool.body.nodes, node.isNumbered = false := by
    intro tool htool
    constructor
    · intro hnone node hnode
      rw [Bool.eq_false_iff]
      intro hnumbered
      obtain ⟨ident, hident, hfault⟩ := exists_fault htool hnode hnumbered
      exact hfault (hnone ident (List.mem_append_left _ hident))
    · intro hall ident hident
      rcases identFault?_idents hservice htool hident with hnone | ⟨⟨node, hnode, hnumbered⟩, -⟩
      · exact hnone
      · rw [hall node hnode] at hnumbered
        cases hnumbered
  -- identifiers are looked at first, and what is left to go wrong then never does
  have hread : tools.findSome? Tool.readingFault? = none :=
    List.findSome?_eq_none_iff.mpr fun tool htool => readingFault?_eq_none hservice htool
  refine ⟨hlegal, ?_⟩
  rw [generate]
  dsimp only
  rw [Module.generate, hread]
  cases hfault : (tools.flatMap Tool.idents).findSome? identFault? with
  | none =>
    rw [List.findSome?_eq_none_iff] at hfault
    intro tool htool node hnode
    rw [Bool.eq_false_iff]
    intro hnumbered
    obtain ⟨ident, hident, hne⟩ := exists_fault htool hnode hnumbered
    exact hne (hfault ident (List.mem_flatMap.mpr ⟨tool, htool, hident⟩))
  | some fault =>
    obtain ⟨ident, hmem, hident⟩ := List.exists_of_findSome?_eq_some hfault
    obtain ⟨tool, htool, hmem⟩ := List.mem_flatMap.mp hmem
    rcases identFault?_idents hservice htool (List.mem_append_left _ hmem) with
      hnone | ⟨hnode, hdigit, hsome⟩
    · rw [hnone] at hident
      cases hident
    · rw [hsome] at hident
      refine ⟨tool, htool, hnode, ident, hmem, hdigit, ?_⟩
      rw [Option.some.inj hident]

end

/-- What is sent to confirm something with a second factor. -/
def secondFactor : Json :=
  objectSchema [("2fa", objectSchema [("code", textSchema)])]

/-- Confirms something with a second factor. -/
def ofSecondFactor : Document :=
  .ofRoot <| .object [("paths", .object [("/confirm", .object [("post", .object [
    ("operationId", .string "confirm"),
    ("requestBody", .object [("content", .object [("application/json", .object [
      ("schema", objectSchema [("request_data", secondFactor)])])])])])])])]

theorem ofSchema_secondFactor : Expansion.ofSchema ofSecondFactor [] secondFactor =
    [(⟨"2fa", objectSchema [("code", textSchema)], false⟩,
      .object [] [(⟨"code", textSchema, false⟩, .leaf [] textSchema)])] := by
  have hobject : Expansion.ofProperty ofSecondFactor [] (objectSchema [("code", textSchema)]) =
      .object [] [(⟨"code", textSchema, false⟩, .leaf [] textSchema)] := by
    rw [ofProperty_objectSchema, ← ofProperty_textSchema]
    rfl
  rw [Expansion.ofSchema_eq, ← hobject]
  rfl

/-- The local for the object `2fa` is called `2fa_obj`, and so there is no module. -/
theorem fails_ofSecondFactor :
    ofSecondFactor.generate "xsiam.json" =
      .error (.identifier "\"2fa_obj\" is not a valid Ident") := by
  have hservice : Metadata.service "xsiam.json" = "xsiam" := by decide +kernel
  have htools : (ofSecondFactor.tools "xsiam").1 = [ofSecondFactor.toolOf "xsiam" "confirm"
      ((ToolNames.ofOperations "xsiam" ofSecondFactor.operations).assign "confirm" "post").1
      (ofSecondFactor.operations.head (by decide +kernel))
      (let added := Signature.addNested { operation := "confirm" } ofSecondFactor [] secondFactor
       { signature := added.2, body := { wrapper := some wrapperKey, nodes := added.1 } })] := rfl
  have hfault : ((ofSecondFactor.tools "xsiam").1.flatMap Tool.idents).findSome? identFault? =
      some "\"2fa_obj\" is not a valid Ident" := by
    rw [htools, Signature.addNested, ofSchema_secondFactor]
    decide +kernel
  rw [generate, hservice]
  dsimp only
  rw [Module.generate, hfault]
  rfl

end Document

end Toolwright
