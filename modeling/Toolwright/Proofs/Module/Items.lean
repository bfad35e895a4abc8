import Mathlib.Data.List.Pairwise
import Toolwright.Module.Code
import Toolwright.Proofs.Name.TypeName
import Toolwright.Proofs.Tool.Naming

/-!
# The names of the items of a module

A tool gives three functions and a structure to its module. Only one of the four names is claimed,
that of the tool itself; the others are made from it. So the functions of a module have different
names unless a tool is called like the function that gives the schema of another one or that handles
it, and the structures do unless Pascal case takes two names of tools for one
(`distinct_items_iff`).

Both happens: `foo` and `fooSchema`, and `foo_1` and `foo1`, are different operations
(`clashing_ofClashes`).
-/

namespace Toolwright

namespace Source.Item

/-- The name of a function. -/
def functionName? : Item → Option String
  | .function _ _ _ name .. => some name
  | _ => none

/-- The name of a structure. -/
def structureName? : Item → Option String
  | .structure _ name _ => some name
  | _ => none

end Source.Item

open Source

namespace Tool

/-- The names of the functions that are called after the function of a tool. -/
def derivedNames (tool : Tool) : List String := [tool.schemaName, tool.handlerName]

/-- The names of the functions of a tool. -/
def functionNames (tool : Tool) : List String := tool.name :: tool.derivedNames

theorem schemaName_ne_handlerName (first second : Tool) : first.schemaName ≠ second.handlerName := by
  intro h
  have hlast := congrArg (fun name => name.toList.getLast?) h
  simp [schemaName, handlerName] at hlast

theorem name_not_mem_derivedNames (tool : Tool) : tool.name ∉ tool.derivedNames := by
  simp [derivedNames, schemaName, handlerName, ← String.toList_inj]

/-- The functions of a tool have different names. -/
theorem nodup_functionNames (tool : Tool) : tool.functionNames.Nodup := by
  refine List.nodup_cons.mpr ⟨tool.name_not_mem_derivedNames, ?_⟩
  simpa [derivedNames] using tool.schemaName_ne_handlerName tool

/-- The functions of tools with different names have different names unless one of the tools is called
like a function of the other. -/
theorem disjoint_functionNames_iff {first second : Tool} (h : first.name ≠ second.name) :
    first.functionNames.Disjoint second.functionNames ↔
      first.name ∉ second.derivedNames ∧ second.name ∉ first.derivedNames := by
  have hschema : first.schemaName ≠ second.schemaName := by simpa [schemaName] using h
  have hhandler : first.handlerName ≠ second.handlerName := by simpa [handlerName] using h
  have hcross := schemaName_ne_handlerName first second
  have hcross' := (schemaName_ne_handlerName second first).symm
  simp only [functionNames, derivedNames, List.disjoint_cons_left, List.disjoint_nil_left,
    List.mem_cons, List.not_mem_nil, eq_comm (b := second.name), h.symm, hschema, hhandler, hcross,
    hcross', or_false, false_or, and_true]
  tauto

end Tool

namespace Module

variable (service : String) (tools : List Tool)

theorem functionNames_items :
    (items service tools).filterMap Item.functionName? =
      tools.flatMap Tool.functionNames ++ ["register"] := by
  unfold items
  rw [List.filterMap_append, List.filterMap_append, List.filterMap_flatMap]
  rfl

theorem structureNames_items :
    (items service tools).filterMap Item.structureName? = tools.map Tool.argumentsName := by
  unfold items
  rw [List.filterMap_append, List.filterMap_append, List.filterMap_flatMap, List.map_eq_flatMap]
  exact List.append_nil _

end Module

namespace Document

section

variable [Romanization] {document : Document} {service : String}

/-- A tool's names have underscores, so none of its functions registers the tools. -/
theorem register_not_mem_functionNames (hservice : service ≠ "") {tool : Tool}
    (htool : tool ∈ (document.tools service).1) : "register" ∉ tool.functionNames := by
  obtain ⟨word, -, he⟩ := exists_name_eq hservice htool
  have hcut : '_' ∈ tool.name.toList := by
    rw [he, String.toList_append, String.toList_append]
    exact List.mem_append_right _ (List.mem_append_left _ (by decide))
  have hother : ∀ suffix, tool.name ++ suffix ≠ "register" := by
    intro suffix h
    have hmem : '_' ∈ (tool.name ++ suffix).toList := by
      rw [String.toList_append]
      exact List.mem_append_left _ hcut
    rw [h] at hmem
    exact absurd hmem (by decide)
  simp only [Tool.functionNames, Tool.derivedNames, List.mem_cons, List.not_mem_nil, or_false, not_or]
  refine ⟨fun h => ?_, (hother _).symm, (hother _).symm⟩
  rw [← h] at hcut
  exact absurd hcut (by decide)

theorem nodup_functionNames_iff (hservice : service ≠ "") :
    let tools := (document.tools service).1
    ((Module.items service tools).filterMap Item.functionName?).Nodup ↔
      ∀ first ∈ tools, ∀ second ∈ tools, second.name ∉ first.derivedNames := by
  intro tools
  have htools : tools.Nodup := (nodup_names hservice).of_map
  have hdifferent : ∀ {first second : Tool}, first ∈ tools → second ∈ tools → first ≠ second →
      first.name ≠ second.name := fun hfirst hsecond hne he =>
    hne (List.inj_on_of_nodup_map (nodup_names hservice) hfirst hsecond he)
  have : Std.Symm (Function.onFun List.Disjoint Tool.functionNames) :=
    ⟨fun _ _ h => List.disjoint_symm h⟩
  rw [Module.functionNames_items, List.nodup_append', List.nodup_flatMap]
  -- the names of one tool never clash, so that first and second tool may be the same on the right
  constructor
  · rintro ⟨⟨-, hpairwise⟩, -, -⟩ first hfirst second hsecond
    by_cases hsame : first = second
    · subst hsame
      exact first.name_not_mem_derivedNames
    · have hne := hdifferent hfirst hsecond hsame
      exact ((Tool.disjoint_functionNames_iff hne).mp (hpairwise.forall hfirst hsecond hsame)).2
  · intro hfree
    refine ⟨⟨fun tool _ => tool.nodup_functionNames, ?_⟩, List.nodup_singleton _, ?_⟩
    · refine htools.pairwise_of_forall_ne fun first hfirst second hsecond hsame => ?_
      exact (Tool.disjoint_functionNames_iff (hdifferent hfirst hsecond hsame)).mpr
        ⟨hfree second hsecond first hfirst, hfree first hfirst second hsecond⟩
    · rw [List.disjoint_singleton, List.mem_flatMap]
      rintro ⟨tool, htool, hmem⟩
      exact register_not_mem_functionNames hservice htool hmem

theorem argumentsName_eq_iff (hservice : Name.Usable service) (hletter : ∃ c ∈ service.toList, c ≠ '_')
    {first second : Tool} (hfirst : first ∈ (document.tools service).1)
    (hsecond : second ∈ (document.tools service).1) :
    first.argumentsName = second.argumentsName ↔
      Name.withoutSilent first.name.toList = Name.withoutSilent second.name.toList := by
  obtain ⟨word, hword, he⟩ := exists_name_eq hservice.ne_empty hfirst
  obtain ⟨word', hword', he'⟩ := exists_name_eq hservice.ne_empty hsecond
  rw [Tool.argumentsName, Tool.argumentsName, String.append_left_inj, he, he']
  exact Name.typeName_eq_iff hservice.isWord hletter (.append (by decide) hword)
    (.append (by decide) hword')

theorem nodup_structureNames_iff (hservice : Name.Usable service)
    (hletter : ∃ c ∈ service.toList, c ≠ '_') :
    let tools := (document.tools service).1
    ((Module.items service tools).filterMap Item.structureName?).Nodup ↔
      (tools.map fun tool => Name.withoutSilent tool.name.toList).Nodup := by
  intro tools
  rw [Module.structureNames_items, List.Nodup, List.Nodup, List.pairwise_map, List.pairwise_map]
  exact List.Pairwise.iff_of_mem fun hfirst hsecond =>
    (argumentsName_eq_iff hservice hletter hfirst hsecond).not

/-- **When the names in a module are pairwise different.** Those of the functions are if no tool is called
like a function that is called after another tool; those of the structures are, for a service whose
tag is more than underscores, if the names of the tools differ in more than silent underscores. -/
theorem distinct_items_iff (document : Document) (path : String) :
    let service := Metadata.service path
    let tools := (document.tools service).1
    let items := Module.items service tools
    ((items.filterMap Item.functionName?).Nodup ↔
        ∀ first ∈ tools, ∀ second ∈ tools, second.name ∉ first.derivedNames) ∧
      ((∃ c ∈ service.toList, c ≠ '_') → ((items.filterMap Item.structureName?).Nodup ↔
        (tools.map fun tool => Name.withoutSilent tool.name.toList).Nodup)) := by
  intro service tools items
  have hservice : Name.Usable service := Name.usable_serviceTag _
  exact ⟨nodup_functionNames_iff hservice.ne_empty, nodup_structureNames_iff hservice⟩

end

/-- A document with one operation, whose body has the properties `text` and `type`. -/
def ofNotes : Document :=
  .ofRoot <| .object [("paths", .object [("/notes", .object [("post", .object [
    ("operationId", .string "addNote"),
    ("requestBody", .object [("content", .object [("application/json", .object [
      ("schema", .object [("required", .array [.string "text"]),
        ("properties", .object [("text", .object []), ("type", .object [])])])])])])])])])]

/-- In the module of the notes all names are different. -/
theorem distinct_items_ofNotes :
    let service := Metadata.service "notes.json"
    let items := Module.items service (ofNotes.tools service).1
    (∃ c ∈ service.toList, c ≠ '_') ∧ (items.filterMap Item.functionName?).Nodup ∧
      (items.filterMap Item.structureName?).Nodup := by
  intro service items
  have hletter : ∃ c ∈ service.toList, c ≠ '_' := ⟨'n', by decide +kernel, by decide⟩
  obtain ⟨hfunctions, hstructures⟩ := distinct_items_iff ofNotes "notes.json"
  exact ⟨hletter, hfunctions.mpr (by decide +kernel),
    (hstructures hletter).mpr (by decide +kernel)⟩

/-- Reads four things, whose names are different and clash. -/
def ofClashes : Document :=
  .ofRoot <| .object [("paths", .object (["foo", "fooSchema", "foo_1", "foo1"].map fun id =>
    ("/" ++ id, .object [("get", .object [("operationId", .string id)])])))]

/-- The function that gives the schema of `foo` has the name of the function for `fooSchema`, and the
arguments of `foo_1` and `foo1` are structures with one name. -/
theorem clashing_ofClashes :
    let service := Metadata.service "xsiam.json"
    let (tools, statistics) := ofClashes.tools service
    let items := Module.items service tools
    tools.map (·.name) = ["xsiam_foo", "xsiam_foo_schema", "xsiam_foo_1", "xsiam_foo1"] ∧
      statistics.warnings = [] ∧
      (items.filterMap Item.functionName?).count "xsiam_foo_schema" = 2 ∧
      ¬ (items.filterMap Item.functionName?).Nodup ∧
      items.filterMap Item.structureName? =
        ["XsiamFooArgs", "XsiamFooSchemaArgs", "XsiamFoo1Args", "XsiamFoo1Args"] ∧
      ¬ (items.filterMap Item.structureName?).Nodup := by
  decide +kernel

end Document

end Toolwright
