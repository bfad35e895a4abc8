import Toolwright.Module.Code
import Toolwright.Proofs.Source.FreeNames
import Toolwright.Proofs.Tool.Naming

/-!
# The function that a handler calls

The handler of a tool takes the arguments apart, which binds a name for every field, and then calls the
function of the tool with these names. Nothing keeps the two apart: the name of the tool is claimed
where the names of tools are, and the identifiers of its parameters are claimed for its operation alone.
So the call may come to a field instead of the function, if a parameter is called like the tool.

What a handler needs from outside is read off its code (`Tool.mem_free_handler`). The identifiers of the
parameters are those that the operation claims (`Document.perm_idents_toolOf`), and so the name of the
tool is among them exactly if it is asked for, or due as a numbered one; as it begins with the tag of
the service, there is then a parameter that asks for a name with that beginning. `Document.calls_iff`
says both of all tools of a document, and `Document.shadowed_ofAlerts` is a document for which the
handler does not come to its function.
-/

namespace Toolwright

open Source

namespace Tool

/-- A handler takes its arguments from outside, and the function unless a field has that name. -/
theorem mem_free_handler (tool : Tool) (name : String) :
    name ∈ Stmt.freeOfAll tool.handler.body ↔
      name = "arguments" ∨ (name = tool.name ∧ name ∉ tool.parameters.map (·.ident)) := by
  have hbody : Stmt.freeOfAll tool.handler.body = Stmt.freeOfAll
      [.destructure tool.argumentsName (tool.parameters.map (·.ident))
          (.propagation (Statement.support "parse_arguments" [.variable "arguments"])),
        .result (.awaited (.call (.variable tool.name)
          ((tool.parameters.map (·.ident)).map Expr.variable)))] := by
    simp only [handler, Item.body, Stmt.freeOfAll_singleton, Stmt.free, Expr.free, Expr.freeOfAll,
      List.nil_append, List.append_nil]
  rw [hbody, Stmt.mem_freeOfAll_cons, Stmt.freeOfAll_singleton]
  simp only [Stmt.free, Stmt.bound, Statement.support, Expr.free, Expr.free_variable, Expr.freeOfAll,
    Expr.freeOfAll_variables, List.nil_append, List.append_nil, List.mem_append, List.mem_singleton,
    or_and_right, and_not_self_iff, or_false]

end Tool

namespace Document

/-- **Which handlers come to their functions.** The name of a tool stands for the function in its handler
unless a parameter has been given that name, which happens exactly if the operation asks for it, or if it
is due as a numbered one; and then a parameter asks for a name that begins with the tag of the service. -/
theorem calls_iff [Romanization] (document : Document) (path : String) :
    let service := Metadata.service path
    List.Forall₂ (fun entry tool =>
        let asked := (Request.asked document entry.1).map (·.ident)
        let given := tool.parameters.map (·.ident)
        (tool.name ∈ Stmt.freeOfAll tool.handler.body ↔ tool.name ∉ given) ∧
          (tool.name ∈ given ↔ tool.name ∈ asked ∨ Allocator.Numbered asked tool.name) ∧
          (tool.name ∈ given → ∃ ident ∈ asked, service.toList <+: ident.toList))
      (Operation.withIds document.operations) (document.tools service).1 := by
  intro service
  have hservice : service ≠ "" := (Name.usable_serviceTag _).ne_empty
  have hoperations := document.toolsOf_operations service
    (ToolNames.ofOperations service document.operations) {} document.operations
  refine List.forall₂_iff_zip.mpr ⟨hoperations.length_eq, fun {entry tool} hmem => ?_⟩
  intro asked given
  have htool := List.forall₂_zip hoperations hmem
  obtain ⟨word, -, hname⟩ := exists_name_eq hservice (List.of_mem_zip hmem).2
  have hgiven : tool.name ∈ given ↔ tool.name ∈ Allocator.claimAll {} asked := by
    have hidents := document.perm_idents_toolOf service entry.2 tool.name entry.1
    rw [← htool] at hidents
    exact hidents.mem_iff
  refine ⟨?_, ?_, fun h => ?_⟩
  · have hother : tool.name ≠ "arguments" := by
      intro he
      have hmem : '_' ∈ "arguments".toList := by
        rw [← he, hname, String.toList_append, String.toList_append]
        exact List.mem_append_right _ List.mem_cons_self
      exact absurd hmem (by decide)
    rw [Tool.mem_free_handler, or_iff_right hother, and_iff_right rfl]
  · rw [hgiven, Allocator.mem_claimAll_iff]
  · obtain ⟨ident, hident, hvaries⟩ := Allocator.varies_of_mem_claimAll (hgiven.mp h)
    rw [hname] at hvaries
    exact ⟨ident, hident, hvaries.toList_prefix⟩

/-- Reads alerts, with a parameter that is called like the tool. -/
def ofAlerts : Document :=
  .ofRoot <| .object [("paths", .object [("/alerts", .object [("get", .object
    [("operationId", .string "alerts"), ("parameters", .array [.object
      [("name", .string "xsiam_alerts"), ("in", .string "query")]])])])])]

/-- The handler of the tool takes nothing from outside but its arguments, for its call is one of the text
that was read from them; nothing warns of it. -/
theorem shadowed_ofAlerts :
    let (tools, statistics) := ofAlerts.tools (Metadata.service "xsiam.json")
    tools.map (·.name) = ["xsiam_alerts"] ∧
      tools.map (fun tool => tool.parameters.map (·.ident)) = [["xsiam_alerts"]] ∧
      tools.map (fun tool => Stmt.freeOfAll tool.handler.body) = [["arguments"]] ∧
      statistics.warnings = [] := by
  decide +kernel

end Document

end Toolwright
