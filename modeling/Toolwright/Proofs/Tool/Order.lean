import Toolwright.Proofs.Tool.Merging
import Toolwright.Proofs.Tool.Naming

/-!
# The order of parameters

The parameters of an operation are numbered as they are added, whoever adds them: a declaration outside of
the body, a property of a body parameter, a property at the top of a body, or a leaf somewhere in a
nested one. A tool keeps them in another order, with the required ones in front. Nothing is lost by
that: within either group the numbers rise, together they are those from zero on, and sorting by
them brings back the order in which the parameters were added (`Signature.Coherent.mergeSort_ordered`).

`order_tools` says so of every tool of a document, and of its two views: the names of the required
parameters, which are those of the group in front, and the located parameters, which come as the
merged declarations asked for them.
-/

namespace Toolwright

/-! ### The final order of a signature -/

namespace Signature

variable {s : Signature}

theorem length_ordered (s : Signature) : s.ordered.length = s.parameters.length :=
  s.perm_ordered.length_eq

/-- The required parameters are the first group of the final order. -/
theorem filter_required_ordered (s : Signature) :
    s.ordered.filter (·.required) = s.parameters.filter (·.required) := by
  rw [ordered, List.filter_append, List.filter_filter, List.filter_filter]
  simp

/-- The numbers of the parameters are those from zero on, each once. -/
theorem Coherent.perm_range (h : s.Coherent) :
    (s.ordered.map (·.declaredIndex)).Perm (List.range s.ordered.length) := by
  rw [length_ordered, ← h.placed]
  exact s.perm_ordered.map _

/-- The numbers rise in whatever is picked out of the parameters. -/
theorem Coherent.pairwise_lt_filter (h : s.Coherent) (keep : Parameter → Bool) :
    (s.parameters.filter keep).Pairwise fun p q => p.declaredIndex < q.declaredIndex :=
  h.pairwise_lt.filter keep

/-- Sorting by the numbers brings back the order in which the parameters were added. -/
theorem Coherent.mergeSort_ordered (h : s.Coherent) :
    (s.ordered.mergeSort fun p q => p.declaredIndex ≤ q.declaredIndex) = s.parameters := by
  have hall := h.mergeSort_filter_ordered fun _ => true
  simpa using hall

end Signature

/-! ### The order of a tool -/

/-- The located parameters are those of a tool that do not go into the body. -/
theorem Tool.mem_located_iff {tool : Tool} {p : Parameter} :
    p ∈ tool.located ↔ p ∈ tool.parameters ∧ p.location ≠ .body := by
  rw [located, List.mem_mergeSort, List.mem_filter]
  simp [Parameter.isBody]

variable [Romanization]

namespace Document

/-- **Every tool has its parameters in order**, and every operation with an id has a tool. First come the
required parameters and then the others, in both groups with rising numbers. The numbers are those
from zero on, each once; sorting by them gives what the operation asks for in the order in which it
asks for it, but for the identifiers. The names of the required parameters are those of the first
group, and the located parameters are those outside of the body, as the merged declarations ask for
them. -/
theorem order_tools (document : Document) (service : String) :
    List.Forall₂ (fun entry tool =>
        ∃ required optional : List Parameter,
          tool.parameters = required ++ optional ∧
          (∀ p ∈ required, p.required = true) ∧
          (∀ p ∈ optional, p.required = false) ∧
          (required.Pairwise fun p q => p.declaredIndex < q.declaredIndex) ∧
          (optional.Pairwise fun p q => p.declaredIndex < q.declaredIndex) ∧
          (tool.parameters.map (·.declaredIndex)).Perm (List.range tool.parameters.length) ∧
          List.Forall₂ (fun c p => p.toCandidate = { c with ident := p.ident })
            (Request.asked document entry.1)
            (tool.parameters.mergeSort fun p q => p.declaredIndex ≤ q.declaredIndex) ∧
          tool.requiredNames = required.map (·.ident) ∧
          (∀ p, p ∈ tool.located ↔ p ∈ tool.parameters ∧ p.location ≠ .body) ∧
          (tool.located.Pairwise fun p q => p.declaredIndex < q.declaredIndex) ∧
          List.Forall₂ (fun c p => p.toCandidate = { c with ident := p.ident })
            ((document.declarations entry.1).filterMap Request.located?) tool.located)
      (Operation.withIds document.operations) (document.tools service).1 := by
  have htools := document.toolsOf_operations service
    (ToolNames.ofOperations service document.operations) {} document.operations
  refine htools.imp fun entry tool htool => ?_
  obtain ⟨operation, id⟩ := entry
  let s := (Request.ofOperation document id operation).signature
  have hcoherent : s.Coherent := Request.coherent_ofOperation document id operation
  have hparameters : tool.parameters = s.ordered := by rw [htool]; rfl
  have hlocated : tool.located = s.parameters.filter (!·.isBody) := by
    rw [htool]
    exact located_toolOf document service id tool.name operation
  refine ⟨s.parameters.filter (·.required), s.parameters.filter (!·.required), hparameters,
    fun p hp => (List.mem_filter.mp hp).2, fun p hp => ?_, hcoherent.pairwise_lt_filter _,
    hcoherent.pairwise_lt_filter _, ?_, ?_, ?_, fun p => Tool.mem_located_iff, ?_, ?_⟩
  · have hoptional := (List.mem_filter.mp hp).2
    simpa using hoptional
  · rw [hparameters]
    exact hcoherent.perm_range
  · rw [hparameters, hcoherent.mergeSort_ordered]
    exact Request.candidates_ofOperation document id operation
  · rw [Tool.requiredNames, hparameters, s.filter_required_ordered]
  · rw [hlocated]
    exact hcoherent.pairwise_lt_filter _
  · rw [htool]
    exact forall₂_located document service id tool.name operation

end Document

end Toolwright
