import Mathlib.Data.List.Nodup
import Toolwright.Proofs.Tool.Parameters

/-!
# The places of parameters

Every parameter of a tool goes to one place of its request (`placement_toolOf`). Those outside of
the body are located; the others are the fields of the plan, one for one and in the order of their
declaration, although the parameters of a tool are kept in another order, with the required ones in
front. A leaf of the plan lies where its parameter says that it comes from.
-/

namespace Toolwright

namespace Signature

variable {s : Signature}

/-- Parameters are told apart by their places. -/
theorem Coherent.eq_of_declaredIndex (h : s.Coherent) {p q : Parameter} (hp : p ∈ s.parameters)
    (hq : q ∈ s.parameters) (he : p.declaredIndex = q.declaredIndex) : p = q := by
  have hnodup : (s.parameters.map (·.declaredIndex)).Nodup := by
    rw [h.placed]
    exact List.nodup_range
  exact List.inj_on_of_nodup_map hnodup hp hq he

theorem Coherent.pairwise_lt (h : s.Coherent) :
    s.parameters.Pairwise fun p q => p.declaredIndex < q.declaredIndex := by
  have hrange := List.pairwise_lt_range (n := s.parameters.length)
  rw [← h.placed, List.pairwise_map] at hrange
  exact hrange

/-- Sorting some of the parameters by their places undoes the final order. -/
theorem Coherent.mergeSort_filter_ordered (h : s.Coherent) (keep : Parameter → Bool) :
    ((s.ordered.filter keep).mergeSort fun p q => p.declaredIndex ≤ q.declaredIndex) =
      s.parameters.filter keep := by
  have hperm := (List.mergeSort_perm (s.ordered.filter keep)
    fun p q => p.declaredIndex ≤ q.declaredIndex).trans (s.perm_ordered.filter keep)
  have hsorted : ((s.ordered.filter keep).mergeSort
      fun p q => p.declaredIndex ≤ q.declaredIndex).Pairwise
        fun p q => p.declaredIndex ≤ q.declaredIndex := by
    refine List.Pairwise.imp (fun hpq => of_decide_eq_true hpq)
      (List.pairwise_mergeSort (fun p q r hpq hqr => ?_) (fun p q => ?_) (s.ordered.filter keep))
    · exact decide_eq_true (Nat.le_trans (of_decide_eq_true hpq) (of_decide_eq_true hqr))
    · rw [Bool.or_eq_true, decide_eq_true_iff, decide_eq_true_iff]
      exact Nat.le_total p.declaredIndex q.declaredIndex
  refine hperm.eq_of_pairwise (fun p q hp hq hpq hqp => ?_) hsorted
    ((h.pairwise_lt.filter keep).imp Nat.le_of_lt)
  exact h.eq_of_declaredIndex (List.mem_of_mem_filter (hperm.mem_iff.mp hp))
    (List.mem_of_mem_filter hq) (Nat.le_antisymm hpq hqp)

end Signature

/-- A parameter is found by its identifier. -/
theorem Tool.parameter?_of_mem {tool : Tool} (h : (tool.parameters.map (·.ident)).Nodup)
    {p : Parameter} (hp : p ∈ tool.parameters) : tool.parameter? p.ident = some p :=
  find?_of_nodup_map h hp

variable [Romanization]

namespace Request

/-- The leaves of the plan are the parameters that go into the body, place for place. -/
theorem leaves_ofOperation (document : Document) (id : String) (operation : Operation) :
    let r := ofOperation document id operation
    r.body.leaves.map (dotted []) =
      (r.signature.parameters.filter Parameter.isBody).map Parameter.site := by
  obtain ⟨added, hgrows, -, hleaves⟩ := extends_ofOperation document id operation
  intro r
  have hparameters : r.signature.parameters = added.map Prod.snd := by
    rw [hgrows.parameters_eq]
    exact List.nil_append _
  rw [hleaves, hparameters]
  rfl

/-- The fields of the plan are the parameters that go into the body, in order. -/
theorem fields_ofOperation (document : Document) (id : String) (operation : Operation) :
    let r := ofOperation document id operation
    r.body.fields = (r.signature.parameters.filter Parameter.isBody).map Parameter.field := by
  intro r
  have h := congrArg (List.map Prod.snd) (leaves_ofOperation document id operation)
  rw [List.map_map, List.map_map] at h
  rw [← r.body.map_snd_leaves]
  exact h

/-- No parameter is written twice. -/
theorem nodup_fields_ofOperation (document : Document) (id : String) (operation : Operation) :
    ((ofOperation document id operation).body.fields.map (·.ident)).Nodup := by
  rw [fields_ofOperation, List.map_map]
  exact (coherent_ofOperation document id operation).distinct.sublist (List.filter_sublist.map _)

end Request

/-! ### Tools -/

namespace Document

/-- The identifiers of the parameters of a tool are pairwise different. -/
theorem nodup_idents_toolOf (document : Document) (service id name : String) (operation : Operation) :
    ((document.toolOf service id name operation
      (Request.ofOperation document id operation)).parameters.map (·.ident)).Nodup :=
  ((Signature.perm_ordered _).map _).nodup_iff.mpr
    (Request.coherent_ofOperation document id operation).distinct

/-- The identifiers of the parameters of a tool are those that its operation claims, though perhaps in
another order. -/
theorem perm_idents_toolOf (document : Document) (service id name : String) (operation : Operation) :
    ((document.toolOf service id name operation
      (Request.ofOperation document id operation)).parameters.map (·.ident)).Perm
        (Allocator.claimAll {} ((Request.asked document operation).map (·.ident))) := by
  rw [← Request.idents_ofOperation document id operation]
  exact (Signature.perm_ordered _).map _

/-- **Every parameter of a tool goes to one place of the request.** The fields of the body are the
parameters that go into it, in the order of their declaration and each with its own identifier; the
other parameters are the located ones; and the place of a leaf is that of its parameter. -/
theorem placement_toolOf (document : Document) (service id name : String) (operation : Operation) :
    let tool := document.toolOf service id name operation (Request.ofOperation document id operation)
    let inBody := (tool.parameters.filter (·.isBody)).mergeSort
      fun p q => p.declaredIndex ≤ q.declaredIndex
    tool.body.fields.map (fun field => (field.ident, field.key, field.required)) =
        inBody.map (fun p => (p.ident, p.declaredName, p.required)) ∧
      (tool.body.fields.map (·.ident)).Nodup ∧
      (tool.located ++ inBody).Perm tool.parameters ∧
      (∀ p ∈ tool.located, p.location ≠ .body) ∧
      ∀ leaf ∈ BodyNode.leavesOfAll tool.body.nodes,
        (tool.parameter? leaf.2.ident).map (·.sourcePath) = some (String.intercalate "." leaf.1) := by
  intro tool inBody
  have hcoherent := Request.coherent_ofOperation document id operation
  have hidents : (tool.parameters.map (·.ident)).Nodup :=
    nodup_idents_toolOf document service id name operation
  have hfields : tool.body.fields = inBody.map Parameter.field := by
    have hsorted : inBody = _ := hcoherent.mergeSort_filter_ordered Parameter.isBody
    rw [hsorted]
    exact Request.fields_ofOperation document id operation
  have hperm : inBody.Perm (tool.parameters.filter (·.isBody)) := List.mergeSort_perm ..
  have hlocated : tool.located.Perm (tool.parameters.filter fun p => !p.isBody) :=
    List.mergeSort_perm ..
  refine ⟨?_, ?_, ?_, ?_, ?_⟩
  · rw [hfields, List.map_map]
    rfl
  · exact Request.nodup_fields_ofOperation document id operation
  · exact (hlocated.append hperm).trans
      (List.perm_append_comm.trans (List.filter_append_perm (·.isBody) tool.parameters))
  · intro p hp hbody
    have hp' := (List.mem_filter.mp (hlocated.mem_iff.mp hp)).2
    rw [Parameter.isBody, hbody] at hp'
    exact absurd hp' (by decide)
  · intro leaf hleaf
    have hmem : leaf ∈ tool.body.leaves := by
      rw [BodyPlan.leaves, BodyPlan.entries, BodyNode.leavesOfAll_append]
      exact List.mem_append_right _ hleaf
    have hsite := List.mem_map_of_mem (f := dotted []) hmem
    rw [show tool.body.leaves.map (dotted []) = _ from
      Request.leaves_ofOperation document id operation] at hsite
    obtain ⟨p, hp, heq⟩ := List.mem_map.mp hsite
    have hident : leaf.2.ident = p.ident := (congrArg (fun site => site.2.ident) heq).symm
    have hpath : p.sourcePath = String.intercalate "." leaf.1 := congrArg Prod.fst heq
    have hmem' : p ∈ tool.parameters := Signature.mem_ordered.mpr (List.mem_of_mem_filter hp)
    rw [hident, Tool.parameter?_of_mem hidents hmem', Option.map_some, hpath]

variable {document : Document} {service : String}

theorem mem_toolsOf {tool : Tool} {names : ToolNames} {statistics : Statistics}
    {operations : List Operation}
    (h : tool ∈ (document.toolsOf service names statistics operations).1) :
    ∃ operation ∈ operations, ∃ id name, tool = document.toolOf service id name operation
      (Request.ofOperation document id operation) := by
  induction operations generalizing names statistics with
  | nil => exact absurd h List.not_mem_nil
  | cons operation rest ih =>
    rw [toolsOf] at h
    cases hid : operation.id? with
    | none =>
      rw [hid] at h
      obtain ⟨other, hother, hrest⟩ := ih h
      exact ⟨other, List.mem_cons_of_mem _ hother, hrest⟩
    | some id =>
      rw [hid] at h
      dsimp only at h
      rcases List.mem_cons.mp h with h | h
      · exact ⟨operation, List.mem_cons_self, id, _, h⟩
      · obtain ⟨other, hother, hrest⟩ := ih h
        exact ⟨other, List.mem_cons_of_mem _ hother, hrest⟩

/-- Every tool is the tool of an operation. -/
theorem mem_tools {tool : Tool} (h : tool ∈ (document.tools service).1) :
    ∃ operation ∈ document.operations, ∃ id name, tool = document.toolOf service id name operation
      (Request.ofOperation document id operation) :=
  mem_toolsOf h

end Document

end Toolwright
