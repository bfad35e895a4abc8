import Toolwright.Proofs.Tool.Sources

/-!
# The names of nested objects

Every object inside of a body is called after the normalised names on the way to it. So the name is a
word that begins like the name of a property right in the body (`exists_of_mem_flattenAll`), and
that is all there is to say: unlike the identifiers of parameters these words are not mended, and a
body has names that begin with a digit exactly if an object right in it has one (`isNumbered_iff`).
-/

namespace Toolwright

namespace BodyNode

mutual

/-- The names of the objects of an entry. -/
def containers : BodyNode → List String
  | .leaf _ => []
  | .object _ container children => container :: containersOfAll children

/-- The names of the objects of some entries. -/
def containersOfAll : List BodyNode → List String
  | [] => []
  | node :: rest => node.containers ++ containersOfAll rest

end

theorem mem_containersOfAll {nodes : List BodyNode} {container : String} :
    container ∈ containersOfAll nodes ↔ ∃ node ∈ nodes, container ∈ node.containers := by
  induction nodes with
  | nil => simp [containersOfAll]
  | cons node rest ih =>
    rw [containersOfAll, List.mem_append, ih]
    simp only [List.mem_cons, exists_eq_or_imp]

variable [Romanization]

/-- Whether an entry is an object whose normalised name begins with a digit. -/
def isNumbered : BodyNode → Bool
  | .leaf _ => false
  | .object key _ _ => Name.beginsWithDigit (Name.snake key)

end BodyNode

variable [Romanization]

namespace Expansion

mutual

theorem exists_of_mem_flatten {shared path source : List String} {property : Property}
    {s : Signature} {container : String} : ∀ {expansion : Expansion},
    container ∈ (flatten shared path source property s expansion).1.containers →
      ∃ below, (∀ name ∈ below, Name.IsWord name) ∧ container = underscoreJoin (path ++ below)
  | .object _ _, h => by
    rw [flatten, BodyNode.containers, List.mem_cons] at h
    rcases h with rfl | h
    · refine ⟨[], fun _ hname => absurd hname List.not_mem_nil, ?_⟩
      rw [List.append_nil]
    · obtain ⟨node, hnode, hcontainer⟩ := BodyNode.mem_containersOfAll.mp h
      obtain ⟨below, hbelow, rfl⟩ := exists_of_mem_flattenAll hnode hcontainer
      exact ⟨_, List.forall_mem_cons.mpr ⟨Name.isWord_snake _, hbelow⟩, rfl⟩
  | .leaf _ _, h | .recursive _, h | .unresolved _, h => by
    rw [flatten] at h
    exact absurd h List.not_mem_nil

/-- The objects of an entry are called after the way to it and the way in it. -/
theorem exists_of_mem_flattenAll {shared path source : List String} {s : Signature}
    {node : BodyNode} {container : String} : ∀ {tree : List (Property × Expansion)},
    node ∈ (flattenAll shared path source s tree).1 → container ∈ node.containers →
      ∃ below, (∀ name ∈ below, Name.IsWord name) ∧
        container = underscoreJoin (path ++ Name.snake node.key :: below)
  | [], hnode, _ => absurd hnode List.not_mem_nil
  | (property, expansion) :: rest, hnode, hcontainer => by
    rw [flattenAll, List.mem_cons] at hnode
    rcases hnode with rfl | hnode
    · obtain ⟨below, hbelow, rfl⟩ := exists_of_mem_flatten hcontainer
      refine ⟨below, hbelow, ?_⟩
      rw [key_flatten, List.append_assoc, List.singleton_append]
    · exact exists_of_mem_flattenAll hnode hcontainer

end

end Expansion

namespace Request

/-- The objects of an entry of a request body begin like the entry. -/
theorem container_of_mem_ofOperation {document : Document} {id : String} {operation : Operation}
    {node : BodyNode} (hnode : node ∈ (ofOperation document id operation).body.nodes)
    {container : String} (h : container ∈ node.containers) :
    Name.IsWord container ∧
      Name.beginsWithDigit container = Name.beginsWithDigit (Name.snake node.key) := by
  cases bodyPart_ofOperation document id operation with
  | nothing _ hnodes => exact absurd (hnodes ▸ hnode) List.not_mem_nil
  | direct _ _ _ _ _ hnodes =>
    rw [hnodes] at hnode
    obtain ⟨field, -, rfl⟩ := List.mem_map.mp hnode
    exact absurd h List.not_mem_nil
  | wrapped _ _ _ _ hnodes =>
    rw [hnodes] at hnode
    obtain ⟨below, hbelow, rfl⟩ := Expansion.exists_of_mem_flattenAll hnode h
    rw [List.nil_append]
    exact ⟨Name.isWord_underscoreJoin (List.forall_mem_cons.mpr ⟨Name.isWord_snake _, hbelow⟩),
      Name.beginsWithDigit_underscoreJoin _ _⟩

/-- An entry of a request body has an object whose name begins with a digit only if it is one. -/
theorem isNumbered_iff {document : Document} {id : String} {operation : Operation}
    {node : BodyNode} (hnode : node ∈ (ofOperation document id operation).body.nodes) :
    node.isNumbered = true ↔ ∃ container ∈ node.containers, Name.beginsWithDigit container = true := by
  constructor
  · intro h
    cases node with
    | leaf _ => cases h
    | object key container children =>
      have hself : container ∈ (BodyNode.object key container children).containers := by
        rw [BodyNode.containers]
        exact List.mem_cons_self
      exact ⟨container, hself, (container_of_mem_ofOperation hnode hself).2.trans h⟩
  · rintro ⟨container, hcontainer, h⟩
    rw [(container_of_mem_ofOperation hnode hcontainer).2] at h
    cases node with
    | leaf _ => exact absurd hcontainer List.not_mem_nil
    | object _ _ _ => exact h

end Request

end Toolwright
