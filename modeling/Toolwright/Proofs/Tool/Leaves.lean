import Mathlib.Data.List.Nodup
import Toolwright.Tool.Body

/-!
# The leaves of a plan

Where the parameters of a plan go: `BodyNode.leavesOfAll` lists the parameters of some entries, each
with the keys that lead to it, and `BodyPlan.leaves` does so for a whole plan without its wrapper.
Without the keys these are the plan's fields (`map_snd_leaves`).
-/

namespace Toolwright

/-- Of entries with different names, each is the one found by its name. -/
theorem find?_of_nodup_map {α : Type} {name : α → String} {entries : List α}
    (h : (entries.map name).Nodup) {entry : α} (hentry : entry ∈ entries) :
    entries.find? (fun other => name other = name entry) = some entry := by
  have hfound : (entries.find? fun other => name other = name entry).isSome :=
    List.find?_isSome.mpr ⟨entry, hentry, decide_eq_true rfl⟩
  obtain ⟨other, hother⟩ := Option.isSome_iff_exists.mp hfound
  have hname : name other = name entry := by simpa using List.find?_some hother
  rw [hother, List.inj_on_of_nodup_map h (List.mem_of_find?_eq_some hother) hentry hname]

namespace BodyNode

/-- The key under which an entry is written. -/
def key : BodyNode → String
  | .leaf field => field.key
  | .object key _ _ => key

mutual

/-- The parameters of an entry, each with the keys that lead to it from the value of the entry. -/
def inner : BodyNode → List (List String × BodyField)
  | .leaf field => [([], field)]
  | .object _ _ children => leavesOfAll children

/-- The parameters of some entries, each with the keys that lead to it from the object that has the
entries. -/
def leavesOfAll : List BodyNode → List (List String × BodyField)
  | [] => []
  | node :: rest => (node.inner.map fun leaf => (node.key :: leaf.1, leaf.2)) ++ leavesOfAll rest

end

theorem leavesOfAll_append (nodes more : List BodyNode) :
    leavesOfAll (nodes ++ more) = leavesOfAll nodes ++ leavesOfAll more := by
  induction nodes with
  | nil => rfl
  | cons node rest ih => rw [List.cons_append, leavesOfAll, leavesOfAll, ih, List.append_assoc]

theorem mem_leavesOfAll {nodes : List BodyNode} {leaf : List String × BodyField} :
    leaf ∈ leavesOfAll nodes ↔
      ∃ node ∈ nodes, ∃ below ∈ node.inner, (node.key :: below.1, below.2) = leaf := by
  induction nodes with
  | nil => simp [leavesOfAll]
  | cons node rest ih =>
    rw [leavesOfAll, List.mem_append, ih, List.mem_map]
    simp only [List.mem_cons, exists_eq_or_imp]

mutual

theorem map_snd_inner : ∀ node : BodyNode, node.inner.map Prod.snd = node.fields
  | .leaf _ => rfl
  | .object _ _ children => by
    rw [inner, fields]
    exact map_snd_leavesOfAll children

/-- Without the keys, the leaves are the fields. -/
theorem map_snd_leavesOfAll : ∀ nodes : List BodyNode,
    (leavesOfAll nodes).map Prod.snd = fieldsOfAll nodes
  | [] => rfl
  | node :: rest => by
    rw [leavesOfAll, fieldsOfAll, List.map_append, List.map_map, map_snd_leavesOfAll rest,
      ← map_snd_inner node]
    rfl

end

theorem leavesOfAll_map_leaf (fields : List BodyField) :
    leavesOfAll (fields.map BodyNode.leaf) = fields.map fun field => ([field.key], field) := by
  induction fields with
  | nil => rfl
  | cons field rest ih => rw [List.map_cons, leavesOfAll, ih]; rfl

theorem fieldsOfAll_map_leaf (fields : List BodyField) :
    fieldsOfAll (fields.map BodyNode.leaf) = fields := by
  rw [← map_snd_leavesOfAll, leavesOfAll_map_leaf, List.map_map]
  exact List.map_id _

mutual

/-- The entries of every object inside of an entry have different keys. -/
def KeysDistinct : BodyNode → Prop
  | .leaf _ => True
  | .object _ _ children => KeysDistinctAll children

/-- The entries have different keys, here and inside of them. -/
def KeysDistinctAll : List BodyNode → Prop
  | [] => True
  | node :: rest => node.key ∉ rest.map key ∧ node.KeysDistinct ∧ KeysDistinctAll rest

end

theorem keysDistinctAll_iff {nodes : List BodyNode} :
    KeysDistinctAll nodes ↔ (nodes.map key).Nodup ∧ ∀ node ∈ nodes, node.KeysDistinct := by
  induction nodes with
  | nil => simp [KeysDistinctAll]
  | cons node rest ih =>
    rw [KeysDistinctAll, ih, List.map_cons, List.nodup_cons, List.forall_mem_cons]
    exact ⟨fun ⟨hfresh, hnode, hrest, hall⟩ => ⟨⟨hfresh, hrest⟩, hnode, hall⟩,
      fun ⟨⟨hfresh, hrest⟩, hnode, hall⟩ => ⟨hfresh, hnode, hrest, hall⟩⟩

/-- Parameters with different keys are entries with different keys. -/
theorem keysDistinctAll_map_leaf {fields : List BodyField} (h : (fields.map (·.key)).Nodup) :
    KeysDistinctAll (fields.map leaf) := by
  refine keysDistinctAll_iff.mpr ⟨?_, fun node hnode => ?_⟩
  · rw [List.map_map]
    exact h
  · obtain ⟨field, -, rfl⟩ := List.mem_map.mp hnode
    exact trivial

end BodyNode

namespace BodyPlan

/-- All entries of a plan: the properties of a body parameter and the entries of the request
body. -/
def entries (plan : BodyPlan) : List BodyNode :=
  plan.legacyFields.map BodyNode.leaf ++ plan.nodes

/-- The parameters of a plan, each with the keys that lead to it, the wrapper apart. -/
def leaves (plan : BodyPlan) : List (List String × BodyField) :=
  BodyNode.leavesOfAll plan.entries

theorem map_snd_leaves (plan : BodyPlan) : plan.leaves.map Prod.snd = plan.fields := by
  rw [leaves, entries, BodyNode.leavesOfAll_append, List.map_append, BodyNode.map_snd_leavesOfAll,
    BodyNode.map_snd_leavesOfAll, BodyNode.fieldsOfAll_map_leaf, fields]

end BodyPlan

end Toolwright
