import Toolwright.Proofs.Json.Reordered
import Toolwright.Proofs.Tool.Fitting
import Toolwright.Proofs.Tool.Placement
import Toolwright.Proofs.Tool.Shape

/-!
# Bodies read into arguments and put together again

An object that fits the body of an operation can be read into arguments, each parameter taking the
value at its place, and what the plan puts together from these arguments is the object again
(`roundTrip_ofOperation`), under the wrapper if the body has one. Only the order of members may be
another: they come in the order of the plan. Which objects fit is said by the schemas of the body
and by the plan alike (`fits_iff`).

The two halves meet at `BodyNode.Restores`: an entry writes nothing where the object has nothing
under its key, and otherwise a value that is the one there but for the order of members. For a
parameter this holds because no other parameter has its identifier; for a nested object it follows
from its entries, because their keys are different and every member of the object is taken by one of
them.
-/

namespace Toolwright

/-! ### Reading -/

namespace BodyPlan

/-- The arguments read from an object: every parameter has the value at its place, if there is
one. -/
def read (plan : BodyPlan) (payload : Json) : Arguments := fun ident =>
  (plan.leaves.find? fun leaf => leaf.2.ident = ident).bind fun leaf => payload.at? leaf.1

theorem read_of_mem_leaves {plan : BodyPlan} (h : (plan.fields.map (·.ident)).Nodup)
    {leaf : List String × BodyField} (hmem : leaf ∈ plan.leaves) (payload : Json) :
    plan.read payload leaf.2.ident = payload.at? leaf.1 := by
  rw [← plan.map_snd_leaves, List.map_map] at h
  have hfound : plan.leaves.find? (fun other => other.2.ident = leaf.2.ident) = some leaf :=
    find?_of_nodup_map h hmem
  rw [read, hfound, Option.bind_some]

end BodyPlan

/-! ### What entries write -/

namespace BodyNode

/-- The value that an entry writes under its key. -/
def value? (arguments : Arguments) : BodyNode → Option Json
  | .leaf field => arguments field.ident
  | .object _ _ children =>
    match writeAll arguments [] children with
    | [] => none
    | members => some (.object members)

theorem write_eq (arguments : Arguments) (members : List (String × Json)) (node : BodyNode) :
    node.write arguments members =
      ((node.value? arguments).map fun value => Members.insert node.key value members).getD
        members := by
  cases node with
  | leaf field =>
    rw [write, value?]
    cases arguments field.ident <;> rfl
  | object key container children =>
    rw [write, value?]
    cases writeAll arguments [] children <;> rfl

/-- The members that some entries write. -/
def written (arguments : Arguments) (nodes : List BodyNode) : List (String × Json) :=
  nodes.filterMap fun node => (node.value? arguments).map fun value => (node.key, value)

theorem mem_written {arguments : Arguments} {nodes : List BodyNode} {key : String} {value : Json} :
    (key, value) ∈ written arguments nodes ↔
      ∃ node ∈ nodes, node.key = key ∧ node.value? arguments = some value := by
  unfold written
  constructor
  · intro h
    obtain ⟨node, hnode, heq⟩ := List.mem_filterMap.mp h
    obtain ⟨found, hfound, hpair⟩ := Option.map_eq_some_iff.mp heq
    cases hpair
    exact ⟨node, hnode, rfl, hfound⟩
  · rintro ⟨node, hnode, rfl, hvalue⟩
    exact List.mem_filterMap.mpr ⟨node, hnode, by rw [hvalue, Option.map_some]⟩

theorem keys_written_sublist (arguments : Arguments) (nodes : List BodyNode) :
    (Members.keys (written arguments nodes)).Sublist (nodes.map key) := by
  induction nodes with
  | nil => exact .slnil
  | cons node rest ih =>
    unfold written at ih ⊢
    cases hvalue : node.value? arguments with
    | none =>
      rw [List.filterMap_cons_none (by rw [hvalue]; rfl)]
      exact ih.cons _
    | some value =>
      rw [List.filterMap_cons_some (by rw [hvalue]; rfl)]
      exact ih.cons_cons _

/-- Entries with different keys write their values one after another. -/
theorem writeAll_eq (arguments : Arguments) {members : List (String × Json)} {nodes : List BodyNode}
    (hkeys : (nodes.map key).Nodup) (hfresh : ∀ node ∈ nodes, node.key ∉ Members.keys members) :
    writeAll arguments members nodes = members ++ written arguments nodes := by
  induction nodes generalizing members with
  | nil => rw [writeAll, written, List.filterMap_nil, List.append_nil]
  | cons node rest ih =>
    obtain ⟨hnode, hrest⟩ := List.nodup_cons.mp hkeys
    rw [writeAll, write_eq, written]
    cases hvalue : node.value? arguments with
    | none =>
      rw [List.filterMap_cons_none (by rw [hvalue]; rfl)]
      exact ih hrest fun other hother => hfresh other (List.mem_cons_of_mem _ hother)
    | some value =>
      rw [List.filterMap_cons_some (by rw [hvalue]; rfl), Option.map_some, Option.getD_some,
        Members.insert_of_not_mem (hfresh node List.mem_cons_self), ih hrest ?_, List.append_assoc]
      · rfl
      · intro other hother hmem
        rw [Members.keys, List.map_append, List.mem_append] at hmem
        rcases hmem with hmem | hmem
        · exact hfresh other (List.mem_cons_of_mem _ hother) hmem
        · have hsame : other.key = node.key := List.mem_singleton.mp hmem
          exact hnode (hsame ▸ List.mem_map_of_mem hother)

/-! ### What entries restore -/

/-- `node.Restores arguments target`: the entry writes what is there to be restored, and nothing if
nothing is there. -/
def Restores (arguments : Arguments) (target : Option Json) (node : BodyNode) : Prop :=
  match target with
  | none => node.value? arguments = none
  | some value => ∃ written, node.value? arguments = some written ∧ Json.Reordered written value

/-- Entries that restore the members of an object, each the one under its key, write the object. -/
theorem reordered_writeAll {arguments : Arguments} {nodes : List BodyNode}
    {members : List (String × Json)} (hkeys : (nodes.map key).Nodup)
    (hdistinct : (Members.keys members).Nodup) (hplaces : Members.keys members ⊆ nodes.map key)
    (hnodes : ∀ node ∈ nodes, node.Restores arguments (Members.get? node.key members)) :
    Json.Reordered (.object (writeAll arguments [] nodes)) (.object members) := by
  rw [writeAll_eq arguments hkeys fun _ _ => List.not_mem_nil, List.nil_append]
  refine .object ?_ fun key value other hvalue hother => ?_
  · have hnodup := hkeys.sublist (keys_written_sublist arguments nodes)
    refine (List.perm_ext_iff_of_nodup hnodup hdistinct).mpr fun key => ?_
    constructor
    · intro hkey
      obtain ⟨⟨_, value⟩, hmem, rfl⟩ := List.mem_map.mp hkey
      obtain ⟨node, hnode, rfl, hvalue⟩ := mem_written.mp hmem
      have hrestores := hnodes node hnode
      cases hget : Members.get? node.key members with
      | none =>
        rw [hget] at hrestores
        cases hvalue.symm.trans hrestores
      | some other => exact Members.get?_isSome_iff.mp (by rw [hget]; rfl)
    · intro hkey
      obtain ⟨node, hnode, rfl⟩ := List.mem_map.mp (hplaces hkey)
      have hrestores := hnodes node hnode
      obtain ⟨other, hget⟩ := Option.isSome_iff_exists.mp (Members.get?_isSome_iff.mpr hkey)
      rw [hget] at hrestores
      obtain ⟨value, hvalue, -⟩ := hrestores
      exact List.mem_map_of_mem (mem_written.mpr ⟨node, hnode, rfl, hvalue⟩)
  · obtain ⟨node, hnode, rfl, hwritten⟩ := mem_written.mp (Members.mem_of_get? hvalue)
    have hrestores := hnodes node hnode
    rw [hother] at hrestores
    obtain ⟨value', hvalue', hreordered⟩ := hrestores
    cases hwritten.symm.trans hvalue'
    exact hreordered

/-- A nested object is restored by its entries. -/
theorem restores_object {arguments : Arguments} {key container : String} {children : List BodyNode}
    (hkeys : (children.map BodyNode.key).Nodup) {target : Option Json}
    (hdistinct : ∀ value ∈ target, value.Distinct)
    (htakes : ∀ value ∈ target, takes value (.object key container children) = true)
    (hchildren : ∀ child ∈ children,
      child.Restores arguments (target.bind fun value => value.get? child.key)) :
    (object key container children).Restores arguments target := by
  cases target with
  | none =>
    have hempty : Json.Reordered (.object (writeAll arguments [] children)) (.object []) :=
      reordered_writeAll hkeys List.nodup_nil (List.nil_subset _) hchildren
    have hnil : writeAll arguments [] children = [] :=
      List.map_eq_nil_iff.mp (List.perm_nil.mp hempty.keys_perm)
    unfold Restores
    dsimp only
    rw [value?, hnil]
  | some value =>
    obtain ⟨members, rfl, hne, hmembers⟩ := takes_object_iff.mp (htakes value rfl)
    have hobject := reordered_writeAll hkeys ((hdistinct _ rfl).members rfl).1
      (keys_subset_of_takesAmong hmembers) hchildren
    have hwritten := hobject.ne_nil hne
    refine ⟨.object (writeAll arguments [] children), ?_, hobject⟩
    rw [value?]
    split
    · rename_i hnil
      exact absurd hnil hwritten
    · rfl

/-- An entry takes what is under its key, if entries with different keys take every member. -/
theorem takes_of_get? {nodes : List BodyNode} {inner : Json}
    (hkeys : (nodes.map key).Nodup) {members : List (String × Json)}
    (htakes : ∀ member ∈ members, takesAmong member nodes = true) {node : BodyNode}
    (hnode : node ∈ nodes) (hget : Members.get? node.key members = some inner) :
    takes inner node = true := by
  obtain ⟨other, hother, hkey, htakes⟩ :=
    takesAmong_iff.mp (htakes _ (Members.mem_of_get? hget))
  rwa [List.inj_on_of_nodup_map hkeys hother hnode hkey] at htakes

mutual

theorem restores {arguments : Arguments} : ∀ {node : BodyNode} {target : Option Json},
    node.KeysDistinct → (∀ value ∈ target, value.Distinct) →
    (∀ value ∈ target, takes value node = true) →
    (∀ leaf ∈ node.inner, arguments leaf.2.ident = target.bind fun value => value.at? leaf.1) →
    node.Restores arguments target
  | .leaf field, target, _, _, _, harguments => by
    have hvalue : arguments field.ident = target := by
      rw [harguments ([], field) List.mem_cons_self]
      cases target <;> rfl
    unfold Restores
    rw [value?, hvalue]
    cases target with
    | none => rfl
    | some value => exact ⟨value, rfl, .refl value⟩
  | .object key container children, target, hkeys, hdistinct, htakes, harguments => by
    have hnodup := (keysDistinctAll_iff.mp hkeys).1
    refine restores_object hnodup hdistinct htakes ?_
    refine restores_all hkeys hdistinct (fun value hvalue child hchild inner hinner => ?_) harguments
    obtain ⟨members, rfl, -, hmembers⟩ := takes_object_iff.mp (htakes value hvalue)
    exact takes_of_get? hnodup hmembers hchild hinner

/-- **Entries restore the value that their arguments were read from**, each under its key. -/
theorem restores_all {arguments : Arguments} : ∀ {nodes : List BodyNode} {target : Option Json},
    KeysDistinctAll nodes → (∀ value ∈ target, value.Distinct) →
    (∀ value ∈ target, ∀ node ∈ nodes, ∀ inner, value.get? node.key = some inner →
      takes inner node = true) →
    (∀ leaf ∈ leavesOfAll nodes,
      arguments leaf.2.ident = target.bind fun value => value.at? leaf.1) →
    ∀ node ∈ nodes, node.Restores arguments (target.bind fun value => value.get? node.key)
  | [], _, _, _, _, _, _, hnode => absurd hnode List.not_mem_nil
  | first :: rest, target, hkeys, hdistinct, htakes, harguments, node, hnode => by
    obtain ⟨-, hfirst, hrest⟩ := hkeys
    rcases List.mem_cons.mp hnode with heq | hnode
    · rw [heq]
      refine restores hfirst (fun inner hinner => ?_) (fun inner hinner => ?_) fun leaf hleaf => ?_
      · obtain ⟨value, hvalue, hget⟩ := Option.bind_eq_some_iff.mp hinner
        exact (hdistinct value hvalue).get? hget
      · obtain ⟨value, hvalue, hget⟩ := Option.bind_eq_some_iff.mp hinner
        exact htakes value hvalue first List.mem_cons_self inner hget
      · have hmem : (first.key :: leaf.1, leaf.2) ∈ leavesOfAll (first :: rest) :=
          mem_leavesOfAll.mpr ⟨first, List.mem_cons_self, leaf, hleaf, rfl⟩
        rw [harguments _ hmem]
        cases target <;> rfl
    · refine restores_all hrest hdistinct (fun value hvalue other hother => ?_)
        (fun leaf hleaf => ?_) node hnode
      · exact htakes value hvalue other (List.mem_cons_of_mem _ hother)
      · exact harguments leaf (List.mem_append_right _ hleaf)

end

end BodyNode

/-! ### Plans -/

namespace BodyPlan

/-- **A plan puts together again what was read with it**, if its entries have different keys, its
parameters different identifiers, and only one of the two lists of entries is there. -/
theorem build_read {plan : BodyPlan} (hkeys : BodyNode.KeysDistinctAll plan.entries)
    (hidents : (plan.fields.map (·.ident)).Nodup)
    (hone : plan.legacyFields = [] ∨ plan.nodes = [] ∧ plan.wrapper = none)
    {payload : List (String × Json)} (hdistinct : (Json.object payload).Distinct)
    (hne : payload ≠ []) (hfits : plan.fits payload = true) :
    Json.Reordered (.object (plan.build (plan.read (.object payload))))
      (match plan.wrapper with
        | none => .object payload
        | some key => .object [(key, .object payload)]) := by
  have hnodup := (BodyNode.keysDistinctAll_iff.mp hkeys).1
  have htakes := List.all_eq_true.mp hfits
  have hnodes : ∀ node ∈ plan.entries, node.Restores (plan.read (.object payload))
      ((some (Json.object payload)).bind fun value => value.get? node.key) := by
    refine BodyNode.restores_all hkeys (fun value hvalue => ?_)
      (fun value hvalue node hnode inner hget => ?_) fun leaf hleaf => ?_
    · obtain rfl := Option.mem_some.mp hvalue
      exact hdistinct
    · obtain rfl := Option.mem_some.mp hvalue
      exact BodyNode.takes_of_get? hnodup htakes hnode hget
    · exact read_of_mem_leaves hidents hleaf (.object payload)
  have hall := BodyNode.reordered_writeAll hnodup (hdistinct.members rfl).1
    (BodyNode.keys_subset_of_takesAmong htakes) hnodes
  rw [entries] at hall
  rw [build]
  rcases hone with hlegacy | ⟨hnodes, hwrapper⟩
  · rw [hlegacy, List.map_nil, List.nil_append] at hall
    rw [hlegacy, List.map_nil, BodyNode.writeAll]
    cases plan.wrapper with
    | none => exact hall
    | some key =>
      dsimp only
      split
      · rename_i hnil
        exact absurd hnil (hall.ne_nil hne)
      · exact hall.single key
  · rw [hnodes, List.append_nil] at hall
    rw [hnodes, hwrapper, BodyNode.writeAll]
    exact hall

/-- Two parameters from properties of one name, one of them inside of a nested object. -/
example :
    let plan : BodyPlan :=
      { wrapper := some "request_data"
        nodes := [.leaf ⟨"type", "type_value", false⟩,
          .object "to" "to" [.leaf ⟨"type", "to_type", false⟩, .leaf ⟨"name", "name", false⟩]] }
    let payload := [("type", Json.bool true), ("to", .object [("type", .bool false)])]
    plan.build (plan.read (.object payload)) = [("request_data", .object payload)] := rfl

end BodyPlan

/-! ### Operations -/

namespace Request

section

variable [Romanization]

/-- **The round trip of a body.** Where at most one schema declares the body of an operation, the
objects that fit it, by their properties at any depth, are those that fit the plan. Every one of them
that has members is put together again from the arguments read from it, under `request_data` if
the schema has that around it. -/
theorem roundTrip_ofOperation {document : Document} {operation : Operation}
    (hoperation : operation ∈ document.operations)
    (hsources : (bodySources document operation).length ≤ 1) (id : String) (wrapper : Option String)
    {payload : List (String × Json)} (hdistinct : (Json.object payload).Distinct)
    (hne : payload ≠ []) :
    let plan := (ofOperation document id operation).body
    (Fits document operation wrapper payload ↔
      plan.wrapper = wrapper ∧ plan.fits payload = true) ∧
    (Fits document operation wrapper payload →
      Json.Reordered (.object (plan.build (plan.read (.object payload))))
        (if wrapper.isSome then .object [("request_data", .object payload)]
          else .object payload)) := by
  intro plan
  have hiff : Fits document operation wrapper payload ↔ _ := fits_iff hsources id hne
  refine ⟨hiff, fun hfits => ?_⟩
  obtain ⟨rfl, hplan⟩ := hiff.mp hfits
  obtain ⟨hkeys, hone⟩ := keysDistinct_ofOperation hoperation hsources id
  have hidents := nodup_fields_ofOperation document id operation
  have hbuild := BodyPlan.build_read hkeys hidents hone hdistinct hne hplan
  rcases wrapper_ofOperation document id operation with hwrapper | ⟨hwrapper, -⟩
  · rw [hwrapper] at hbuild ⊢
    exact hbuild
  · rw [hwrapper] at hbuild ⊢
    exact hbuild

end

/-- A parcel without the type of its recipient, and with its members in another order than they are
declared. -/
theorem roundTrip_sendParcel :
    let payload := [("to", Json.object [("name", .string "Ada")]), ("type", .string "box")]
    let plan := (ofOperation Document.ofParcels "sendParcel" Document.sendParcel).body
    Document.sendParcel ∈ Document.ofParcels.operations ∧
      (bodySources Document.ofParcels Document.sendParcel).length ≤ 1 ∧
      (Json.object payload).Distinct ∧ payload ≠ [] ∧
      Fits Document.ofParcels Document.sendParcel (some "request_data") payload ∧
      plan.wrapper = some "request_data" ∧ plan.fits payload = true ∧
      plan.leaves.map (fun leaf => (leaf.1, leaf.2.ident)) =
        [(["type"], "type_value"), (["to", "type"], "to_type"), (["to", "name"], "name")] ∧
      plan.build (plan.read (.object payload)) = [("request_data",
        .object [("type", .string "box"), ("to", .object [("name", .string "Ada")])])] ∧
      Json.Reordered (.object (plan.build (plan.read (.object payload))))
        (.object [("request_data", .object payload)]) := by
  intro payload plan
  have hoperation : Document.sendParcel ∈ Document.ofParcels.operations := List.head_mem _
  have hsources : (bodySources Document.ofParcels Document.sendParcel).length ≤ 1 := by
    decide +kernel
  have hdistinct : (Json.object payload).Distinct := Json.distinct_canonical (.object payload)
  have hne : payload ≠ [] := List.cons_ne_nil _ _
  have hfits : Fits Document.ofParcels Document.sendParcel (some "request_data") payload := by
    refine .wrapped rfl rfl ⟨rfl, rfl, rfl⟩ (.cons (.tail _ (.head _)) ?_ (.cons (.head _) ?_ .nil))
    · exact .object Document.follows_recipient rfl (List.cons_ne_nil _ _)
        (.cons (.tail _ (.head _)) (.leaf (.found rfl) (by decide +kernel) nofun) .nil)
    · exact .leaf (.found rfl) (by decide +kernel) nofun
  obtain ⟨hiff, hround⟩ :=
    roundTrip_ofOperation hoperation hsources "sendParcel" (some "request_data") hdistinct hne
  obtain ⟨hwrapper, hplan⟩ := hiff.mp hfits
  have hbody : plan = _ := Document.body_sendParcel
  exact ⟨hoperation, hsources, hdistinct, hne, hfits, hwrapper, hplan, by rw [hbody]; rfl,
    by rw [hbody]; rfl, hround hfits⟩

end Request

end Toolwright
