import Toolwright.Proofs.Tool.Sources
import Toolwright.Proofs.Tool.Unfolding

/-!
# Objects with something in them

Only objects with declared properties are unfolded, and each property ends in a leaf somewhere. So every
object in the plan for a body has a leaf below it (`Request.areFilled_ofOperation`), and whether
there is anything to put together can be told from the entries at the top
(`Request.isEmpty_ofOperation`). The plan for a parcel (`Document.body_sendParcel`) has such an
object, for the recipient.
-/

namespace Toolwright

namespace BodyNode

mutual

/-- Every object in an entry has a leaf below it. -/
def IsFilled : BodyNode → Prop
  | .leaf _ => True
  | .object _ _ children => fieldsOfAll children ≠ [] ∧ AreFilled children

/-- Every object in some entries has a leaf below it. -/
def AreFilled : List BodyNode → Prop
  | [] => True
  | node :: rest => node.IsFilled ∧ AreFilled rest

end

theorem areFilled_map_leaf (fields : List BodyField) : AreFilled (fields.map leaf) := by
  induction fields with
  | nil => exact trivial
  | cons field rest ih => exact ⟨trivial, ih⟩

theorem IsFilled.fields_ne_nil : ∀ {node : BodyNode}, node.IsFilled → node.fields ≠ []
  | .leaf field, _ => List.cons_ne_nil field []
  | .object _ _ _, h => h.1

theorem AreFilled.fieldsOfAll_eq_nil_iff {nodes : List BodyNode} (h : AreFilled nodes) :
    fieldsOfAll nodes = [] ↔ nodes = [] := by
  cases nodes with
  | nil => exact iff_of_true rfl rfl
  | cons node rest =>
    rw [fieldsOfAll, List.append_eq_nil_iff]
    exact iff_of_false (fun hnil => h.1.fields_ne_nil hnil.1) (List.cons_ne_nil node rest)

end BodyNode

/-! ### Trees -/

namespace Expansion

mutual

/-- Every object below a property has properties. -/
def IsFilled : Expansion → Prop
  | object _ properties => properties ≠ [] ∧ AreFilled properties
  | leaf _ _ | recursive _ | unresolved _ => True

/-- Every object below some properties has properties. -/
def AreFilled : List (Property × Expansion) → Prop
  | [] => True
  | (_, expansion) :: rest => expansion.IsFilled ∧ AreFilled rest

end

theorem isFilled_ofTarget (target : Target) : (ofTarget target).IsFilled := by
  cases target <;> exact trivial

theorem areFilled_ofSchema (document : Document) (above : List String) (schema : Json) :
    AreFilled (ofSchema document above schema) := by
  rw [ofSchema_eq_ofProperties]
  refine induction_propertyList document
    (motive := fun above schema properties => AreFilled (ofProperties document above schema properties))
    trivial (fun chain outside hrest => ?_) (fun chain expandable hbelow hrest => ?_) above schema
  · rw [ofProperties_cons, ofProperty_eq_ofTarget (follows_ofSchema chain) outside]
    exact ⟨isFilled_ofTarget _, hrest⟩
  · rw [ofProperties_cons, ofProperty_of_expanded (follows_ofSchema chain) expandable]
    have hne : Schema.propertyList _ ≠ [] := fun hnil =>
      Schema.propertyKeys_ne_nil expandable (congrArg Members.keys hnil)
    exact ⟨⟨fun hnil => hne (List.map_eq_nil_iff.mp hnil), hbelow⟩, hrest⟩

variable [Romanization]

mutual

theorem isFilled_flatten (shared path source : List String) (property : Property) (s : Signature) :
    ∀ {expansion : Expansion}, expansion.IsFilled →
      (flatten shared path source property s expansion).1.IsFilled
  | .object _ properties, h => by
    rw [flatten]
    obtain ⟨hfilled, hlength⟩ := areFilled_flattenAll shared path source s h.2
    refine ⟨fun hnil => h.1 ?_, hfilled⟩
    rw [hfilled.fieldsOfAll_eq_nil_iff] at hnil
    rw [hnil] at hlength
    exact List.length_eq_zero_iff.mp hlength.symm
  | .leaf _ _, _ | .recursive _, _ | .unresolved _, _ => by
    rw [flatten]
    trivial

/-- A tree whose objects have properties gives entries whose objects have leaves. -/
theorem areFilled_flattenAll (shared path source : List String) (s : Signature) :
    ∀ {tree : List (Property × Expansion)}, AreFilled tree →
      BodyNode.AreFilled (flattenAll shared path source s tree).1 ∧
        (flattenAll shared path source s tree).1.length = tree.length
  | [], _ => ⟨trivial, rfl⟩
  | (property, expansion) :: rest, h => by
    have hfirst := isFilled_flatten shared (path ++ [Name.snake property.name])
      (source ++ [property.name]) property s h.1
    obtain ⟨hrest, hlength⟩ := areFilled_flattenAll shared path source
      (flatten shared (path ++ [Name.snake property.name]) (source ++ [property.name]) property s
        expansion).2 h.2
    rw [flattenAll]
    exact ⟨⟨hfirst, hrest⟩, congrArg Nat.succ hlength⟩

end

end Expansion

/-! ### Plans -/

namespace Request

section

variable [Romanization]

/-- **Every object in a plan has a leaf below it.** -/
theorem areFilled_ofOperation (document : Document) (id : String) (operation : Operation) :
    BodyNode.AreFilled (ofOperation document id operation).body.nodes := by
  cases bodyPart_ofOperation document id operation with
  | nothing _ hnodes =>
    rw [hnodes]
    exact trivial
  | direct _ _ _ _ _ hnodes =>
    rw [hnodes]
    exact BodyNode.areFilled_map_leaf _
  | @wrapped _ _ _ inner shared s _ _ _ _ hnodes =>
    rw [hnodes]
    exact (Expansion.areFilled_flattenAll shared [] [] s
      (Expansion.areFilled_ofSchema document _ inner)).1

/-- A plan has nothing to put together just if it writes no parameter. -/
theorem isEmpty_ofOperation (document : Document) (id : String) (operation : Operation) :
    let plan := (ofOperation document id operation).body
    plan.isEmpty = true ↔ plan.fields = [] := by
  intro plan
  rw [BodyPlan.isEmpty, BodyPlan.fields, Bool.and_eq_true, List.isEmpty_iff, List.isEmpty_iff,
    List.append_eq_nil_iff, (areFilled_ofOperation document id operation).fieldsOfAll_eq_nil_iff]

end

end Request

/-! ### A plan with an object in it -/

namespace Document

/-- What is sent as a parcel: its type, and to whom it goes. -/
def parcel : Json :=
  objectSchema [("type", textSchema),
    ("to", .object [("$ref", .string "#/components/schemas/Recipient")])]

/-- The schema of recipients. -/
def recipient : Json := objectSchema [("type", textSchema), ("name", textSchema)]

/-- A document with one operation, which sends a parcel. -/
def ofParcels : Document :=
  .ofRoot <| .object [
    ("paths", .object [("/parcels", .object [("post", .object [
      ("operationId", .string "sendParcel"),
      ("parameters", .array [.object [("name", .string "express"), ("in", .string "query"),
        ("required", .bool true)]]),
      ("requestBody", .object [("content", .object [("application/json", .object [
        ("schema", objectSchema [("request_data", parcel)])])])])])])]),
    ("components", .object [("schemas", .object [("Recipient", recipient)])])]

def sendParcel : Operation := ofParcels.operations.head (by decide +kernel)

theorem follows_recipient : Follows ofParcels [] []
    (.object [("$ref", .string "#/components/schemas/Recipient")])
    ["#/components/schemas/Recipient"] (.found ["#/components/schemas/Recipient"] recipient) :=
  .next rfl (by decide) rfl (.found rfl)

/-- A parcel, unfolded. -/
def parcelTree : List (Property × Expansion) :=
  [(⟨"type", textSchema, false⟩, .leaf [] textSchema),
    (⟨"to", .object [("$ref", .string "#/components/schemas/Recipient")], false⟩,
      .object ["#/components/schemas/Recipient"]
        [(⟨"type", textSchema, false⟩, .leaf [] textSchema),
          (⟨"name", textSchema, false⟩, .leaf [] textSchema)])]

theorem ofSchema_parcel : Expansion.ofSchema ofParcels [] parcel = parcelTree := by
  have hrecipient : Expansion.ofProperty ofParcels []
      (.object [("$ref", .string "#/components/schemas/Recipient")]) =
        .object ["#/components/schemas/Recipient"] (Expansion.ofProperties ofParcels
          ["#/components/schemas/Recipient"] recipient [("type", textSchema), ("name", textSchema)]) :=
    Expansion.ofProperty_of_expanded (follows_ofSchema follows_recipient) rfl
  have hproperties : Expansion.ofProperties ofParcels ["#/components/schemas/Recipient"] recipient
      [("type", textSchema), ("name", textSchema)] =
        [(⟨"type", textSchema, false⟩, .leaf [] textSchema),
          (⟨"name", textSchema, false⟩, .leaf [] textSchema)] := by
    rw [← ofProperty_textSchema]
    rfl
  rw [Expansion.ofSchema_eq_ofProperties, parcelTree, ← hproperties, ← hrecipient,
    ← ofProperty_textSchema]
  rfl

/-- The request for a parcel is read off the unfolded schema. -/
theorem request_sendParcel :
    Request.ofOperation ofParcels "sendParcel" sendParcel =
      let declaration : Json := .object [("name", .string "express"), ("in", .string "query"),
        ("required", .bool true)]
      let declared := Signature.add { operation := "sendParcel" }
        (Request.locatedCandidate declaration "express" .query)
      let added := Expansion.flattenAll (Expansion.sharedNames parcelTree) [] [] declared.2 parcelTree
      { signature := added.2, body := { wrapper := some wrapperKey, nodes := added.1 } } := by
  rw [← ofSchema_parcel]
  rfl

/-- Its plan has the recipient in the parcel. The types, which share their name and have a word for it
that is reserved, are told apart by their places. -/
theorem body_sendParcel :
    (Request.ofOperation ofParcels "sendParcel" sendParcel).body =
      { wrapper := some "request_data"
        nodes := [.leaf ⟨"type", "type_value", false⟩,
          .object "to" "to" [.leaf ⟨"type", "to_type", false⟩, .leaf ⟨"name", "name", false⟩]] } := by
  have hidents : (Request.ofOperation ofParcels "sendParcel" sendParcel).body.fields.map (·.ident) =
      ["type_value", "to_type", "name"] := by
    rw [request_sendParcel]
    decide +kernel
  have hcontainer : underscoreJoin [Name.snake "to"] = "to" := by decide +kernel
  obtain ⟨first, second, third, hbody⟩ : ∃ first second third,
      (Request.ofOperation ofParcels "sendParcel" sendParcel).body =
        { wrapper := some "request_data"
          nodes := [.leaf ⟨"type", first, false⟩, .object "to" (underscoreJoin [Name.snake "to"])
            [.leaf ⟨"type", second, false⟩, .leaf ⟨"name", third, false⟩]] } := by
    rw [request_sendParcel]
    exact ⟨_, _, _, rfl⟩
  rw [hbody] at hidents
  cases hidents
  rw [hbody, hcontainer]

/-- The tool that sends a parcel. -/
def parcelTool : Tool :=
  ofParcels.toolOf "parcels" "sendParcel" "parcels_send_parcel" sendParcel
    (Request.ofOperation ofParcels "sendParcel" sendParcel)

theorem parcelTool_mem_tools : parcelTool ∈ (ofParcels.tools "parcels").1 := by
  have hname : ((ToolNames.ofOperations "parcels" ofParcels.operations).assign "sendParcel" "post").1 =
      "parcels_send_parcel" := by decide +kernel
  have htools : (ofParcels.tools "parcels").1 = [parcelTool] := by
    rw [parcelTool, ← hname]
    rfl
  rw [htools]
  exact List.mem_singleton_self _

end Document

end Toolwright
