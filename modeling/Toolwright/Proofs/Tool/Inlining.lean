import Toolwright.Proofs.Json.Members
import Toolwright.Proofs.Tool.Unfolding

/-!
# Seeing through references

A schema whose references all lead somewhere, without going in circles, can be written without them:
in the place of each property stands what the references of the property lead to, with the
description of the property if it has one, and so on in the objects below (`Inlines`). Flattening
such a schema, in whatever document and with whatever references above, gives the same plan,
parameters and warnings as flattening the schema as it was (`addNested_inlined`).

Two trees are flattened in the same way if they have the same properties with the same objects and
leaves below them; by way of which references these were reached is of no account, nor is how they
are declared, but for what a leaf says of itself (`Alike`).
-/

namespace Toolwright

/-! ### Schemas written in the place of others -/

namespace Schema

/-- The schema with another description. -/
def describedBy (text : String) : Json → Json
  | .object members => .object (Members.insert "description" (.string text) members)
  | _ => .object [("description", .string text)]

/-- What is written in the place of a declared schema: the target, with the description that was
declared, if any. -/
def describedAs (declared target : Json) : Json :=
  match description? declared with
  | some text => describedBy text target
  | none => target

/-- The schema with other properties in the place of those that it declares. -/
def withProperties (schema : Json) (properties : List (String × Json)) : Json :=
  match schema with
  | .object members =>
    if (properties? schema).isSome then
      .object (Members.insert "properties" (.object properties) members)
    else schema
  | _ => schema

variable {schema declared target : Json} {properties : List (String × Json)} {key : String}

theorem get?_describedAs_of_ne (h : key ≠ "description") :
    (describedAs declared target).get? key = target.get? key := by
  unfold describedAs
  cases description? declared with
  | none => rfl
  | some text =>
    cases target with
    | object members => exact Members.get?_insert_of_ne h _ members
    | _ => simp [describedBy, Json.get?, Json.members?, Members.get?, h.symm]

theorem description?_describedAs :
    description? (describedAs declared target) = (description? declared <|> description? target) := by
  unfold describedAs
  cases description? declared with
  | none => rfl
  | some text =>
    have hself : (describedBy text target).get? "description" = some (.string text) := by
      cases target with
      | object members => exact Members.get?_insert_self _ _ members
      | _ => rfl
    rw [description?, Json.getString?, hself]
    rfl

theorem get?_withProperties_of_ne (h : key ≠ "properties") :
    (withProperties schema properties).get? key = schema.get? key := by
  cases schema with
  | object members =>
    rw [withProperties]
    split
    · exact Members.get?_insert_of_ne h _ members
    · rfl
  | _ => rfl

theorem requires_withProperties (schema : Json) (properties : List (String × Json)) (name : String) :
    requires (withProperties schema properties) name = requires schema name := by
  rw [requires, requires, get?_withProperties_of_ne (by decide)]

theorem propertyList_withProperties (h : propertyList schema = [] → properties = []) :
    propertyList (withProperties schema properties) = properties := by
  cases hdeclared : properties? schema with
  | none =>
    have hnone : propertyList schema = [] := by rw [propertyList, hdeclared, Option.getD_none]
    have hsame : withProperties schema properties = schema := by
      cases schema <;> simp [withProperties, hdeclared]
    rw [hsame, hnone, h hnone]
  | some declared =>
    cases schema with
    | object members =>
      rw [withProperties, hdeclared, Option.isSome_some, if_pos rfl, propertyList, properties?,
        Json.get?, Json.members?, Option.bind_some, Members.get?_insert_self]
      rfl
    | _ => simp [properties?, Json.get?, Json.members?] at hdeclared

theorem propertyList_describedAs :
    propertyList (describedAs declared target) = propertyList target := by
  rw [propertyList, propertyList, properties?, properties?, get?_describedAs_of_ne (by decide)]

theorem isExpandable_eq (schema : Json) :
    isExpandable schema = (type? schema == some "object" && !(propertyList schema).isEmpty) := by
  rw [isExpandable, propertyList]
  cases properties? schema <;> rfl

/-- A schema that is written in the place of a declared one: it is no reference, and it answers as the
target of the declared one does, but with the description that was declared. -/
structure Replaces (declared target written : Json) : Prop where
  reference : written.reference? = none
  type : type? written = type? target
  requires : ∀ name, requires written name = requires target name
  description : description? written = (description? declared <|> description? target)

theorem Replaces.isExpandable_eq {written : Json} (h : Replaces declared target written)
    (hempty : propertyList target = [] ↔ propertyList written = []) :
    isExpandable written = isExpandable target := by
  rw [Schema.isExpandable_eq, Schema.isExpandable_eq, h.type]
  congr 2
  rw [Bool.eq_iff_iff, List.isEmpty_iff, List.isEmpty_iff]
  exact hempty.symm

/-- What is written for a target in which at most the properties were changed. -/
theorem replaces_describedAs {changed : Json} (hreference : target.reference? = none)
    (h : ∀ key, key ≠ "properties" → changed.get? key = target.get? key) :
    Replaces declared target (describedAs declared changed) where
  reference := by
    rw [← hreference, Json.reference?, Json.getString?, get?_describedAs_of_ne (by decide),
      h _ (by decide)]
    rfl
  type := by
    rw [type?, type?, get?_describedAs_of_ne (by decide), h _ (by decide)]
  requires name := by
    rw [requires, requires, get?_describedAs_of_ne (by decide), h _ (by decide)]
  description := by
    rw [description?_describedAs]
    congr 1
    rw [description?, description?, Json.getString?, Json.getString?, h _ (by decide)]

end Schema

/-! ### Trees that are flattened in the same way -/

namespace Expansion

variable [Romanization]

/-- Two properties that are flattened in the same way, with the same leaves at the same places. -/
structure Alike (entry other : Property × Expansion) : Prop where
  name : entry.1.name = other.1.name
  places : ∀ path, leafPaths path entry.2 = leafPaths path other.2
  flatten : ∀ shared path source s,
    flatten shared path source entry.1 s entry.2 = flatten shared path source other.1 s other.2

variable {tree others : List (Property × Expansion)}

theorem leafPathsOfAll_congr (h : List.Forall₂ Alike tree others) (path : List String) :
    leafPathsOfAll path tree = leafPathsOfAll path others := by
  induction h with
  | nil => rfl
  | cons halike _ ih => rw [leafPathsOfAll, leafPathsOfAll, halike.name, halike.places, ih]

theorem flattenAll_congr (h : List.Forall₂ Alike tree others) (shared path source : List String)
    (s : Signature) :
    flattenAll shared path source s tree = flattenAll shared path source s others := by
  induction h generalizing s with
  | nil => rfl
  | cons halike _ ih =>
    rw [flattenAll, flattenAll, halike.name, halike.flatten]
    dsimp only
    rw [ih]

/-- Objects with one name and the same properties. -/
theorem Alike.object {property other : Property} {references more : List String}
    (hname : property.name = other.name) (h : List.Forall₂ Alike tree others) :
    Alike (property, .object references tree) (other, .object more others) where
  name := hname
  places := leafPathsOfAll_congr h
  flatten shared path source s := by
    rw [Expansion.flatten, Expansion.flatten, flattenAll_congr h, hname]

/-- Leaves with one name, type and description. -/
theorem Alike.leaf {property other : Property} {references more : List String} {schema target : Json}
    (hname : property.name = other.name) (hrequired : property.required = other.required)
    (htype : Schema.type? schema = Schema.type? target)
    (hdescription : (Schema.description? property.declared <|> Schema.description? schema) =
      (Schema.description? other.declared <|> Schema.description? target)) :
    Alike (property, .leaf references schema) (other, .leaf more target) where
  name := hname
  places path := rfl
  flatten shared path source s := by
    rw [Expansion.flatten, Expansion.flatten, hdescription, Schema.parameterType,
      Schema.parameterType, htype, addLeaf, addLeaf, candidate, candidate, hname, hrequired]

end Expansion

/-! ### Schemas written without references -/

/-- `Resolves document above schema`: the references of every property lead to a schema, without
coming back to one that is being followed, and so do those in the objects below. -/
inductive Resolves (document : Document) : List String → Json → Prop where
  | intro {above : List String} {schema : Json}
      (chains : ∀ entry ∈ Schema.propertyList schema, ∃ references target,
        Follows document above [] entry.2 references (.found references target))
      (below : ∀ entry ∈ Schema.propertyList schema, ∀ references target,
        Follows document above [] entry.2 references (.found references target) →
          Schema.isExpandable target = true → Resolves document (above ++ references) target) :
      Resolves document above schema

theorem Resolves.of_entries {document : Document} {above : List String} {schema : Json}
    (h : ∀ entry ∈ Schema.propertyList schema, ∃ references target,
      Follows document above [] entry.2 references (.found references target) ∧
        (Schema.isExpandable target = true → Resolves document (above ++ references) target)) :
    Resolves document above schema := by
  refine .intro (fun entry hentry => ?_) fun entry hentry references target chain hexpandable => ?_
  · obtain ⟨references, target, chain, -⟩ := h entry hentry
    exact ⟨references, target, chain⟩
  · obtain ⟨references', target', chain', hbelow⟩ := h entry hentry
    obtain ⟨rfl, htarget⟩ := chain.unique chain'
    cases htarget
    exact hbelow hexpandable

/-- `Inlined document above properties written`: the properties written without references. In the
place of each is what its references lead to, with its description if it has one. In an object below,
the properties are written in the same way; in any other schema, which nobody goes into, they may be
left as they are. -/
inductive Inlined (document : Document) :
    List String → List (String × Json) → List (String × Json) → Prop where
  | done (above : List String) : Inlined document above [] []
  | nested {above references : List String} {name : String} {declared target : Json}
      {rest inner written : List (String × Json)}
      (chain : Follows document above [] declared references (.found references target))
      (below : Inlined document (above ++ references) (Schema.propertyList target) inner)
      (others : Inlined document above rest written) :
      Inlined document above ((name, declared) :: rest)
        ((name, Schema.describedAs declared (Schema.withProperties target inner)) :: written)
  | plain {above references : List String} {name : String} {declared target : Json}
      {rest written : List (String × Json)}
      (chain : Follows document above [] declared references (.found references target))
      (outside : Schema.isExpandable target = false)
      (others : Inlined document above rest written) :
      Inlined document above ((name, declared) :: rest)
        ((name, Schema.describedAs declared target) :: written)

/-- `Inlines document above schema inlined`: the schema with its properties written without
references. -/
def Inlines (document : Document) (above : List String) (schema inlined : Json) : Prop :=
  ∃ properties, Inlined document above (Schema.propertyList schema) properties ∧
    inlined = Schema.withProperties schema properties

namespace Inlined

variable {document : Document} {above : List String} {properties written : List (String × Json)}

theorem eq_nil_iff (h : Inlined document above properties written) :
    properties = [] ↔ written = [] := by
  cases h <;> simp

/-- Properties can be written without references if their references lead somewhere and what is
below can be written so. -/
theorem exists_of_chains
    (chains : ∀ entry ∈ properties, ∃ references target,
      Follows document above [] entry.2 references (.found references target))
    (below : ∀ entry ∈ properties, ∀ references target,
      Follows document above [] entry.2 references (.found references target) →
        Schema.isExpandable target = true →
          ∃ inner, Inlined document (above ++ references) (Schema.propertyList target) inner) :
    ∃ written, Inlined document above properties written := by
  induction properties with
  | nil => exact ⟨[], .done above⟩
  | cons entry rest ih =>
    obtain ⟨name, declared⟩ := entry
    rw [List.forall_mem_cons] at chains below
    obtain ⟨⟨references, target, chain⟩, chains⟩ := chains
    obtain ⟨written, hwritten⟩ := ih chains below.2
    cases hexpandable : Schema.isExpandable target with
    | false => exact ⟨_, .plain chain hexpandable hwritten⟩
    | true =>
      obtain ⟨inner, hinner⟩ := below.1 references target chain hexpandable
      exact ⟨_, .nested chain hinner hwritten⟩

end Inlined

theorem Resolves.exists_inlines {document : Document} {above : List String} {schema : Json}
    (h : Resolves document above schema) : ∃ inlined, Inlines document above schema inlined := by
  have hproperties : ∃ properties, Inlined document above (Schema.propertyList schema) properties := by
    induction h with
    | intro chains _ ih => exact Inlined.exists_of_chains chains ih
  obtain ⟨properties, hproperties⟩ := hproperties
  exact ⟨_, properties, hproperties, rfl⟩

/-! ### Flattening them -/

section

variable [Romanization]

/-- A property is flattened like what is written in its place, if what is below is. -/
theorem Expansion.alike_of_replaces {document other : Document} {above others references : List String}
    {declared target written : Json} (name : String) (required : Bool)
    (chain : Follows document above [] declared references (.found references target))
    (hwritten : Schema.Replaces declared target written)
    (hempty : Schema.propertyList target = [] ↔ Schema.propertyList written = [])
    (hbelow : Schema.isExpandable target = true → List.Forall₂ Alike
      (ofProperties document (above ++ references) target (Schema.propertyList target))
      (ofProperties other others written (Schema.propertyList written))) :
    Alike (⟨name, declared, required⟩, ofProperty document above declared)
      (⟨name, written, required⟩, ofProperty other others written) := by
  have htarget := follows_ofSchema chain
  have hsame := hwritten.isExpandable_eq hempty
  cases hexpandable : Schema.isExpandable target with
  | true =>
    rw [ofProperty_of_expanded htarget hexpandable,
      ofProperty_of_object hwritten.reference (hsame.trans hexpandable)]
    exact .object rfl (hbelow hexpandable)
  | false =>
    rw [ofProperty_of_found htarget hexpandable,
      ofProperty_of_leaf hwritten.reference (hsame.trans hexpandable)]
    refine .leaf rfl rfl hwritten.type.symm ?_
    dsimp only
    rw [hwritten.description]
    cases Schema.description? declared <|> Schema.description? target <;> rfl

/-- **Properties are flattened like those written without references.** -/
theorem Inlined.alike {document : Document} {above : List String}
    {properties written : List (String × Json)} (h : Inlined document above properties written)
    {schema inlined : Json}
    (hrequires : ∀ name, Schema.requires inlined name = Schema.requires schema name)
    (other : Document) (others : List String) :
    List.Forall₂ Expansion.Alike (Expansion.ofProperties document above schema properties)
      (Expansion.ofProperties other others inlined written) := by
  induction h generalizing schema inlined with
  | done above => exact .nil
  | @nested above references name declared target rest inner written chain below _ ihb iho =>
    have hreplaces : Schema.Replaces declared target
        (Schema.describedAs declared (Schema.withProperties target inner)) :=
      Schema.replaces_describedAs chain.followed_eq.2 fun key hkey =>
        Schema.get?_withProperties_of_ne hkey
    -- a description leaves the properties alone, so those written for the target stand below
    have hinner : Schema.propertyList
        (Schema.describedAs declared (Schema.withProperties target inner)) = inner := by
      rw [Schema.propertyList_describedAs, Schema.propertyList_withProperties below.eq_nil_iff.mp]
    rw [Expansion.ofProperties_cons, Expansion.ofProperties_cons, hrequires]
    refine .cons (Expansion.alike_of_replaces name _ chain hreplaces ?_ fun _ => ?_) (iho hrequires)
    · rw [hinner]
      exact below.eq_nil_iff
    · rw [hinner]
      exact ihb hreplaces.requires
  | @plain above references name declared target rest written chain outside _ iho =>
    have hreplaces : Schema.Replaces declared target (Schema.describedAs declared target) :=
      Schema.replaces_describedAs chain.followed_eq.2 fun _ _ => rfl
    rw [Expansion.ofProperties_cons, Expansion.ofProperties_cons, hrequires]
    refine .cons (Expansion.alike_of_replaces name _ chain hreplaces ?_ fun h => ?_) (iho hrequires)
    · rw [Schema.propertyList_describedAs]
    · rw [outside] at h
      cases h

/-- **Flattening sees through references.** If the references of a schema lead somewhere, the schema can
be written without them; and however it is, flattening it gives the same nodes, parameters and
warnings, whatever the document and the references above may then be. -/
theorem addNested_inlined {document : Document} {above : List String} {schema : Json}
    (h : Resolves document above schema) :
    (∃ inlined, Inlines document above schema inlined) ∧
      ∀ inlined, Inlines document above schema inlined →
        ∀ (other : Document) (others : List String) (s : Signature),
          s.addNested document above schema = s.addNested other others inlined := by
  refine ⟨h.exists_inlines, ?_⟩
  rintro inlined ⟨properties, hproperties, rfl⟩ other others s
  have hlist : Schema.propertyList (Schema.withProperties schema properties) = properties :=
    Schema.propertyList_withProperties hproperties.eq_nil_iff.mp
  have halike := hproperties.alike (Schema.requires_withProperties schema properties) other others
  rw [Signature.addNested, Signature.addNested, Expansion.ofSchema_eq_ofProperties,
    Expansion.ofSchema_eq_ofProperties, hlist]
  rw [Expansion.sharedNames, Expansion.sharedNames, Expansion.leafPathsOfAll_congr halike,
    Expansion.flattenAll_congr halike]

end

/-! ### A schema with references -/

namespace Document

/-- The schema of mail addresses. -/
def address (description : String) : Json :=
  .object [("type", .string "string"), ("description", .string description)]

/-- The schema of owners refers to that of people, and this one to that of mail addresses. -/
def people : Document :=
  .ofRoot <| .object [("Owner", .object [("$ref", .string "#/Person")]),
    ("Person", objectSchema [("mail", .object [("$ref", .string "#/Mail")])]),
    ("Mail", address "An address.")]

/-- A ticket refers to owners and to mail addresses, and says of the address what it is for. -/
def ticket : Json :=
  objectSchema [("owner", .object [("$ref", .string "#/Owner")]),
    ("reply", .object [("$ref", .string "#/Mail"), ("description", .string "Where to reply.")])]

theorem follows_mail {above : List String} (habove : "#/Mail" ∉ above) {declared : Json}
    (h : declared.reference? = some "#/Mail") :
    Follows people above [] declared ["#/Mail"] (.found ["#/Mail"] (address "An address.")) :=
  .next h (by simpa using habove) rfl (.found rfl)

theorem follows_owner : Follows people [] [] (.object [("$ref", .string "#/Owner")])
    ["#/Owner", "#/Person"] (.found ["#/Owner", "#/Person"]
      (objectSchema [("mail", .object [("$ref", .string "#/Mail")])])) :=
  .next rfl (by decide) rfl (.next rfl (by decide) rfl (.found rfl))

theorem resolves_ticket : Resolves people [] ticket := by
  have haddress : Schema.isExpandable (address "An address.") = false := by decide +kernel
  refine .of_entries (List.forall_mem_cons.mpr ⟨⟨_, _, follows_owner, fun _ => ?_⟩,
    List.forall_mem_singleton.mpr ⟨_, _, follows_mail List.not_mem_nil rfl, fun h => ?_⟩⟩)
  · refine .of_entries (List.forall_mem_singleton.mpr ⟨_, _, follows_mail (by decide) rfl, fun h => ?_⟩)
    rw [haddress] at h
    cases h
  · rw [haddress] at h
    cases h

/-- The ticket with everything in it that it refers to. -/
def wholeTicket : Json :=
  objectSchema [("owner", objectSchema [("mail", address "An address.")]),
    ("reply", address "Where to reply.")]

/-- Flattening the ticket is flattening the whole ticket, which needs no document. -/
theorem addNested_ofTicket :
    Resolves people [] ticket ∧ Inlines people [] ticket wholeTicket ∧
      Signature.addNested { operation := "op" } people [] ticket =
        Signature.addNested { operation := "op" } (.ofRoot .null) [] wholeTicket := by
  have haddress : Schema.isExpandable (address "An address.") = false := by decide +kernel
  have hwhole : Inlines people [] ticket wholeTicket :=
    ⟨[("owner", objectSchema [("mail", address "An address.")]), ("reply", address "Where to reply.")],
      .nested follows_owner (.plain (follows_mail (by decide) rfl) haddress (.done _))
        (.plain (follows_mail List.not_mem_nil rfl) haddress (.done _)), rfl⟩
  exact ⟨resolves_ticket, hwhole, (addNested_inlined resolves_ticket).2 _ hwhole (.ofRoot .null) [] _⟩

end Document

end Toolwright
