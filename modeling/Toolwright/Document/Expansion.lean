import Toolwright.Document.Mentions

/-!
# Schemas unfolded

A schema of a nested object is unfolded into a tree whose inner nodes are the objects with declared
properties and whose leaves are everything else. References are followed on the way; one that is
already being followed, above in the tree or in the same chain, is not followed again and ends as a
leaf of its own kind. So the tree is finite whatever the document: `Expansion.ofSchema` ends
because every reference followed leaves fewer to follow, and where none is followed the
schema gets smaller.
-/

namespace Toolwright

/-- Where the chain of references that begins with a schema leads. -/
inductive Target where
  /-- To a schema that is no reference, by way of these. -/
  | found (references : List String) (schema : Json)
  /-- To a reference that is being followed already. -/
  | recursive (reference : String)
  | unresolved (error : ReferenceError)
  deriving Repr, Inhabited

namespace Target

/-- The target of a chain that is being followed: `above` are the references followed on the way to the
schema where the chain began, `chain` those followed since. -/
def follow (document : Document) (above chain : List String) (schema : Json) : Target :=
  match _link : schema.reference? with
  | none => found chain schema
  | some reference =>
    if above.contains reference || chain.contains reference then recursive reference
    else
      match _resolved : document.resolve reference with
      | .error error => unresolved error
      | .ok next => follow document above (chain ++ [reference]) next
termination_by Reference.unfollowed document.root schema (above ++ chain)
decreasing_by
  rename_i fresh
  refine Reference.unfollowed_lt ?_ ?_
    (Json.reference?_mem_mentions _link) ?_ (by simp)
  · exact fun _ mem => List.mem_append_left _ (Reference.resolve_mentions _resolved mem)
  · exact fun name mem => by simp only [List.mem_append] at mem ⊢; grind
  · simpa using fresh

/-- The target of a schema. -/
def ofSchema (document : Document) (above : List String) (schema : Json) : Target :=
  follow document above [] schema

theorem follow_found {document : Document} {above chain references : List String}
    {schema target : Json} (h : follow document above chain schema = found references target) :
    references = chain ∧ target = schema ∨
      chain ⊆ references ∧ Reference.unfollowed document.root target (above ++ references) <
        Reference.unfollowed document.root schema (above ++ chain) := by
  fun_induction follow document above chain schema with
  | case1 => simp_all
  | case2 => simp at h
  | case3 => simp at h
  | case4 chain schema reference link fresh next resolved ih =>
    have less : Reference.unfollowed document.root next (above ++ (chain ++ [reference])) <
        Reference.unfollowed document.root schema (above ++ chain) := by
      refine Reference.unfollowed_lt ?_ ?_
        (Json.reference?_mem_mentions link) ?_ (by simp)
      · exact fun _ mem => List.mem_append_left _ (Reference.resolve_mentions resolved mem)
      · exact fun name mem => by simp only [List.mem_append] at mem ⊢; grind
      · simpa using fresh
    rcases ih h with ⟨rfl, rfl⟩ | ⟨longer, fewer⟩
    · exact .inr ⟨by simp, less⟩
    · exact .inr ⟨fun name mem => longer (by simp [mem]), by omega⟩

/-- A schema that is a reference has a target from which less is left to follow; any other schema is
its own target. -/
theorem ofSchema_found {document : Document} {above references : List String} {schema target : Json}
    (h : ofSchema document above schema = found references target) :
    references = [] ∧ target = schema ∨
      Reference.unfollowed document.root target (above ++ references) <
        Reference.unfollowed document.root schema above := by
  rcases follow_found h with same | less
  · exact .inl same
  · exact .inr (by simpa using less.2)

end Target

/-! ### The tree -/

/-- A property of an object schema as it is declared. -/
structure Property where
  name : String
  /-- The schema as written, perhaps a reference. -/
  declared : Json
  /-- Whether the object lists the property as required. -/
  required : Bool
  deriving Repr, Inhabited

/-- What a property is once its references have been followed. -/
inductive Expansion where
  /-- An object with declared properties, reached by way of some references. -/
  | object (references : List String) (properties : List (Property × Expansion))
  /-- Any other schema, reached by way of some references. -/
  | leaf (references : List String) (schema : Json)
  /-- A reference that is being followed already. -/
  | recursive (reference : String)
  | unresolved (error : ReferenceError)
  deriving Inhabited

namespace Schema

theorem sizeOf_properties {schema : Json} {properties : List (String × Json)}
    (h : properties? schema = some properties) {name : String} {property : Json}
    (mem : (name, property) ∈ properties) : sizeOf property < sizeOf schema := by
  simp only [properties?, Option.bind_eq_some_iff] at h
  obtain ⟨declared, get, members⟩ := h
  obtain ⟨outer, rfl, inside⟩ := Json.get?_eq_some get
  cases declared with
  | object inner =>
    simp only [Json.members?, Option.some.injEq] at members
    subst members
    have first := List.sizeOf_lt_of_mem mem
    have second := List.sizeOf_lt_of_mem inside
    simp only [Prod.mk.sizeOf_spec, Json.object.sizeOf_spec] at *
    omega
  | _ => simp [Json.members?] at members

theorem mentions_properties {schema : Json} {properties : List (String × Json)}
    (h : properties? schema = some properties) {name : String} {property : Json}
    (mem : (name, property) ∈ properties) : property.mentions ⊆ schema.mentions := by
  simp only [properties?, Option.bind_eq_some_iff] at h
  obtain ⟨declared, get, members⟩ := h
  cases declared with
  | object inner =>
    simp only [Json.members?, Option.some.injEq] at members
    subst members
    exact fun _ found => Json.mentions_of_get? get
      (by simpa [Json.mentions] using Json.mentions_of_mem_members mem found)
  | _ => simp [Json.members?] at members

end Schema

namespace Expansion

/-- The properties of a schema, unfolded; `above` are the references being followed already. -/
def ofSchema (document : Document) (above : List String) (schema : Json) :
    List (Property × Expansion) :=
  match _declared : Schema.properties? schema with
  | none => []
  | some properties =>
    properties.attach.map fun ⟨(name, property), _mem⟩ =>
      (⟨name, property, Schema.requires schema name⟩,
        match _found : Target.ofSchema document above property with
        | .found references target =>
          if Schema.isExpandable target then
            .object references (ofSchema document (above ++ references) target)
          else .leaf references target
        | .recursive reference => .recursive reference
        | .unresolved error => .unresolved error)
termination_by (Reference.unfollowed document.root schema above, sizeOf schema)
decreasing_by
  have fewer : Reference.unfollowed document.root property above ≤
      Reference.unfollowed document.root schema above :=
    Reference.unfollowed_le
      (fun _ here => List.mem_append_right _ (Schema.mentions_properties _declared _mem here))
      (fun _ here => here)
  rcases Target.ofSchema_found _found with ⟨rfl, rfl⟩ | less
  · rcases Nat.lt_or_eq_of_le fewer with less | same
    · exact Prod.Lex.left _ _ (by simpa using less)
    · simp only [List.append_nil, same]
      exact Prod.Lex.right _ (Schema.sizeOf_properties _declared _mem)
  · exact Prod.Lex.left _ _ (by omega)

end Expansion

end Toolwright
