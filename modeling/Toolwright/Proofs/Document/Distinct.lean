import Mathlib.Data.List.Nodup
import Toolwright.Document.Expansion
import Toolwright.Tool.Request

/-!
# What a document holds is distinct

No object of a document has a key twice, and so it is with everything that is read off a document:
its operations, which are known by their paths and methods (`nodup_operations`), and their
declarations, what references lead to, and the schemas of properties.
A schema is unfolded property by property (`Expansion.ofSchema_eq`), so the properties have different
names at every depth of an unfolded schema (`namesDistinct_ofSchema`).
-/

namespace Toolwright

/-! ### Parts of values -/

namespace Json

variable {value found : Json}

theorem Distinct.get? (h : value.Distinct) {key : String} (hget : value.get? key = some found) :
    found.Distinct := by
  obtain ⟨members, rfl, hmem⟩ := get?_eq_some hget
  cases h with
  | object _ hall => exact hall _ hmem

theorem Distinct.items (h : value.Distinct) {items : List Json} (hitems : value.items? = some items) :
    ∀ item ∈ items, item.Distinct := by
  cases h with
  | array hall => cases hitems; exact hall
  | _ => cases hitems

theorem Distinct.members (h : value.Distinct) {members : List (String × Json)}
    (hmembers : value.members? = some members) :
    (Members.keys members).Nodup ∧ ∀ member ∈ members, member.2.Distinct := by
  cases h with
  | object hkeys hall => cases hmembers; exact ⟨hkeys, hall⟩
  | _ => cases hmembers

theorem Distinct.step? (h : value.Distinct) {index : String → Option Nat} {segment : String}
    (hstep : Reference.step? index value segment = some found) : found.Distinct := by
  cases value with
  | object members =>
    have hget : Json.get? (.object members) segment = some found := hstep
    exact h.get? hget
  | array items =>
    obtain ⟨n, -, hitem⟩ := Option.bind_eq_some_iff.mp hstep
    exact h.items rfl found (List.mem_of_getElem? hitem)
  | _ => cases hstep

theorem Distinct.walk {reference : String} {path : List String} (h : value.Distinct)
    (hwalk : Reference.walk reference path value = .ok found) : found.Distinct := by
  induction path generalizing value with
  | nil => cases hwalk; exact h
  | cons segment rest ih =>
    rw [Reference.walk] at hwalk
    cases hstep : Reference.step? Reference.index? value segment with
    | none => rw [hstep] at hwalk; cases hwalk
    | some next =>
      rw [hstep] at hwalk
      exact ih (h.step? hstep) hwalk

/-- What holds of a value and of every part one step below holds wherever a pointer leads. -/
theorem of_pointer? {holds : Json → Prop} {pointer : String}
    (hstep : ∀ {value found : Json} {segment : String}, holds value →
      Reference.step? Reference.pointerIndex? value segment = some found → holds found)
    (h : holds value) (hpointer : value.pointer? pointer = some found) : holds found := by
  have hfold : ∀ (path : List String) (value : Json), holds value →
      path.foldlM (Reference.step? Reference.pointerIndex?) value = some found → holds found := by
    intro path
    induction path with
    | nil =>
      intro value h hfold
      cases hfold
      exact h
    | cons segment rest ih =>
      intro value h hfold
      obtain ⟨next, hnext, hrest⟩ := Option.bind_eq_some_iff.mp hfold
      exact ih next (hstep h hnext) hrest
  unfold Json.pointer? at hpointer
  split at hpointer
  · cases hpointer
    exact h
  · exact hfold _ value h hpointer
  · cases hpointer

theorem Distinct.pointer? (h : value.Distinct) {pointer : String}
    (hpointer : value.pointer? pointer = some found) : found.Distinct :=
  of_pointer? (fun h hstep => h.step? hstep) h hpointer

end Json

/-! ### Documents -/

namespace Document

variable {document : Document} {value found : Json}

theorem distinct_resolve {reference : String} (h : document.resolve reference = .ok found) :
    found.Distinct := by
  unfold resolve Reference.resolve at h
  split at h
  · exact document.distinct.walk h
  · cases h

/-- What a value stands for is distinct if the value is. -/
theorem distinct_target? (h : value.Distinct) (htarget : document.target? value = some found) :
    found.Distinct := by
  unfold target? at htarget
  cases hreference : value.reference? with
  | none => rw [hreference] at htarget; cases htarget; exact h
  | some reference =>
    rw [hreference] at htarget
    dsimp only at htarget
    cases hresolve : document.resolve reference with
    | error _ => rw [hresolve] at htarget; cases htarget
    | ok target => rw [hresolve] at htarget; cases htarget; exact distinct_resolve hresolve

theorem mem_operationsOf {path : String} {item : Json} {operation : Operation}
    (h : operation ∈ operationsOf path item) :
    operation.path = path ∧ operation.pathItem = item ∧
      item.get? operation.method.key = some operation.entry := by
  unfold operationsOf at h
  split_ifs at h
  · obtain ⟨method, -, hmethod⟩ := List.mem_filterMap.mp h
    cases hentry : item.get? method.key with
    | none => rw [hentry] at hmethod; cases hmethod
    | some entry =>
      rw [hentry] at hmethod
      dsimp only at hmethod
      split_ifs at hmethod
      cases hmethod
      exact ⟨rfl, rfl, hentry⟩
  · exact absurd h List.not_mem_nil

theorem distinct_of_mem_operations {operation : Operation} (h : operation ∈ document.operations) :
    operation.pathItem.Distinct ∧ operation.entry.Distinct := by
  unfold operations at h
  cases hpaths : (document.root.get? "paths").bind Json.members? with
  | none => rw [hpaths] at h; exact absurd h List.not_mem_nil
  | some paths =>
    rw [hpaths] at h
    obtain ⟨root, hroot, hmembers⟩ := Option.bind_eq_some_iff.mp hpaths
    obtain ⟨⟨path, item⟩, hitem, h⟩ := List.mem_flatMap.mp h
    have hdistinct : item.Distinct := ((document.distinct.get? hroot).members hmembers).2 _ hitem
    obtain ⟨-, rfl, hentry⟩ := mem_operationsOf h
    exact ⟨hdistinct, hdistinct.get? hentry⟩

/-- The operations of one path have different methods. -/
theorem pairwise_operationsOf (path : String) (item : Json) :
    (operationsOf path item).Pairwise fun a b => a.method ≠ b.method := by
  unfold operationsOf
  split_ifs
  · rw [List.pairwise_filterMap]
    have hall : Method.all.Pairwise (· ≠ ·) := by decide
    refine hall.imp fun hne a ha b hb => ?_
    split at ha
    · split_ifs at ha
      cases ha
      split at hb
      · split_ifs at hb
        cases hb
        exact hne
      · cases hb
    · cases ha
  · exact .nil

/-- **An operation is known by its path and its method.** -/
theorem nodup_operations (document : Document) :
    (document.operations.map fun operation => (operation.path, operation.method)).Nodup := by
  unfold operations
  rw [List.Nodup, List.pairwise_map]
  cases hpaths : (document.root.get? "paths").bind Json.members? with
  | none => exact .nil
  | some paths =>
    obtain ⟨root, hroot, hmembers⟩ := Option.bind_eq_some_iff.mp hpaths
    have hkeys : (Members.keys paths).Nodup := ((document.distinct.get? hroot).members hmembers).1
    rw [Members.keys, List.Nodup, List.pairwise_map] at hkeys
    refine List.pairwise_flatMap.mpr ⟨fun entry _ => ?_, hkeys.imp fun {first second} hne a ha b hb => ?_⟩
    · exact (pairwise_operationsOf entry.1 entry.2).imp fun hne h => hne (congrArg Prod.snd h)
    · intro h
      have hpath : a.path = b.path := congrArg Prod.fst h
      rw [(mem_operationsOf ha).1, (mem_operationsOf hb).1] at hpath
      exact hne hpath

end Document

/-- Merging brings in no other declarations. -/
theorem Signature.mem_merge {declarations : List Json} {declaration other : Json}
    (h : other ∈ merge declarations declaration) : other ∈ declarations ∨ other = declaration := by
  induction declarations with
  | nil => exact .inr (List.mem_singleton.mp h)
  | cons first rest ih =>
    rw [merge] at h
    split_ifs at h
    · rcases List.mem_cons.mp h with h | h
      · exact .inr h
      · exact .inl (List.mem_cons_of_mem _ h)
    · rcases List.mem_cons.mp h with h | h
      · exact .inl (h ▸ List.mem_cons_self)
      · rcases ih h with h | h
        · exact .inl (List.mem_cons_of_mem _ h)
        · exact .inr h

/-! ### Schemas -/

/-- The keys of the properties of a schema. -/
def Schema.propertyKeys (schema : Json) : List String :=
  Members.keys ((Schema.properties? schema).getD [])

theorem Schema.distinct_properties {schema : Json} (h : schema.Distinct)
    {properties : List (String × Json)} (hdeclared : properties? schema = some properties) :
    (Members.keys properties).Nodup ∧ ∀ property ∈ properties, property.2.Distinct := by
  obtain ⟨declared, hget, hmembers⟩ := Option.bind_eq_some_iff.mp hdeclared
  exact (h.get? hget).members hmembers

theorem Schema.nodup_propertyKeys {schema : Json} (h : schema.Distinct) :
    (propertyKeys schema).Nodup := by
  unfold propertyKeys
  cases hdeclared : properties? schema with
  | none => exact List.nodup_nil
  | some properties => exact (distinct_properties h hdeclared).1

theorem Target.distinct_follow {document : Document} {above chain references : List String}
    {schema target : Json} (h : schema.Distinct)
    (hfound : follow document above chain schema = found references target) : target.Distinct := by
  fun_induction follow document above chain schema with
  | case1 => cases hfound; exact h
  | case2 => cases hfound
  | case3 => cases hfound
  | case4 _ _ _ _ _ _ hresolved ih => exact ih (Document.distinct_resolve hresolved) hfound

namespace Expansion

/-- What a property becomes, as it is declared. -/
def ofProperty (document : Document) (above : List String) (declared : Json) : Expansion :=
  match Target.ofSchema document above declared with
  | .found references target =>
    if Schema.isExpandable target then
      .object references (ofSchema document (above ++ references) target)
    else .leaf references target
  | .recursive reference => .recursive reference
  | .unresolved error => .unresolved error

/-- A schema is unfolded property by property. -/
theorem ofSchema_eq (document : Document) (above : List String) (schema : Json) :
    ofSchema document above schema =
      ((Schema.properties? schema).getD []).map fun entry =>
        (⟨entry.1, entry.2, Schema.requires schema entry.1⟩, ofProperty document above entry.2) := by
  rw [ofSchema]
  split
  · rename_i hnone
    rw [hnone]
    rfl
  · rename_i properties hsome
    rw [hsome, Option.getD_some]
    refine (List.map_congr_left fun entry _ => ?_).trans (List.attach_map_val
      (f := fun entry : String × Json => ((⟨entry.1, entry.2, Schema.requires schema entry.1⟩ :
        Property), ofProperty document above entry.2)))
    unfold ofProperty
    dsimp only
    split <;> simp_all

theorem names_ofSchema (document : Document) (above : List String) (schema : Json) :
    (ofSchema document above schema).map (·.1.name) = Schema.propertyKeys schema := by
  rw [ofSchema_eq, List.map_map]
  rfl

/-- The properties of every object in a tree have different names. -/
inductive NamesDistinct : List (Property × Expansion) → Prop where
  | intro {tree : List (Property × Expansion)} (here : (tree.map (·.1.name)).Nodup)
      (below : ∀ property references properties,
        (property, object references properties) ∈ tree → NamesDistinct properties) :
      NamesDistinct tree

/-- **An unfolded schema has different names** for the properties of every object. -/
theorem namesDistinct_ofSchema (document : Document) (above : List String) {schema : Json}
    (h : schema.Distinct) : NamesDistinct (ofSchema document above schema) := by
  fun_induction ofSchema document above schema with
  | case1 => exact .intro List.nodup_nil fun _ _ _ hmem => absurd hmem List.not_mem_nil
  | case2 above schema properties hdeclared ih =>
    obtain ⟨hkeys, hall⟩ := Schema.distinct_properties h hdeclared
    refine .intro ?_ fun property references inner hmem => ?_
    · rw [List.map_map]
      have hnames := List.attach_map_val (f := Prod.fst) (l := properties)
      exact hnames.symm ▸ hkeys
    · obtain ⟨⟨⟨name, declared⟩, hin⟩, -, heq⟩ := List.mem_map.mp hmem
      have htree := congrArg Prod.snd heq
      dsimp only at htree
      split at htree
      · rename_i hfound
        split_ifs at htree
        cases htree
        exact ih name declared hin _ _ hfound (Target.distinct_follow (hall _ hin) hfound)
      · cases htree
      · cases htree

end Expansion

end Toolwright
