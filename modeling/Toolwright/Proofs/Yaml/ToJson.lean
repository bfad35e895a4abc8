import Mathlib.Data.List.Forall2
import Toolwright.Proofs.Json.Members
import Toolwright.Yaml.ToJson

/-!
# What a YAML value becomes

What a value is in JSON is said here without computing it: `Mirrors` relates the two at every depth,
and `KeyText` relates a key to the text that it becomes. A conversion ends well just if the value has
nothing in it that JSON cannot say (`Representable`), and then in the one value that mirrors it.
-/

namespace Toolwright

/-- A number that is neither infinite nor the result of a meaningless operation. -/
def YamlNumber.isFinite : YamlNumber → Bool
  | integer _ | real _ => true
  | infinite _ | notANumber => false

namespace Yaml

/-! ### Conversions that end well -/

section

variable {ε α β : Type}

theorem map_eq_ok_iff {x : Except ε α} {f : α → β} {b : β} :
    x.map f = .ok b ↔ ∃ a, x = .ok a ∧ f a = b := by
  cases x <;> simp [Except.map]

theorem bind_eq_ok_iff {x : Except ε α} {f : α → Except ε β} {b : β} :
    x >>= f = .ok b ↔ ∃ a, x = .ok a ∧ f a = .ok b := by
  cases x <;> simp [bind, Except.bind]

end

/-! ### Keys -/

/-- The value without the tags in front of it. -/
def untagged : Yaml → Yaml
  | tagged _ value => value.untagged
  | value => value

/-- A value that is neither a collection nor tagged. -/
def isScalar : Yaml → Bool
  | null | bool _ | number _ | string _ => true
  | _ => false

/-- `KeyText key text`: the text that a key becomes. -/
inductive KeyText : Yaml → String → Prop where
  | null : KeyText .null "null"
  | true : KeyText (.bool true) "true"
  | false : KeyText (.bool false) "false"
  | number (value : YamlNumber) : KeyText (.number value) value.text
  | string (text : String) : KeyText (.string text) text
  | tagged (tag : String) {key : Yaml} {text : String} (inside : KeyText key text) :
      KeyText (.tagged tag key) text

theorem jsonKey_eq_ok_iff : (key : Yaml) → (text : String) →
    (key.jsonKey = .ok text ↔ KeyText key text)
  | .null, _ => ⟨by rintro ⟨⟩; exact .null, by rintro ⟨⟩; rfl⟩
  | .bool .true, _ => ⟨by rintro ⟨⟩; exact .true, by rintro ⟨⟩; rfl⟩
  | .bool .false, _ => ⟨by rintro ⟨⟩; exact .false, by rintro ⟨⟩; rfl⟩
  | .number value, _ => ⟨by rintro ⟨⟩; exact .number value, by rintro ⟨⟩; rfl⟩
  | .string text, _ => ⟨by rintro ⟨⟩; exact .string text, by rintro ⟨⟩; rfl⟩
  | .sequence _, _ => ⟨nofun, nofun⟩
  | .mapping _, _ => ⟨nofun, nofun⟩
  | .tagged tag key, text => by
    rw [jsonKey, jsonKey_eq_ok_iff key text]
    exact ⟨.tagged tag, fun h => by cases h; assumption⟩

theorem exists_jsonKey_iff : (key : Yaml) → ((∃ text, key.jsonKey = .ok text) ↔ key.untagged.isScalar)
  | .null | .bool _ | .number _ | .string _ => iff_of_true ⟨_, rfl⟩ rfl
  | .sequence _ | .mapping _ => iff_of_false nofun nofun
  | .tagged _ key => exists_jsonKey_iff key

/-! ### What can be said in JSON -/

/-- `Holds tree value`: going down from a value to items, to the values of entries and to what is
tagged, one comes to another. -/
inductive Holds : Yaml → Yaml → Prop where
  | self (tree : Yaml) : Holds tree tree
  | item {items : List Yaml} {item value : Yaml} (mem : item ∈ items) (inside : Holds item value) :
      Holds (.sequence items) value
  | entry {entries : List (Yaml × Yaml)} {entry : Yaml × Yaml} {value : Yaml}
      (mem : entry ∈ entries) (inside : Holds entry.2 value) : Holds (.mapping entries) value
  | tagged (tag : String) {tree value : Yaml} (inside : Holds tree value) :
      Holds (.tagged tag tree) value

/-- Everything in a value can be said in JSON: its numbers are finite, and the keys of its mappings are
scalars once their tags are gone. -/
structure Representable (tree : Yaml) : Prop where
  finite : ∀ number, Holds tree (.number number) → number.isFinite
  scalar : ∀ entries, Holds tree (.mapping entries) → ∀ entry ∈ entries, entry.1.untagged.isScalar

theorem representable_scalar {tree : Yaml} (hscalar : tree.isScalar)
    (hnumber : ∀ number, tree ≠ .number number) : Representable tree where
  finite number h := by
    cases h with
    | self => exact absurd rfl (hnumber number)
    | _ => cases hscalar
  scalar entries h := by cases h <;> cases hscalar

theorem representable_number {number : YamlNumber} :
    Representable (.number number) ↔ number.isFinite :=
  ⟨fun h => h.finite number (.self _), fun h => ⟨by rintro _ ⟨⟩; exact h, nofun⟩⟩

theorem representable_sequence {items : List Yaml} :
    Representable (.sequence items) ↔ ∀ item ∈ items, Representable item := by
  constructor
  · intro h item hitem
    exact ⟨fun number hholds => h.finite number (.item hitem hholds),
      fun entries hholds => h.scalar entries (.item hitem hholds)⟩
  · intro h
    constructor
    · rintro number (_ | ⟨hitem, hholds⟩)
      exact (h _ hitem).finite number hholds
    · rintro entries (_ | ⟨hitem, hholds⟩)
      exact (h _ hitem).scalar entries hholds

theorem representable_mapping {entries : List (Yaml × Yaml)} :
    Representable (.mapping entries) ↔
      ∀ entry ∈ entries, entry.1.untagged.isScalar ∧ Representable entry.2 := by
  constructor
  · intro h entry hentry
    exact ⟨h.scalar entries (.self _) entry hentry,
      fun number hholds => h.finite number (.entry hentry hholds),
      fun inner hholds => h.scalar inner (.entry hentry hholds)⟩
  · intro h
    constructor
    · rintro number (_ | _ | ⟨hentry, hholds⟩)
      exact (h _ hentry).2.finite number hholds
    · rintro inner (_ | _ | ⟨hentry, hholds⟩)
      · exact fun entry hentry => (h entry hentry).1
      · exact (h _ hentry).2.scalar inner hholds

theorem representable_tagged {tag : String} {tree : Yaml} :
    Representable (.tagged tag tree) ↔ Representable tree := by
  constructor
  · intro h
    exact ⟨fun number hholds => h.finite number (.tagged tag hholds),
      fun entries hholds => h.scalar entries (.tagged tag hholds)⟩
  · intro h
    constructor
    · rintro number (_ | _ | _ | hholds)
      exact h.finite number ‹_›
    · rintro entries (_ | _ | _ | hholds)
      exact h.scalar entries ‹_›

/-! ### What it is in JSON -/

/-- `Mirrors tree value`: the value is in JSON what the tree is in YAML. Tags are gone, and a mapping is the
object of its entries (`pairs`), whose keys come in the order of their first occurrences, each
with the value of its last. -/
inductive Mirrors : Yaml → Json → Prop where
  | null : Mirrors .null .null
  | bool (value : Bool) : Mirrors (.bool value) (.bool value)
  | integer (value : Int) : Mirrors (.number (.integer value)) (.number (.integer value))
  | real (value : Decimal.Binary64) : Mirrors (.number (.real value)) (.number (.real value))
  | string (text : String) : Mirrors (.string text) (.string text)
  | sequence {items : List Yaml} {values : List Json} (all : List.Forall₂ Mirrors items values) :
      Mirrors (.sequence items) (.array values)
  | mapping {entries : List (Yaml × Yaml)} {pairs members : List (String × Json)}
      (keys : List.Forall₂ (fun entry pair => KeyText entry.1 pair.1) entries pairs)
      (values : List.Forall₂ (fun entry pair => Mirrors entry.2 pair.2) entries pairs)
      (order : Members.keys members = (Members.keys pairs).eraseDups)
      (last : ∀ key, Members.get? key members = Members.get? key pairs.reverse) :
      Mirrors (.mapping entries) (.object members)
  | tagged (tag : String) {tree : Yaml} {value : Json} (inside : Mirrors tree value) :
      Mirrors (.tagged tag tree) value

/-- An object that holds pairs in the order of first occurrences, with the last values, is what they make
one after another. -/
theorem eq_ofPairs_iff {pairs members : List (String × Json)} :
    members = Members.ofPairs pairs ↔
      Members.keys members = (Members.keys pairs).eraseDups ∧
        ∀ key, Members.get? key members = Members.get? key pairs.reverse := by
  constructor
  · rintro rfl
    exact ⟨Members.keys_ofPairs pairs, fun key => Members.get?_ofPairs key pairs⟩
  · rintro ⟨horder, hlast⟩
    have hkeys := horder.trans (Members.keys_ofPairs pairs).symm
    refine Members.ext_get? (hkeys ▸ Members.nodup_keys_ofPairs pairs) hkeys fun key => ?_
    rw [hlast, Members.get?_ofPairs]

mutual

/-- A conversion ends in a value just if that mirrors the tree. -/
theorem toJson_eq_ok_iff : (tree : Yaml) → (value : Json) →
    (tree.toJson = .ok value ↔ Mirrors tree value)
  | .null, _ => ⟨by rintro ⟨⟩; exact .null, by rintro ⟨⟩; rfl⟩
  | .bool value, _ => ⟨by rintro ⟨⟩; exact .bool value, by rintro ⟨⟩; rfl⟩
  | .number (.integer value), _ => ⟨by rintro ⟨⟩; exact .integer value, by rintro ⟨⟩; rfl⟩
  | .number (.real value), _ => ⟨by rintro ⟨⟩; exact .real value, by rintro ⟨⟩; rfl⟩
  | .number (.infinite _), _ => ⟨nofun, nofun⟩
  | .number .notANumber, _ => ⟨nofun, nofun⟩
  | .string text, _ => ⟨by rintro ⟨⟩; exact .string text, by rintro ⟨⟩; rfl⟩
  | .sequence items, value => by
    rw [toJson, map_eq_ok_iff]
    constructor
    · rintro ⟨values, hitems, rfl⟩
      exact .sequence ((toJsonItems_eq_ok_iff items values).mp hitems)
    · rintro (_ | _ | _ | _ | _ | hitems)
      exact ⟨_, (toJsonItems_eq_ok_iff items _).mpr hitems, rfl⟩
  | .mapping entries, value => by
    rw [toJson, map_eq_ok_iff]
    constructor
    · -- keys are told apart only when all entries have been converted, so these are compared one by one
      rintro ⟨pairs, hentries, rfl⟩
      obtain ⟨hkeys, hvalues⟩ := (toJsonEntries_eq_ok_iff entries pairs).mp hentries
      obtain ⟨horder, hlast⟩ := eq_ofPairs_iff.mp rfl
      exact .mapping hkeys hvalues horder hlast
    · intro h
      cases h with
      | mapping hkeys hvalues horder hlast =>
        refine ⟨_, (toJsonEntries_eq_ok_iff entries _).mpr ⟨hkeys, hvalues⟩, ?_⟩
        exact congrArg Json.object (eq_ofPairs_iff.mpr ⟨horder, hlast⟩).symm
  | .tagged tag tree, value => by
    rw [toJson, toJson_eq_ok_iff tree value]
    exact ⟨.tagged tag, fun h => by cases h; assumption⟩

theorem toJsonItems_eq_ok_iff : (items : List Yaml) → (values : List Json) →
    (toJsonItems items = .ok values ↔ List.Forall₂ Mirrors items values)
  | [], _ => ⟨by rintro ⟨⟩; exact .nil, by rintro ⟨⟩; rfl⟩
  | item :: rest, values => by
    rw [toJsonItems]
    constructor
    · intro h
      obtain ⟨value, hitem, h⟩ := bind_eq_ok_iff.mp h
      obtain ⟨others, hrest, h⟩ := bind_eq_ok_iff.mp h
      cases h
      exact .cons ((toJson_eq_ok_iff item value).mp hitem)
        ((toJsonItems_eq_ok_iff rest others).mp hrest)
    · rintro (_ | ⟨hitem, hrest⟩)
      refine bind_eq_ok_iff.mpr ⟨_, (toJson_eq_ok_iff item _).mpr hitem, ?_⟩
      exact bind_eq_ok_iff.mpr ⟨_, (toJsonItems_eq_ok_iff rest _).mpr hrest, rfl⟩

theorem toJsonEntries_eq_ok_iff : (entries : List (Yaml × Yaml)) → (pairs : List (String × Json)) →
    (toJsonEntries entries = .ok pairs ↔
      List.Forall₂ (fun entry pair => KeyText entry.1 pair.1) entries pairs ∧
        List.Forall₂ (fun entry pair => Mirrors entry.2 pair.2) entries pairs)
  | [], _ => ⟨by rintro ⟨⟩; exact ⟨.nil, .nil⟩, by rintro ⟨⟨⟩, -⟩; rfl⟩
  | (key, tree) :: rest, pairs => by
    rw [toJsonEntries]
    constructor
    · intro h
      obtain ⟨text, hkey, h⟩ := bind_eq_ok_iff.mp h
      obtain ⟨value, htree, h⟩ := bind_eq_ok_iff.mp h
      obtain ⟨others, hrest, h⟩ := bind_eq_ok_iff.mp h
      cases h
      obtain ⟨hkeys, hvalues⟩ := (toJsonEntries_eq_ok_iff rest others).mp hrest
      exact ⟨.cons ((jsonKey_eq_ok_iff key text).mp hkey) hkeys,
        .cons ((toJson_eq_ok_iff tree value).mp htree) hvalues⟩
    · rintro ⟨_ | ⟨hkey, hkeys⟩, _ | ⟨htree, hvalues⟩⟩
      refine bind_eq_ok_iff.mpr ⟨_, (jsonKey_eq_ok_iff key _).mpr hkey, ?_⟩
      refine bind_eq_ok_iff.mpr ⟨_, (toJson_eq_ok_iff tree _).mpr htree, ?_⟩
      exact bind_eq_ok_iff.mpr ⟨_, (toJsonEntries_eq_ok_iff rest _).mpr ⟨hkeys, hvalues⟩, rfl⟩

end

mutual

/-- A conversion ends well just if everything in the tree can be said in JSON. -/
theorem exists_toJson_iff : (tree : Yaml) → ((∃ value, tree.toJson = .ok value) ↔ Representable tree)
  | .null => iff_of_true ⟨_, rfl⟩ (representable_scalar rfl nofun)
  | .bool _ => iff_of_true ⟨_, rfl⟩ (representable_scalar rfl nofun)
  | .string _ => iff_of_true ⟨_, rfl⟩ (representable_scalar rfl nofun)
  | .number (.integer _) => iff_of_true ⟨_, rfl⟩ (representable_number.mpr rfl)
  | .number (.real _) => iff_of_true ⟨_, rfl⟩ (representable_number.mpr rfl)
  | .number (.infinite _) => iff_of_false nofun fun h => nomatch representable_number.mp h
  | .number .notANumber => iff_of_false nofun fun h => nomatch representable_number.mp h
  | .sequence items => by
    rw [representable_sequence, ← exists_toJsonItems_iff items]
    simp only [toJson, map_eq_ok_iff]
    exact ⟨fun ⟨_, values, h, _⟩ => ⟨values, h⟩, fun ⟨values, h⟩ => ⟨_, values, h, rfl⟩⟩
  | .mapping entries => by
    rw [representable_mapping, ← exists_toJsonEntries_iff entries]
    simp only [toJson, map_eq_ok_iff]
    exact ⟨fun ⟨_, pairs, h, _⟩ => ⟨pairs, h⟩, fun ⟨pairs, h⟩ => ⟨_, pairs, h, rfl⟩⟩
  | .tagged _ tree => by
    rw [representable_tagged, ← exists_toJson_iff tree, toJson]

theorem exists_toJsonItems_iff : (items : List Yaml) →
    ((∃ values, toJsonItems items = .ok values) ↔ ∀ item ∈ items, Representable item)
  | [] => iff_of_true ⟨_, rfl⟩ nofun
  | item :: rest => by
    rw [List.forall_mem_cons, ← exists_toJson_iff item, ← exists_toJsonItems_iff rest]
    simp only [toJsonItems, bind_eq_ok_iff]
    exact ⟨fun ⟨_, value, hitem, values, hrest, _⟩ => ⟨⟨value, hitem⟩, values, hrest⟩,
      fun ⟨⟨value, hitem⟩, values, hrest⟩ => ⟨_, value, hitem, values, hrest, rfl⟩⟩

theorem exists_toJsonEntries_iff : (entries : List (Yaml × Yaml)) →
    ((∃ pairs, toJsonEntries entries = .ok pairs) ↔
      ∀ entry ∈ entries, entry.1.untagged.isScalar ∧ Representable entry.2)
  | [] => iff_of_true ⟨_, rfl⟩ nofun
  | (key, tree) :: rest => by
    rw [List.forall_mem_cons, ← exists_jsonKey_iff key, ← exists_toJson_iff tree,
      ← exists_toJsonEntries_iff rest]
    simp only [toJsonEntries, bind_eq_ok_iff]
    exact ⟨fun ⟨_, text, hkey, value, htree, pairs, hrest, _⟩ =>
        ⟨⟨⟨text, hkey⟩, value, htree⟩, pairs, hrest⟩,
      fun ⟨⟨⟨text, hkey⟩, value, htree⟩, pairs, hrest⟩ =>
        ⟨_, text, hkey, value, htree, pairs, hrest, rfl⟩⟩

end

/-- **YAML says in JSON what it said.** A value is converted just if all numbers in it are finite and all
keys of its mappings are scalars behind their tags, and what comes out is what mirrors it: without tags, every
item in its place, integers and other numbers as they were, and of the entries whose keys become
one text the first one's place and the last one's value, at every depth. -/
theorem toJson_faithful (tree : Yaml) :
    ((∃ value, tree.toJson = .ok value) ↔ Representable tree) ∧
    ∀ value, tree.toJson = .ok value ↔ Mirrors tree value :=
  ⟨exists_toJson_iff tree, toJson_eq_ok_iff tree⟩

/-- The code of a response, written as a number and as a text, is one key. -/
example :
    (mapping [(number (.integer 200), string "first"), (tagged "t" (string "default"), null),
      (string "200", string "last")]).toJson =
    .ok (.object [("200", .string "last"), ("default", .null)]) := by cbv

end Yaml

end Toolwright
