import Mathlib.Data.List.Nodup
import Mathlib.Data.List.Forall2
import Mathlib.Data.List.Perm.Subperm
import Toolwright.Proofs.Json.Members

/-!
# Equality of values

`Json.same` compares two values without regard to the order of members, going through the members of
one object and looking each up in the other. On values in which no object has a key twice this is an
equivalence: it is reflexive (`Distinct.same_refl`), symmetric (`Distinct.same_symm`) and
transitive (`same_trans`). With repeated keys it is not even reflexive, since only the first of
them is looked up.
-/

namespace Toolwright

namespace Members

variable {α : Type}

/-- If no key is repeated, a member is found under its key. -/
theorem get?_of_mem {key : String} {value : α} {members : List (String × α)}
    (h : (keys members).Nodup) (hmem : (key, value) ∈ members) : get? key members = some value := by
  induction members with
  | nil => exact absurd hmem List.not_mem_nil
  | cons head rest ih =>
    obtain ⟨k, v⟩ := head
    rw [keys, List.map_cons, List.nodup_cons] at h
    rcases List.mem_cons.mp hmem with he | hmem
    · cases he
      simp [get?]
    · have hne : k ≠ key := by
        rintro rfl
        exact h.1 (List.mem_map.mpr ⟨(k, value), hmem, rfl⟩)
      rw [get?, if_neg hne]
      exact ih h.2 hmem

end Members

open Decimal

theorem Decimal.Binary64.same_iff {x y : Binary64} :
    x.same y = true ↔ x = y ∨ x.significand = 0 ∧ y.significand = 0 := by
  simp [Binary64.same]

namespace Number

theorem same_refl (a : Number) : a.same a = true := by
  cases a <;> simp [same, Binary64.same_iff]

theorem same_symm {a b : Number} (h : a.same b = true) : b.same a = true := by
  cases a with
  | integer x => cases b <;> simp_all [same]
  | real x =>
    cases b with
    | integer y => simp [same] at h
    | real y =>
      rw [same, Binary64.same_iff] at h ⊢
      exact h.imp Eq.symm And.symm

theorem same_trans {a b c : Number} (h : a.same b = true) (h' : b.same c = true) :
    a.same c = true := by
  cases a with
  | integer x => cases b <;> cases c <;> simp_all [same]
  | real x =>
    cases b with
    | integer y => simp [same] at h
    | real y =>
      cases c with
      | integer z => simp [same] at h'
      | real z =>
        rw [same, Binary64.same_iff] at h h' ⊢
        rcases h with rfl | ⟨hx, hy⟩
        · exact h'
        · rcases h' with rfl | ⟨-, hz⟩
          · exact .inr ⟨hx, hy⟩
          · exact .inr ⟨hx, hz⟩

end Number

namespace Json

variable {a b c : Json}

theorem sameItems_iff {items others : List Json} :
    sameItems items others = true ↔ List.Forall₂ (fun x y => x.same y = true) items others := by
  induction items generalizing others with
  | nil => cases others <;> simp [sameItems]
  | cons first rest ih => cases others <;> simp [sameItems, ih]

theorem sameMembers_iff {members others : List (String × Json)} :
    sameMembers members others = true ↔ ∀ member ∈ members,
      ∃ value, Members.get? member.1 others = some value ∧ member.2.same value = true := by
  induction members with
  | nil => simp [sameMembers]
  | cons head rest ih =>
    obtain ⟨key, value⟩ := head
    rw [sameMembers, Bool.and_eq_true, ih, List.forall_mem_cons]
    cases Members.get? key others <;> simp

theorem same_object_iff {members others : List (String × Json)} :
    (object members).same (object others) = true ↔ members.length = others.length ∧
      ∀ member ∈ members,
        ∃ value, Members.get? member.1 others = some value ∧ member.2.same value = true := by
  rw [same, Bool.and_eq_true, beq_iff_eq, sameMembers_iff]

/-- A value without repeated keys is the same as itself. -/
theorem Distinct.same_refl (h : a.Distinct) : a.same a = true := by
  induction h with
  | null => rfl
  | bool value => simp [same]
  | number value => exact value.same_refl
  | string text => simp [same]
  | array _ ih => exact sameItems_iff.mpr (List.forall₂_same.mpr ih)
  | object hkeys _ ih =>
    refine same_object_iff.mpr ⟨rfl, fun member hmem => ⟨member.2, ?_, ih member hmem⟩⟩
    exact Members.get?_of_mem hkeys hmem

/-- Objects that are the same have the same keys. -/
theorem keys_perm_of_same {members others : List (String × Json)}
    (hkeys : (Members.keys members).Nodup) (h : (object members).same (object others) = true) :
    (Members.keys members).Perm (Members.keys others) := by
  obtain ⟨hlength, hmembers⟩ := same_object_iff.mp h
  have hsub : Members.keys members ⊆ Members.keys others := by
    intro key hkey
    obtain ⟨member, hmem, rfl⟩ := List.mem_map.mp hkey
    obtain ⟨value, hvalue, -⟩ := hmembers member hmem
    exact Members.get?_isSome_iff.mp (Option.isSome_of_eq_some hvalue)
  refine (List.subperm_of_subset hkeys hsub).perm_of_length_le ?_
  simp [Members.keys, hlength]

theorem sameItems_symm {items others : List Json}
    (ih : ∀ x ∈ items, ∀ y ∈ others, x.same y = true → y.same x = true)
    (h : sameItems items others = true) : sameItems others items = true := by
  rw [sameItems_iff] at h ⊢
  induction h with
  | nil => exact .nil
  | cons hfirst _ iht =>
    refine .cons (ih _ List.mem_cons_self _ List.mem_cons_self hfirst) (iht fun x hx y hy => ?_)
    exact ih x (List.mem_cons_of_mem _ hx) y (List.mem_cons_of_mem _ hy)

theorem same_object_symm {members others : List (String × Json)}
    (hkeys : (Members.keys members).Nodup) (hkeys' : (Members.keys others).Nodup)
    (ih : ∀ member ∈ members, ∀ other ∈ others,
      member.2.same other.2 = true → other.2.same member.2 = true)
    (h : (object members).same (object others) = true) :
    (object others).same (object members) = true := by
  have hperm := keys_perm_of_same hkeys h
  obtain ⟨hlength, hmembers⟩ := same_object_iff.mp h
  refine same_object_iff.mpr ⟨hlength.symm, fun other hother => ?_⟩
  obtain ⟨member, hmem, hkey⟩ :=
    List.mem_map.mp (hperm.mem_iff.mpr (List.mem_map_of_mem hother))
  obtain ⟨value, hvalue, hsame⟩ := hmembers member hmem
  rw [hkey, Members.get?_of_mem hkeys' hother, Option.some.injEq] at hvalue
  subst hvalue
  refine ⟨member.2, ?_, ih member hmem other hother hsame⟩
  rw [← hkey]
  exact Members.get?_of_mem hkeys hmem

/-- If a value is the same as another, then the other is the same as it. -/
theorem Distinct.same_symm (ha : a.Distinct) (hb : b.Distinct) (h : a.same b = true) :
    b.same a = true := by
  induction ha generalizing b with
  | null =>
    cases b with
    | null => exact h
    | _ => simp [same] at h
  | bool value =>
    cases b with
    | bool other => exact beq_iff_eq.mpr (beq_iff_eq.mp h).symm
    | _ => simp [same] at h
  | number value =>
    cases b with
    | number other => exact Number.same_symm h
    | _ => simp [same] at h
  | string text =>
    cases b with
    | string other => exact beq_iff_eq.mpr (beq_iff_eq.mp h).symm
    | _ => simp [same] at h
  | @array items _ ih =>
    cases hb with
    | @array others hothers =>
      exact sameItems_symm (fun x hx y hy => ih x hx (hothers y hy)) h
    | _ => simp [same] at h
  | @object members hkeys hall ih =>
    cases hb with
    | @object others hkeys' hall' =>
      exact same_object_symm hkeys hkeys' (fun x hx y hy => ih x hx (hall' y hy)) h
    | _ => simp [same] at h

theorem sameItems_trans {items others thirds : List Json}
    (ih : ∀ x ∈ items, ∀ y z : Json, x.same y = true → y.same z = true → x.same z = true)
    (h : sameItems items others = true) (h' : sameItems others thirds = true) :
    sameItems items thirds = true := by
  rw [sameItems_iff] at h h' ⊢
  induction h generalizing thirds with
  | nil => exact h'
  | cons hfirst _ iht =>
    cases h' with
    | cons hfirst' hrest' =>
      rw [List.forall_mem_cons] at ih
      exact .cons (ih.1 _ _ hfirst hfirst') (iht ih.2 hrest')

theorem same_object_trans {members others thirds : List (String × Json)}
    (ih : ∀ member ∈ members, ∀ y z : Json,
      member.2.same y = true → y.same z = true → member.2.same z = true)
    (h : (object members).same (object others) = true)
    (h' : (object others).same (object thirds) = true) :
    (object members).same (object thirds) = true := by
  obtain ⟨hlength, hmembers⟩ := same_object_iff.mp h
  obtain ⟨hlength', hothers⟩ := same_object_iff.mp h'
  refine same_object_iff.mpr ⟨hlength.trans hlength', fun member hmem => ?_⟩
  obtain ⟨value, hvalue, hsame⟩ := hmembers member hmem
  obtain ⟨third, hthird, hsame'⟩ := hothers _ (Members.mem_of_get? hvalue)
  exact ⟨third, hthird, ih member hmem value third hsame hsame'⟩

/-- What is the same as a value that is the same as a third is the same as the third. -/
theorem Distinct.same_trans (ha : a.Distinct) (h : a.same b = true) (h' : b.same c = true) :
    a.same c = true := by
  induction ha generalizing b c with
  | null =>
    cases b with
    | null => exact h'
    | _ => simp [same] at h
  | bool value =>
    cases b with
    | bool other =>
      rw [same, beq_iff_eq] at h
      exact h ▸ h'
    | _ => simp [same] at h
  | number value =>
    cases b with
    | number other =>
      cases c with
      | number third => exact Number.same_trans h h'
      | _ => simp [same] at h'
    | _ => simp [same] at h
  | string text =>
    cases b with
    | string other =>
      rw [same, beq_iff_eq] at h
      exact h ▸ h'
    | _ => simp [same] at h
  | @array items _ ih =>
    cases b with
    | array others =>
      cases c with
      | array thirds =>
        exact sameItems_trans (fun x hx y z hxy hyz => ih x hx hxy hyz) h h'
      | _ => simp [same] at h'
    | _ => simp [same] at h
  | @object members _ _ ih =>
    cases b with
    | object others =>
      cases c with
      | object thirds =>
        exact same_object_trans (fun member hmem y z hxy hyz => ih member hmem hxy hyz) h h'
      | _ => simp [same] at h'
    | _ => simp [same] at h

end Json

end Toolwright
