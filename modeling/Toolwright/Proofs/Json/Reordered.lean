import Toolwright.Proofs.Json.Members

/-!
# The same members in another order

Objects are kept as lists of members, and what is put together member by member may have them in
another order than the original. `Json.Reordered` relates such values: the members have the same
keys, under each key are values that are related in turn, and where two values are not taken apart
they are equal. `Json.at?` follows keys into nested objects.
-/

namespace Toolwright

namespace Json

/-- The value that some keys lead to, each a key of the object reached by those before it. -/
def at? (value : Json) (keys : List String) : Option Json :=
  keys.foldlM Json.get? value

/-- `Reordered value other`: the values are the same but for the order of members. -/
inductive Reordered : Json → Json → Prop where
  | refl (value : Json) : Reordered value value
  | object {members others : List (String × Json)}
      (keys : (Members.keys members).Perm (Members.keys others))
      (values : ∀ key value other, Members.get? key members = some value →
        Members.get? key others = some other → Reordered value other) :
      Reordered (.object members) (.object others)

namespace Reordered

variable {members others : List (String × Json)}

theorem keys_perm (h : Reordered (.object members) (.object others)) :
    (Members.keys members).Perm (Members.keys others) := by
  cases h with
  | refl => exact .refl _
  | object hkeys _ => exact hkeys

/-- Objects of the same members are empty together. -/
theorem ne_nil (h : Reordered (.object members) (.object others)) (hne : others ≠ []) :
    members ≠ [] := by
  rintro rfl
  exact hne (List.map_eq_nil_iff.mp (List.perm_nil.mp h.keys_perm.symm))

/-- An object under a single key. -/
theorem single (key : String) {value other : Json} (h : Reordered value other) :
    Reordered (.object [(key, value)]) (.object [(key, other)]) := by
  refine .object (.refl _) fun k v o hv ho => ?_
  have hv' := Members.mem_of_get? hv
  have ho' := Members.mem_of_get? ho
  rw [List.mem_singleton] at hv' ho'
  cases hv'
  cases ho'
  exact h

end Reordered

end Json

end Toolwright
