import Mathlib.Data.List.Nodup
import Toolwright.Json.Distinct

/-!
# Members under a key

What is found under a key of an object, and what is found there after a member has been put in. Pairs put
one after another into an object are the members that have each key in the place of its first pair and
with the value of its last (`keys_ofPairs`, `get?_ofPairs`); an object without repeated keys is determined by
that (`ext_get?`).
-/

namespace Toolwright

/-- Of some names and one more, the first occurrences are those of the others, and the one if it is new. -/
theorem eraseDups_append_singleton (names : List String) (name : String) :
    (names ++ [name]).eraseDups =
      if name ∈ names then names.eraseDups else names.eraseDups ++ [name] := by
  rw [List.eraseDups_append]
  by_cases hmem : name ∈ names
  · rw [if_pos hmem, List.removeAll, List.filter_cons_of_neg (by simpa using hmem), List.filter_nil,
      List.eraseDups_nil, List.append_nil]
  · rw [if_neg hmem, List.removeAll, List.filter_cons_of_pos (by simpa using hmem), List.filter_nil,
      List.eraseDups_cons, List.filter_nil, List.eraseDups_nil]

namespace Members

variable {α : Type} {key other : String} {value : α} {members : List (String × α)}

theorem get?_isSome_iff : (get? key members).isSome ↔ key ∈ keys members := by
  induction members with
  | nil => simp [get?, keys]
  | cons head rest ih =>
    obtain ⟨k, v⟩ := head
    rw [get?, keys, List.map_cons, List.mem_cons]
    by_cases hk : k = key
    · rw [if_pos hk]
      exact ⟨fun _ => .inl hk.symm, fun _ => rfl⟩
    · rw [if_neg hk, ih]
      exact ⟨.inr, fun h => h.resolve_left fun he => hk he.symm⟩

/-- A member with a new key comes last. -/
theorem insert_of_not_mem (h : key ∉ keys members) :
    insert key value members = members ++ [(key, value)] := by
  induction members with
  | nil => rfl
  | cons head rest ih =>
    obtain ⟨k, v⟩ := head
    rw [keys, List.map_cons, List.mem_cons, not_or] at h
    rw [insert, if_neg fun he => h.1 he.symm, ih h.2, List.cons_append]

theorem get?_insert_self (key : String) (value : α) (members : List (String × α)) :
    get? key (insert key value members) = some value := by
  induction members with
  | nil => simp [insert, get?]
  | cons member rest ih => by_cases h : member.1 = key <;> simp [insert, get?, h, ih]

theorem get?_insert_of_ne (h : other ≠ key) (value : α) (members : List (String × α)) :
    get? other (insert key value members) = get? other members := by
  induction members with
  | nil => simp [insert, get?, h.symm]
  | cons member rest ih =>
    by_cases hsame : member.1 = key
    · simp [insert, get?, hsame, h.symm]
    · simp [insert, get?, hsame, ih]

theorem get?_append (key : String) (members others : List (String × α)) :
    get? key (members ++ others) = (get? key members).or (get? key others) := by
  induction members with
  | nil => rfl
  | cons member rest ih => by_cases h : member.1 = key <;> simp [get?, h, ih]

/-- Members are put together in the order of their keys' first occurrences. -/
theorem keys_ofPairs (pairs : List (String × α)) : keys (ofPairs pairs) = (keys pairs).eraseDups := by
  have hrun : ∀ (members : List (String × α)) (before : List String), keys members = before.eraseDups →
      keys (pairs.foldl (fun members pair => insert pair.1 pair.2 members) members) =
        (before ++ keys pairs).eraseDups := by
    induction pairs with
    | nil =>
      intro members before h
      rw [List.foldl_nil, h, keys, List.map_nil, List.append_nil]
    | cons pair rest ih =>
      intro members before h
      have hinsert : keys (insert pair.1 pair.2 members) = (before ++ [pair.1]).eraseDups := by
        rw [keys_insert, h, eraseDups_append_singleton, if_congr List.mem_eraseDups rfl rfl]
      rw [List.foldl_cons, ih _ _ hinsert, List.append_assoc]
      rfl
  exact hrun [] [] rfl

/-- Of members with one key the last one counts. -/
theorem get?_ofPairs (key : String) (pairs : List (String × α)) :
    get? key (ofPairs pairs) = get? key pairs.reverse := by
  have hrun : ∀ members : List (String × α),
      get? key (pairs.foldl (fun members pair => insert pair.1 pair.2 members) members) =
        (get? key pairs.reverse).or (get? key members) := by
    induction pairs with
    | nil => exact fun members => rfl
    | cons pair rest ih =>
      intro members
      have hinsert : get? key (insert pair.1 pair.2 members) = (get? key [pair]).or (get? key members) := by
        by_cases hkey : pair.1 = key
        · rw [← hkey, get?_insert_self, get?, if_pos rfl, Option.some_or]
        · rw [get?_insert_of_ne (Ne.symm hkey), get?, if_neg hkey, get?, Option.none_or]
      rw [List.foldl_cons, ih, hinsert, List.reverse_cons, get?_append, Option.or_assoc]
  exact (hrun []).trans Option.or_none

/-- Members with different keys are determined by their keys and by what is found under each. -/
theorem ext_get? {others : List (String × α)} (hnodup : (keys members).Nodup)
    (hkeys : keys members = keys others) (hget : ∀ key, get? key members = get? key others) :
    members = others := by
  induction members generalizing others with
  | nil => exact (List.map_eq_nil_iff.mp hkeys.symm).symm
  | cons member rest ih =>
    cases others with
    | nil => cases hkeys
    | cons other others =>
      obtain ⟨k, v⟩ := member
      obtain ⟨k', v'⟩ := other
      obtain ⟨rfl, hrest⟩ : k = k' ∧ keys rest = keys others := List.cons.inj hkeys
      obtain ⟨hk, hnodup⟩ := List.nodup_cons.mp hnodup
      obtain rfl : v = v' := by
        have hvalue := hget k
        rw [get?, get?, if_pos rfl, if_pos rfl] at hvalue
        exact Option.some.inj hvalue
      refine congrArg _ (ih hnodup hrest fun key => ?_)
      by_cases hkey : k = key
      · have hnone : ∀ {members : List (String × α)}, k ∉ keys members → get? key members = none :=
          fun h => Option.not_isSome_iff_eq_none.mp (hkey ▸ mt get?_isSome_iff.mp h)
        rw [hnone hk, hnone (hrest ▸ hk)]
      · have hother := hget key
        rwa [get?, get?, if_neg hkey, if_neg hkey] at hother

end Members

end Toolwright
