import Toolwright.Json.Basic

/-!
# Objects without repeated keys

`Json.Distinct` says of a value that no object in it has a key twice. Main statement: a canonical value
is distinct (`distinct_canonical`).
-/

namespace Toolwright

namespace Members

variable {α : Type}

theorem keys_insert (key : String) (value : α) (members : List (String × α)) :
    keys (insert key value members) =
      if key ∈ keys members then keys members else keys members ++ [key] := by
  induction members with
  | nil => simp [insert, keys]
  | cons head rest ih =>
    obtain ⟨k, v⟩ := head
    by_cases h : k = key
    · simp [insert, keys, h]
    · simp only [keys] at ih
      by_cases hk : key ∈ rest.map Prod.fst
      · simp [insert, keys, h, Ne.symm h, ih, hk]
      · simp [insert, keys, h, Ne.symm h, ih, hk]

theorem nodup_keys_insert {key : String} {value : α} {members : List (String × α)}
    (h : (keys members).Nodup) : (keys (insert key value members)).Nodup := by
  rw [keys_insert]
  split
  · exact h
  · rename_i hk
    rw [List.nodup_append]
    refine ⟨h, by simp, ?_⟩
    intro a ha b hb
    simp at hb
    subst hb
    intro e
    exact hk (e ▸ ha)

theorem mem_insert {key : String} {value : α} {members : List (String × α)} {pair : String × α}
    (h : pair ∈ insert key value members) : pair ∈ members ∨ pair.2 = value := by
  induction members with
  | nil => simp [insert] at h; simp [h]
  | cons head rest ih =>
    obtain ⟨k, v⟩ := head
    unfold insert at h
    split at h
    · rcases List.mem_cons.1 h with h | h
      · exact Or.inr (by rw [h])
      · exact Or.inl (List.mem_cons_of_mem _ h)
    · rcases List.mem_cons.1 h with h | h
      · exact Or.inl (by rw [h]; exact List.mem_cons_self)
      · rcases ih h with h | h
        · exact Or.inl (List.mem_cons_of_mem _ h)
        · exact Or.inr h

/-- What a fold of insertions keeps: the keys stay different, and every value comes from somewhere. -/
theorem foldl_insert (P : α → Prop) (pairs : List (String × α)) (hp : ∀ pair ∈ pairs, P pair.2) :
    ∀ members : List (String × α), (keys members).Nodup → (∀ pair ∈ members, P pair.2) →
      let result := pairs.foldl (fun members pair => insert pair.1 pair.2 members) members
      (keys result).Nodup ∧ ∀ pair ∈ result, P pair.2 := by
  induction pairs with
  | nil => intro members hn hm; exact ⟨hn, hm⟩
  | cons pair rest ih =>
    intro members hn hm
    refine ih (fun p h => hp p (List.mem_cons_of_mem _ h)) _ (nodup_keys_insert hn) ?_
    intro p h
    rcases mem_insert h with h | h
    · exact hm p h
    · rw [h]; exact hp pair List.mem_cons_self

theorem nodup_keys_ofPairs (pairs : List (String × α)) : (keys (ofPairs pairs)).Nodup :=
  (foldl_insert (fun _ => True) pairs (by simp) [] (by simp [keys]) (by simp)).1

theorem mem_ofPairs {P : α → Prop} {pairs : List (String × α)} (hp : ∀ pair ∈ pairs, P pair.2)
    {pair : String × α} (h : pair ∈ ofPairs pairs) : P pair.2 :=
  (foldl_insert P pairs hp [] (by simp [keys]) (by simp)).2 pair h

end Members

namespace Json

/-- No object in the value has a key twice. -/
inductive Distinct : Json → Prop where
  | null : Distinct .null
  | bool (value : Bool) : Distinct (.bool value)
  | number (value : Number) : Distinct (.number value)
  | string (text : String) : Distinct (.string text)
  | array {items : List Json} (all : ∀ item ∈ items, Distinct item) : Distinct (.array items)
  | object {members : List (String × Json)} (keys : (Members.keys members).Nodup)
      (all : ∀ member ∈ members, Distinct member.2) : Distinct (.object members)

mutual

/-- A canonical value is distinct. -/
theorem distinct_canonical : (value : Json) → value.canonical.Distinct
  | .null => .null
  | .bool b => .bool b
  | .number n => .number n
  | .string s => .string s
  | .array items => by
    simp only [canonical]
    exact .array (distinct_canonicalItems items)
  | .object members => by
    simp only [canonical]
    exact .object (Members.nodup_keys_ofPairs _)
      fun member h => Members.mem_ofPairs (distinct_canonicalMembers members) h

theorem distinct_canonicalItems : (items : List Json) →
    ∀ item ∈ canonicalItems items, item.Distinct
  | [] => by simp [canonicalItems]
  | item :: rest => by
    intro x hx
    simp only [canonicalItems, List.mem_cons] at hx
    rcases hx with rfl | hx
    · exact distinct_canonical item
    · exact distinct_canonicalItems rest x hx

theorem distinct_canonicalMembers : (members : List (String × Json)) →
    ∀ member ∈ canonicalMembers members, member.2.Distinct
  | [] => by simp [canonicalMembers]
  | (key, value) :: rest => by
    intro x hx
    simp only [canonicalMembers, List.mem_cons] at hx
    rcases hx with rfl | hx
    · exact distinct_canonical value
    · exact distinct_canonicalMembers rest x hx

end

end Json

end Toolwright
