import Toolwright.Document.Basic

/-!
# The references mentioned in a value

Every reference that can be met while the references of a schema are followed is written somewhere: in the
schema or in the document. There are finitely many of them (`Json.mentions`), following one leads to a
value that mentions no others (`Reference.resolve_mentions`), and therefore whatever never
follows one twice comes to an end: `unfollowed` counts those still left.
-/

namespace Toolwright

namespace Json

mutual

/-- Every reference written in a value, at any depth. -/
def mentions : Json → List String
  | array items => mentionsOfItems items
  | object members => mentionsOfMembers members
  | _ => []

/-- Every reference written in the items. -/
def mentionsOfItems : List Json → List String
  | [] => []
  | item :: rest => item.mentions ++ mentionsOfItems rest

/-- Every reference written in the members; a member that is itself a reference counts. -/
def mentionsOfMembers : List (String × Json) → List String
  | [] => []
  | (key, value) :: rest =>
    (if key = "$ref" then value.string?.toList else []) ++ value.mentions ++ mentionsOfMembers rest

end

theorem mentions_of_mem_items {item : Json} {items : List Json} (h : item ∈ items) :
    item.mentions ⊆ mentionsOfItems items := by
  induction items with
  | nil => simp at h
  | cons head rest ih =>
    intro reference found
    rcases List.mem_cons.1 h with rfl | h
    · simp [mentionsOfItems, found]
    · simp [mentionsOfItems, ih h found]

theorem mentions_of_mem_members {key : String} {value : Json} {members : List (String × Json)}
    (h : (key, value) ∈ members) : value.mentions ⊆ mentionsOfMembers members := by
  induction members with
  | nil => simp at h
  | cons head rest ih =>
    intro reference found
    obtain ⟨k, v⟩ := head
    rcases List.mem_cons.1 h with h | h
    · cases h
      simp [mentionsOfMembers, found]
    · simp [mentionsOfMembers, ih h found]

theorem mem_mentionsOfMembers {reference : String} {members : List (String × Json)}
    (h : ("$ref", Json.string reference) ∈ members) : reference ∈ mentionsOfMembers members := by
  induction members with
  | nil => simp at h
  | cons head rest ih =>
    obtain ⟨k, v⟩ := head
    rcases List.mem_cons.1 h with h | h
    · cases h
      simp [mentionsOfMembers, string?]
    · simp [mentionsOfMembers, ih h]

theorem get?_eq_some {value found : Json} {key : String} (h : value.get? key = some found) :
    ∃ members, value = object members ∧ (key, found) ∈ members := by
  cases value with
  | object members => exact ⟨members, rfl, Members.mem_of_get? (by simpa [get?, members?] using h)⟩
  | _ => simp [get?, members?] at h

theorem mentions_of_get? {value found : Json} {key : String} (h : value.get? key = some found) :
    found.mentions ⊆ value.mentions := by
  obtain ⟨members, rfl, mem⟩ := get?_eq_some h
  simpa [mentions] using mentions_of_mem_members mem

theorem reference?_mem_mentions {value : Json} {reference : String}
    (h : value.reference? = some reference) : reference ∈ value.mentions := by
  simp only [reference?, getString?, Option.bind_eq_some_iff] at h
  obtain ⟨found, get, text⟩ := h
  obtain ⟨members, rfl, mem⟩ := get?_eq_some get
  cases found with
  | string t =>
    simp only [string?, Option.some.injEq] at text
    subst text
    simpa [mentions] using mem_mentionsOfMembers mem
  | _ => simp [string?] at text

end Json

namespace Reference

theorem step?_mentions {index : String → Option Nat} {value next : Json} {segment : String}
    (h : step? index value segment = some next) : next.mentions ⊆ value.mentions := by
  cases value with
  | object members =>
    simpa [Json.mentions] using
      Json.mentions_of_mem_members (Members.mem_of_get? (by simpa [step?] using h))
  | array items =>
    simp only [step?, Option.bind_eq_some_iff] at h
    obtain ⟨n, -, found⟩ := h
    simpa [Json.mentions] using Json.mentions_of_mem_items (List.mem_of_getElem? found)
  | _ => simp [step?] at h

theorem walk_mentions {reference : String} {path : List String} {value found : Json}
    (h : walk reference path value = .ok found) : found.mentions ⊆ value.mentions := by
  induction path generalizing value with
  | nil =>
    simp only [walk, Except.ok.injEq] at h
    subst h
    exact fun _ mem => mem
  | cons segment rest ih =>
    simp only [walk] at h
    split at h
    · next next step => exact fun _ mem => step?_mentions step (ih h mem)
    · cases h

/-- What a reference stands for mentions only what its document mentions. -/
theorem resolve_mentions {reference : String} {root found : Json}
    (h : resolve reference root = .ok found) : found.mentions ⊆ root.mentions := by
  simp only [resolve] at h
  split at h
  · exact walk_mentions h
  · cases h

/-! ### References still to follow -/

/-- How many references that a document and a schema mention have not been followed. -/
def unfollowed (document schema : Json) (followed : List String) : Nat :=
  ((document.mentions ++ schema.mentions).eraseDups.filter (!followed.contains ·)).length

theorem nodup_eraseDups (names : List String) : names.eraseDups.Nodup := by
  induction h : names.length using Nat.strongRecOn generalizing names with
  | _ n ih =>
    cases names with
    | nil => simp
    | cons head rest =>
      rw [List.eraseDups_cons, List.nodup_cons]
      refine ⟨by simp [List.mem_eraseDups], ih _ ?_ _ rfl⟩
      subst h
      exact Nat.lt_succ_of_le (List.length_filter_le _ _)

theorem unfollowed_le {document schema other : Json} {followed more : List String}
    (mentioned : other.mentions ⊆ document.mentions ++ schema.mentions) (h : followed ⊆ more) :
    unfollowed document other more ≤ unfollowed document schema followed := by
  refine List.Nodup.length_le_of_subset ((nodup_eraseDups _).filter _) fun name mem => ?_
  simp only [List.mem_filter, List.mem_eraseDups, List.mem_append, Bool.not_eq_true',
    List.contains_eq_mem, decide_eq_false_iff_not] at mem ⊢
  refine ⟨?_, fun found => mem.2 (h found)⟩
  rcases mem.1 with found | found
  · exact .inl found
  · simpa using mentioned found

/-- Following a reference leaves fewer to follow. -/
theorem unfollowed_lt {document schema other : Json} {followed more : List String} {reference : String}
    (mentioned : other.mentions ⊆ document.mentions ++ schema.mentions) (h : followed ⊆ more)
    (here : reference ∈ schema.mentions) (fresh : reference ∉ followed) (taken : reference ∈ more) :
    unfollowed document other more < unfollowed document schema followed := by
  have bound : (reference :: (document.mentions ++ other.mentions).eraseDups.filter
      (!more.contains ·)).length ≤ unfollowed document schema followed := by
    refine List.Nodup.length_le_of_subset
      (List.nodup_cons.2 ⟨by simp [taken], (nodup_eraseDups _).filter _⟩) fun name mem => ?_
    simp only [List.mem_cons, List.mem_filter, List.mem_eraseDups, List.mem_append,
      Bool.not_eq_true', List.contains_eq_mem, decide_eq_false_iff_not] at mem ⊢
    rcases mem with rfl | ⟨found, out⟩
    · exact ⟨.inr here, fresh⟩
    · refine ⟨?_, fun before => out (h before)⟩
      rcases found with found | found
      · exact .inl found
      · simpa using mentioned found
  simp only [List.length_cons] at bound
  unfold unfollowed at *
  omega

end Reference

end Toolwright
