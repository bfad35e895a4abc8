import Mathlib.Data.List.TakeWhile
import Toolwright.Name.Verb

/-!
# Names without a vendor

A name is cleaned in one go: the separators in front are dropped, then the mark of the vendor, and then a
version is moved to the end. What the mark and the version stood in front of is not looked at
again. So a clean name, which has neither a separator nor the mark in front, is all that the cleaning
leaves alone (`withoutVendor_eq_self_iff`), but not all that it makes: it makes one just if what
it uncovers is clean (`cleaned_iff`). A version leaves its hyphen behind what it uncovers, where it
may stand in front or complete another mark.
-/

namespace Toolwright.Name

open Text

/-- A separator as it may stand in front of a name. -/
def isDash (c : Char) : Bool :=
  c == '-' || c == '_'

/-- Whether a separator stands in front of a name. -/
def BeginsWithDash (name : List Char) : Prop :=
  name.head?.any isDash = true

instance (name : List Char) : Decidable (BeginsWithDash name) :=
  inferInstanceAs (Decidable (_ = true))

/-- Whether the mark of the vendor stands in front of a name. -/
def IsMarked (name : List Char) : Prop :=
  vendorMark.toList <+: name

instance (name : List Char) : Decidable (IsMarked name) :=
  inferInstanceAs (Decidable (vendorMark.toList <+: name))

/-- `Uncovers name text`: the text comes to the front of a name once the separators, the mark and the
version in front of it are gone. -/
inductive Uncovers (name : List Char) : List Char → Prop where
  | mark {separators text : List Char} (dashes : ∀ c ∈ separators, isDash c = true)
      (name_eq : name = separators ++ (vendorMark.toList ++ text)) : Uncovers name text
  /-- The version goes to the end, with the hyphen between. -/
  | version {separators digits text : List Char} (dashes : ∀ c ∈ separators, isDash c = true)
      (some_digit : digits ≠ []) (are_digits : ∀ c ∈ digits, isDigit c = true)
      (name_eq : name = separators ++ (vendorMark.toList ++ 'v' :: (digits ++ '-' :: text))) :
      Uncovers name (text ++ ['-'])

/-! ### Fronts of texts -/

theorem beginsWithDash_cons {c : Char} {text : List Char} :
    BeginsWithDash (c :: text) ↔ isDash c = true := Iff.rfl

theorem dropWhile_isDash_eq_self {name : List Char} (h : ¬ BeginsWithDash name) :
    name.dropWhile isDash = name := by
  cases name with
  | nil => rfl
  | cons c rest => exact List.dropWhile_cons_of_neg h

theorem not_beginsWithDash_dropWhile (name : List Char) :
    ¬ BeginsWithDash (name.dropWhile isDash) := by
  induction name with
  | nil => simp [BeginsWithDash]
  | cons c rest ih =>
    rw [List.dropWhile_cons]
    split
    · exact ih
    · assumption

theorem not_beginsWithDash_of_isMarked {name : List Char} (h : IsMarked name) :
    ¬ BeginsWithDash name := by
  obtain ⟨rest, rfl⟩ := h
  simp [BeginsWithDash, vendorMark, isDash]

/-- The separators in front of a marked name are those before the mark. -/
theorem dropWhile_isDash_append {separators name : List Char} (h : ∀ c ∈ separators, isDash c = true)
    (hname : ¬ BeginsWithDash name) : (separators ++ name).dropWhile isDash = name := by
  rw [List.dropWhile_append_of_pos h, dropWhile_isDash_eq_self hname]

/-- A hyphen decides as much of what stands in front of a name as there is to decide. -/
theorem beginsWithDash_append_hyphen (text rest : List Char) :
    BeginsWithDash (text ++ '-' :: rest) ↔ BeginsWithDash (text ++ ['-']) := by
  cases text <;> exact Iff.rfl

/-- The mark ends at its only hyphen. -/
theorem isMarked_append_hyphen (text rest : List Char) :
    IsMarked (text ++ '-' :: rest) ↔ IsMarked (text ++ ['-']) := by
  have hmark : vendorMark.toList = "public_api".toList ++ ['-'] := by decide
  have hfront : text ++ ['-'] <+: text ++ '-' :: rest :=
    (List.prefix_append_right_inj text).mpr ⟨rest, rfl⟩
  refine ⟨fun h => ?_, fun h => h.trans hfront⟩
  by_cases hlength : vendorMark.toList.length ≤ (text ++ ['-']).length
  · exact List.prefix_of_prefix_length_le h hfront hlength
  · -- the hyphen would stand within the mark
    rw [IsMarked, hmark] at h
    rw [hmark, List.length_append, List.length_append, List.length_singleton] at hlength
    have hinside : text ++ ['-'] <+: "public_api".toList :=
      List.prefix_of_prefix_length_le hfront ((List.prefix_append _ _).trans h)
        (by rw [List.length_append, List.length_singleton]; omega)
    exact absurd (hinside.subset (by simp : '-' ∈ text ++ ['-'])) (by decide)

/-! ### The version -/

theorem version?_eq_some_iff {rest version name : List Char} :
    version? rest = some (version, name) ↔
      ∃ digits, digits ≠ [] ∧ (∀ c ∈ digits, isDigit c = true) ∧ version = 'v' :: digits ∧
        rest = 'v' :: (digits ++ '-' :: name) := by
  constructor
  · intro h
    unfold version? at h
    split at h
    · rename_i rest
      split at h
      · rename_i first others name hdigits hname
        obtain ⟨rfl, rfl⟩ := Prod.mk.inj (Option.some.inj h)
        refine ⟨rest.takeWhile isDigit, ?_, fun c hc => List.mem_takeWhile_imp hc, rfl, ?_⟩
        · rw [hdigits]
          exact List.cons_ne_nil _ _
        · rw [← hname, List.takeWhile_append_dropWhile]
      · cases h
    · cases h
  · rintro ⟨digits, hne, hdigits, rfl, rfl⟩
    have hhyphen : ¬ isDigit '-' = true := by decide
    have htake : (digits ++ '-' :: name).takeWhile isDigit = digits := by
      rw [List.takeWhile_append_of_pos hdigits, List.takeWhile_cons_of_neg hhyphen, List.append_nil]
    have hdrop : (digits ++ '-' :: name).dropWhile isDigit = '-' :: name := by
      rw [List.dropWhile_append_of_pos hdigits, List.dropWhile_cons_of_neg hhyphen]
    obtain ⟨first, others, rfl⟩ := List.exists_cons_of_ne_nil hne
    simp only [version?, htake, hdrop]

/-! ### What the cleaning makes -/

section

variable {name : List Char}

theorem trimStart_eq : trimStart (fun c => c == '-' || c == '_') name = name.dropWhile isDash := rfl

theorem withoutVendor_of_not_isMarked (h : ¬ IsMarked (name.dropWhile isDash)) :
    withoutVendor name = name.dropWhile isDash := by
  have hafter : after? vendorMark.toList (name.dropWhile isDash) = none := by
    rw [Option.eq_none_iff_forall_ne_some]
    exact fun rest hrest => h ⟨rest, (after?_eq_some_iff.mp hrest).symm⟩
  simp only [withoutVendor, trimStart_eq, hafter]

theorem withoutVendor_of_version?_eq_none {rest : List Char}
    (h : name.dropWhile isDash = vendorMark.toList ++ rest) (hversion : version? rest = none) :
    withoutVendor name = rest := by
  simp only [withoutVendor, trimStart_eq, after?_eq_some_iff.mpr h, hversion]

theorem withoutVendor_of_version?_eq_some {rest version text : List Char}
    (h : name.dropWhile isDash = vendorMark.toList ++ rest)
    (hversion : version? rest = some (version, text)) :
    withoutVendor name = text ++ '-' :: version := by
  simp only [withoutVendor, trimStart_eq, after?_eq_some_iff.mpr h, hversion]

/-- Nothing is added to what is behind the mark. -/
theorem length_withoutVendor {rest : List Char}
    (h : name.dropWhile isDash = vendorMark.toList ++ rest) :
    (withoutVendor name).length = rest.length := by
  cases hversion : version? rest with
  | none => rw [withoutVendor_of_version?_eq_none h hversion]
  | some found =>
    obtain ⟨version, text⟩ := found
    rw [withoutVendor_of_version?_eq_some h hversion]
    obtain ⟨digits, -, -, rfl, rfl⟩ := version?_eq_some_iff.mp hversion
    simp only [List.length_append, List.length_cons]
    omega

theorem length_withoutVendor_le (name : List Char) :
    (withoutVendor name).length ≤ (name.dropWhile isDash).length := by
  by_cases hmarked : IsMarked (name.dropWhile isDash)
  · obtain ⟨rest, hrest⟩ := hmarked
    rw [length_withoutVendor hrest.symm, ← hrest, List.length_append]
    omega
  · rw [withoutVendor_of_not_isMarked hmarked]

/-- What is left alone is what is clean. -/
theorem withoutVendor_eq_self_iff :
    withoutVendor name = name ↔ ¬ BeginsWithDash name ∧ ¬ IsMarked name := by
  constructor
  · intro h
    have hdash : ¬ BeginsWithDash name := by
      intro hdash
      obtain ⟨c, rest, rfl⟩ : ∃ c rest, name = c :: rest := by
        cases name with
        | nil => cases hdash
        | cons c rest => exact ⟨c, rest, rfl⟩
      have hshort := length_withoutVendor_le (c :: rest)
      rw [h, List.dropWhile_cons_of_pos (beginsWithDash_cons.mp hdash), List.length_cons] at hshort
      have hle := rest.length_dropWhile_le isDash
      omega
    refine ⟨hdash, ?_⟩
    rintro ⟨rest, hrest⟩
    have hshort := length_withoutVendor ((dropWhile_isDash_eq_self hdash).trans hrest.symm)
    rw [h, ← hrest, List.length_append] at hshort
    have hmark : 0 < vendorMark.toList.length := by decide
    omega
  · rintro ⟨hdash, hmarked⟩
    rw [withoutVendor_of_not_isMarked, dropWhile_isDash_eq_self hdash]
    rwa [dropWhile_isDash_eq_self hdash]

/-- A name uncovers what is behind the mark, and if that begins with a version, what is behind
the version. -/
theorem uncovers_iff {text : List Char} : Uncovers name text ↔
    ∃ rest, name.dropWhile isDash = vendorMark.toList ++ rest ∧
      (text = rest ∨ ∃ version behind, version? rest = some (version, behind) ∧ text = behind ++ ['-']) := by
  have hdropped : ∀ {separators rest : List Char}, (∀ c ∈ separators, isDash c = true) →
      (separators ++ (vendorMark.toList ++ rest)).dropWhile isDash = vendorMark.toList ++ rest :=
    fun hdashes => dropWhile_isDash_append hdashes
      (not_beginsWithDash_of_isMarked (List.prefix_append _ _))
  constructor
  · rintro (⟨hdashes, rfl⟩ | ⟨hdashes, hne, hdigits, rfl⟩)
    · exact ⟨_, hdropped hdashes, .inl rfl⟩
    · exact ⟨_, hdropped hdashes, .inr ⟨_, _, version?_eq_some_iff.mpr ⟨_, hne, hdigits, rfl, rfl⟩, rfl⟩⟩
  · rintro ⟨rest, hrest, h⟩
    have hname : name = name.takeWhile isDash ++ (vendorMark.toList ++ rest) := by
      rw [← hrest, List.takeWhile_append_dropWhile]
    have hdashes : ∀ c ∈ name.takeWhile isDash, isDash c = true :=
      fun c hc => List.mem_takeWhile_imp hc
    rcases h with rfl | ⟨version, behind, hversion, rfl⟩
    · exact .mark hdashes hname
    · obtain ⟨digits, hne, hdigits, -, rfl⟩ := version?_eq_some_iff.mp hversion
      exact .version hdashes hne hdigits hname

/-- What stands in front of a name that is cleaned stands in front of what was uncovered, if it is
neither a `v` nor found in front of what the cleaning has been through, and reaches no further than
to a hyphen. -/
theorem front_withoutVendor_iff {front : List Char → Prop}
    (hbare : ¬ IsMarked (name.dropWhile isDash) → ¬ front (name.dropWhile isDash))
    (hversion : ∀ rest, ¬ front ('v' :: rest))
    (hhyphen : ∀ text rest, front (text ++ '-' :: rest) ↔ front (text ++ ['-'])) :
    front (withoutVendor name) ↔ ∃ text, Uncovers name text ∧ front text := by
  by_cases hmarked : IsMarked (name.dropWhile isDash)
  · obtain ⟨rest, hrest⟩ := hmarked
    have huncovers : ∀ text, Uncovers name text ↔
        text = rest ∨ ∃ version behind, version? rest = some (version, behind) ∧
          text = behind ++ ['-'] := by
      intro text
      rw [uncovers_iff, ← hrest]
      simp
    simp only [huncovers]
    cases hfound : version? rest with
    | none =>
      rw [withoutVendor_of_version?_eq_none hrest.symm hfound]
      simp
    | some found =>
      obtain ⟨version, behind⟩ := found
      rw [withoutVendor_of_version?_eq_some hrest.symm hfound, hhyphen]
      refine ⟨fun h => ⟨_, .inr ⟨version, behind, rfl, rfl⟩, h⟩, ?_⟩
      rintro ⟨text, rfl | ⟨other, behind, hother, rfl⟩, h⟩
      · obtain ⟨digits, -, -, -, rfl⟩ := version?_eq_some_iff.mp hfound
        exact absurd h (hversion _)
      · cases hother
        exact h
  · rw [withoutVendor_of_not_isMarked hmarked]
    refine iff_of_false (hbare hmarked) ?_
    rintro ⟨text, huncovers, -⟩
    obtain ⟨rest, hrest, -⟩ := uncovers_iff.mp huncovers
    exact hmarked ⟨rest, hrest.symm⟩

/-- **What the cleaning of a name makes.** A separator stands in front of it just if one is uncovered, and
it is clean, so that another cleaning leaves it alone, just if neither a separator nor the mark is
uncovered. A name without the mark uncovers nothing. -/
theorem cleaned_iff (name : List Char) :
    (BeginsWithDash (withoutVendor name) ↔ ∃ text, Uncovers name text ∧ BeginsWithDash text) ∧
    (withoutVendor (withoutVendor name) = withoutVendor name ↔
      ∀ text, Uncovers name text → ¬ BeginsWithDash text ∧ ¬ IsMarked text) := by
  have hdash : BeginsWithDash (withoutVendor name) ↔
      ∃ text, Uncovers name text ∧ BeginsWithDash text :=
    front_withoutVendor_iff (fun _ => not_beginsWithDash_dropWhile name)
      (fun rest => by simp [beginsWithDash_cons, isDash]) beginsWithDash_append_hyphen
  have hmark : IsMarked (withoutVendor name) ↔ ∃ text, Uncovers name text ∧ IsMarked text :=
    front_withoutVendor_iff id (fun rest => by simp [IsMarked, vendorMark]) isMarked_append_hyphen
  refine ⟨hdash, ?_⟩
  rw [withoutVendor_eq_self_iff, hdash, hmark]
  constructor
  · rintro ⟨hnodash, hnomark⟩ text huncovers
    exact ⟨fun h => hnodash ⟨text, huncovers, h⟩, fun h => hnomark ⟨text, huncovers, h⟩⟩
  · intro h
    exact ⟨fun ⟨text, huncovers, hd⟩ => (h text huncovers).1 hd,
      fun ⟨text, huncovers, hm⟩ => (h text huncovers).2 hm⟩

/-- A second hyphen behind the mark comes to the front. -/
theorem unclean_ofHyphens :
    let name := "public_api--alerts".toList
    withoutVendor name = "-alerts".toList ∧ BeginsWithDash (withoutVendor name) ∧
      withoutVendor (withoutVendor name) ≠ withoutVendor name := by
  decide

end

end Toolwright.Name
