import Mathlib.Data.List.Nodup
import Mathlib.Data.Nat.Init
import Toolwright.Name.Allocator

/-!
# Claimed names are new

What a claim gives: the name itself where it is free, otherwise the name with the least free number
from two on (`choose_of_mem`). The search goes through `taken.length + 1` numbers, and that is
enough: the names with these numbers are pairwise different, so not all of them are taken
(`exists_free`). For the same reason a search that knows no bound (`Finds`) comes to an end, and to the
same one. Hence no claim gives a name that was taken before (`choose_not_mem`), and the names taken in
a scope stay pairwise different (`nodup_claim`).

Of names claimed one after another (`claimAll`) every one is given as it is or with a number
(`forall₂_claimAll`), no two are given the same (`nodup_claimAll`), and all are given as they are
only if they are pairwise different and free from the start (`claimAll_eq_self_iff`). What is taken
after any claims, and what the next claim gives there, is put together in `claim_after`.
-/

namespace Toolwright.Allocator

/-- Whether a name is taken, as membership. -/
theorem contains_iff {a : Allocator} {name : String} : a.contains name = true ↔ name ∈ a.taken := by
  simp [contains]

/-! ### Names with a number -/

theorem toList_suffixed (name : String) (k : ℕ) :
    (suffixed name k).toList = name.toList ++ '_' :: Nat.toDigits 10 k := by
  have hk : (toString k).toList = Nat.toDigits 10 k := Nat.toList_repr
  rw [suffixed, String.toList_append, String.toList_append, hk, List.append_assoc]
  rfl

/-- Different numbers give different names. -/
theorem suffixed_injective (name : String) : Function.Injective (suffixed name) := by
  intro j k h
  have hl := congrArg String.toList h
  rw [toList_suffixed, toList_suffixed] at hl
  have hd : Nat.toDigits 10 j = Nat.toDigits 10 k := by
    have := List.append_cancel_left hl
    exact (List.cons.inj this).2
  rw [← Nat.ofDigitChars_ten_toDigits (n := j), hd, Nat.ofDigitChars_ten_toDigits]

/-! ### The search for a free number -/

/-- One of the first `taken.length + 1` numbers from `k` on is free. -/
theorem exists_free (a : Allocator) (name : String) (k : ℕ) :
    ∃ j ≤ a.taken.length, suffixed name (k + j) ∉ a.taken := by
  by_contra hnone
  push Not at hnone
  -- otherwise `taken` holds more different names than it has entries
  have hnodup : ((List.range (a.taken.length + 1)).map fun j => suffixed name (k + j)).Nodup := by
    refine List.Nodup.map (fun i j h => ?_) List.nodup_range
    exact Nat.add_left_cancel (suffixed_injective name h)
  have hsub : ((List.range (a.taken.length + 1)).map fun j => suffixed name (k + j)) ⊆ a.taken := by
    intro given hmem
    obtain ⟨j, hj, rfl⟩ := List.mem_map.mp hmem
    exact hnone j (Nat.le_of_lt_succ (List.mem_range.mp hj))
  have hle := hnodup.length_le_of_subset hsub
  rw [List.length_map, List.length_range] at hle
  omega

/-- The search gives the first free one among the names that it tries, if one of them is free. -/
theorem firstFree_spec (a : Allocator) (name : String) (tries k : ℕ)
    (h : ∃ j ≤ tries, suffixed name (k + j) ∉ a.taken) :
    ∃ j, a.firstFree name tries k = suffixed name (k + j) ∧ suffixed name (k + j) ∉ a.taken ∧
      ∀ i < j, suffixed name (k + i) ∈ a.taken := by
  induction tries generalizing k with
  | zero =>
    obtain ⟨j, hj, hfree⟩ := h
    obtain rfl : j = 0 := Nat.le_zero.mp hj
    exact ⟨0, rfl, hfree, fun i hi => absurd hi (Nat.not_lt_zero i)⟩
  | succ tries ih =>
    rw [firstFree]
    by_cases htaken : suffixed name k ∈ a.taken
    · rw [if_pos (contains_iff.mpr htaken)]
      obtain ⟨j, hj, hfree⟩ := h
      have hpos : j ≠ 0 := by
        rintro rfl
        exact hfree htaken
      obtain ⟨j', he, hfree', hleast⟩ := ih (k + 1)
        ⟨j - 1, by omega, by rwa [show k + 1 + (j - 1) = k + j by omega]⟩
      rw [Nat.add_assoc, Nat.add_comm 1 j'] at he hfree'
      refine ⟨j' + 1, he, hfree', fun i hi => ?_⟩
      cases i with
      | zero => exact htaken
      | succ i =>
        have := hleast i (by omega)
        rwa [Nat.add_assoc, Nat.add_comm 1 i] at this
    · rw [if_neg (by rwa [contains_iff])]
      exact ⟨0, rfl, htaken, fun i hi => absurd hi (Nat.not_lt_zero i)⟩

/-- From two on the search gives the least free number. -/
theorem firstFree_least (a : Allocator) (name : String) :
    ∃ k, 2 ≤ k ∧ a.firstFree name a.taken.length 2 = suffixed name k ∧ suffixed name k ∉ a.taken ∧
      ∀ i, 2 ≤ i → i < k → suffixed name i ∈ a.taken := by
  obtain ⟨j, he, hfree, hleast⟩ := firstFree_spec a name a.taken.length 2 (exists_free a name 2)
  refine ⟨2 + j, Nat.le_add_right 2 j, he, hfree, fun i hi hlt => ?_⟩
  have := hleast (i - 2) (by omega)
  rwa [show 2 + (i - 2) = i by omega] at this

/-- `Finds a name k found`: the search that tries the name with the numbers from `k` on, one after
another and without a bound, ends with the name found. -/
inductive Finds (a : Allocator) (name : String) : ℕ → String → Prop where
  /-- The number is free. -/
  | free {k : ℕ} (h : a.contains (suffixed name k) = false) : Finds a name k (suffixed name k)
  /-- The number is taken, and the search goes on with the next one. -/
  | next {k : ℕ} {found : String} (h : a.contains (suffixed name k) = true)
      (rest : Finds a name (k + 1) found) : Finds a name k found

/-- A search comes to the first free number. -/
theorem Finds.of_le {a : Allocator} {name : String} {k j : ℕ} (hle : k ≤ j)
    (hfree : a.contains (suffixed name j) = false)
    (htaken : ∀ i, k ≤ i → i < j → a.contains (suffixed name i) = true) :
    Finds a name k (suffixed name j) := by
  induction hle using Nat.decreasingInduction with
  | self => exact .free hfree
  | of_succ k hlt ih =>
    exact .next (htaken k (Nat.le_refl k) hlt) (ih fun i hi => htaken i (Nat.le_of_succ_le hi))

/-- A search has one end. -/
theorem Finds.unique {a : Allocator} {name found other : String} {k : ℕ} (h : Finds a name k found)
    (h' : Finds a name k other) : found = other := by
  induction h with
  | free h =>
    cases h' with
    | free _ => rfl
    | next htaken _ => exact absurd (h.symm.trans htaken) Bool.false_ne_true
  | next h _ ih =>
    cases h' with
    | free hfree => exact absurd (hfree.symm.trans h) Bool.false_ne_true
    | next _ rest => exact ih rest

/-! ### Claims -/

theorem choose_of_not_mem {a : Allocator} {name : String} (h : name ∉ a.taken) :
    a.choose name = name := by
  rw [choose, if_neg (by rwa [contains_iff])]

/-- A name that is taken gets the least free number from two on. -/
theorem choose_of_mem {a : Allocator} {name : String} (h : name ∈ a.taken) :
    ∃ k, 2 ≤ k ∧ a.choose name = suffixed name k ∧ suffixed name k ∉ a.taken ∧
      ∀ i, 2 ≤ i → i < k → suffixed name i ∈ a.taken := by
  rw [choose, if_pos (contains_iff.mpr h)]
  exact firstFree_least a name

/-- **A claim gives a name that was free.** -/
theorem choose_not_mem (a : Allocator) (name : String) : a.choose name ∉ a.taken := by
  by_cases h : name ∈ a.taken
  · obtain ⟨k, -, he, hfree, -⟩ := choose_of_mem h
    rwa [he]
  · rwa [choose_of_not_mem h]

theorem choose_eq_self_iff {a : Allocator} {name : String} : a.choose name = name ↔ name ∉ a.taken := by
  refine ⟨fun h hmem => choose_not_mem a name ?_, choose_of_not_mem⟩
  rwa [h]

/-- `Varies name given`: the name given is the one asked for, or that with a number from two on. -/
def Varies (name given : String) : Prop :=
  given = name ∨ ∃ k, 2 ≤ k ∧ given = suffixed name k

theorem varies_choose (a : Allocator) (name : String) : Varies name (a.choose name) := by
  by_cases h : name ∈ a.taken
  · obtain ⟨k, hk, he, -⟩ := choose_of_mem h
    exact .inr ⟨k, hk, he⟩
  · exact .inl (choose_of_not_mem h)

/-- A number at the end leaves the beginning of a name as it is. -/
theorem Varies.head?_eq {name given : String} (h : Varies name given) (hname : name ≠ "") :
    given.toList.head? = name.toList.head? := by
  rcases h with rfl | ⟨k, -, rfl⟩
  · rfl
  · rw [toList_suffixed]
    exact List.head?_append_of_ne_nil _ (by simpa using hname)

/-- A name that is given with a tag before an underscore was asked for with that tag: a number at the end
has no underscore in it. -/
theorem Varies.toList_prefix {name tag word : String} (h : Varies name (tag ++ ("_" ++ word))) :
    tag.toList <+: name.toList := by
  have hgiven : (tag ++ ("_" ++ word)).toList = tag.toList ++ '_' :: word.toList := by
    rw [String.toList_append, String.toList_append]
    rfl
  rcases h with rfl | ⟨k, -, he⟩
  · rw [hgiven]
    exact List.prefix_append _ _
  · have hlist := congrArg String.toList he
    rw [hgiven, toList_suffixed] at hlist
    rcases List.append_eq_append_iff.mp hlist with ⟨between, hname, -⟩ | ⟨between, htag, hrest⟩
    · exact ⟨between, hname.symm⟩
    · cases between with
      | nil =>
        rw [List.append_nil] at htag
        exact htag ▸ List.prefix_refl _
      | cons c between =>
        obtain ⟨-, hdigits⟩ := List.cons.inj hrest
        have hmem : '_' ∈ Nat.toDigits 10 k := hdigits ▸ List.mem_append_right _ List.mem_cons_self
        exact absurd (Nat.isDigit_of_mem_toDigits (by decide) (by decide) hmem) (by decide)

@[simp] theorem taken_claim (a : Allocator) (name : String) :
    (a.claim name).2.taken = a.choose name :: a.taken := rfl

/-- The names taken in a scope stay pairwise different. -/
theorem nodup_claim {a : Allocator} (h : a.taken.Nodup) (name : String) :
    (a.claim name).2.taken.Nodup := by
  rw [taken_claim]
  exact List.nodup_cons.mpr ⟨choose_not_mem a name, h⟩

/-! ### Claims one after another -/

/-- The names given for some names that are claimed one after another. -/
def claimAll (a : Allocator) : List String → List String
  | [] => []
  | name :: rest => (a.claim name).1 :: (a.claim name).2.claimAll rest

theorem forall₂_claimAll (a : Allocator) (names : List String) :
    List.Forall₂ Varies names (a.claimAll names) := by
  induction names generalizing a with
  | nil => exact .nil
  | cons name rest ih => exact .cons (varies_choose a name) (ih _)

/-- Names that are claimed after others are claimed where those have been given theirs. -/
theorem claimAll_append (a : Allocator) (names more : List String) :
    a.claimAll (names ++ more) =
      a.claimAll names ++ (reserving ((a.claimAll names).reverse ++ a.taken)).claimAll more := by
  induction names generalizing a with
  | nil => rfl
  | cons name rest ih =>
    rw [List.cons_append, claimAll, claimAll, ih, List.cons_append, List.reverse_cons,
      List.append_assoc]
    rfl

/-- The scope after some claims. -/
def after (a : Allocator) (names : List String) : Allocator :=
  names.foldl (fun scope name => (scope.claim name).2) a

/-- What is taken after some claims: what they gave, and what was taken before. -/
theorem after_eq (a : Allocator) (names : List String) :
    a.after names = reserving ((a.claimAll names).reverse ++ a.taken) := by
  induction names generalizing a with
  | nil => rfl
  | cons name rest ih =>
    refine (ih (a.claim name).2).trans ?_
    rw [claimAll, List.reverse_cons, List.append_assoc, taken_claim]
    rfl

theorem mem_taken_after {a : Allocator} {names : List String} {name : String} :
    name ∈ (a.after names).taken ↔ name ∈ a.taken ∨ name ∈ a.claimAll names := by
  rw [after_eq, reserving, List.mem_append, List.mem_reverse, or_comm]

/-- The names given are what each claim gives after those before it. -/
theorem mem_claimAll {a : Allocator} {names : List String} {given : String} :
    given ∈ a.claimAll names ↔
      ∃ before name rest, names = before ++ name :: rest ∧ (a.after before).choose name = given := by
  constructor
  · intro h
    induction names generalizing a with
    | nil => exact absurd h List.not_mem_nil
    | cons name rest ih =>
      rcases List.mem_cons.mp h with rfl | h
      · exact ⟨[], name, rest, rfl, rfl⟩
      · obtain ⟨before, other, more, rfl, hchoose⟩ := ih h
        exact ⟨name :: before, other, more, rfl, hchoose⟩
  · rintro ⟨before, name, rest, rfl, rfl⟩
    rw [claimAll_append, ← after_eq]
    exact List.mem_append_right _ List.mem_cons_self

theorem varies_of_mem_claimAll {a : Allocator} {names : List String} {given : String}
    (h : given ∈ a.claimAll names) : ∃ name ∈ names, Varies name given := by
  obtain ⟨before, name, rest, rfl, rfl⟩ := mem_claimAll.mp h
  exact ⟨name, List.mem_append_right _ List.mem_cons_self, varies_choose _ name⟩

/-- A name that was claimed is given to someone, unless it was taken before. -/
theorem mem_claimAll_or_taken {a : Allocator} {names : List String} {name : String}
    (h : name ∈ names) : name ∈ a.claimAll names ∨ name ∈ a.taken := by
  obtain ⟨before, rest, rfl⟩ := List.append_of_mem h
  by_cases htaken : name ∈ (a.after before).taken
  · rw [claimAll_append]
    exact (mem_taken_after.mp htaken).symm.imp_left (List.mem_append_left _)
  · exact .inl (mem_claimAll.mpr ⟨before, name, rest, rfl, choose_of_not_mem htaken⟩)

/-- No name is given that was taken before. -/
theorem not_mem_of_mem_claimAll {a : Allocator} {names : List String} {given : String}
    (h : given ∈ a.claimAll names) : given ∉ a.taken := by
  obtain ⟨before, name, rest, rfl, rfl⟩ := mem_claimAll.mp h
  exact fun htaken => choose_not_mem _ name (mem_taken_after.mpr (.inl htaken))

/-- **The names given are pairwise different**, whatever is claimed. -/
theorem nodup_claimAll (a : Allocator) (names : List String) : (a.claimAll names).Nodup := by
  induction names generalizing a with
  | nil => exact List.nodup_nil
  | cons name rest ih =>
    refine List.nodup_cons.mpr ⟨fun hmem => ?_, ih _⟩
    exact not_mem_of_mem_claimAll hmem List.mem_cons_self

/-- **A number is a last resort**: without one go exactly those names that are pairwise different
and free. -/
theorem claimAll_eq_self_iff {a : Allocator} {names : List String} :
    a.claimAll names = names ↔ names.Nodup ∧ ∀ name ∈ names, name ∉ a.taken := by
  induction names generalizing a with
  | nil => simp [claimAll]
  | cons name rest ih =>
    have hfirst : (a.claim name).1 = name ↔ name ∉ a.taken := choose_eq_self_iff
    rw [claimAll, List.cons.injEq, ih, hfirst, List.nodup_cons, List.forall_mem_cons]
    constructor
    · rintro ⟨hfree, hrest, hothers⟩
      rw [taken_claim, choose_of_not_mem hfree] at hothers
      refine ⟨⟨fun hmem => hothers name hmem List.mem_cons_self, hrest⟩, hfree, fun other hmem => ?_⟩
      exact fun htaken => hothers other hmem (List.mem_cons_of_mem _ htaken)
    · rintro ⟨⟨hnew, hrest⟩, hfree, hothers⟩
      refine ⟨hfree, hrest, fun other hmem htaken => ?_⟩
      rw [taken_claim, choose_of_not_mem hfree] at htaken
      rcases List.mem_cons.mp htaken with rfl | htaken
      · exact hnew hmem
      · exact hothers other hmem htaken

/-! ### Any claims -/

/-- `Numbered names given`: someone claims a name of which this is a numbered one, after the name itself
and all smaller numbers of it were given. -/
def Numbered (names : List String) (given : String) : Prop :=
  ∃ before name rest k, names = before ++ name :: rest ∧ 2 ≤ k ∧ given = suffixed name k ∧
    name ∈ claimAll {} before ∧ ∀ i, 2 ≤ i → i < k → suffixed name i ∈ claimAll {} before

/-- Where nothing is taken from the start, a name is given to someone if someone claims it, or if it is
due as a numbered one. -/
theorem mem_claimAll_iff {names : List String} {given : String} :
    given ∈ claimAll {} names ↔ given ∈ names ∨ Numbered names given := by
  have htaken : ∀ {before : List String} {name : String},
      name ∈ (after {} before).taken ↔ name ∈ claimAll {} before :=
    mem_taken_after.trans (or_iff_right List.not_mem_nil)
  constructor
  · intro h
    obtain ⟨before, name, rest, rfl, rfl⟩ := mem_claimAll.mp h
    by_cases hmem : name ∈ (after {} before).taken
    · obtain ⟨k, hk, he, -, hleast⟩ := choose_of_mem hmem
      exact .inr ⟨before, name, rest, k, rfl, hk, he, htaken.mp hmem,
        fun i hi hlt => htaken.mp (hleast i hi hlt)⟩
    · rw [choose_of_not_mem hmem]
      exact .inl (List.mem_append_right _ List.mem_cons_self)
  · rintro (h | ⟨before, name, rest, k, rfl, hk, rfl, hname, hsmaller⟩)
    · exact (mem_claimAll_or_taken h).resolve_right List.not_mem_nil
    · by_cases hgiven : suffixed name k ∈ claimAll {} before
      · rw [claimAll_append]
        exact List.mem_append_left _ hgiven
      · -- all smaller numbers are taken and this one is not, so the claim gives it
        obtain ⟨j, hj, he, hfree, hleast⟩ := choose_of_mem (htaken.mpr hname)
        have hjk : j = k := by
          rcases Nat.lt_trichotomy j k with hlt | heq | hlt
          · exact absurd (htaken.mpr (hsmaller j hj hlt)) hfree
          · exact heq
          · exact absurd (htaken.mp (hleast k hk hlt)) hgiven
        exact mem_claimAll.mpr ⟨before, name, rest, rfl, hjk ▸ he⟩

/-- **What a claim gives, whatever was claimed before.** After any claims in a scope with any names
reserved, the names taken are the reserved ones and those given, and a search without a bound ends for
every name, with the least number that is free. The next claim gives the name itself exactly if it is free,
and else the name with that number; so the names given stay pairwise different and apart from the
reserved ones. -/
theorem claim_after (reserved claims : List String) (name : String) :
    let scope := (reserving reserved).after claims
    let earlier := (reserving reserved).claimAll claims
    let given := (scope.claim name).1
    (reserving reserved).claimAll (claims ++ [name]) = earlier ++ [given] ∧
      (earlier ++ [given]).Nodup ∧ (earlier ++ [given]).Disjoint reserved ∧
      (∀ other, scope.contains other = true ↔ other ∈ reserved ∨ other ∈ earlier) ∧
      (given = name ↔ scope.contains name = false) ∧
      ∃ k, 2 ≤ k ∧ (∀ found, Finds scope name 2 found ↔ found = suffixed name k) ∧
        scope.contains (suffixed name k) = false ∧
        (∀ i, 2 ≤ i → i < k → scope.contains (suffixed name i) = true) ∧
        given = if scope.contains name = true then suffixed name k else name := by
  intro scope earlier given
  have hrun : (reserving reserved).claimAll (claims ++ [name]) = earlier ++ [given] := by
    rw [claimAll_append, ← after_eq]
    rfl
  have hfree_iff : ∀ {other : String}, scope.contains other = false ↔ other ∉ scope.taken := by
    intro other
    rw [← Bool.not_eq_true, contains_iff]
  refine ⟨hrun, ?_, ?_, fun other => ?_, ?_, ?_⟩
  · rw [← hrun]
    exact nodup_claimAll _ _
  · rw [← hrun]
    exact fun other => not_mem_of_mem_claimAll
  · rw [contains_iff]
    exact mem_taken_after
  · rw [hfree_iff]
    exact choose_eq_self_iff
  · obtain ⟨k, hk, hsearch, hfree, hleast⟩ := firstFree_least scope name
    have hfree' : scope.contains (suffixed name k) = false := hfree_iff.mpr hfree
    have hleast' : ∀ i, 2 ≤ i → i < k → scope.contains (suffixed name i) = true :=
      fun i hi hlt => contains_iff.mpr (hleast i hi hlt)
    have hfinds : Finds scope name 2 (suffixed name k) := .of_le hk hfree' hleast'
    refine ⟨k, hk, fun found => ⟨fun h => h.unique hfinds, ?_⟩, hfree', hleast', ?_⟩
    · rintro rfl
      exact hfinds
    · rw [← hsearch]
      rfl

/-- A number that was reserved or given as a name of its own is passed over. -/
example : (reserving ["url", "url_2"]).claimAll ["url", "query", "query_2", "query"] =
    ["url_3", "query", "query_2", "query_3"] := by
  decide +kernel

end Toolwright.Allocator
