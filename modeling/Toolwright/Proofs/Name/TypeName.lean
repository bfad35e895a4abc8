import Mathlib.Data.Nat.Init
import Toolwright.Name.TypeName
import Toolwright.Proofs.Name.Identifier

/-!
# Pascal case forgets underscores

Pascal case raises the character behind an underscore and drops the underscore. Where that character
has no capital, or there is none, the underscore leaves no trace (`withoutSilent`); everything else
can be read back (`flatMap_spelled_joinWords`). So the words of two names run together are the same
exactly if the names differ in silent underscores only (`joinWords_eq_iff`).

The name of a type also loses the underscores in front. Names that begin alike, with more than
underscores, lose the same ones, and what is said of their words is true of their types
(`typeName_eq_iff`). It always has the form of an identifier, with more behind it or not
(`isIdentChar_of_mem_typeName`, `beginsWithDigit_typeName`).
-/

namespace Toolwright.Name

variable {text : List Char} {c : Char} {afterCapital : Bool}

/-! ### Cases of characters -/

/-- What the tables of upper and lower case say of the characters of normalised names. -/
theorem cases_of_isWordChar (h : isWordChar c = true) :
    Text.upperCase c = [c.toUpper] ∧ Text.lowerCase c = [c] ∧ Text.isUpper c = false :=
  forall_wordChar
    (P := fun c => Text.upperCase c = [c.toUpper] ∧ Text.lowerCase c = [c] ∧ Text.isUpper c = false)
    (by decide) h

/-- What becomes of the characters of normalised names as they are raised. -/
theorem toUpper_of_isWordChar (h : isWordChar c = true) :
    isIdentChar c.toUpper = true ∧ (c ≠ '_' → c.toUpper ≠ '_') ∧
      (c.isDigit = true → c ≠ '_' ∧ c.toUpper = c) :=
  forall_wordChar
    (P := fun c => isIdentChar c.toUpper = true ∧ (c ≠ '_' → c.toUpper ≠ '_') ∧
      (c.isDigit = true → c ≠ '_' ∧ c.toUpper = c))
    (by decide) h

/-! ### Words run together -/

theorem joinWords_separator (h : isWordChar c = true) :
    joinWords afterCapital ('_' :: c :: text) = c.toUpper :: joinWords false text := by
  obtain ⟨hupper, -, hcapital⟩ := cases_of_isWordChar h
  rw [joinWords, if_pos (by decide), hupper, hcapital, List.singleton_append]

theorem joinWords_cons (h : isWordChar c = true) (hne : c ≠ '_') :
    joinWords afterCapital (c :: text) = c :: joinWords false text := by
  obtain ⟨-, hlower, hcapital⟩ := cases_of_isWordChar h
  have hseparator : isSeparator c = false := by
    have hhyphen : c ≠ '-' := by
      rintro rfl
      exact absurd h (by decide)
    have hblank : c ≠ ' ' := by
      rintro rfl
      exact absurd h (by decide)
    simp [isSeparator, hne, hhyphen, hblank]
  rw [joinWords.eq_def]
  dsimp only
  rw [hseparator, hlower, hcapital, if_neg Bool.false_ne_true, Bool.false_and,
    if_neg Bool.false_ne_true, List.singleton_append]

/-- A name in Pascal case is its words run together, with a separator in front. -/
theorem pascalChars_of_ne_nil (h : text ≠ []) : pascalChars text = joinWords false ('_' :: text) := by
  cases text with
  | nil => exact absurd rfl h
  | cons _ _ => rfl

/-! ### Silent underscores -/

/-- A text without its silent underscores: those that begin a word which is empty or begins with a
digit. An underscore that begins a word stands before any other character, even an underscore. -/
def withoutSilent : List Char → List Char
  | [] => []
  | c :: rest =>
    if c = '_' then
      match rest with
      | [] => []
      | d :: tail =>
        if d.isDigit then d :: withoutSilent tail else '_' :: d :: withoutSilent tail
    else c :: withoutSilent rest

/-- What a character of Pascal case is there for. -/
def spelled (c : Char) : List Char :=
  if c.isUpper then ['_', c.toLower] else if c = '_' then ['_', '_'] else [c]

theorem spelled_toUpper (h : isWordChar c = true) :
    spelled c.toUpper = if c.isDigit then [c] else ['_', c] :=
  forall_wordChar (P := fun c => spelled c.toUpper = if c.isDigit then [c] else ['_', c])
    (by decide) h

theorem spelled_of_ne (h : isWordChar c = true) (hne : c ≠ '_') : spelled c = [c] := by
  rw [spelled, isUpper_of_isWordChar h, if_neg Bool.false_ne_true, if_neg hne]

/-- **Pascal case can be read back** but for the silent underscores. -/
theorem flatMap_spelled_joinWords (h : ∀ c ∈ text, isWordChar c = true) :
    (joinWords afterCapital text).flatMap spelled = withoutSilent text := by
  -- of a normalised name, `withoutSilent` distinguishes the cases that `joinWords` does
  fun_induction withoutSilent text generalizing afterCapital with
  | case1 => rfl
  | case2 => rfl
  | case3 d tail hdigit ih =>
    simp only [List.forall_mem_cons] at h
    rw [joinWords_separator h.2.1, List.flatMap_cons, ih h.2.2, spelled_toUpper h.2.1, if_pos hdigit]
    rfl
  | case4 d tail hdigit ih =>
    simp only [List.forall_mem_cons] at h
    rw [joinWords_separator h.2.1, List.flatMap_cons, ih h.2.2, spelled_toUpper h.2.1, if_neg hdigit]
    rfl
  | case5 c rest hne ih =>
    simp only [List.forall_mem_cons] at h
    rw [joinWords_cons h.1 hne, List.flatMap_cons, ih h.2, spelled_of_ne h.1 hne]
    rfl

/-- Silent underscores leave no trace. -/
theorem joinWords_withoutSilent (h : ∀ c ∈ text, isWordChar c = true) :
    joinWords afterCapital (withoutSilent text) = joinWords afterCapital text := by
  fun_induction withoutSilent text generalizing afterCapital with
  | case1 => rfl
  | case2 => rfl
  | case3 d tail hdigit ih =>
    simp only [List.forall_mem_cons] at h
    obtain ⟨hne, hupper⟩ := (toUpper_of_isWordChar h.2.1).2.2 hdigit
    rw [joinWords_separator h.2.1, joinWords_cons h.2.1 hne, ih h.2.2, hupper]
  | case4 d tail hdigit ih =>
    simp only [List.forall_mem_cons] at h
    rw [joinWords_separator h.2.1, joinWords_separator h.2.1, ih h.2.2]
  | case5 c rest hne ih =>
    simp only [List.forall_mem_cons] at h
    rw [joinWords_cons h.1 hne, joinWords_cons h.1 hne, ih h.2]

theorem joinWords_eq_iff {first second : List Char} (hfirst : ∀ c ∈ first, isWordChar c = true)
    (hsecond : ∀ c ∈ second, isWordChar c = true) :
    joinWords false first = joinWords false second ↔ withoutSilent first = withoutSilent second := by
  constructor
  · intro h
    rw [← flatMap_spelled_joinWords hfirst, h, flatMap_spelled_joinWords hsecond]
  · intro h
    rw [← joinWords_withoutSilent hfirst, h, joinWords_withoutSilent hsecond]

/-- The words of a normalised name have no characters that an identifier could not have. -/
theorem isIdentChar_of_mem_joinWords (h : ∀ c ∈ text, isWordChar c = true) :
    ∀ c ∈ joinWords afterCapital text, isIdentChar c = true := by
  fun_induction withoutSilent text generalizing afterCapital with
  | case1 => simp [joinWords]
  | case2 => simp [joinWords, isSeparator]
  | case3 d tail _ ih | case4 d tail _ ih =>
    simp only [List.forall_mem_cons] at h
    rw [joinWords_separator h.2.1]
    exact List.forall_mem_cons.mpr ⟨(toUpper_of_isWordChar h.2.1).1, ih h.2.2⟩
  | case5 c rest hne ih =>
    simp only [List.forall_mem_cons] at h
    rw [joinWords_cons h.1 hne]
    exact List.forall_mem_cons.mpr ⟨isIdentChar_of_isWordChar h.1, ih h.2⟩

/-! ### Names of types -/

/-- Texts that begin alike, up to a character that is no underscore, differ in Pascal case only behind
it, and so do they without their silent underscores. -/
theorem joinWords_underscores (h : isWordChar c = true) (hne : c ≠ '_') (k : ℕ) :
    (∃ d, ∀ text, (joinWords false (List.replicate k '_' ++ c :: text)).dropWhile (· == '_') =
        d :: joinWords false text) ∧
      ∃ front, ∀ text, withoutSilent (List.replicate k '_' ++ c :: text) =
        front ++ withoutSilent text := by
  -- two underscores in front are one in Pascal case, and are dropped from the name of a type
  induction k using Nat.twoStepInduction with
  | zero =>
    refine ⟨⟨c, fun text => ?_⟩, [c], fun text => ?_⟩
    · rw [List.replicate_zero, List.nil_append, joinWords_cons h hne, List.dropWhile_cons_of_neg]
      simpa using hne
    · rw [List.replicate_zero, List.nil_append, withoutSilent.eq_def]
      simp [hne]
  | one =>
    refine ⟨⟨c.toUpper, fun text => ?_⟩, if c.isDigit then [c] else ['_', c], fun text => ?_⟩
    · rw [List.replicate_one, List.singleton_append, joinWords_separator h,
        List.dropWhile_cons_of_neg]
      simpa using (toUpper_of_isWordChar h).2.1 hne
    · rw [List.replicate_one, List.singleton_append, withoutSilent, if_pos rfl]
      split_ifs <;> rfl
  | more k ih _ =>
    obtain ⟨⟨d, hd⟩, front, hfront⟩ := ih
    refine ⟨⟨d, fun text => ?_⟩, '_' :: '_' :: front, fun text => ?_⟩
    · rw [List.replicate_succ, List.replicate_succ, List.cons_append, List.cons_append,
        joinWords_separator (by decide), List.dropWhile_cons_of_pos (by decide), hd]
    · rw [List.replicate_succ, List.replicate_succ, List.cons_append, List.cons_append,
        withoutSilent, if_pos rfl, if_neg (by decide), hfront]
      rfl

theorem typeName_of_dropWhile {name : String} {c : Char} {rest : List Char}
    (h : (pascalChars name.toList).dropWhile (· == '_') = c :: rest) :
    typeName name = String.ofList (if c.isDigit then 'T' :: c :: rest else c :: rest) := by
  rw [typeName, h]

/-- A text that is more than underscores begins with some number of them and another character. -/
theorem exists_underscores (h : ∃ c ∈ text, c ≠ '_') :
    ∃ k c rest, c ≠ '_' ∧ text = List.replicate k '_' ++ c :: rest := by
  induction text with
  | nil => simp at h
  | cons c rest ih =>
    by_cases hc : c = '_'
    · subst hc
      obtain ⟨k, d, tail, hd, rfl⟩ := ih (by simpa using h)
      exact ⟨k + 1, d, tail, hd, rfl⟩
    · exact ⟨0, c, rest, hc, rfl⟩

/-- **The names of types forget silent underscores and nothing else**, for names that begin alike and
not only with underscores. -/
theorem typeName_eq_iff {front first second : String} (hfront : IsWord front)
    (hletter : ∃ c ∈ front.toList, c ≠ '_') (hfirst : IsWord first) (hsecond : IsWord second) :
    typeName (front ++ first) = typeName (front ++ second) ↔
      withoutSilent (front ++ first).toList = withoutSilent (front ++ second).toList := by
  obtain ⟨k, c, rest, hne, hlist⟩ := exists_underscores hletter
  have hc : isWordChar c = true := hfront c (by simp [hlist])
  obtain ⟨⟨d, hd⟩, -⟩ := joinWords_underscores hc hne (k + 1)
  obtain ⟨-, kept, hkept⟩ := joinWords_underscores hc hne k
  have htoList : ∀ name : String,
      (front ++ name).toList = List.replicate k '_' ++ c :: (rest ++ name.toList) := by
    intro name
    rw [String.toList_append, hlist, List.append_assoc, List.cons_append]
  have htype : ∀ name : String, typeName (front ++ name) = String.ofList
      (if d.isDigit then 'T' :: d :: joinWords false (rest ++ name.toList)
        else d :: joinWords false (rest ++ name.toList)) := by
    intro name
    refine typeName_of_dropWhile ?_
    rw [htoList, pascalChars_of_ne_nil (by simp), ← hd, List.replicate_succ, List.cons_append]
  have hwords : ∀ name : String, IsWord name → ∀ c ∈ rest ++ name.toList, isWordChar c = true := by
    intro name hname c hmem
    rcases List.mem_append.mp hmem with hmem | hmem
    · exact hfront c (by simp [hlist, hmem])
    · exact hname c hmem
  rw [htoList, htoList, hkept, hkept, List.append_cancel_left_eq, htype, htype,
    ← joinWords_eq_iff (hwords first hfirst) (hwords second hsecond), String.ofList_inj]
  split <;> simp

theorem isIdentChar_of_mem_typeName {name : String} (h : IsWord name) :
    ∀ c ∈ (typeName name).toList, isIdentChar c = true := by
  have hpascal : ∀ c ∈ pascalChars name.toList, isIdentChar c = true := by
    cases hname : name.toList with
    | nil => simp [pascalChars]
    | cons first rest =>
      rw [pascalChars_of_ne_nil (List.cons_ne_nil _ _)]
      refine isIdentChar_of_mem_joinWords fun c hc => ?_
      rcases List.mem_cons.mp hc with rfl | hc
      · rfl
      · exact h c (hname ▸ hc)
  unfold typeName
  cases hkept : (pascalChars name.toList).dropWhile (· == '_') with
  | nil => exact List.all_eq_true.mp (by decide)
  | cons first rest =>
    have hall : ∀ c ∈ first :: rest, isIdentChar c = true := by
      intro c hc
      rw [← hkept] at hc
      exact hpascal c ((List.dropWhile_suffix _).subset hc)
    dsimp only
    rw [String.toList_ofList]
    split
    · exact List.forall_mem_cons.mpr ⟨by decide, hall⟩
    · exact hall

/-- The name of a type is mended where it would begin with a digit. -/
theorem beginsWithDigit_typeName (name suffix : String) :
    beginsWithDigit (typeName name ++ suffix) = false := by
  unfold beginsWithDigit typeName
  rw [String.toList_append]
  cases (pascalChars name.toList).dropWhile (· == '_') with
  | nil => rfl
  | cons first rest =>
    dsimp only
    rw [String.toList_ofList]
    split
    · rfl
    · rename_i hdigit
      exact Bool.eq_false_iff.mpr hdigit

end Toolwright.Name
