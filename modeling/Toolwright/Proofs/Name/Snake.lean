import Toolwright.Proofs.Name.Identifier
import Toolwright.Proofs.Name.Vendor

/-!
# Words in one pass

Snake case is made in two passes over a name, one for capitals with a small letter behind them and one for
those with a small letter or a digit in front. The first pass leaves some of its own out, those whose
neighbour it has just read as the end of a word, but that neighbour is a small letter, and so the
second pass sees to them. Together they are one pass (`cut`, `caseBreaks_wordBreaks`), which looks at
a capital and its two neighbours only. From there it is plain that no letter is lost, and that what is
in snake case stays as it is (`snakeChars_eq_self`).
-/

namespace Toolwright

/-- A romanisation that leaves ASCII text as it is. -/
def Romanization.KeepsAscii [Romanization] : Prop :=
  ∀ text : List Char, (∀ c ∈ text, c.toNat < 128) → Romanization.write text = text

namespace Name

/-! ### The pass -/

/-- Whether a word begins at a character behind another one: a capital with a small letter behind it, or
with a small letter or a digit in front. -/
def beginsWordBehind (before c : Char) (after : Option Char) : Bool :=
  c.isUpper && (after.any Char.isLower || before.isLower || before.isDigit)

/-- The text behind a character with an underscore before each of its words. -/
def cutBehind (before : Char) : List Char → List Char
  | [] => []
  | c :: rest =>
    if beginsWordBehind before c rest.head? then '_' :: c :: cutBehind c rest
    else c :: cutBehind c rest

/-- The text with an underscore before each of its words but the one at its front. -/
def cut : List Char → List Char
  | [] => []
  | c :: rest => c :: cutBehind c rest

/-! ### Two passes are one -/

theorem head?_wordBreaks (inWord : Bool) (text : List Char) :
    (wordBreaks inWord text).head? = text.head? := by
  fun_cases wordBreaks inWord text <;> rfl

/-- The second pass puts one more character in front of what it has been through, and a word begins behind
that, if it does, for the sake of that character. -/
theorem caseBreaks_cons {c : Char} {rest broken : List Char} (hhead : broken.head? = rest.head?)
    (hrest : caseBreaks broken = cut rest)
    (hbefore : ∀ d more, rest = d :: more → beginsWordBehind c d more.head? =
      ((c.isLower || c.isDigit) && d.isUpper)) :
    caseBreaks (c :: broken) = cut (c :: rest) := by
  cases rest with
  | nil =>
    obtain rfl : broken = [] := List.head?_eq_none_iff.mp hhead
    rfl
  | cons d more =>
    obtain ⟨others, rfl⟩ : ∃ others, broken = d :: others := List.head?_eq_some_iff.mp hhead
    rw [caseBreaks, hrest, cut, cut, cutBehind, hbefore d more rfl]
    split <;> rfl

theorem caseBreaks_wordBreaks (inWord : Bool) (text : List Char) :
    caseBreaks (wordBreaks inWord text) = cut text := by
  fun_induction wordBreaks inWord text with
  | case1 => rfl
  | case2 inWord c rest hword ih =>
    have hlower : c.isLower = true := (Bool.and_eq_true_iff.mp hword).2
    refine caseBreaks_cons (head?_wordBreaks true rest) ih fun d more _ => ?_
    simp [beginsWordBehind, hlower]
  | case3 inWord c hword u l tail hcapital ih =>
    obtain ⟨hupper, hlower⟩ := Bool.and_eq_true_iff.mp hcapital
    have hsmall : l.isUpper = false :=
      isUpper_of_isWordChar (by rw [isWordChar, hlower, Bool.true_or, Bool.true_or])
    have hinner : caseBreaks (u :: wordBreaks true (l :: tail)) = cut (u :: l :: tail) := by
      refine caseBreaks_cons (head?_wordBreaks true (l :: tail)) ih fun d more hrest => ?_
      obtain ⟨rfl, -⟩ := List.cons.inj hrest
      simp [beginsWordBehind, hsmall]
    -- the underscore that is there keeps the second pass from putting one
    have houter : ∀ text, caseBreaks (c :: '_' :: u :: text) = c :: '_' :: caseBreaks (u :: text) := by
      intro text
      simp [caseBreaks]
    have hword : beginsWordBehind c u (l :: tail).head? = true := by
      simp [beginsWordBehind, hupper, hlower]
    rw [houter, hinner, cut, cut, cutBehind.eq_2 c, if_pos hword]
  | case4 inWord c hword u l tail hcapital ih =>
    refine caseBreaks_cons (head?_wordBreaks false (u :: l :: tail)) ih fun d more hrest => ?_
    obtain ⟨rfl, rfl⟩ := List.cons.inj hrest
    cases hupper : u.isUpper with
    | false => simp [beginsWordBehind, hupper]
    | true =>
      have hlower : l.isLower = false := by simpa [hupper] using hcapital
      simp [beginsWordBehind, hupper, hlower]
  | case5 inWord c hword short hshort =>
    have hfew : ∀ d more, short = d :: more → more = [] := by
      rintro d (_ | ⟨e, more⟩) hrest
      · rfl
      · exact absurd hrest (hshort d e more)
    have hcut : caseBreaks short = cut short := by
      rcases short with _ | ⟨d, more⟩
      · rfl
      · rw [hfew d more rfl]
        rfl
    refine caseBreaks_cons rfl hcut fun d more hrest => ?_
    rw [hfew d more hrest]
    simp [beginsWordBehind, Bool.and_comm]

/-! ### What the pass does -/

/-- Only underscores are put in. -/
theorem filter_cutBehind (before : Char) (text : List Char) :
    (cutBehind before text).filter Char.isAlphanum = text.filter Char.isAlphanum := by
  induction text generalizing before with
  | nil => rfl
  | cons c rest ih =>
    have hunder : ¬ '_'.isAlphanum = true := by decide
    rw [cutBehind]
    split
    · rw [List.filter_cons_of_neg hunder, List.filter_cons, List.filter_cons, ih]
    · rw [List.filter_cons, List.filter_cons, ih]

theorem filter_cut (text : List Char) :
    (cut text).filter Char.isAlphanum = text.filter Char.isAlphanum := by
  cases text with
  | nil => rfl
  | cons c rest => rw [cut, List.filter_cons, List.filter_cons, filter_cutBehind]

/-- Without capitals there is nothing to cut. -/
theorem cutBehind_eq_self {before : Char} {text : List Char} (h : ∀ c ∈ text, c.isUpper = false) :
    cutBehind before text = text := by
  induction text generalizing before with
  | nil => rfl
  | cons c rest ih =>
    obtain ⟨hc, hrest⟩ := List.forall_mem_cons.mp h
    rw [cutBehind, if_neg (by simp [beginsWordBehind, hc]), ih hrest]

theorem cut_eq_self {text : List Char} (h : ∀ c ∈ text, c.isUpper = false) : cut text = text := by
  cases text with
  | nil => rfl
  | cons c rest => rw [cut, cutBehind_eq_self (List.forall_mem_cons.mp h).2]

/-! ### Snake case -/

section

variable [Romanization]

/-- A name as it is cut into words: without the method and the vendor, in the characters of
identifiers. -/
def plainChars (name method : List Char) : List Char :=
  (Romanization.write (underscored (withoutVendor (withoutVerb name method)))).filter isIdentChar

theorem snakeChars_eq (name method : List Char) :
    snakeChars name method = (cut (plainChars name method)).map Char.toLower := by
  rw [snakeChars, caseBreaks_wordBreaks, plainChars]

/-- The letters and digits of a name are those of its words. -/
theorem filter_snakeChars (name method : List Char) :
    (snakeChars name method).filter Char.isAlphanum =
      ((plainChars name method).filter Char.isAlphanum).map Char.toLower := by
  have hlower : Char.isAlphanum ∘ Char.toLower = Char.isAlphanum := funext Text.isAlphanum_toLower
  rw [snakeChars_eq, List.filter_map, hlower, filter_cut]

/-- What is in snake case stays as it is, unless it is taken for a name with a separator in front. -/
theorem snakeChars_eq_self (hwrite : Romanization.KeepsAscii) {text : List Char}
    (hword : ∀ c ∈ text, isWordChar c = true) (hfront : text.head? ≠ some '_') :
    snakeChars text [] = text := by
  have hident : ∀ c ∈ text, isIdentChar c = true := fun c hc => isIdentChar_of_isWordChar (hword c hc)
  have hsmall : ∀ c ∈ text, c.isUpper = false := fun c hc => isUpper_of_isWordChar (hword c hc)
  have hhyphen : '-' ∉ text := fun hmem => absurd (hword '-' hmem) (by decide)
  have hvendor : withoutVendor text = text := by
    rw [withoutVendor_eq_self_iff]
    constructor
    · intro hdash
      obtain ⟨c, hc, hcdash⟩ := (Option.any_eq_true _ _).mp hdash
      rcases Bool.or_eq_true_iff.mp hcdash with hdash | hunder
      · exact hhyphen (eq_of_beq hdash ▸ List.mem_of_head? hc)
      · exact hfront (eq_of_beq hunder ▸ hc)
    · exact fun hmarked => hhyphen (hmarked.subset (by decide))
  have hunder : underscored text = text := by
    refine (List.map_congr_left fun c hc => ?_).trans (List.map_id text)
    have hne : c ≠ '-' := fun hdash => hhyphen (hdash ▸ hc)
    exact if_neg (by simpa using hne)
  have hplain : plainChars text [] = text := by
    rw [plainChars, show withoutVerb text [] = text from rfl, hvendor, hunder,
      hwrite text fun c hc => toNat_lt_of_isIdentChar (hident c hc), List.filter_eq_self.mpr hident]
  have hlower : ∀ c ∈ text, c.toLower = id c :=
    fun c hc => forall_wordChar (P := fun c => c.toLower = c) (by decide) (hword c hc)
  rw [snakeChars_eq, hplain, cut_eq_self hsmall, List.map_congr_left hlower, List.map_id]

/-- **Snake case is one pass.** Whatever the name and its method, snake case is the name as it is left
after the method, the vendor and everything that no identifier has are gone, all in small letters, with
an underscore before each of its capitals that had a small letter behind it, or a small letter or a digit
in front; none is put before its first character. So its letters and digits are those that were left; and
if it begins with no underscore, and the romanisation leaves ASCII text as it is, it is its own snake
case. -/
theorem snake_onePass (name : String) (method : Option String) :
    let plain := plainChars name.toList (method.getD "").toList
    let words := method.elim (snake name) (snakeForMethod name)
    words.toList = (cut plain).map Char.toLower ∧
    words.toList.filter Char.isAlphanum = (plain.filter Char.isAlphanum).map Char.toLower ∧
    (Romanization.KeepsAscii → words.toList.head? ≠ some '_' → snake words = words) := by
  intro plain words
  have hwords : words = String.ofList (snakeChars name.toList (method.getD "").toList) := by
    cases method <;> rfl
  have hlist : words.toList = snakeChars name.toList (method.getD "").toList := by
    rw [hwords, String.toList_ofList]
  refine ⟨?_, ?_, fun hwrite hfront => ?_⟩
  · rw [hlist, snakeChars_eq]
  · rw [hlist, filter_snakeChars]
  · have hword : ∀ c ∈ words.toList, isWordChar c = true :=
      fun c hc => isWordChar_of_mem_snakeChars (hlist ▸ hc)
    rw [snake, snakeChars_eq_self hwrite hword hfront, String.ofList_toList]

end

/-- The romanisation in use leaves ASCII as it is. -/
theorem keepsAscii_romanize : Romanization.KeepsAscii := by
  intro text htext
  change text.flatMap romanizeChar = text
  induction text with
  | nil => rfl
  | cons c rest ih =>
    obtain ⟨hc, hrest⟩ := List.forall_mem_cons.mp htext
    rw [List.flatMap_cons, romanizeChar_of_ascii hc, ih hrest, List.singleton_append]

/-- Capitals in a row, a digit in front of a capital, and words that share a letter between the passes. -/
theorem snake_onePass_ofIncidents :
    let words := snakeForMethod "getXDRIncidents2ListAaBb" "GET"
    words = "xdr_incidents2_list_aa_bb" ∧ words.toList.head? ≠ some '_' ∧ snake words = words := by
  have hwords : snakeForMethod "getXDRIncidents2ListAaBb" "GET" = "xdr_incidents2_list_aa_bb" := by
    decide +kernel
  have hfront : (snakeForMethod "getXDRIncidents2ListAaBb" "GET").toList.head? ≠ some '_' := by
    rw [hwords]
    decide
  exact ⟨hwords, hfront, (snake_onePass _ (some "GET")).2.2 keepsAscii_romanize hfront⟩

end Name

end Toolwright
