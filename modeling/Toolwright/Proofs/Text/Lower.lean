import Mathlib.Data.List.Basic
import Toolwright.Text.Lower
import Toolwright.Text.Pieces

/-!
# What lower case hides

The lower case of a text is read here as one pass over its characters (`Lowered`), in which only three
kinds of characters are told apart: ASCII characters, whose lower case is the usual one and can be
checked one by one (`forall_ascii`), the two other characters whose lower case has an ASCII letter in
it, the Kelvin sign and the dotted capital I, and all the rest, whose lower case is beyond ASCII. Where
a sigma stands makes no difference to that.

An ASCII text in lower case is then found in the lower case of a text just where the text has it in
letters of any case (`Lowered.infix_iff`), as long as neither of the two characters can be mistaken for a part
of it (`Plain`).
-/

namespace Toolwright.Text

/-! ### ASCII -/

/-- What is true of every ASCII character, one by one. -/
theorem forall_ascii {P : Char → Prop} (h : ∀ n < 0x80, P (Char.ofNat n)) {c : Char}
    (hc : c.toNat < 0x80) : P c := by
  have := h c.toNat hc
  rwa [Char.ofNat_toNat] at this

theorem toNat_lt_of_isAlphanum {c : Char} (h : c.isAlphanum = true) : c.toNat < 0x80 := by
  have hbelow : ∀ {last : Char}, last.toNat < 0x80 → c.val ≤ last.val → c.toNat < 0x80 :=
    fun hlast hle => Nat.lt_of_le_of_lt (UInt32.le_iff_toNat_le.mp hle) hlast
  have hclasses : (c.isUpper || c.isLower || c.isDigit) = true := h
  simp only [Bool.or_eq_true] at hclasses
  rcases hclasses with (hupper | hlower) | hdigit
  · have hbounds : 'A'.val ≤ c.val ∧ c.val ≤ 'Z'.val := of_decide_eq_true hupper
    exact hbelow (by decide) hbounds.2
  · exact hbelow (by decide) (of_decide_eq_true (Bool.and_eq_true_iff.mp hlower).2)
  · exact hbelow (by decide) (of_decide_eq_true (Bool.and_eq_true_iff.mp hdigit).2)

/-- ASCII characters alone become something else in the usual lower case. -/
theorem toLower_of_beyond {c : Char} (h : 0x80 ≤ c.toNat) : c.toLower = c := by
  refine dif_neg fun hupper => ?_
  have hlast : c.val.toNat ≤ 'Z'.val.toNat := UInt32.le_iff_toNat_le.mp hupper.2
  have hc : c.toNat = c.val.toNat := rfl
  have hz : 'Z'.val.toNat = 90 := rfl
  omega

/-- A character either stays or becomes a small letter. -/
theorem toLower_eq_or (c : Char) : c.toLower = c ∨ c.toLower.isLower = true := by
  rcases Nat.lt_or_ge c.toNat 0x80 with hascii | hbeyond
  · exact forall_ascii (P := fun c => c.toLower = c ∨ c.toLower.isLower = true) (by decide) hascii
  · exact .inl (toLower_of_beyond hbeyond)

/-- Whether a character is a letter or a digit can be told from its small letter. -/
theorem isAlphanum_toLower (c : Char) : c.toLower.isAlphanum = c.isAlphanum := by
  rcases Nat.lt_or_ge c.toNat 0x80 with hascii | hbeyond
  · exact forall_ascii (P := fun c => c.toLower.isAlphanum = c.isAlphanum) (by decide) hascii
  · rw [toLower_of_beyond hbeyond]

/-! ### One character -/

/-- Where a run leads: beyond ASCII, but for the Kelvin sign. -/
theorem beyond_of_mem_lowering {s : Shift} (h : s ∈ Shift.lowering) :
    s.first = 0x212a ∧ s.last = 0x212a ∧ s.distance = -8383 ∨
      0x80 ≤ s.first + s.distance ∧
        (s.last + s.distance < 0xd800 ∨
          0xdfff < s.first + s.distance ∧ s.last + s.distance < 0x110000) := by
  revert s
  decide +kernel

/-- The lower case of a character beyond ASCII. -/
theorem lowerCase_cases {c : Char} (h : 0x80 ≤ c.toNat) :
    c = '\u212a' ∧ lowerCase c = ['k'] ∨ c = '\u0130' ∧ lowerCase c = ['i', '\u0307'] ∨
      ∃ d, 0x80 ≤ d.toNat ∧ lowerCase c = [d] := by
  rw [lowerCase, if_neg (Nat.not_lt.mpr h)]
  by_cases hdotted : c.toNat = 0x130
  · obtain rfl : c = '\u0130' := Char.toNat_inj.mp hdotted
    exact .inr (.inl ⟨rfl, rfl⟩)
  rw [if_neg (by simpa using hdotted), Shift.apply]
  cases hfind : Shift.lowering.find? fun s => s.covers c.toNat with
  | none => exact .inr (.inr ⟨c, h, rfl⟩)
  | some s =>
    have hcovers := List.find?_some hfind
    simp only [Shift.covers, Bool.and_eq_true, decide_eq_true_eq] at hcovers
    obtain ⟨⟨hfirst, hlast⟩, -⟩ := hcovers
    rcases beyond_of_mem_lowering (List.mem_of_find?_eq_some hfind) with ⟨hf, hl, hd⟩ | ⟨hlow, hvalid⟩
    · have hkelvin : c.toNat = 0x212a := by omega
      obtain rfl : c = '\u212a' := Char.toNat_inj.mp hkelvin
      refine .inl ⟨rfl, ?_⟩
      simp only [hd]
      rfl
    · refine .inr (.inr ⟨_, ?_, rfl⟩)
      have hcode : ((c.toNat : Int) + s.distance).toNat.isValidChar := by omega
      have hto : (Char.ofNat ((c.toNat : Int) + s.distance).toNat).toNat =
          ((c.toNat : Int) + s.distance).toNat := congrArg Char.toNat (dif_pos hcode)
      rw [hto]
      omega

/-! ### Texts -/

/-- `Lowered text low`: going through the characters of a text, `low` is their lower case. -/
inductive Lowered : List Char → List Char → Prop where
  | nil : Lowered [] []
  | ascii {c : Char} {text low : List Char} (h : c.toNat < 0x80) (rest : Lowered text low) :
      Lowered (c :: text) (c.toLower :: low)
  /-- The Kelvin sign becomes a letter. -/
  | kelvin {text low : List Char} (rest : Lowered text low) :
      Lowered ('\u212a' :: text) ('k' :: low)
  /-- The dot of a dotted capital letter stays behind the small one. -/
  | dotted {text low : List Char} (rest : Lowered text low) :
      Lowered ('\u0130' :: text) ('i' :: '\u0307' :: low)
  | beyond {c d : Char} {text low : List Char} (hc : 0x80 ≤ c.toNat) (hd : 0x80 ≤ d.toNat)
      (rest : Lowered text low) : Lowered (c :: text) (d :: low)

theorem lowered_lowerBehind (before text : List Char) : Lowered text (lowerBehind before text) := by
  induction text generalizing before with
  | nil => exact .nil
  | cons c rest ih =>
    rw [lowerBehind]
    split
    · next hsigma =>
      subst hsigma
      rw [lowerSigma]
      split <;> exact .beyond (by decide) (by decide) (ih _)
    · by_cases hascii : c.toNat < 0x80
      · rw [lowerCase, if_pos hascii]
        exact .ascii hascii (ih _)
      · have hbeyond := Nat.le_of_not_lt hascii
        rcases lowerCase_cases hbeyond with ⟨rfl, hlow⟩ | ⟨rfl, hlow⟩ | ⟨d, hd, hlow⟩
        · rw [hlow]
          exact .kelvin (ih _)
        · rw [hlow]
          exact .dotted (ih _)
        · rw [hlow]
          exact .beyond hbeyond hd (ih _)

theorem lowered_lower (text : List Char) : Lowered text (lower text) :=
  lowered_lowerBehind [] text

/-- An ASCII text in which neither the Kelvin sign nor the letter of a dotted capital I, which has the dot
behind it, can be a character. -/
structure Plain (mark : List Char) : Prop where
  ascii : ∀ c ∈ mark, c.toNat < 0x80
  no_kelvin : 'k' ∉ mark
  no_dotted : mark.getLast? ≠ some 'i'

theorem Plain.tail {c : Char} {mark : List Char} (h : Plain (c :: mark)) : Plain mark where
  ascii d hd := h.ascii d (List.mem_cons_of_mem c hd)
  no_kelvin hk := h.no_kelvin (List.mem_cons_of_mem c hk)
  no_dotted hlast := by
    refine h.no_dotted ?_
    rw [List.getLast?_cons, hlast]
    rfl

namespace Lowered

variable {c m : Char} {text low mark found : List Char}

/-- An ASCII character becomes what it usually becomes. -/
theorem eq_cons_of_ascii (h : Lowered (c :: text) low) (hc : c.toNat < 0x80) :
    ∃ rest, low = c.toLower :: rest ∧ Lowered text rest := by
  cases h with
  | ascii _ hrest => exact ⟨_, rfl, hrest⟩
  | kelvin => exact absurd hc (by decide)
  | dotted => exact absurd hc (by decide)
  | beyond hbeyond => exact absurd hc (Nat.not_lt.mpr hbeyond)

/-- An ASCII character comes from one, unless it comes from a Kelvin sign or is left without the dot. -/
theorem eq_cons_of_cons_ascii (h : Lowered text (m :: low)) (hm : m.toNat < 0x80) (hkelvin : m ≠ 'k') :
    (∃ c rest, text = c :: rest ∧ c.toLower = m ∧ Lowered rest low) ∨
      m = 'i' ∧ low.head? = some '\u0307' := by
  cases h with
  | ascii _ hrest => exact .inl ⟨_, _, rfl, rfl, hrest⟩
  | kelvin => exact absurd rfl hkelvin
  | dotted => exact .inr ⟨rfl, rfl⟩
  | beyond _ hbeyond => exact absurd hm (Nat.not_lt.mpr hbeyond)

/-- What an ASCII text becomes is in front of the lower case if the text was in front. -/
theorem map_toLower_prefix (h : Lowered text low) (hascii : ∀ c ∈ found, c.toNat < 0x80)
    (hfound : found <+: text) : found.map Char.toLower <+: low := by
  induction found generalizing text low with
  | nil => exact List.nil_prefix
  | cons c found ih =>
    obtain ⟨behind, rfl⟩ := hfound
    obtain ⟨rest, rfl, hrest⟩ := h.eq_cons_of_ascii (hascii c List.mem_cons_self)
    refine List.cons_prefix_cons.mpr ⟨rfl, ih hrest (fun d hd => ?_) (List.prefix_append _ _)⟩
    exact hascii d (List.mem_cons_of_mem c hd)

/-- What is in front of the lower case was in front of the text. -/
theorem exists_prefix (h : Lowered text low) (hmark : Plain mark) (hlow : mark <+: low) :
    ∃ found, found <+: text ∧ found.map Char.toLower = mark := by
  induction mark generalizing text low with
  | nil => exact ⟨[], List.nil_prefix, rfl⟩
  | cons m mark ih =>
    obtain ⟨behind, rfl⟩ := hlow
    have hkelvin : m ≠ 'k' := fun heq => hmark.no_kelvin (heq ▸ List.mem_cons_self)
    rcases h.eq_cons_of_cons_ascii (hmark.ascii m List.mem_cons_self) hkelvin with
      ⟨c, rest, rfl, rfl, hrest⟩ | ⟨rfl, hdot⟩
    · obtain ⟨found, hfound, rfl⟩ := ih hrest hmark.tail (List.prefix_append _ _)
      exact ⟨c :: found, List.cons_prefix_cons.mpr ⟨rfl, hfound⟩, rfl⟩
    · -- the dot would have to be in the mark, or the mark to end in front of it
      cases mark with
      | nil => exact absurd rfl hmark.no_dotted
      | cons d mark =>
        obtain rfl : d = '\u0307' := Option.some.inj hdot
        exact absurd (hmark.tail.ascii _ List.mem_cons_self) (by decide)

/-- What is behind a part of the text becomes what is behind a part of the lower case. -/
theorem exists_behind {before : List Char} (h : Lowered (before ++ text) low) :
    ∃ front rest, low = front ++ rest ∧ Lowered text rest := by
  induction before generalizing low with
  | nil => exact ⟨[], low, rfl, h⟩
  | cons c before ih =>
    have hstep : ∃ image rest, low = image ++ rest ∧ Lowered (before ++ text) rest := by
      cases h with
      | ascii _ hrest => exact ⟨[_], _, rfl, hrest⟩
      | kelvin hrest => exact ⟨[_], _, rfl, hrest⟩
      | dotted hrest => exact ⟨[_, _], _, rfl, hrest⟩
      | beyond _ _ hrest => exact ⟨[_], _, rfl, hrest⟩
    obtain ⟨image, rest, rfl, hrest⟩ := hstep
    obtain ⟨front, behind, rfl, hbehind⟩ := ih hrest
    exact ⟨image ++ front, behind, (List.append_assoc ..).symm, hbehind⟩

/-- What the lower case ends in comes from what the text ends in, unless it is cut off behind the letter
of a dotted capital I. -/
theorem exists_suffix {tail : List Char} (h : Lowered text low) (htail : tail <:+ low)
    (hdot : tail.head? ≠ some '\u0307') : ∃ rest, rest <:+ text ∧ Lowered rest tail := by
  -- of a character that becomes two, only the first is dealt with like this
  have hstep : ∀ {c d : Char} {text low : List Char}, Lowered (c :: text) (d :: low) →
      (tail <:+ low → ∃ rest, rest <:+ text ∧ Lowered rest tail) → tail <:+ d :: low →
        ∃ rest, rest <:+ c :: text ∧ Lowered rest tail := by
    intro c d text low hwhole hinside htail
    rcases List.suffix_cons_iff.mp htail with rfl | htail
    · exact ⟨_, List.suffix_rfl, hwhole⟩
    · obtain ⟨rest, hrest, hlow⟩ := hinside htail
      exact ⟨rest, hrest.trans (List.suffix_cons ..), hlow⟩
  induction h with
  | nil => exact ⟨[], List.suffix_rfl, List.suffix_nil.mp htail ▸ .nil⟩
  | ascii hc hrest ih => exact hstep (.ascii hc hrest) ih htail
  | kelvin hrest ih => exact hstep (.kelvin hrest) ih htail
  | dotted hrest ih =>
    refine hstep (.dotted hrest) (fun htail => ih ?_) htail
    rcases List.suffix_cons_iff.mp htail with rfl | htail
    · exact absurd rfl hdot
    · exact htail
  | beyond hc hd hrest ih => exact hstep (.beyond hc hd hrest) ih htail

/-- **Lower case neither hides nor invents anything**: what is found in the lower case is what stands
in the text in letters of any case. -/
theorem infix_iff (h : Lowered text low) (hmark : Plain mark) :
    mark <:+: low ↔ ∃ found, found <:+: text ∧ found.map Char.toLower = mark := by
  constructor
  · intro hlow
    cases mark with
    | nil => exact ⟨[], List.nil_infix, rfl⟩
    | cons m mark =>
      obtain ⟨tail, hprefix, hsuffix⟩ := List.infix_iff_prefix_suffix.mp hlow
      have hdot : tail.head? ≠ some '\u0307' := by
        obtain ⟨behind, rfl⟩ := hprefix
        intro heq
        obtain rfl : m = '\u0307' := Option.some.inj heq
        exact absurd (hmark.ascii _ List.mem_cons_self) (by decide)
      obtain ⟨rest, hrest, hlowered⟩ := h.exists_suffix hsuffix hdot
      obtain ⟨found, hfound, hmap⟩ := hlowered.exists_prefix hmark hprefix
      exact ⟨found, hfound.isInfix.trans hrest.isInfix, hmap⟩
  · rintro ⟨found, ⟨before, behind, rfl⟩, rfl⟩
    have hascii : ∀ c ∈ found, c.toNat < 0x80 := by
      intro c hc
      by_contra hbeyond
      refine hbeyond ?_
      rw [← toLower_of_beyond (Nat.le_of_not_lt hbeyond)]
      exact hmark.ascii _ (List.mem_map_of_mem hc)
    rw [List.append_assoc] at h
    obtain ⟨front, rest, rfl, hrest⟩ := h.exists_behind
    have hprefix := hrest.map_toLower_prefix hascii (List.prefix_append _ _)
    exact hprefix.isInfix.trans (List.suffix_append _ _).isInfix

end Lowered

end Toolwright.Text
