import Mathlib.Data.List.Infix
import Mathlib.Data.List.TakeWhile
import Toolwright.Call.Redaction
import Toolwright.Proofs.Text.Category
import Toolwright.Proofs.Text.Lower

/-!
# What the rules of redaction read

A rule for credentials reads a keyword and the value behind it. What it finds at the front of a text does
not depend on a text that is put behind that one (`back`), unless it reads to the very end: a
value that reaches the end may go on there, and a keyword that does may find its value there. The lemmas
here say when neither happens. In front of a separator (`Keyword.match?_append_separator`) a value
stops, so that it is enough that no keyword ends there; behind a value (`Keyword.match?_append_run`)
there are only more characters of it.
-/

namespace Toolwright.Redaction

open Text

/-! ### Replacing -/

section replaceAll

variable {match? : List Char → Option (List Char)} {new text rest front back : List Char} {c : Char}

@[simp] theorem replaceAll_nil : replaceAll match? new [] = [] := by rw [replaceAll]

theorem replaceAll_of_none (h : match? (c :: rest) = none) :
    replaceAll match? new (c :: rest) = c :: replaceAll match? new rest := by
  rw [replaceAll, h]

theorem replaceAll_of_some (h : match? (c :: text) = some rest)
    (hshort : rest.length < (c :: text).length) :
    replaceAll match? new (c :: text) = new ++ replaceAll match? new rest := by
  rw [replaceAll, h]
  exact if_pos hshort

/-- What is read at the front of a text is a beginning of it, and not nothing. -/
def Reads (match? : List Char → Option (List Char)) : Prop :=
  ∀ ⦃text rest⦄, match? text = some rest → rest <:+ text ∧ rest.length < text.length

/-- A text in which nothing is found stays as it is. -/
theorem replaceAll_eq_self (h : ∀ part, part <:+ text → match? part = none) :
    replaceAll match? new text = text := by
  induction text with
  | nil => exact replaceAll_nil
  | cons c rest ih =>
    rw [replaceAll_of_none (h _ (List.suffix_refl _)),
      ih fun part hpart => h part (hpart.trans (List.suffix_cons c rest))]

/-- **Two texts can be gone through one after the other** if what is found in the first does not depend on
the second. -/
theorem replaceAll_append (hreads : Reads match?)
    (h : ∀ part, part <:+ front → part ≠ [] → match? (part ++ back) = (match? part).map (· ++ back)) :
    replaceAll match? new (front ++ back) = replaceAll match? new front ++ replaceAll match? new back := by
  induction hlength : front.length using Nat.strongRecOn generalizing front with
  | _ n ih =>
    cases front with
    | nil => rw [replaceAll_nil, List.nil_append, List.nil_append]
    | cons c front =>
      have hhere := h _ (List.suffix_refl _) (List.cons_ne_nil c front)
      rw [List.cons_append] at hhere ⊢
      cases hmatch : match? (c :: front) with
      | none =>
        rw [hmatch, Option.map_none] at hhere
        rw [replaceAll_of_none hmatch, replaceAll_of_none hhere,
          ih front.length (by rw [← hlength]; exact Nat.lt_succ_self _)
            (fun part hpart => h part (hpart.trans (List.suffix_cons c front))) rfl,
          List.cons_append]
      | some rest =>
        rw [hmatch, Option.map_some] at hhere
        obtain ⟨hsuffix, hshort⟩ := hreads hmatch
        have hshort' : (rest ++ back).length < (c :: (front ++ back)).length := by
          simp only [List.length_cons, List.length_append] at hshort ⊢
          omega
        rw [replaceAll_of_some hmatch hshort, replaceAll_of_some hhere hshort',
          ih rest.length (by rw [← hlength]; exact hshort)
            (fun part hpart => h part (hpart.trans hsuffix)) rfl,
          List.append_assoc]

/-- A text is gone through either from its second character on or behind what is found at its front. -/
theorem replaceAll_cases (hreads : Reads match?) (new : List Char) (c : Char) (rest : List Char) :
    (match? (c :: rest) = none ∧
        replaceAll match? new (c :: rest) = c :: replaceAll match? new rest) ∨
      ∃ after, match? (c :: rest) = some after ∧ after <:+ c :: rest ∧
        after.length < (c :: rest).length ∧
        replaceAll match? new (c :: rest) = new ++ replaceAll match? new after := by
  cases hmatch : match? (c :: rest) with
  | none => exact .inl ⟨rfl, replaceAll_of_none hmatch⟩
  | some after =>
    obtain ⟨hsuffix, hshort⟩ := hreads hmatch
    exact .inr ⟨after, rfl, hsuffix, hshort, replaceAll_of_some hmatch hshort⟩

/-- The first character of a text stays where it is unless something else is written there. -/
theorem head?_replaceAll (hreads : Reads match?) {bad : Char}
    (hnew : ∃ first more, new = first :: more ∧ first ≠ bad) (h : text.head? ≠ some bad) :
    (replaceAll match? new text).head? ≠ some bad := by
  cases text with
  | nil => simp
  | cons c rest =>
    rcases replaceAll_cases hreads new c rest with ⟨-, heq⟩ | ⟨_, -, -, -, heq⟩
    · rw [heq]
      exact h
    · obtain ⟨first, more, rfl, hfirst⟩ := hnew
      rw [heq]
      simpa using hfirst

end replaceAll

/-! ### Characters -/

/-- The characters of values. -/
def isValueChar (c : Char) : Bool := isWord c || c == '-'

/-- Whether no value goes on at the front of a text. -/
def stops : List Char → Bool
  | [] => true
  | c :: _ => !isValueChar c

/-- Separators between a keyword and its value. -/
def isSeparator (c : Char) : Bool := c == '=' || c == ':'

theorem isWord_of_isAlphanum {c : Char} (h : c.isAlphanum = true) : isWord c = true := by
  rw [isWord, if_pos (toNat_lt_of_isAlphanum h), h]
  rfl

theorem isAlphanum_of_toLower {c : Char} (h : c.toLower.isLower = true) : c.isAlphanum = true := by
  have hclasses : (c.toLower.isUpper || c.toLower.isLower || c.toLower.isDigit) = true := by
    rw [h, Bool.or_true]
    rfl
  rw [← isAlphanum_toLower]
  exact hclasses

theorem isValueChar_of_isLetter {letter c : Char} (hletter : letter.isLower = true)
    (h : isLetter letter c = true) : isValueChar c = true := by
  rw [isValueChar, Bool.or_eq_true]
  left
  simp only [isLetter, Bool.or_eq_true, Bool.and_eq_true, beq_iff_eq] at h
  rcases h with (rfl | ⟨-, hkelvin⟩) | ⟨-, hlong⟩
  · exact isWord_of_isAlphanum (isAlphanum_of_toLower hletter)
  · exact isWord_of_variant (.inr hkelvin)
  · exact isWord_of_variant (.inl hlong)

theorem isBlank_of_isValueChar {c : Char} (h : isValueChar c = true) : isBlank c = false := by
  rw [isValueChar, Bool.or_eq_true, beq_iff_eq] at h
  rcases h with hword | rfl
  · rw [← Bool.not_eq_true]
    intro hblank
    rw [isWord_of_isBlank hblank] at hword
    cases hword
  · rfl

theorem isSeparator_iff {c : Char} : isSeparator c = true ↔ c = '=' ∨ c = ':' := by
  rw [isSeparator, Bool.or_eq_true, beq_iff_eq, beq_iff_eq]

theorem isValueChar_of_isSeparator {c : Char} (h : isSeparator c = true) : isValueChar c = false := by
  rcases isSeparator_iff.mp h with rfl | rfl <;> rfl

theorem isBlank_of_isSeparator {c : Char} (h : isSeparator c = true) : isBlank c = false := by
  rcases isSeparator_iff.mp h with rfl | rfl <;> rfl

theorem isSeparator_of_isValueChar {c : Char} (h : isValueChar c = true) : isSeparator c = false := by
  rw [← Bool.not_eq_true]
  intro hseparator
  rw [isValueChar_of_isSeparator hseparator] at h
  cases h

/-- A text of which no value goes on is empty if it only has characters of values. -/
theorem eq_nil_of_stops {text : List Char} (hstops : stops text = true)
    (hvalue : ∀ c ∈ text, isValueChar c = true) : text = [] := by
  cases text with
  | nil => rfl
  | cons c rest =>
    rw [stops, hvalue c List.mem_cons_self] at hstops
    cases hstops

/-! ### Values -/

section values

variable {text rest back more : List Char} {separator : Char}

theorem dropOne_append {drop : Char → Bool} (h : text ≠ [] ∨ ∀ c ∈ back.head?, drop c = false) :
    dropOne drop (text ++ back) = dropOne drop text ++ back := by
  cases text with
  | cons c text =>
    rw [List.cons_append, dropOne, dropOne]
    split <;> rfl
  | nil =>
    cases back with
    | nil => rfl
    | cons c back =>
      have hc : drop c = false := by simpa using h
      simp [dropOne, hc]

theorem afterRun?_append {keep : Char → Bool} (h : ∀ c ∈ back.head?, keep c = false) :
    afterRun? keep (text ++ back) = (afterRun? keep text).map (· ++ back) := by
  have hback : back.dropWhile keep = back := by
    cases back with
    | nil => rfl
    | cons c back => simp [show keep c = false by simpa using h]
  cases text with
  | cons c text =>
    rw [List.cons_append, afterRun?, afterRun?]
    split
    · rw [List.dropWhile_append, hback]
      split
      · next hnil => simp [List.isEmpty_iff.mp hnil]
      · rfl
    · rfl
  | nil =>
    cases back with
    | nil => rfl
    | cons c back => simp [afterRun?, show keep c = false by simpa using h]

theorem dropOne_suffix (drop : Char → Bool) (text : List Char) : dropOne drop text <:+ text := by
  cases text with
  | nil => exact List.suffix_refl _
  | cons c rest =>
    rw [dropOne]
    split
    · exact List.suffix_cons c rest
    · exact List.suffix_refl _

theorem stops_dropWhile (text : List Char) :
    stops (text.dropWhile fun c => isWord c || c == '-') = true := by
  cases hrest : text.dropWhile fun c => isWord c || c == '-' with
  | nil => rfl
  | cons c rest =>
    have := List.head?_dropWhile_not (fun c => isWord c || c == '-') text
    rw [hrest] at this
    simpa [stops, isValueChar] using this

/-- What a value ends in front of is behind it, and the value does not go on there. -/
theorem afterValue?_spec (h : afterValue? text = some rest) :
    rest <:+ text ∧ rest.length < text.length ∧ stops rest = true := by
  have hdrop := (dropOne_suffix isBlank _).trans (dropOne_suffix (fun c => c == '=' || c == ':') text)
  rw [afterValue?] at h
  cases hvalue : dropOne isBlank (dropOne (fun c => c == '=' || c == ':') text) with
  | nil =>
    rw [hvalue] at h
    cases h
  | cons c value =>
    rw [hvalue] at h hdrop
    rw [afterRun?] at h
    split at h
    · obtain rfl := Option.some.inj h
      refine ⟨((List.dropWhile_suffix _).trans (List.suffix_cons c value)).trans hdrop, ?_,
        stops_dropWhile value⟩
      have := (List.dropWhile_suffix (fun c => isWord c || c == '-') (l := value)).length_le
      have := hdrop.length_le
      rw [List.length_cons] at this
      omega
    · cases h

@[simp] theorem afterValue?_nil : afterValue? [] = none := rfl

/-- A value ends in front of a separator. -/
theorem afterValue?_append_separator (htext : text ≠ []) (hseparator : isSeparator separator = true) :
    afterValue? (text ++ separator :: more) = (afterValue? text).map (· ++ separator :: more) := by
  have hvalue := isValueChar_of_isSeparator hseparator
  have hblank := isBlank_of_isSeparator hseparator
  rw [afterValue?, dropOne_append (.inl htext), dropOne_append (.inr (by simpa using hblank)),
    afterRun?_append (by simpa [isValueChar] using hvalue), afterValue?]

/-- A value that reaches the end of a text ends where the text behind stops it. -/
theorem afterValue?_run (htext : text ≠ []) (hvalue : ∀ c ∈ text, isValueChar c = true)
    (hstops : stops back = true) : afterValue? (text ++ back) = some back := by
  cases text with
  | nil => exact absurd rfl htext
  | cons c text =>
    have hc := hvalue c List.mem_cons_self
    have hseparator := isSeparator_of_isValueChar hc
    rw [isSeparator] at hseparator
    have hrun : afterRun? (fun c => isWord c || c == '-') (c :: text) = some [] := by
      rw [isValueChar] at hc
      rw [afterRun?, if_pos hc]
      congr 1
      refine List.dropWhile_eq_nil_iff.mpr ?_
      exact fun c hc => hvalue c (List.mem_cons_of_mem _ hc)
    have hback : ∀ c ∈ back.head?, (isWord c || c == '-') = false := by
      cases back with
      | nil => simp
      | cons c back => simpa [stops, isValueChar] using hstops
    rw [afterValue?, List.cons_append, dropOne, hseparator, if_neg Bool.false_ne_true, dropOne,
      isBlank_of_isValueChar hc, if_neg Bool.false_ne_true, ← List.cons_append,
      afterRun?_append hback, hrun]
    rfl

/-- A separator in front of a value belongs to it. -/
theorem afterValue?_separator_run (hseparator : isSeparator separator = true) (htext : text ≠ [])
    (hvalue : ∀ c ∈ text, isValueChar c = true) (hstops : stops back = true) :
    afterValue? (separator :: (text ++ back)) = some back := by
  rw [← afterValue?_run htext hvalue hstops]
  cases text with
  | nil => exact absurd rfl htext
  | cons c text =>
    have hc := isSeparator_of_isValueChar (hvalue c List.mem_cons_self)
    rw [isSeparator] at hc hseparator
    simp only [afterValue?, List.cons_append, dropOne, hseparator, hc, if_true, Bool.false_eq_true, if_false]

end values

/-! ### Words -/

section words

variable {word text rest back : List Char}

theorem afterWord?_spec (h : afterWord? word text = some rest) :
    rest <:+ text ∧ text.length = word.length + rest.length := by
  induction word generalizing text with
  | nil =>
    obtain rfl := Option.some.inj h
    exact ⟨List.suffix_refl _, by simp⟩
  | cons letter word ih =>
    cases text with
    | nil => cases h
    | cons c text =>
      rw [afterWord?] at h
      split at h
      · obtain ⟨hsuffix, hlength⟩ := ih h
        refine ⟨hsuffix.trans (List.suffix_cons c text), ?_⟩
        rw [List.length_cons, List.length_cons]
        omega
      · cases h

/-- A word is not finished by a text at whose front no value goes on. -/
theorem afterWord?_append (hword : ∀ letter ∈ word, letter.isLower = true) (hstops : stops back = true) :
    afterWord? word (text ++ back) = (afterWord? word text).map (· ++ back) := by
  induction word generalizing text with
  | nil => rfl
  | cons letter word ih =>
    obtain ⟨hletter, hrest⟩ := List.forall_mem_cons.mp hword
    cases text with
    | cons c text =>
      rw [List.cons_append, afterWord?, afterWord?]
      split
      · exact ih hrest
      · rfl
    | nil =>
      cases back with
      | nil => rfl
      | cons c back =>
        have hc : isLetter letter c = false := by
          rw [← Bool.not_eq_true]
          intro hc
          rw [stops, isValueChar_of_isLetter hletter hc] at hstops
          cases hstops
        simp [afterWord?, hc]

theorem afterWord?_of_toLower (h : text.map Char.toLower = word) (back : List Char) :
    afterWord? word (text ++ back) = some back := by
  subst h
  induction text with
  | nil => rfl
  | cons c text ih => rw [List.map_cons, List.cons_append, afterWord?, if_pos (by simp [isLetter]), ih]

/-- A text that is a word ends like it. -/
theorem isLetter_getLast (h : afterWord? word text = some []) (hword : word ≠ []) :
    ∃ c ∈ text.getLast?, isLetter (word.getLast hword) c = true := by
  induction word generalizing text with
  | nil => exact absurd rfl hword
  | cons letter word ih =>
    cases text with
    | nil => cases h
    | cons c text =>
      rw [afterWord?] at h
      split at h
      · next hc =>
        cases word with
        | nil =>
          obtain rfl := Option.some.inj h
          exact ⟨c, rfl, hc⟩
        | cons next word =>
          obtain ⟨last, hlast, hletter⟩ := ih h (List.cons_ne_nil _ _)
          refine ⟨last, ?_, by rwa [List.getLast_cons]⟩
          cases text with
          | nil => cases hlast
          | cons d text => simpa using hlast
      · cases h

end words

/-! ### Keywords -/

/-- What a value may stand behind. -/
inductive Keyword where
  | apiKey
  | token
  | password
  | secret
  deriving DecidableEq, Repr

namespace Keyword

variable {k other : Keyword} {text part rest back more keyword : List Char} {separator : Char}

/-- The keyword in lower case, with an underscore between its words. -/
def word : Keyword → String
  | apiKey => "api_key"
  | token => "token"
  | password => "password"
  | secret => "secret"

/-- What is written in the place of a keyword and its value. -/
def note : Keyword → String
  | apiKey => "API_KEY_REDACTED"
  | token => "TOKEN_REDACTED"
  | password => "PASSWORD_REDACTED"
  | secret => "SECRET_REDACTED"

/-- What stands between the two words of an API key. -/
def isJoiner (c : Char) : Bool := c == '_' || c == '-'

/-- What follows a keyword at the front of a text. -/
def after? (k : Keyword) (text : List Char) : Option (List Char) :=
  match k with
  | apiKey => (afterWord? "api".toList text).bind fun rest =>
      afterWord? "key".toList (dropOne isJoiner rest)
  | k => afterWord? k.word.toList text

/-- What follows a keyword and its value at the front of a text. -/
def match? (k : Keyword) (text : List Char) : Option (List Char) :=
  (k.after? text).bind afterValue?

theorem after?_apiKey : apiKey.after? text = (afterWord? "api".toList text).bind fun rest =>
    afterWord? "key".toList (dropOne isJoiner rest) := rfl

theorem after?_of_ne (h : k ≠ apiKey) : k.after? text = afterWord? k.word.toList text := by
  cases k <;> first | exact absurd rfl h | rfl

theorem length_dropOne (drop : Char → Bool) (text : List Char) :
    text.length ≤ (dropOne drop text).length + 1 := by
  cases text with
  | nil => exact Nat.zero_le _
  | cons c rest =>
    rw [dropOne]
    split
    · exact Nat.le_refl _
    · exact Nat.le_succ _

theorem after?_spec (h : k.after? text = some rest) :
    rest <:+ text ∧ rest.length < text.length ∧ text.length ≤ k.word.length + rest.length := by
  by_cases hk : k = apiKey
  · subst hk
    rw [after?_apiKey] at h
    obtain ⟨middle, hapi, hkey⟩ := Option.bind_eq_some_iff.mp h
    obtain ⟨hmiddle, hlength⟩ := afterWord?_spec hapi
    obtain ⟨hrest, hlength'⟩ := afterWord?_spec hkey
    have hdrop := dropOne_suffix isJoiner middle
    refine ⟨(hrest.trans hdrop).trans hmiddle, ?_⟩
    have := length_dropOne isJoiner middle
    have := hdrop.length_le
    have hthree : "api".toList.length = 3 ∧ "key".toList.length = 3 ∧ apiKey.word.length = 7 := by decide
    omega
  · rw [after?_of_ne hk] at h
    obtain ⟨hsuffix, hlength⟩ := afterWord?_spec h
    rw [String.length_toList] at hlength
    have : 0 < k.word.length := by cases k <;> decide
    exact ⟨hsuffix, by omega, by omega⟩

theorem after?_append (hstops : stops back = true) :
    k.after? (text ++ back) = (k.after? text).map (· ++ back) := by
  by_cases hk : k = apiKey
  · subst hk
    rw [after?_apiKey, after?_apiKey, afterWord?_append (List.all_eq_true.mp (by decide)) hstops]
    cases afterWord? "api".toList text with
    | none => rfl
    | some rest =>
      have hback : ∀ c ∈ back.head?, isJoiner c = false := by
        intro c hc
        cases back with
        | nil => cases hc
        | cons d back =>
          obtain rfl := Option.some.inj hc
          rw [← Bool.not_eq_true]
          intro hjoiner
          rw [isJoiner, Bool.or_eq_true, beq_iff_eq, beq_iff_eq] at hjoiner
          rcases hjoiner with rfl | rfl <;> cases hstops
      rw [Option.map_some, Option.bind_some, Option.bind_some, dropOne_append (.inr hback),
        afterWord?_append (List.all_eq_true.mp (by decide)) hstops]
  · rw [after?_of_ne hk, after?_of_ne hk]
    have hword : ∀ letter ∈ k.word.toList, letter.isLower = true := by
      cases k <;> first | exact absurd rfl hk | exact List.all_eq_true.mp (by decide)
    exact afterWord?_append hword hstops

theorem match?_spec (h : k.match? text = some rest) :
    rest <:+ text ∧ rest.length < text.length ∧ stops rest = true := by
  obtain ⟨value, hafter, hvalue⟩ := Option.bind_eq_some_iff.mp h
  obtain ⟨hsuffix, hshort, -⟩ := after?_spec hafter
  obtain ⟨hsuffix', hshort', hstops⟩ := afterValue?_spec hvalue
  exact ⟨hsuffix'.trans hsuffix, hshort'.trans hshort, hstops⟩

theorem reads : Reads k.match? := fun _ _ h => ⟨(match?_spec h).1, (match?_spec h).2.1⟩

/-- What is found in front of a separator is found without it, unless a keyword reaches up to it. -/
theorem match?_append_separator (hafter : k.after? text ≠ some [])
    (hseparator : isSeparator separator = true) :
    k.match? (text ++ separator :: more) = (k.match? text).map (· ++ separator :: more) := by
  have hstops : stops (separator :: more) = true := by
    rw [stops, isValueChar_of_isSeparator hseparator]
    rfl
  rw [match?, match?, after?_append hstops]
  cases h : k.after? text with
  | none => rfl
  | some value =>
    refine afterValue?_append_separator ?_ hseparator
    rintro rfl
    exact hafter h

/-- What is found in a run of characters of values is found whatever stops the run, unless a keyword
reaches to its end and has its value there. -/
theorem match?_append_run (htext : ∀ c ∈ text, isValueChar c = true) (hstops : stops back = true)
    (hafter : k.after? text = some [] → afterValue? back = none) :
    k.match? (text ++ back) = (k.match? text).map (· ++ back) := by
  rw [match?, match?, after?_append hstops]
  cases h : k.after? text with
  | none => rfl
  | some value =>
    change afterValue? (value ++ back) = (afterValue? value).map (· ++ back)
    by_cases hvalue : value = []
    · subst hvalue
      exact hafter h
    · have hrun : ∀ c ∈ value, isValueChar c = true := fun c hc => htext c ((after?_spec h).1.mem hc)
      have halone : afterValue? (value ++ []) = some [] := afterValue?_run hvalue hrun rfl
      rw [List.append_nil] at halone
      rw [afterValue?_run hvalue hrun hstops, halone]
      rfl

/-! ### Texts that end in a keyword -/

/-- A keyword reaches to the end of a text. -/
def Ends (k : Keyword) (text : List Char) : Prop :=
  ∃ part, part <:+ text ∧ k.after? part = some []

/-- The last letter of a keyword. -/
def last : Keyword → Char
  | apiKey => 'y'
  | token => 'n'
  | password => 'd'
  | secret => 't'

theorem toLower_of_isLetter {letter c : Char} (hk : letter ≠ 'k') (hs : letter ≠ 's')
    (h : isLetter letter c = true) : c.toLower = letter := by
  simpa [isLetter, hk, hs] using h

theorem Ends.toLower_last (h : k.Ends text) : ∃ c ∈ text.getLast?, c.toLower = k.last := by
  obtain ⟨part, ⟨front, rfl⟩, hpart⟩ := h
  obtain ⟨c, hc, hletter⟩ : ∃ c ∈ part.getLast?, isLetter k.last c = true := by
    by_cases hk : k = apiKey
    · subst hk
      obtain ⟨middle, hapi, hkey⟩ := Option.bind_eq_some_iff.mp hpart
      obtain ⟨c, hc, hletter⟩ := isLetter_getLast hkey (by decide)
      obtain ⟨_, heq⟩ := (dropOne_suffix isJoiner middle).trans (afterWord?_spec hapi).1
      refine ⟨c, ?_, hletter⟩
      rw [← heq, List.getLast?_append]
      simpa using .inl hc
    · rw [after?_of_ne hk] at hpart
      obtain ⟨c, hc, hletter⟩ := isLetter_getLast hpart (by cases k <;> decide)
      refine ⟨c, hc, ?_⟩
      cases k <;> first | exact absurd rfl hk | exact hletter
  refine ⟨c, ?_, toLower_of_isLetter (by cases k <;> decide) (by cases k <;> decide) hletter⟩
  rw [List.getLast?_append]
  simpa using .inl hc

/-- **No two keywords reach to the end of one text.** -/
theorem Ends.unique (h : k.Ends text) (hother : other.Ends text) : k = other := by
  obtain ⟨c, hc, hlast⟩ := h.toLower_last
  obtain ⟨c', hc', hlast'⟩ := hother.toLower_last
  obtain rfl := Option.mem_unique hc hc'
  rw [hlast] at hlast'
  cases k <;> cases other <;> first | rfl | exact absurd hlast' (by decide)

/-- How all notes end. -/
def stamp : List Char := "REDACTED".toList

theorem stamp_suffix_note (k : Keyword) : stamp <:+ k.note.toList := by
  cases k <;> decide

/-- No keyword reaches to the end of a note. -/
theorem not_ends_of_stamp (h : stamp <:+ text) : ¬ k.Ends text := by
  rintro ⟨part, hpart, hafter⟩
  have hlength := (after?_spec hafter).2.2
  have : k.word.length ≤ stamp.length := by cases k <;> decide
  have hsuffix : part <:+ stamp :=
    List.suffix_of_suffix_length_le hpart h (by simpa using hlength.trans (by simpa using this))
  have hnone : ∀ part ∈ stamp.tails, k.after? part ≠ some [] := by cases k <;> decide
  exact hnone part ((List.mem_tails part stamp).mpr hsuffix) hafter

/-! ### Keywords as they are written -/

theorem isJoiner_of_toLower {c : Char} (h : c.toLower = '_') : isJoiner c = true := by
  rcases toLower_eq_or c with heq | hlower
  · rw [← heq, h]
    rfl
  · rw [h] at hlower
    cases hlower

theorem isValueChar_of_toLower {c : Char} (h : isValueChar c.toLower = true) : isValueChar c = true := by
  rcases toLower_eq_or c with heq | hlower
  · rwa [heq] at h
  · rw [isValueChar, isWord_of_isAlphanum (isAlphanum_of_toLower hlower)]
    rfl

/-- A keyword in any case is read to its end. -/
theorem after?_written (h : keyword.map Char.toLower = k.word.toList) : k.after? keyword = some [] := by
  by_cases hk : k = apiKey
  · subst hk
    obtain ⟨api, joinerKey, rfl, hapi, hrest⟩ :=
      List.map_eq_append_iff.mp (h.trans (show _ = "api".toList ++ "_key".toList from rfl))
    obtain ⟨joiner, key, rfl, hjoiner, hkey⟩ :=
      List.map_eq_cons_iff.mp (hrest.trans (show _ = '_' :: "key".toList from rfl))
    rw [after?_apiKey, afterWord?_of_toLower hapi, Option.bind_some, dropOne,
      if_pos (isJoiner_of_toLower hjoiner), ← List.append_nil key]
    exact afterWord?_of_toLower hkey []
  · rw [after?_of_ne hk, ← List.append_nil keyword]
    exact afterWord?_of_toLower h []

theorem length_written (h : keyword.map Char.toLower = k.word.toList) : keyword.length = k.word.length := by
  simpa [← String.length_toList] using congrArg List.length h

theorem isValueChar_written (h : keyword.map Char.toLower = k.word.toList) :
    ∀ c ∈ keyword, isValueChar c = true := by
  intro c hc
  have hword : ∀ c ∈ k.word.toList, isValueChar c = true := by
    cases k <;> exact List.all_eq_true.mp (by decide)
  refine isValueChar_of_toLower (hword _ ?_)
  rw [← h]
  exact List.mem_map_of_mem hc

/-- No part of a keyword is read as the same keyword, unless it is all of it. -/
theorem eq_nil_of_part (h : keyword.map Char.toLower = k.word.toList) (hpart : part <:+ keyword)
    (hafter : k.after? part = some rest) : rest = [] := by
  by_cases hk : k = apiKey
  · subst hk
    obtain ⟨c, others, rfl, -, hothers⟩ :=
      List.map_eq_cons_iff.mp (h.trans (show _ = 'a' :: "pi_key".toList from rfl))
    rcases List.suffix_cons_iff.mp hpart with rfl | hpart
    · rw [after?_written h] at hafter
      exact (Option.some.inj hafter).symm
    · -- An API key starts with an `a`, and there is only one in it.
      cases part with
      | nil => cases hafter
      | cons d part =>
        have hd : d.toLower ∈ "pi_key".toList := by
          rw [← hothers]
          exact List.mem_map_of_mem (hpart.mem List.mem_cons_self)
        have ha : isLetter 'a' d = false := by
          rw [← Bool.not_eq_true]
          intro ha
          rw [toLower_of_isLetter (by decide) (by decide) ha] at hd
          exact absurd hd (by decide)
        have hnone : afterWord? "api".toList (d :: part) = none := by
          change afterWord? ('a' :: "pi".toList) (d :: part) = none
          rw [afterWord?, ha, if_neg Bool.false_ne_true]
        rw [after?_apiKey, hnone] at hafter
        cases hafter
  · rw [after?_of_ne hk] at hafter
    have hlength := (afterWord?_spec hafter).2
    have hshort := hpart.length_le
    rw [length_written h] at hshort
    rw [String.length_toList] at hlength
    exact List.length_eq_zero_iff.mp (by omega)

/-- In a keyword alone, nothing is found. -/
theorem match?_written (h : keyword.map Char.toLower = k.word.toList) (hpart : part <:+ keyword) :
    k.match? part = none := by
  rw [match?]
  cases hafter : k.after? part with
  | none => rfl
  | some value =>
    rw [eq_nil_of_part h hpart hafter]
    rfl

end Keyword

end Toolwright.Redaction
