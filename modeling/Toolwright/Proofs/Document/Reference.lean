import Toolwright.Document.Reference
import Toolwright.Proofs.Text.Pieces

/-!
# References as addresses

A value within a document has an address: the keys and the places on the way down to it. A reference is
an address as a text, with slashes between the steps and with the tildes and slashes of the keys written
in two characters. Nothing is lost that way, whatever the keys are: `unescape` reads a segment as if it
went over it once, from left to right (`unescape_eq`), and so undoes the writing
(`decoded_escaped`), and no slash is left in what is written to be taken for one between two steps. So a
reference finds what its address says (`resolve_ofSteps`).

A reference that leads nowhere is blamed on the first of its segments that is not there
(`walk_eq_error_iff`).
-/

namespace Toolwright

/-- A step down into a value: to a member of an object, or to an item of an array, whose place is a word
of the machine. -/
inductive Json.Step where
  | member (key : String)
  | item (place : UInt64)
  deriving DecidableEq, Repr

/-- The value one step below a value. -/
def Json.below? : Json → Step → Option Json
  | .object members, .member key => Members.get? key members
  | .array items, .item place => items[place.toNat]?
  | _, _ => none

/-- The value at the end of some steps. -/
def Json.along? (value : Json) (steps : List Step) : Option Json :=
  steps.foldlM below? value

namespace Reference

open Text

/-! ### Segments -/

/-- How a key is written in a reference: its tildes become `~0`, and then its slashes `~1`. -/
def escaped (key : List Char) : List Char :=
  (key.flatMap fun c => if c = '~' then ['~', '0'] else [c]).flatMap fun c =>
    if c = '/' then ['~', '1'] else [c]

/-- What a segment says, read once from left to right. -/
def decoded : List Char → List Char
  | a :: b :: rest =>
    if a = '~' ∧ b = '0' then '~' :: decoded rest
    else if a = '~' ∧ b = '1' then '/' :: decoded rest
    else a :: decoded (b :: rest)
  | short => short

theorem decoded_cons_of_ne {c : Char} (h : c ≠ '~') (text : List Char) :
    decoded (c :: text) = c :: decoded text := by
  cases text with
  | nil => rfl
  | cons d rest => rw [decoded, if_neg fun hpair => h hpair.1, if_neg fun hpair => h hpair.1]

theorem decoded_eq_self {text : List Char} (h : '~' ∉ text) : decoded text = text := by
  induction text with
  | nil => rfl
  | cons c text ih =>
    obtain ⟨hc, htext⟩ := List.ne_and_not_mem_of_not_mem_cons h
    rw [decoded_cons_of_ne hc.symm, ih htext]

theorem escaped_cons (c : Char) (key : List Char) :
    escaped (c :: key) =
      (if c = '~' then ['~', '0'] else if c = '/' then ['~', '1'] else [c]) ++ escaped key := by
  rw [escaped, List.flatMap_cons, List.flatMap_append]
  refine congrArg (· ++ escaped key) ?_
  by_cases htilde : c = '~'
  · subst htilde
    rfl
  · rw [if_neg htilde, if_neg htilde, List.flatMap_singleton]

/-- **What is written is read as it was.** -/
theorem decoded_escaped (key : List Char) : decoded (escaped key) = key := by
  induction key with
  | nil => rfl
  | cons c key ih =>
    rw [escaped_cons]
    by_cases htilde : c = '~'
    · rw [if_pos htilde, htilde]
      exact congrArg ('~' :: ·) ih
    · rw [if_neg htilde]
      by_cases hslash : c = '/'
      · rw [if_pos hslash, hslash]
        exact congrArg ('/' :: ·) ih
      · rw [if_neg hslash, List.singleton_append, decoded_cons_of_ne htilde, ih]

theorem slash_not_mem_escaped (key : List Char) : '/' ∉ escaped key := by
  induction key with
  | nil => exact List.not_mem_nil
  | cons c key ih =>
    rw [escaped_cons, List.mem_append, not_or]
    refine ⟨?_, ih⟩
    split_ifs with htilde hslash
    · decide
    · decide
    · exact fun hmem => hslash (List.mem_singleton.mp hmem).symm

/-- Once the slashes are read, no tilde stands before a zero that did not before. -/
theorem head?_of_replacePair (text : List Char) :
    (replacePair '~' '1' ['/'] text).head? = some '0' → text.head? = some '0' := by
  fun_cases replacePair '~' '1' ['/'] text with
  | case1 a b rest hpair => simp
  | case2 a b rest hpair => simp
  | case3 short hshort => exact id

theorem replacePair_replacePair (text : List Char) :
    replacePair '~' '0' ['~'] (replacePair '~' '1' ['/'] text) = decoded text := by
  fun_induction decoded text with
  | case1 a b rest hpair ih =>
    obtain ⟨rfl, rfl⟩ := hpair
    have hslashes : replacePair '~' '1' ['/'] ('~' :: '0' :: rest) =
        '~' :: '0' :: replacePair '~' '1' ['/'] rest := by
      rw [replacePair_cons_of_head? (by simp), replacePair_cons_of_ne (by decide)]
    rw [hslashes, replacePair, if_pos ⟨rfl, rfl⟩, ih, List.singleton_append]
  | case2 a b rest _ hpair ih =>
    obtain ⟨rfl, rfl⟩ := hpair
    have hslashes : replacePair '~' '1' ['/'] ('~' :: '1' :: rest) =
        '/' :: replacePair '~' '1' ['/'] rest := by
      rw [replacePair, if_pos ⟨rfl, rfl⟩, List.singleton_append]
    rw [hslashes, replacePair_cons_of_ne (by decide), ih]
  | case3 a b rest hzero hone ih =>
    rw [replacePair, if_neg hone]
    by_cases ha : a = '~'
    · have hb : (b :: rest).head? ≠ some '0' := fun h => hzero ⟨ha, Option.some.inj h⟩
      rw [replacePair_cons_of_head? fun h => hb (head?_of_replacePair _ h), ih]
    · rw [replacePair_cons_of_ne ha, ih]
  | case4 short hshort =>
    rcases short with _ | ⟨a, _ | ⟨b, rest⟩⟩
    · rfl
    · rfl
    · exact absurd rfl (hshort a b rest)

theorem unescape_eq (segment : List Char) : unescape segment = String.ofList (decoded segment) := by
  rw [unescape, replacePair_replacePair]

/-- The keys that a path consists of. -/
theorem segments_eq (path : List Char) :
    segments path = (path.splitOn '/').map fun segment => String.ofList (decoded segment) := by
  rw [segments, pieces_eq_splitOn]
  exact List.map_congr_left fun segment _ => unescape_eq segment

/-! ### Places -/

theorem isDigit_of_mem_toString {n : Nat} {c : Char} (h : c ∈ (toString n).toList) :
    c.isDigit = true := by
  have hdigits : (toString n).toList = Nat.toDigits 10 n := Nat.toList_repr
  exact Nat.isDigit_of_mem_toDigits (by decide) (by decide) (hdigits ▸ h)

theorem digitsBelow?_toString {bound n : Nat} (h : n < bound) :
    digitsBelow? bound (toString n).toList = some n := by
  have hdigits : (toString n).toList = Nat.toDigits 10 n := Nat.toList_repr
  have hall : (toString n).toList.all Char.isDigit = true :=
    List.all_eq_true.mpr fun c hc => isDigit_of_mem_toString hc
  have hvalue : (toString n).toList.foldl (fun n c => n * 10 + (c.toNat - '0'.toNat)) 0 = n := by
    calc (toString n).toList.foldl (fun n c => n * 10 + (c.toNat - '0'.toNat)) 0
        = Nat.ofDigitChars 10 (Nat.toDigits 10 n) 0 := by
          rw [hdigits, Nat.ofDigitChars_eq_foldl]
          simp only [Nat.mul_comm]
      _ = n := Nat.ofDigitChars_toDigits (by decide) (by decide)
  rw [digitsBelow?, hall, hvalue, if_pos h]
  simp

theorem index?_toString (place : UInt64) : index? (toString place.toNat) = some place.toNat := by
  have hplus : ∀ rest, (toString place.toNat).toList ≠ '+' :: rest := by
    intro rest he
    have hplus : '+' ∈ (toString place.toNat).toList := he ▸ List.mem_cons_self
    exact absurd (isDigit_of_mem_toString hplus) (by decide)
  rw [index?, naturalBelow?]
  · exact digitsBelow?_toString place.toNat_lt
  · exact hplus

/-! ### Addresses -/

/-- The key that a step is found under. -/
def keyOf : Json.Step → String
  | .member key => key
  | .item place => toString place.toNat

/-- How a step is written in a reference. -/
def written : Json.Step → List Char
  | .member key => escaped key.toList
  | .item place => (toString place.toNat).toList

/-- The reference to the value at the end of some steps. -/
def ofSteps (steps : List Json.Step) : String :=
  String.ofList ('#' :: '/' :: ['/'].intercalate (steps.map written))

theorem slash_not_mem_written (step : Json.Step) : '/' ∉ written step := by
  cases step with
  | member key => exact slash_not_mem_escaped key.toList
  | item place => exact fun h => absurd (isDigit_of_mem_toString h) (by decide)

theorem decoded_written (step : Json.Step) : String.ofList (decoded (written step)) = keyOf step := by
  cases step with
  | member key => rw [written, decoded_escaped, String.ofList_toList, keyOf]
  | item place =>
    have htilde : '~' ∉ (toString place.toNat).toList :=
      fun h => absurd (isDigit_of_mem_toString h) (by decide)
    rw [written, decoded_eq_self htilde, String.ofList_toList, keyOf]

/-- The path of a reference has the keys of its steps. An empty path has one key too, the empty one. -/
theorem segments_ofSteps {steps : List Json.Step} (h : steps ≠ []) :
    segments (['/'].intercalate (steps.map written)) = steps.map keyOf := by
  have hslashes : ∀ segment ∈ steps.map written, '/' ∉ segment := by
    intro segment hsegment
    obtain ⟨step, -, rfl⟩ := List.mem_map.mp hsegment
    exact slash_not_mem_written step
  rw [segments_eq, List.splitOn_intercalate '/' hslashes (by simpa using h), List.map_map]
  exact List.map_congr_left fun step _ => decoded_written step

theorem step?_keyOf {value next : Json} {step : Json.Step} (h : value.below? step = some next) :
    step? index? value (keyOf step) = some next := by
  unfold Json.below? at h
  split at h
  · exact h
  · rename_i items place
    rw [keyOf, step?, index?_toString place]
    exact h
  · cases h

/-! ### Walks -/

section

variable {reference : String} {path : List String} {value : Json}

theorem walk_eq_ok_iff {found : Json} :
    walk reference path value = .ok found ↔ path.foldlM (step? index?) value = some found := by
  induction path generalizing value with
  | nil => simp [walk]
  | cons segment rest ih =>
    rw [walk, List.foldlM_cons]
    cases hstep : step? index? value segment with
    | none => simp
    | some next => simpa using ih

/-- A walk fails at the first segment that is not there, and says so. -/
theorem walk_eq_error_iff {error : ReferenceError} :
    walk reference path value = .error error ↔
      ∃ before segment after below, path = before ++ segment :: after ∧
        before.foldlM (step? index?) value = some below ∧ step? index? below segment = none ∧
          error = .missing reference segment := by
  induction path generalizing value with
  | nil => simp [walk]
  | cons first rest ih =>
    rw [walk]
    cases hstep : step? index? value first with
    | none =>
      constructor
      · intro h
        exact ⟨[], first, rest, value, rfl, rfl, hstep, (Except.error.inj h).symm⟩
      · rintro ⟨before, segment, after, below, hpath, hbefore, hmissing, rfl⟩
        cases before with
        | nil => rw [(List.cons.inj hpath).1]
        | cons other before =>
          rw [List.foldlM_cons, ← (List.cons.inj hpath).1, hstep] at hbefore
          cases hbefore
    | some next =>
      rw [ih]
      constructor
      · rintro ⟨before, segment, after, below, rfl, hbefore, hrest⟩
        refine ⟨first :: before, segment, after, below, rfl, ?_, hrest⟩
        rw [List.foldlM_cons, hstep]
        exact hbefore
      · rintro ⟨before, segment, after, below, hpath, hbefore, hmissing, herror⟩
        cases before with
        | nil =>
          obtain ⟨rfl, -⟩ := List.cons.inj hpath
          cases hbefore
          rw [hstep] at hmissing
          cases hmissing
        | cons other before =>
          obtain ⟨rfl, hrest⟩ := List.cons.inj hpath
          rw [List.foldlM_cons, hstep] at hbefore
          exact ⟨before, segment, after, below, hrest, hbefore, hmissing, herror⟩

theorem foldlM_keyOf {steps : List Json.Step} {found : Json} (h : value.along? steps = some found) :
    (steps.map keyOf).foldlM (step? index?) value = some found := by
  induction steps generalizing value with
  | nil => exact h
  | cons step steps ih =>
    rw [Json.along?, List.foldlM_cons] at h
    obtain ⟨next, hnext, hrest⟩ := Option.bind_eq_some_iff.mp h
    rw [List.map_cons, List.foldlM_cons, step?_keyOf hnext]
    exact ih hrest

end

theorem resolve_of_toList {reference : String} {path : List Char}
    (h : reference.toList = '#' :: '/' :: path) (root : Json) :
    resolve reference root = walk reference (segments path) root := by
  have hpath : after? ['#', '/'] reference.toList = some path := after?_eq_some_iff.mpr h
  rw [resolve, hpath]

theorem resolve_eq_notLocal {reference : String} (h : ¬ ['#', '/'] <+: reference.toList) (root : Json) :
    resolve reference root = .error (.notLocal reference) := by
  have hpath : after? ['#', '/'] reference.toList = none := by
    rw [Option.eq_none_iff_forall_ne_some]
    exact fun path hpath => h ⟨path, (after?_eq_some_iff.mp hpath).symm⟩
  rw [resolve, hpath]

/-- **References address exactly the values within a document.** The reference to an address finds the
value that is there. Any reference is refused just if it does not begin with `#/`, and if it does, it
stands for what lies at the end of its segments; the first one that is missing, as it reads without
escapes, is what it fails with. -/
theorem resolve_addresses (root : Json) :
    (∀ steps found, steps ≠ [] → root.along? steps = some found →
      resolve (ofSteps steps) root = .ok found) ∧
    (∀ reference, resolve reference root = .error (.notLocal reference) ↔
      ¬ ['#', '/'] <+: reference.toList) ∧
    ∀ reference path, reference.toList = '#' :: '/' :: path →
      let keys := (path.splitOn '/').map fun segment => String.ofList (decoded segment)
      (∀ found, resolve reference root = .ok found ↔
        keys.foldlM (step? index?) root = some found) ∧
      ∀ error, resolve reference root = .error error ↔
        ∃ before key after below, keys = before ++ key :: after ∧
          before.foldlM (step? index?) root = some below ∧ step? index? below key = none ∧
            error = .missing reference key := by
  refine ⟨fun steps found hsteps hfound => ?_, fun reference => ⟨fun h => ?_, fun h => ?_⟩,
    fun reference path hpath => ⟨fun found => ?_, fun error => ?_⟩⟩
  · have hpath : (ofSteps steps).toList = '#' :: '/' :: ['/'].intercalate (steps.map written) :=
      String.toList_ofList
    rw [resolve_of_toList hpath, segments_ofSteps hsteps, walk_eq_ok_iff]
    exact foldlM_keyOf hfound
  · rintro ⟨path, hpath⟩
    rw [resolve_of_toList hpath.symm, walk_eq_error_iff] at h
    obtain ⟨_, _, _, _, _, _, _, herror⟩ := h
    cases herror
  · exact resolve_eq_notLocal h root
  · rw [resolve_of_toList hpath, walk_eq_ok_iff, segments_eq]
  · rw [resolve_of_toList hpath, walk_eq_error_iff, segments_eq]

/-- A key that looks like an escape, an empty key, and a place. -/
theorem resolve_addresses_ofSlashes :
    let root : Json := .object [("~1", .array [.null, .object [("", .string "a/b")]])]
    let steps : List Json.Step := [.member "~1", .item 1, .member ""]
    ofSteps steps = "#/~01/1/" ∧ steps ≠ [] ∧ root.along? steps = some (.string "a/b") ∧
      resolve "#/~01/1/" root = .ok (.string "a/b") ∧
      resolve "#/~1/1/" root = .error (.missing "#/~1/1/" "/") := by
  intro root steps
  obtain ⟨hsteps, -, hfails⟩ := resolve_addresses root
  have hreference : ofSteps steps = "#/~01/1/" := by cbv
  refine ⟨hreference, by decide, rfl, ?_, ?_⟩
  · rw [← hreference]
    exact hsteps steps _ (by decide) rfl
  · refine ((hfails "#/~1/1/" "~1/1/".toList rfl).2 _).mpr ⟨[], "/", ["1", ""], root, ?_, rfl, rfl, rfl⟩
    cbv

end Reference

end Toolwright
