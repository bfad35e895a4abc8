import Toolwright.Proofs.Call.Keyword

/-!
# What becomes of a credential

The rules go over a message one after the other, each over what the ones before it left. A value behind
a keyword and a separator is hidden if the keyword still stands when its own rule comes to it
(`hideAll_of_stands`). If the keyword has been taken for the value of a keyword in front of it, nothing
hides the value: what follows the separator is then redacted as a text of its own (`redact_of_swallowed`).
So the values are hidden exactly if the keyword stands or the message is cut off in front of
them (`hides_iff`).

What carries the argument is that a text ends in at most one keyword and a note in none: in front of the
separator, a rule for another keyword finds nothing that reaches up to it, whatever it does before.
-/

namespace Toolwright.Redaction

open Text

variable {k : Keyword} {ks : List Keyword} {text front tail keyword value back more : List Char}
  {separator c : Char}

/-! ### One rule -/

namespace Keyword

/-- The text without a kind of credentials. -/
def hide (k : Keyword) (text : List Char) : List Char :=
  replaceAll k.match? k.note.toList text

@[simp] theorem hide_nil (k : Keyword) : k.hide [] = [] := replaceAll_nil

theorem match?_of_stops (h : stops text = true) : k.match? text = none := by
  have hnone : k.after? ([] ++ text) = (k.after? []).map (· ++ text) := after?_append h
  rw [List.nil_append] at hnone
  rw [match?, hnone]
  cases k <;> rfl

theorem hide_of_stops (h : stops (c :: more) = true) : k.hide (c :: more) = c :: k.hide more :=
  replaceAll_of_none (match?_of_stops h)

theorem stops_hide (h : stops text = true) : stops (k.hide text) = true := by
  cases text with
  | nil => rw [hide_nil, stops]
  | cons c rest => rwa [hide_of_stops h]

theorem stops_cons (h : isSeparator separator = true) (more : List Char) :
    stops (separator :: more) = true := by
  rw [stops, isValueChar_of_isSeparator h]
  rfl

/-- The texts on both sides of a separator are gone through by themselves, unless the keyword
reaches up to the separator. -/
theorem hide_append_separator (hends : ¬ k.Ends front) (h : isSeparator separator = true) :
    k.hide (front ++ separator :: more) = k.hide front ++ separator :: k.hide more := by
  rw [← hide_of_stops (stops_cons h more)]
  exact replaceAll_append reads fun part hpart _ =>
    match?_append_separator (fun hafter => hends ⟨part, hpart, hafter⟩) h

/-- A value and what follows it are gone through by themselves, unless the value ends in the keyword and
is followed by a value of it. -/
theorem hide_append_run (hvalue : ∀ c ∈ value, isValueChar c = true) (hstops : stops back = true)
    (hends : k.Ends value → afterValue? back = none) :
    k.hide (value ++ back) = k.hide value ++ k.hide back :=
  replaceAll_append reads fun part hpart _ =>
    match?_append_run (fun c hc => hvalue c (hpart.mem hc)) hstops
      fun hafter => hends ⟨part, hpart, hafter⟩

/-- One step of going through a text. -/
theorem hide_cases (k : Keyword) (c : Char) (rest : List Char) :
    (k.match? (c :: rest) = none ∧ k.hide (c :: rest) = c :: k.hide rest) ∨
      ∃ after, k.match? (c :: rest) = some after ∧ after <:+ c :: rest ∧
        after.length < (c :: rest).length ∧ k.hide (c :: rest) = k.note.toList ++ k.hide after :=
  replaceAll_cases reads k.note.toList c rest

/-- What is found in a run of characters of values reaches to its end. -/
theorem eq_nil_of_match? (hvalue : ∀ c ∈ back, isValueChar c = true) (h : k.match? text = some back) :
    back = [] :=
  eq_nil_of_stops (match?_spec h).2.2 hvalue

theorem isValueChar_stamp : ∀ c ∈ stamp, isValueChar c = true := List.all_eq_true.mp (by decide)

theorem isValueChar_hide (hvalue : ∀ c ∈ value, isValueChar c = true) :
    ∀ c ∈ k.hide value, isValueChar c = true := by
  induction value with
  | nil => rwa [hide_nil]
  | cons c rest ih =>
    obtain ⟨hc, hrest⟩ := List.forall_mem_cons.mp hvalue
    rcases hide_cases k c rest with ⟨-, heq⟩ | ⟨after, hmatch, hsuffix, -, heq⟩
    · rw [heq]
      exact List.forall_mem_cons.mpr ⟨hc, ih hrest⟩
    · obtain rfl := eq_nil_of_match? (fun c hc => hvalue c (hsuffix.mem hc)) hmatch
      rw [heq, hide_nil, List.append_nil]
      cases k <;> exact List.all_eq_true.mp (by decide)

theorem hide_ne_nil (h : text ≠ []) : k.hide text ≠ [] := by
  cases text with
  | nil => exact absurd rfl h
  | cons c rest =>
    rcases hide_cases k c rest with ⟨-, heq⟩ | ⟨after, -, -, -, heq⟩
    · rw [heq]
      exact List.cons_ne_nil _ _
    · have hnote : k.note.toList ≠ [] := by cases k <;> decide
      rw [heq]
      exact fun h => hnote (List.append_eq_nil_iff.mp h).1

/-- In a run of characters of values, either nothing is found or what is found reaches to the end. -/
theorem hide_run (hvalue : ∀ c ∈ value, isValueChar c = true) :
    k.hide value = value ∨ stamp <:+ k.hide value := by
  induction value with
  | nil => exact .inl (hide_nil k)
  | cons c rest ih =>
    rcases hide_cases k c rest with ⟨-, heq⟩ | ⟨after, hmatch, hsuffix, -, heq⟩
    · rw [heq]
      rcases ih (List.forall_mem_cons.mp hvalue).2 with hself | hstamp
      · exact .inl (congrArg (c :: ·) hself)
      · exact .inr (hstamp.trans (List.suffix_cons c _))
    · right
      obtain rfl := eq_nil_of_match? (fun c hc => hvalue c (hsuffix.mem hc)) hmatch
      rw [heq, hide_nil, List.append_nil]
      exact stamp_suffix_note k

/-- **A run of characters of values at the end of a text either stays or is taken into a value.** -/
theorem suffix_hide (hvalue : ∀ c ∈ tail, isValueChar c = true) (h : tail <:+ text) :
    tail <:+ k.hide text ∨ stamp <:+ k.hide text := by
  induction hlength : text.length using Nat.strongRecOn generalizing text with
  | _ n ih =>
    subst hlength
    cases text with
    | nil =>
      obtain rfl := List.suffix_nil.mp h
      exact .inl List.nil_suffix
    | cons c rest =>
      rcases hide_cases k c rest with ⟨-, heq⟩ | ⟨after, hmatch, hsuffix, hshort, heq⟩
      · rcases List.suffix_cons_iff.mp h with rfl | h
        · exact (hide_run hvalue).imp_left fun hself => by rw [hself]
        · have hlater := ih rest.length (Nat.lt_succ_self _) h rfl
          rw [heq]
          exact hlater.imp (·.trans (List.suffix_cons c _)) (·.trans (List.suffix_cons c _))
      · rw [heq]
        rcases List.suffix_or_suffix_of_suffix h hsuffix with htail | hafter
        · exact (ih after.length hshort htail rfl).imp (·.trans (List.suffix_append _ _))
            (·.trans (List.suffix_append _ _))
        · right
          obtain rfl := eq_nil_of_match? (fun c hc => hvalue c (hafter.mem hc)) hmatch
          rw [hide_nil, List.append_nil]
          exact stamp_suffix_note k

/-- A keyword, its separator and its value are replaced by the note. -/
theorem hide_credential (h : keyword.map Char.toLower = k.word.toList)
    (hseparator : isSeparator separator = true) (hne : value ≠ [])
    (hvalue : ∀ c ∈ value, isValueChar c = true) (hstops : stops back = true) :
    k.hide (keyword ++ separator :: (value ++ back)) = k.note.toList ++ k.hide back := by
  have hafter : k.after? (keyword ++ separator :: (value ++ back)) = some (separator :: (value ++ back)) := by
    rw [after?_append (stops_cons hseparator _), after?_written h]
    rfl
  have hmatch : k.match? (keyword ++ separator :: (value ++ back)) = some back := by
    rw [match?, hafter]
    exact afterValue?_separator_run hseparator hne hvalue hstops
  obtain ⟨-, hshort, -⟩ := match?_spec hmatch
  cases keyword with
  | nil => exact replaceAll_of_some hmatch hshort
  | cons c keyword => exact replaceAll_of_some hmatch hshort

/-- The keyword at the end of a text stands: what is found with it is not found in front of it. -/
def Stands (k : Keyword) (keyword text : List Char) : Prop :=
  ∃ kept, k.hide text = kept ++ keyword ∧ ∀ ⦃separator⦄ more, isSeparator separator = true →
    k.hide (text ++ separator :: more) = kept ++ k.hide (keyword ++ separator :: more)

/-- What a text ends in is taken for a value, and what follows is gone through by itself. -/
def Swallowed (k : Keyword) (text : List Char) : Prop :=
  stamp <:+ k.hide text ∧ ∀ ⦃separator⦄ more, isSeparator separator = true →
    k.hide (text ++ separator :: more) = k.hide text ++ separator :: k.hide more

/-- Both are a matter of what is left of a text after a step. -/
theorem stands_or_swallowed_of_step {new rest : List Char} (hstep : k.hide text = new ++ k.hide rest)
    (hsteps : ∀ ⦃separator⦄ more, isSeparator separator = true →
      k.hide (text ++ separator :: more) = new ++ k.hide (rest ++ separator :: more))
    (h : k.Stands keyword rest ∨ k.Swallowed rest) : k.Stands keyword text ∨ k.Swallowed text := by
  rcases h with ⟨kept, hkept, hlater⟩ | ⟨hstamp, hlater⟩
  · refine .inl ⟨new ++ kept, by rw [hstep, hkept, List.append_assoc],
      fun separator more hseparator => ?_⟩
    rw [hsteps more hseparator, hlater more hseparator, List.append_assoc]
  · refine .inr ⟨?_, fun separator more hseparator => ?_⟩
    · rw [hstep]
      exact hstamp.trans (List.suffix_append _ _)
    · rw [hsteps more hseparator, hlater more hseparator, hstep, List.append_assoc]

/-- **In front of a separator, a keyword either stands when its own rule comes to it, or is taken for the
value of a keyword in front of it.** -/
theorem stands_or_swallowed (h : keyword.map Char.toLower = k.word.toList) (front : List Char) :
    k.Stands keyword (front ++ keyword) ∨ k.Swallowed (front ++ keyword) := by
  induction hlength : front.length using Nat.strongRecOn generalizing front with
  | _ n ih =>
    subst hlength
    cases front with
    | nil =>
      exact .inl ⟨[], replaceAll_eq_self fun part hpart => match?_written h hpart, fun _ _ _ => rfl⟩
    | cons c front =>
      have hbeyond : k.after? (c :: (front ++ keyword)) ≠ some [] := by
        intro hafter
        have hlong := (after?_spec hafter).2.2
        rw [← length_written h, List.length_cons, List.length_append, List.length_nil] at hlong
        omega
      have hsplit ⦃separator : Char⦄ (more : List Char) (hseparator : isSeparator separator = true) :
          k.match? (c :: (front ++ keyword) ++ separator :: more) =
            (k.match? (c :: (front ++ keyword))).map (· ++ separator :: more) :=
        match?_append_separator hbeyond hseparator
      rw [List.cons_append]
      rcases hide_cases k c (front ++ keyword) with ⟨hmatch, heq⟩ | ⟨after, hmatch, hsuffix, hshort, heq⟩
      · have hstep : k.hide (c :: (front ++ keyword)) = [c] ++ k.hide (front ++ keyword) := heq
        refine stands_or_swallowed_of_step hstep (fun separator more hseparator => ?_)
          (ih front.length (Nat.lt_succ_self _) front rfl)
        exact replaceAll_of_none ((hsplit more hseparator).trans (by rw [hmatch, Option.map_none]))
      · have hsteps ⦃separator : Char⦄ (more : List Char) (hseparator : isSeparator separator = true) :
            k.hide (c :: (front ++ keyword) ++ separator :: more) =
              k.note.toList ++ k.hide (after ++ separator :: more) := by
          have hfound := hsplit more hseparator
          rw [hmatch, Option.map_some] at hfound
          exact replaceAll_of_some hfound (match?_spec hfound).2.1
        have hkeyword : keyword <:+ c :: (front ++ keyword) :=
          List.suffix_append (c :: front) keyword
        rcases List.suffix_or_suffix_of_suffix hkeyword hsuffix with ⟨front', rfl⟩ | hafter
        · refine stands_or_swallowed_of_step heq hsteps (ih front'.length ?_ front' rfl)
          simp only [List.length_cons, List.length_append] at hshort
          simp only [List.length_cons]
          omega
        · obtain rfl :=
            eq_nil_of_match? (fun c hc => isValueChar_written h c (hafter.mem hc)) hmatch
          rw [hide_nil, List.append_nil] at heq
          refine .inr ⟨by rw [heq]; exact stamp_suffix_note k, fun separator more hseparator => ?_⟩
          rw [hsteps more hseparator, heq, List.nil_append, hide_of_stops (stops_cons hseparator more)]

/-! ### Values in the place of values -/

theorem dropOne_hide {drop : Char → Bool} (h : stops text = true) :
    dropOne drop (k.hide text) = k.hide (dropOne drop text) := by
  cases text with
  | nil => rw [hide_nil, dropOne, hide_nil]
  | cons c rest =>
    rw [hide_of_stops h, dropOne, dropOne]
    split
    · rfl
    · rw [hide_of_stops h]

theorem stops_of_dropOne {drop : Char → Bool} (hdrop : ∀ c, drop c = true → isValueChar c = false)
    (h : stops (dropOne drop text) = true) : stops text = true := by
  cases text with
  | nil => rfl
  | cons c rest =>
    rw [dropOne] at h
    split at h
    · next hc =>
      rw [stops, hdrop c hc]
      rfl
    · exact h

theorem stops_of_afterRun? (h : afterRun? (fun c => isWord c || c == '-') text = none) :
    stops text = true := by
  cases text with
  | nil => rfl
  | cons c rest =>
    rw [afterRun?] at h
    split at h
    · cases h
    · next hc => rw [stops, isValueChar, Bool.eq_false_iff.mpr hc]; rfl

theorem afterRun?_of_stops (h : stops text = true) :
    afterRun? (fun c => isWord c || c == '-') text = none := by
  cases text with
  | nil => rfl
  | cons c rest =>
    rw [stops, isValueChar, Bool.not_eq_true'] at h
    rw [afterRun?, h, if_neg Bool.false_ne_true]

/-- Where no value follows, none does after a rule has gone over the text. -/
theorem afterValue?_hide (h : afterValue? text = none) : afterValue? (k.hide text) = none := by
  have hblank : ∀ c, isBlank c = true → isValueChar c = false := fun c hc => by
    rw [← Bool.not_eq_true]
    intro hvalue
    rw [isBlank_of_isValueChar hvalue] at hc
    cases hc
  rw [afterValue?] at h ⊢
  have hinner := stops_of_afterRun? h
  have hmiddle := stops_of_dropOne hblank hinner
  have houter := stops_of_dropOne (fun c hc => isValueChar_of_isSeparator hc) hmiddle
  rw [dropOne_hide houter, dropOne_hide hmiddle]
  exact afterRun?_of_stops (stops_hide hinner)

end Keyword

/-! ### Several rules -/

/-- The text without several kinds of credentials, one kind after the other. -/
def hideAll (ks : List Keyword) (text : List Char) : List Char :=
  ks.foldl (fun text k => k.hide text) text

theorem hideAll_cons (k : Keyword) (ks : List Keyword) (text : List Char) :
    hideAll (k :: ks) text = hideAll ks (k.hide text) := rfl

theorem hideAll_append (ks ks' : List Keyword) (text : List Char) :
    hideAll (ks ++ ks') text = hideAll ks' (hideAll ks text) := List.foldl_append

theorem stops_hideAll (h : stops text = true) : stops (hideAll ks text) = true := by
  induction ks generalizing text with
  | nil => exact h
  | cons k ks ih => exact ih (Keyword.stops_hide h)

/-- The texts on both sides of a separator are gone through by themselves by all rules, if none of them is for
a keyword that the first one may end in. -/
theorem hideAll_append_separator (hvalue : ∀ c ∈ tail, isValueChar c = true)
    (hfree : ∀ k ∈ ks, ∀ text, tail <:+ text → ¬ k.Ends text) (h : isSeparator separator = true)
    (hfront : tail <:+ front ∨ Keyword.stamp <:+ front) (more : List Char) :
    hideAll ks (front ++ separator :: more) = hideAll ks front ++ separator :: hideAll ks more ∧
      (tail <:+ hideAll ks front ∨ Keyword.stamp <:+ hideAll ks front) := by
  induction ks generalizing front more with
  | nil => exact ⟨rfl, hfront⟩
  | cons k ks ih =>
    obtain ⟨hk, hks⟩ := List.forall_mem_cons.mp hfree
    have hends : ¬ k.Ends front := hfront.elim (hk front) Keyword.not_ends_of_stamp
    have hnext : tail <:+ k.hide front ∨ Keyword.stamp <:+ k.hide front := by
      rcases hfront with htail | hstamp
      · exact Keyword.suffix_hide hvalue htail
      · exact .inr (or_self_iff.mp (Keyword.suffix_hide Keyword.isValueChar_stamp hstamp))
    rw [hideAll_cons, hideAll_cons, hideAll_cons, Keyword.hide_append_separator hends h]
    exact ih hks hnext _

theorem hideAll_append_separator_of_stamp (h : isSeparator separator = true)
    (hfront : Keyword.stamp <:+ front) (more : List Char) :
    hideAll ks (front ++ separator :: more) = hideAll ks front ++ separator :: hideAll ks more :=
  (hideAll_append_separator Keyword.isValueChar_stamp
    (fun _ _ _ => Keyword.not_ends_of_stamp) h (.inl hfront) more).1

/-- A value stays a value in front of what follows it. -/
theorem exists_hideAll_append (hne : value ≠ []) (hvalue : ∀ c ∈ value, isValueChar c = true)
    (hstops : stops back = true) (hends : ∀ k ∈ ks, k.Ends value → afterValue? back = none) :
    ∃ value', value' ≠ [] ∧ (∀ c ∈ value', isValueChar c = true) ∧
      hideAll ks (value ++ back) = value' ++ hideAll ks back := by
  induction ks generalizing value back with
  | nil => exact ⟨value, hne, hvalue, rfl⟩
  | cons k ks ih =>
    obtain ⟨hk, hks⟩ := List.forall_mem_cons.mp hends
    rw [hideAll_cons, hideAll_cons, Keyword.hide_append_run hvalue hstops hk]
    refine ih (Keyword.hide_ne_nil hne) (Keyword.isValueChar_hide hvalue) (Keyword.stops_hide hstops)
      fun later hlater hlast => ?_
    rcases Keyword.hide_run (k := k) hvalue with hself | hstamp
    · rw [hself] at hlast
      exact Keyword.afterValue?_hide (hks later hlater hlast)
    · exact absurd hlast (Keyword.not_ends_of_stamp hstamp)

/-! ### All rules -/

namespace Keyword

/-- The kinds of credentials in the order of their rules. -/
def all : List Keyword := [apiKey, token, password, secret]

/-- The kinds whose rules come before that of `k`. -/
def earlier (k : Keyword) : List Keyword := all.takeWhile (· != k)

/-- The kinds whose rules come after that of `k`. -/
def later (k : Keyword) : List Keyword := (all.dropWhile (· != k)).tail

theorem all_eq (k : Keyword) : all = k.earlier ++ k :: k.later := by cases k <;> rfl

theorem ne_of_mem_earlier {e : Keyword} (h : e ∈ k.earlier) : e ≠ k := by
  revert h
  cases k <;> cases e <;> decide

end Keyword

open Keyword (stamp)

section credentials

variable {before : List Char}

/-- What the rules in front of that of a keyword make of a text that ends in it. -/
theorem hideAll_earlier (h : keyword.map Char.toLower = k.word.toList)
    (hseparator : isSeparator separator = true) (more : List Char) :
    hideAll k.earlier (before ++ keyword ++ separator :: more) =
        hideAll k.earlier (before ++ keyword) ++ separator :: hideAll k.earlier more ∧
      (keyword <:+ hideAll k.earlier (before ++ keyword) ∨
        stamp <:+ hideAll k.earlier (before ++ keyword)) := by
  refine hideAll_append_separator (Keyword.isValueChar_written h) (fun e he text htext hends => ?_) hseparator
    (.inl (List.suffix_append _ _)) more
  exact Keyword.ne_of_mem_earlier he (hends.unique ⟨keyword, htext, Keyword.after?_written h⟩)

/-- What the rule of a keyword makes of what the ones in front of it leave. -/
theorem stands_or_swallowed_earlier (h : keyword.map Char.toLower = k.word.toList) (before : List Char) :
    k.Stands keyword (hideAll k.earlier (before ++ keyword)) ∨
      k.Swallowed (hideAll k.earlier (before ++ keyword)) := by
  have hguarded : keyword <:+ hideAll k.earlier (before ++ keyword) ∨
      stamp <:+ hideAll k.earlier (before ++ keyword) :=
    (hideAll_earlier h (show isSeparator '=' = true from rfl) []).2
  rcases hguarded with ⟨front, hfront⟩ | hstamp
  · rw [← hfront]
    exact Keyword.stands_or_swallowed h front
  · exact .inr ⟨or_self_iff.mp (Keyword.suffix_hide Keyword.isValueChar_stamp hstamp),
      fun _ _ => Keyword.hide_append_separator (Keyword.not_ends_of_stamp hstamp)⟩

/-- **A keyword that stands hides its value.** -/
theorem hideAll_of_stands (h : keyword.map Char.toLower = k.word.toList)
    (hseparator : isSeparator separator = true) (hstops : stops back = true)
    (hstands : keyword <:+ hideAll (k.earlier ++ [k]) (before ++ keyword)) :
    ∃ message, ∀ value ≠ [], (∀ c ∈ value, isValueChar c = true) →
      (∀ e ∈ k.earlier, e.Ends value → afterValue? back = none) →
      hideAll Keyword.all (before ++ keyword ++ separator :: (value ++ back)) = message := by
  rw [hideAll_append, hideAll_cons] at hstands
  rcases stands_or_swallowed_earlier h before with ⟨kept, -, hlater⟩ | ⟨hstamp, -⟩
  · refine ⟨hideAll k.later (kept ++ (k.note.toList ++ k.hide (hideAll k.earlier back))),
      fun value hne hvalue hends => ?_⟩
    obtain ⟨value', hne', hvalue', heq⟩ := exists_hideAll_append hne hvalue hstops hends
    rw [k.all_eq, hideAll_append, (hideAll_earlier h hseparator _).1, heq, hideAll_cons,
      hlater _ hseparator, Keyword.hide_credential h hseparator hne' hvalue' (stops_hideAll hstops)]
  · exact absurd ⟨keyword, hstands, Keyword.after?_written h⟩ (Keyword.not_ends_of_stamp hstamp)

/-- **Behind a keyword that does not stand, everything is gone through by itself.** -/
theorem hideAll_of_swallowed (h : keyword.map Char.toLower = k.word.toList)
    (hseparator : isSeparator separator = true)
    (hfalls : ¬ keyword <:+ hideAll (k.earlier ++ [k]) (before ++ keyword)) (more : List Char) :
    hideAll Keyword.all (before ++ keyword ++ separator :: more) =
      hideAll Keyword.all (before ++ keyword) ++ separator :: hideAll Keyword.all more := by
  rw [hideAll_append, hideAll_cons] at hfalls
  rcases stands_or_swallowed_earlier h before with ⟨kept, hkept, -⟩ | ⟨hstamp, hlater⟩
  · refine absurd ?_ hfalls
    rw [hkept]
    exact List.suffix_append _ _
  · simp only [k.all_eq, hideAll_append, hideAll_cons]
    rw [(hideAll_earlier h hseparator _).1, hlater _ hseparator,
      hideAll_append_separator_of_stamp hseparator hstamp]

end credentials

/-! ### Paths -/

theorem afterDirectories?_spec {rest : List Char} (h : afterDirectories? c text = some rest) :
    rest <:+ text := by
  rw [afterDirectories?] at h
  split at h
  · obtain rfl := Option.some.inj h
    generalize htake : text.takeWhile (fun d => isWord d || d == c) = run
    have htail : (run.reverse.takeWhile (· != c)).reverse <:+ run := by
      have := List.takeWhile_prefix (· != c) (l := run.reverse)
      rw [← List.reverse_suffix, List.reverse_reverse] at this
      exact this
    obtain ⟨front, hfront⟩ := htail
    refine ⟨front, ?_⟩
    rw [← List.append_assoc, hfront, ← htake, List.takeWhile_append_dropWhile]
  · cases h

theorem afterPath?_of_ne (h : c ≠ '/') : afterPath? (c :: text) = none :=
  afterPath?.eq_2 _ fun _ heq => h (List.cons.inj heq).1

theorem afterDrivePath?_of_not_upper (h : c.isUpper = false) : afterDrivePath? (c :: text) = none := by
  rw [afterDrivePath?.eq_def]
  split
  · next heq =>
    obtain ⟨rfl, rfl⟩ := List.cons.inj heq
    rw [h, if_neg Bool.false_ne_true]
  · rfl

/-- Directories end in front of a separator. -/
theorem afterDirectories?_append (hword : isWord separator = false) (hne : separator ≠ c) :
    afterDirectories? c (text ++ separator :: more) =
      (afterDirectories? c text).map (· ++ separator :: more) := by
  have hstop : (isWord separator || separator == c) = false := by
    rw [hword, Bool.false_or]
    exact beq_false_of_ne hne
  have htake : (text ++ separator :: more).takeWhile (fun d => isWord d || d == c) =
      text.takeWhile fun d => isWord d || d == c := by
    induction text with
    | nil => rw [List.nil_append, List.takeWhile_cons, hstop, if_neg Bool.false_ne_true, List.takeWhile_nil]
    | cons d text ih => rw [List.cons_append, List.takeWhile_cons, List.takeWhile_cons, ih]
  have hdrop : (text ++ separator :: more).dropWhile (fun d => isWord d || d == c) =
      (text.dropWhile fun d => isWord d || d == c) ++ separator :: more := by
    clear htake
    induction text with
    | nil => rw [List.nil_append, List.dropWhile_cons, hstop, if_neg Bool.false_ne_true]; rfl
    | cons d text ih =>
      rw [List.cons_append, List.dropWhile_cons, List.dropWhile_cons, ih]
      split <;> rfl
  rw [afterDirectories?, afterDirectories?]
  rw [htake, hdrop]
  split
  · rw [Option.map_some, List.append_assoc]
  · rfl

theorem reads_afterPath? : Reads afterPath? := by
  intro text rest h
  match text with
  | [] => cases h
  | d :: text =>
    rw [afterPath?.eq_def] at h
    split at h
    · next heq =>
      obtain ⟨rfl, rfl⟩ := List.cons.inj heq
      have := afterDirectories?_spec h
      exact ⟨this.trans (List.suffix_cons _ _), Nat.lt_succ_of_le this.length_le⟩
    · cases h

theorem reads_afterDrivePath? : Reads afterDrivePath? := by
  intro text rest h
  rw [afterDrivePath?.eq_def] at h
  split at h
  · split at h
    · have := afterDirectories?_spec h
      refine ⟨((this.trans (List.suffix_cons _ _)).trans (List.suffix_cons _ _)).trans
        (List.suffix_cons _ _), ?_⟩
      have := this.length_le
      simp only [List.length_cons]
      omega
    · cases h
  · cases h

theorem afterPath?_append (h : isSeparator separator = true) (hne : text ≠ []) :
    afterPath? (text ++ separator :: more) = (afterPath? text).map (· ++ separator :: more) := by
  have hword : isWord separator = false := by rcases isSeparator_iff.mp h with rfl | rfl <;> rfl
  have hslash : separator ≠ '/' := by rcases isSeparator_iff.mp h with rfl | rfl <;> decide
  cases text with
  | nil => exact absurd rfl hne
  | cons d text =>
    by_cases hd : d = '/'
    · subst hd
      exact afterDirectories?_append hword hslash
    · rw [List.cons_append, afterPath?_of_ne hd, afterPath?_of_ne hd]
      rfl

theorem afterDrivePath?_append (h : isSeparator separator = true) (hmore : more.head? ≠ some '\\')
    (hne : text ≠ []) :
    afterDrivePath? (text ++ separator :: more) = (afterDrivePath? text).map (· ++ separator :: more) := by
  have hword : isWord separator = false := by rcases isSeparator_iff.mp h with rfl | rfl <;> rfl
  have hslash : separator ≠ '\\' := by rcases isSeparator_iff.mp h with rfl | rfl <;> decide
  by_cases hdrive : ∃ drive rest, text = drive :: ':' :: '\\' :: rest
  · obtain ⟨drive, rest, rfl⟩ := hdrive
    simp only [List.cons_append, afterDrivePath?.eq_1]
    split
    · exact afterDirectories?_append hword hslash
    · rfl
  · have hthere : ∀ drive rest, text ++ separator :: more = drive :: ':' :: '\\' :: rest → False := by
      intro drive rest heq
      match text with
      | [] => exact hne rfl
      | [_] =>
        simp only [List.cons_append, List.nil_append, List.cons.injEq] at heq
        exact hmore (by rw [heq.2.2]; rfl)
      | [_, _] =>
        simp only [List.cons_append, List.nil_append, List.cons.injEq] at heq
        exact hslash heq.2.2.1
      | _ :: _ :: _ :: text =>
        simp only [List.cons_append, List.cons.injEq] at heq
        obtain ⟨-, rfl, rfl, -⟩ := heq
        exact hdrive ⟨_, _, rfl⟩
    rw [afterDrivePath?.eq_2 _ hthere,
      afterDrivePath?.eq_2 _ fun drive rest heq => hdrive ⟨drive, rest, heq⟩]
    rfl

/-- The text without directories. -/
def hidePaths (text : List Char) : List Char :=
  replaceAll afterDrivePath? "PATH_REDACTED\\".toList (replaceAll afterPath? "/PATH_REDACTED/".toList text)

/-- A character that no path starts with stays. -/
theorem hidePaths_cons (hslash : c ≠ '/') (hupper : c.isUpper = false) (more : List Char) :
    hidePaths (c :: more) = c :: hidePaths more := by
  rw [hidePaths, replaceAll_of_none (afterPath?_of_ne hslash),
    replaceAll_of_none (afterDrivePath?_of_not_upper hupper), hidePaths]

/-- The texts on both sides of a separator are gone through by themselves, unless the separator may be the
colon of a drive. -/
theorem hidePaths_append_separator (h : isSeparator separator = true) (hmore : more.head? ≠ some '\\') :
    hidePaths (front ++ separator :: more) = hidePaths front ++ separator :: hidePaths more := by
  have hslash : separator ≠ '/' := by rcases isSeparator_iff.mp h with rfl | rfl <;> decide
  have hupper : separator.isUpper = false := by rcases isSeparator_iff.mp h with rfl | rfl <;> rfl
  have hlater : (replaceAll afterPath? "/PATH_REDACTED/".toList more).head? ≠ some '\\' :=
    head?_replaceAll reads_afterPath? ⟨_, _, rfl, by decide⟩ hmore
  rw [hidePaths, replaceAll_append reads_afterPath? fun part _ hne => afterPath?_append h hne,
    replaceAll_of_none (afterPath?_of_ne hslash),
    replaceAll_append reads_afterDrivePath? fun part _ hne => afterDrivePath?_append h hlater hne,
    replaceAll_of_none (afterDrivePath?_of_not_upper hupper), hidePaths, hidePaths]

/-! ### Messages -/

/-- The whole message, before it is cut off. -/
def redact (text : List Char) : List Char :=
  hidePaths (hideAll Keyword.all text)

theorem match?_apiKey : afterApiKey? = Keyword.apiKey.match? := by
  funext text
  rw [afterApiKey?, Keyword.match?, Keyword.after?_apiKey, Option.bind_assoc]
  rfl

/-- The message without credentials and directories is `redact` of it. -/
theorem sanitizeMessage_eq (message : String) :
    sanitizeMessage message = String.ofList ((redact message.toList).take maxLength) := by
  rw [sanitizeMessage, rules, match?_apiKey]
  rfl

theorem head?_hideAll {bad : Char} (hbad : bad ∉ ['A', 'T', 'P', 'S']) (h : text.head? ≠ some bad) :
    (hideAll ks text).head? ≠ some bad := by
  induction ks generalizing text with
  | nil => exact h
  | cons k ks ih =>
    refine ih (head?_replaceAll Keyword.reads ?_ h)
    cases k <;> refine ⟨_, _, rfl, ?_⟩ <;> rintro rfl <;> exact hbad (by decide)

/-- Behind a keyword that does not stand, everything is redacted by itself. -/
theorem redact_of_swallowed {before : List Char} (h : keyword.map Char.toLower = k.word.toList)
    (hseparator : isSeparator separator = true)
    (hfalls : ¬ keyword <:+ hideAll (k.earlier ++ [k]) (before ++ keyword))
    (hmore : more.head? ≠ some '\\') :
    redact (before ++ keyword ++ separator :: more) =
      redact (before ++ keyword) ++ separator :: redact more := by
  rw [redact, hideAll_of_swallowed h hseparator hfalls,
    hidePaths_append_separator hseparator (head?_hideAll (by decide) hmore)]
  rfl

/-- A character that neither a keyword nor a path starts with stays in front of what stops a value. -/
theorem redact_cons (hkeyword : ∀ k : Keyword, k.after? [c] = none) (hslash : c ≠ '/')
    (hupper : c.isUpper = false) (hstops : stops back = true) : redact (c :: back) = c :: redact back := by
  have hhide : ∀ ks, hideAll ks (c :: back) = c :: hideAll ks back := by
    intro ks
    induction ks generalizing back with
    | nil => rfl
    | cons k ks ih =>
      have hafter : k.after? ([c] ++ back) = (k.after? [c]).map (· ++ back) := Keyword.after?_append hstops
      have hnone : k.match? (c :: back) = none := by
        rw [hkeyword, Option.map_none, List.singleton_append] at hafter
        rw [Keyword.match?, hafter, Option.bind_none]
      have hstep : k.hide (c :: back) = c :: k.hide back := replaceAll_of_none hnone
      rw [hideAll_cons, hideAll_cons, hstep]
      exact ih (Keyword.stops_hide hstops)
  rw [redact, hhide, hidePaths_cons hslash hupper, redact]

/-- A value for a keyword, in a message that goes on with `after`: a run of word characters and hyphens. It
does not end in the keyword of an earlier rule in front of something that this rule would take for
its value. -/
structure IsValue (k : Keyword) (after value : String) : Prop where
  nonempty : value ≠ ""
  chars : ∀ c ∈ value.toList, isValueChar c = true
  ends : ∀ e ∈ k.earlier, e.Ends value.toList → afterValue? after.toList = none

/-- A run that no keyword of an earlier rule reaches to the end of is a value whatever follows. -/
theorem isValue_of_tails {value : String} (hne : value ≠ "") (hchars : value.toList.all isValueChar = true)
    (htails : ∀ e ∈ k.earlier, ∀ part ∈ value.toList.tails, e.after? part ≠ some []) (after : String) :
    IsValue k after value :=
  ⟨hne, List.all_eq_true.mp hchars, fun e he ⟨part, hpart, hends⟩ =>
    absurd hends (htails e he part ((List.mem_tails part _).mpr hpart))⟩

/-- A value does not start with a backslash. -/
theorem IsValue.head?_ne {after value : String} (h : IsValue k after value) :
    (value.toList ++ after.toList).head? ≠ some '\\' := by
  cases hlist : value.toList with
  | nil => exact absurd (String.toList_eq_nil_iff.mp hlist) h.nonempty
  | cons c rest =>
    have hc : isValueChar c = true := h.chars c (by rw [hlist]; exact List.mem_cons_self)
    rw [List.cons_append, List.head?_cons]
    intro heq
    rw [Option.some.inj heq] at hc
    exact absurd hc (by decide)

section messages

variable {before keyword after value : String}

theorem toList_message (before keyword value after : String) (separator : Char) :
    (before ++ keyword ++ String.singleton separator ++ value ++ after).toList =
      (before ++ keyword).toList ++ separator :: (value.toList ++ after.toList) := by
  simp [String.toList_append]

/-- What becomes of a message in which the keyword does not stand. -/
theorem sanitizeMessage_of_swallowed (hkeyword : keyword.toList.map Char.toLower = k.word.toList)
    (hseparator : isSeparator separator = true)
    (hfalls : ¬ keyword.toList <:+ hideAll (k.earlier ++ [k]) (before ++ keyword).toList)
    (hhead : (value.toList ++ after.toList).head? ≠ some '\\') :
    sanitizeMessage (before ++ keyword ++ String.singleton separator ++ value ++ after) =
      String.ofList (((redact (before ++ keyword).toList) ++
        separator :: redact (value.toList ++ after.toList)).take maxLength) := by
  rw [sanitizeMessage_eq, toList_message]
  rw [String.toList_append] at hfalls ⊢
  rw [redact_of_swallowed hkeyword hseparator hfalls hhead]

/-- Behind a keyword that does not stand, two values are told apart as long as something of them is kept. -/
theorem maxLength_le_of_hidden (hkeyword : keyword.toList.map Char.toLower = k.word.toList)
    (hseparator : isSeparator separator = true) (hafter : stops after.toList = true)
    (hfalls : ¬ keyword.toList <:+ hideAll (k.earlier ++ [k]) (before ++ keyword).toList)
    (hhidden : sanitizeMessage (before ++ keyword ++ String.singleton separator ++ "0" ++ after) =
      sanitizeMessage (before ++ keyword ++ String.singleton separator ++ "1" ++ after)) :
    maxLength ≤ (redact (before ++ keyword).toList).length + 1 := by
  have hzero : redact ("0".toList ++ after.toList) = '0' :: redact after.toList :=
    redact_cons (fun k => by cases k <;> rfl) (by decide) rfl hafter
  have hone : redact ("1".toList ++ after.toList) = '1' :: redact after.toList :=
    redact_cons (fun k => by cases k <;> rfl) (by decide) rfl hafter
  rw [sanitizeMessage_of_swallowed hkeyword hseparator hfalls (by simp), hzero,
    sanitizeMessage_of_swallowed hkeyword hseparator hfalls (by simp), hone] at hhidden
  by_contra hkept
  have hplace := congrArg (·[(redact (before ++ keyword).toList).length + 1]?)
    (String.ofList_injective hhidden)
  simp only [List.getElem?_take_of_lt (Nat.lt_of_not_le hkept)] at hplace
  simp at hplace

/-- **Exactly when a message hides a value.** Behind a keyword and a separator, the message is the same
whatever the value is, if the keyword stands when its own rule has gone over what is in front of the
separator, or if nothing of the value is kept; and otherwise it is not. -/
theorem hides_iff (k : Keyword) {before keyword after : String} {separator : Char}
    (hkeyword : keyword.toLower = k.word) (hseparator : separator = '=' ∨ separator = ':')
    (hafter : stops after.toList = true) :
    (∀ value value', IsValue k after value → IsValue k after value' →
      sanitizeMessage (before ++ keyword ++ String.singleton separator ++ value ++ after) =
        sanitizeMessage (before ++ keyword ++ String.singleton separator ++ value' ++ after)) ↔
    keyword.toList <:+ hideAll (k.earlier ++ [k]) (before ++ keyword).toList ∨
      maxLength ≤ (redact (before ++ keyword).toList).length + 1 := by
  have hwritten : keyword.toList.map Char.toLower = k.word.toList := by
    rw [← hkeyword]
    exact String.toList_map.symm
  have hseparator := isSeparator_iff.mpr hseparator
  by_cases hstands : keyword.toList <:+ hideAll (k.earlier ++ [k]) (before ++ keyword).toList
  · refine iff_of_true (fun value value' hvalue hvalue' => ?_) (.inl hstands)
    rw [String.toList_append] at hstands
    obtain ⟨message, hmessage⟩ := hideAll_of_stands hwritten hseparator hafter hstands
    have hsame (value : String) (h : IsValue k after value) := hmessage value.toList
      (by simpa using h.nonempty) h.chars h.ends
    rw [sanitizeMessage_eq, sanitizeMessage_eq, toList_message, toList_message, String.toList_append, redact,
      redact, hsame value hvalue, hsame value' hvalue']
  · rw [or_iff_right hstands]
    have hzero : IsValue k after "0" :=
      isValue_of_tails (by decide) (by decide) (by cases k <;> decide) after
    have hone : IsValue k after "1" :=
      isValue_of_tails (by decide) (by decide) (by cases k <;> decide) after
    refine ⟨fun hhidden => maxLength_le_of_hidden hwritten hseparator hafter hstands
      (hhidden "0" "1" hzero hone), fun hcut => ?_⟩
    have hcommon (value : String) (h : IsValue k after value) :
        sanitizeMessage (before ++ keyword ++ String.singleton separator ++ value ++ after) =
          String.ofList ((redact (before ++ keyword).toList ++ [separator]).take maxLength) := by
      rw [sanitizeMessage_of_swallowed hwritten hseparator hstands h.head?_ne, List.append_cons,
        List.take_append_of_le_length (by simpa using hcut)]
    exact fun value value' hvalue hvalue' => (hcommon value hvalue).trans (hcommon value' hvalue').symm

end messages

theorem hides_ofToken :
    "Token".toLower = Keyword.token.word ∧ ('=' = '=' ∨ '=' = ':') ∧ stops " refused".toList = true ∧
      sanitizeMessage ("bad " ++ "Token" ++ String.singleton '=' ++ "hunter2" ++ " refused") =
        sanitizeMessage ("bad " ++ "Token" ++ String.singleton '=' ++ "swordfish" ++ " refused") := by
  have hstands : "Token".toList <:+ hideAll (Keyword.token.earlier ++ [.token]) ("bad " ++ "Token").toList := by
    have hself : hideAll (Keyword.token.earlier ++ [.token]) ("bad " ++ "Token").toList =
      "bad ".toList ++ "Token".toList := by decide +kernel
    rw [hself]
    exact List.suffix_append _ _
  have hword : "Token".toLower = Keyword.token.word := by decide +kernel
  refine ⟨hword, .inl rfl, rfl, ?_⟩
  exact (hides_iff .token hword (.inl rfl) rfl).mpr (.inl hstands) "hunter2" "swordfish"
    (isValue_of_tails (by decide) (by decide) (by decide) _)
    (isValue_of_tails (by decide) (by decide) (by decide) _)

/-- Behind a keyword that is the value of another one, a value is shown. -/
theorem shown_behind_token :
    "secret".toLower = Keyword.secret.word ∧ stops "".toList = true ∧
      (∀ value ∈ ["hunter2", "swordfish"], value ≠ "" ∧ (∀ c ∈ value.toList, isValueChar c = true) ∧
        ∀ k : Keyword, ∀ part ∈ value.toList.tails, k.after? part = none) ∧
      sanitizeMessage ("invalid token " ++ "secret" ++ String.singleton '=' ++ "hunter2" ++ "") =
        "invalid TOKEN_REDACTED=hunter2" ∧
      sanitizeMessage ("invalid token " ++ "secret" ++ String.singleton '=' ++ "swordfish" ++ "") =
        "invalid TOKEN_REDACTED=swordfish" := by
  refine ⟨by decide +kernel, rfl, ?_, by decide +kernel, by decide +kernel⟩
  intro value hvalue
  simp only [List.mem_cons, List.not_mem_nil, or_false] at hvalue
  rcases hvalue with rfl | rfl <;>
    refine ⟨by decide, List.all_eq_true.mp (by decide), fun k => ?_⟩ <;> cases k <;> decide

end Toolwright.Redaction
