import Toolwright.Name.Reserved
import Toolwright.Proofs.Name.Allocator
import Toolwright.Proofs.Text.Lower
import Toolwright.Tool.Flatten

/-!
# Names that can be used as they are

A usable name has the form `[a-z_][a-z0-9_]*` and is no reserved word. Normalised names only have
the right characters (`IsWord`): they may be empty, begin with a digit, or be reserved. `safe` and
then `ensure` make them usable (`usable_ensure_safe`), and more words behind an underscore keep them
so (`usable_append`), such as a number (`usable_suffixed`). Nothing here depends on how a text is
romanised, because what is not a character of an identifier is dropped afterwards.
-/

namespace Toolwright.Name

/-- The characters of normalised names: small letters, digits and underscores. -/
def isWordChar (c : Char) : Bool :=
  c.isLower || c.isDigit || c == '_'

/-- A name without other characters. -/
def IsWord (name : String) : Prop := ∀ c ∈ name.toList, isWordChar c = true

instance (name : String) : Decidable (IsWord name) :=
  List.decidableBAll (fun c => isWordChar c = true) name.toList

/-- Whether a name has the form `[a-z_][a-z0-9_]*`. -/
def isIdentifier (name : String) : Bool :=
  match name.toList with
  | [] => false
  | c :: rest => (c.isLower || c == '_') && rest.all isWordChar

/-- A name that can be used as it is. -/
structure Usable (name : String) : Prop where
  identifier : isIdentifier name = true
  unreserved : isReserved name = false

theorem Usable.ne_empty {name : String} (h : Usable name) : name ≠ "" := by
  rintro rfl
  exact absurd h.identifier (by decide)

/-! ### Characters -/

theorem toNat_lt_of_isIdentChar {c : Char} (h : isIdentChar c = true) : c.toNat < 0x80 := by
  rcases Bool.or_eq_true_iff.mp h with halphanum | hunder
  · exact Text.toNat_lt_of_isAlphanum halphanum
  · rw [beq_iff_eq.mp hunder]
    decide

/-- What is true of every character of identifiers, one by one. -/
theorem forall_identChar {P : Char → Prop}
    (h : ∀ n < 0x80, isIdentChar (Char.ofNat n) = true → P (Char.ofNat n)) {c : Char}
    (hc : isIdentChar c = true) : P c :=
  Text.forall_ascii (P := fun c => isIdentChar c = true → P c) h (toNat_lt_of_isIdentChar hc) hc

theorem isIdentChar_of_isWordChar {c : Char} (h : isWordChar c = true) : isIdentChar c = true := by
  have hwider : (c.isUpper || (c.isLower || c.isDigit || c == '_')) = true := by
    rw [Bool.or_eq_true]
    exact .inr h
  rw [← Bool.or_assoc, ← Bool.or_assoc] at hwider
  exact hwider

/-- What is true of every character of normalised names, one by one. -/
theorem forall_wordChar {P : Char → Prop}
    (h : ∀ n < 0x80, isWordChar (Char.ofNat n) = true → P (Char.ofNat n)) {c : Char}
    (hc : isWordChar c = true) : P c :=
  forall_identChar (P := fun c => isWordChar c = true → P c) (fun n hn _ => h n hn)
    (isIdentChar_of_isWordChar hc) hc

theorem isUpper_of_isWordChar {c : Char} (h : isWordChar c = true) : c.isUpper = false :=
  forall_wordChar (P := fun c => c.isUpper = false) (by decide) h

/-! ### Words -/

/-- A usable name begins with a character that is no digit. -/
theorem Usable.exists_cons {name : String} (h : Usable name) :
    ∃ c rest, name.toList = c :: rest ∧ c.isDigit = false ∧ ∀ d ∈ c :: rest, isWordChar d = true := by
  have hi := h.identifier
  unfold isIdentifier at hi
  cases hname : name.toList with
  | nil => rw [hname] at hi; cases hi
  | cons c rest =>
    rw [hname] at hi
    obtain ⟨hc, hrest⟩ := Bool.and_eq_true_iff.mp hi
    have hword : isWordChar c = true := by rw [isWordChar, Bool.or_right_comm, hc, Bool.true_or]
    have hdigit : (c.isLower || c == '_') = true → c.isDigit = false :=
      forall_wordChar (P := fun c => (c.isLower || c == '_') = true → c.isDigit = false)
        (by decide) hword
    exact ⟨c, rest, rfl, hdigit hc, List.forall_mem_cons.mpr ⟨hword, List.all_eq_true.mp hrest⟩⟩

theorem Usable.isWord {name : String} (h : Usable name) : IsWord name := by
  obtain ⟨c, rest, hname, -, hword⟩ := h.exists_cons
  rw [IsWord, hname]
  exact hword

theorem IsWord.append {a b : String} (ha : IsWord a) (hb : IsWord b) : IsWord (a ++ b) := by
  intro c hc
  rw [String.toList_append, List.mem_append] at hc
  rcases hc with hc | hc
  · exact ha c hc
  · exact hb c hc

theorem isWord_ofList {text : List Char} (h : ∀ c ∈ text, isWordChar c = true) :
    IsWord (String.ofList text) := by
  intro c hc
  rw [String.toList_ofList] at hc
  exact h c hc

/-- Names joined by underscores. -/
theorem isWord_underscoreJoin {names : List String} (h : ∀ name ∈ names, IsWord name) :
    IsWord (underscoreJoin names) := by
  intro c hc
  rw [underscoreJoin, String.toList_intercalate] at hc
  induction names with
  | nil => simp at hc
  | cons name rest ih =>
    cases rest with
    | nil =>
      rw [List.map_singleton, List.intercalate_singleton] at hc
      exact h name List.mem_cons_self c hc
    | cons next rest =>
      rw [List.map_cons, List.map_cons, List.intercalate_cons_cons, List.append_assoc,
        List.mem_append, List.mem_append] at hc
      rcases hc with hc | hc | hc
      · exact h name List.mem_cons_self c hc
      · obtain rfl : c = '_' := by simpa using hc
        decide
      · exact ih (fun n hn => h n (List.mem_cons_of_mem _ hn)) hc

/-! ### Normalised names are words -/

/-- Cutting a text before its capitals adds only underscores. -/
theorem mem_wordBreaks {inWord : Bool} {text : List Char} {c : Char}
    (h : c ∈ wordBreaks inWord text) : c ∈ text ∨ c = '_' := by
  fun_induction wordBreaks inWord text with
  | case1 => exact .inl h
  | case2 => grind
  | case3 => grind
  | case4 => grind
  | case5 => exact .inl h

theorem mem_caseBreaks {text : List Char} {c : Char} (h : c ∈ caseBreaks text) :
    c ∈ text ∨ c = '_' := by
  fun_induction caseBreaks text with
  | case1 => grind
  | case2 => grind
  | case3 => exact .inl h

theorem isWordChar_toLower {c : Char} (h : isIdentChar c = true) : isWordChar c.toLower = true :=
  forall_identChar (P := fun c => isWordChar c.toLower = true) (by decide) h

/-! ### Renaming and mending -/

theorem isReserved_iff {name : String} : isReserved name = true ↔ name ∈ reservedWords := by
  rw [isReserved, List.contains_iff_mem]

theorem timeBound?_eq_some {name context renamed : String}
    (h : timeBound? name context = some renamed) : renamed = "from_time" ∨ renamed = "to_time" := by
  unfold timeBound? at h
  split_ifs at h
  · exact .inl (Option.some.inj h).symm
  · exact .inr (Option.some.inj h).symm

theorem isWord_safe {name : String} (h : IsWord name) (context : String) :
    IsWord (safe name context) := by
  unfold safe
  cases hb : timeBound? name context with
  | some renamed =>
    dsimp only
    rcases timeBound?_eq_some hb with rfl | rfl <;> decide
  | none =>
    dsimp only
    split_ifs
    · exact h.append (by decide)
    · exact h.append (by decide)
    · exact h

theorem isReserved_append {name suffix : String}
    (h : ∀ word ∈ reservedWords, ¬ suffix.toList <:+ word.toList) :
    isReserved (name ++ suffix) = false := by
  rw [Bool.eq_false_iff]
  intro hr
  refine h _ (isReserved_iff.mp hr) ⟨name.toList, ?_⟩
  rw [String.toList_append]

theorem isReserved_safe (name context : String) : isReserved (safe name context) = false := by
  unfold safe
  cases hb : timeBound? name context with
  | some renamed =>
    dsimp only
    rcases timeBound?_eq_some hb with rfl | rfl <;> decide
  | none =>
    dsimp only
    split_ifs with hr
    · exact isReserved_append (by decide)
    · exact isReserved_append (by decide)
    · exact Bool.eq_false_iff.mpr hr

theorem isIdentifier_of_toList {name : String} {c : Char} {rest : List Char}
    (hname : name.toList = c :: rest) (hword : IsWord name) (hdigit : c.isDigit = false) :
    isIdentifier name = true := by
  have hc := hword c (by rw [hname]; exact List.mem_cons_self)
  rw [isWordChar, hdigit, Bool.or_false] at hc
  rw [isIdentifier, hname]
  refine Bool.and_eq_true_iff.mpr ⟨hc, List.all_eq_true.mpr fun d hd => ?_⟩
  exact hword d (by rw [hname]; exact List.mem_cons_of_mem _ hd)

/-- A word that is not reserved can be used once it is mended. -/
theorem usable_ensure {name : String} (hword : IsWord name) (hfree : isReserved name = false) :
    Usable (ensure name) := by
  unfold ensure
  cases hname : name.toList with
  | nil =>
    dsimp only
    exact ⟨by decide, by decide⟩
  | cons c rest =>
    dsimp only
    cases hdigit : c.isDigit with
    | false => exact ⟨isIdentifier_of_toList hname hword hdigit, hfree⟩
    | true =>
      rw [if_pos rfl]
      have hlist : (String.ofList ('_' :: c :: rest)).toList = '_' :: c :: rest :=
        String.toList_ofList
      refine ⟨isIdentifier_of_toList hlist ?_ rfl, ?_⟩
      · refine isWord_ofList fun d hd => ?_
        rcases List.mem_cons.mp hd with rfl | hd
        · rfl
        · exact hword d (hname ▸ hd)
      · -- the only reserved word that begins with an underscore is the underscore
        have honly : ∀ word ∈ reservedWords, word.toList.head? = some '_' → word.toList = ['_'] := by
          decide
        rw [Bool.eq_false_iff]
        intro hr
        have := honly _ (isReserved_iff.mp hr) (by rw [hlist]; rfl)
        rw [hlist] at this
        cases this

/-- **A word made safe and mended is usable**, whatever the context. -/
theorem usable_ensure_safe {name : String} (h : IsWord name) (context : String) :
    Usable (ensure (safe name context)) :=
  usable_ensure (isWord_safe h context) (isReserved_safe name context)

/-! ### More behind a name -/

/-- A usable name stays usable with anything behind it that has an underscore: no reserved word has
one after its first character. -/
theorem usable_append {name suffix : String} (h : Usable name) (hword : IsWord suffix)
    (hcut : '_' ∈ suffix.toList) : Usable (name ++ suffix) := by
  obtain ⟨c, rest, hname, hdigit, -⟩ := h.exists_cons
  have hlist : (name ++ suffix).toList = c :: (rest ++ suffix.toList) := by
    rw [String.toList_append, hname, List.cons_append]
  refine ⟨isIdentifier_of_toList hlist (h.isWord.append hword) hdigit, ?_⟩
  have hinside : ∀ word ∈ reservedWords, '_' ∉ word.toList.tail := by decide
  rw [Bool.eq_false_iff]
  intro hr
  refine hinside _ (isReserved_iff.mp hr) ?_
  rw [hlist, List.tail_cons]
  exact List.mem_append_right _ hcut

theorem isWord_toString (k : ℕ) : IsWord (toString k) := by
  intro c hc
  have hk : (toString k).toList = Nat.toDigits 10 k := Nat.toList_repr
  rw [hk] at hc
  rw [isWordChar, Nat.isDigit_of_mem_toDigits (by decide) (by decide) hc, Bool.or_true,
    Bool.true_or]

/-- A usable name with a number is usable. -/
theorem usable_suffixed {name : String} (h : Usable name) (k : ℕ) :
    Usable (Allocator.suffixed name k) := by
  have hcut : '_' ∈ ("_" ++ toString k).toList := by
    rw [String.toList_append]
    exact List.mem_append_left _ (by decide)
  rw [Allocator.suffixed, String.append_assoc]
  exact usable_append h (.append (by decide) (isWord_toString k)) hcut

theorem isWord_of_varies {name given : String} (h : IsWord name)
    (hgiven : Allocator.Varies name given) : IsWord given := by
  rcases hgiven with rfl | ⟨k, -, rfl⟩
  · exact h
  · exact (h.append (by decide)).append (isWord_toString k)

theorem mem_of_varies {name given : String} (hgiven : Allocator.Varies name given) {c : Char}
    (h : c ∈ name.toList) : c ∈ given.toList := by
  rcases hgiven with rfl | ⟨k, -, rfl⟩
  · exact h
  · rw [Allocator.toList_suffixed]
    exact List.mem_append_left _ h

/-- What is given for a usable name is usable. -/
theorem usable_of_varies {name given : String} (h : Usable name) (hgiven : Allocator.Varies name given) :
    Usable given := by
  rcases hgiven with rfl | ⟨k, -, rfl⟩
  · exact h
  · exact usable_suffixed h k

theorem usable_choose {name : String} (h : Usable name) (a : Allocator) : Usable (a.choose name) :=
  usable_of_varies h (a.varies_choose name)

/-! ### First characters -/

/-- Whether a name begins with a digit. -/
def beginsWithDigit (name : String) : Bool :=
  name.toList.head?.any Char.isDigit

theorem beginsWithDigit_append (name : String) {suffix : String}
    (h : beginsWithDigit suffix = false) : beginsWithDigit (name ++ suffix) = beginsWithDigit name := by
  unfold beginsWithDigit at h ⊢
  rw [String.toList_append]
  cases name.toList with
  | nil => exact h
  | cons _ _ => rfl

theorem Usable.beginsWithDigit {name : String} (h : Usable name) : beginsWithDigit name = false := by
  obtain ⟨c, rest, hname, hdigit, -⟩ := h.exists_cons
  rw [Name.beginsWithDigit, hname]
  exact hdigit

theorem beginsWithDigit_of_varies {name given : String} (hgiven : Allocator.Varies name given) :
    beginsWithDigit given = beginsWithDigit name := by
  rcases hgiven with rfl | ⟨k, -, rfl⟩
  · rfl
  · rw [Allocator.suffixed, String.append_assoc]
    refine beginsWithDigit_append name ?_
    rw [beginsWithDigit, String.toList_append]
    rfl

/-- Names joined by underscores begin like the first of them. -/
theorem beginsWithDigit_underscoreJoin (name : String) (rest : List String) :
    beginsWithDigit (underscoreJoin (name :: rest)) = beginsWithDigit name := by
  unfold beginsWithDigit underscoreJoin
  rw [String.toList_intercalate, List.map_cons]
  cases rest with
  | nil => rw [List.map_nil, List.intercalate_singleton]
  | cons next rest =>
    rw [List.map_cons, List.intercalate_cons_cons, List.append_assoc]
    cases name.toList <;> rfl

/-! ### Names of fields and leaves -/

theorem usable_leafIdent (shared : List String) {path : List String}
    (h : ∀ name ∈ path, IsWord name) : Usable (Expansion.leafIdent shared path) := by
  have hname : IsWord (path.getLastD "") := by
    rcases List.eq_nil_or_concat path with rfl | ⟨above, name, rfl⟩
    · decide
    · rw [List.concat_eq_append, List.getLastD_concat]
      exact h name (by simp)
  refine usable_ensure_safe ?_ _
  split
  · exact isWord_underscoreJoin h
  · exact hname

variable [Romanization]

/-- A normalised name is a word, whatever the name and the method. -/
theorem isWordChar_of_mem_snakeChars {name method : List Char} {c : Char}
    (h : c ∈ snakeChars name method) : isWordChar c = true := by
  obtain ⟨d, hd, rfl⟩ := List.mem_map.mp h
  refine isWordChar_toLower ?_
  rcases mem_caseBreaks hd with hd | rfl
  · rcases mem_wordBreaks hd with hd | rfl
    · exact (List.mem_filter.mp hd).2
    · rfl
  · rfl

theorem isWord_snake (name : String) : IsWord (snake name) :=
  isWord_ofList fun _ hc => isWordChar_of_mem_snakeChars hc

theorem isWord_snakeForMethod (name method : String) : IsWord (snakeForMethod name method) :=
  isWord_ofList fun _ hc => isWordChar_of_mem_snakeChars hc

theorem usable_serviceTag (stem : String) : Usable (serviceTag stem) :=
  usable_ensure_safe (isWord_snake stem) stem

theorem usable_field (rawName context : String) : Usable (field rawName context) :=
  usable_ensure_safe (isWord_snake rawName) context

end Toolwright.Name
