import Mathlib.Data.List.DropRight
import Toolwright.Proofs.Text.Pieces
import Toolwright.Text.Prose

/-!
# Lines of documentation

`Text.docLines` replaces the two ways in which a line can end, cuts at line feeds, trims every line and
drops the blank lines at both ends. The replacements follow one another, but they can be read as one pass
over the text (`withFeeds`, `replacePair_replacePair`): neither makes an end of a line that the other
would see. Trimming and dropping lose white space only, so what can be seen of a text is what can be seen
of its lines, but for the ends that are written out (`flatMap_visible_keptLines`).

A carriage return is white space for the trimming and no end of a line by itself. It stays where something
that can be seen comes after it in its line (`HasBareReturn`, `hasBareReturn_iff`). `docLines_faithful`
puts together what the lines of any text are, and `bareReturn_ofTwoLines` is a text with such a line.
-/

namespace Toolwright.Text

/-! ### Trimming -/

theorem trimEnd_cons (drop : Char → Bool) (c : Char) (rest : List Char) :
    trimEnd drop (c :: rest) =
      if trimEnd drop rest = [] ∧ drop c = true then [] else c :: trimEnd drop rest := by
  rw [trimEnd]
  cases trimEnd drop rest with
  | nil => simp
  | cons d kept => simp

theorem trimEnd_eq_rdropWhile (drop : Char → Bool) (text : List Char) :
    trimEnd drop text = text.rdropWhile drop := by
  induction text with
  | nil => rfl
  | cons c rest ih =>
    rw [trimEnd_cons, ih, List.rdropWhile, List.rdropWhile, List.reverse_cons, List.dropWhile_append]
    cases List.dropWhile drop rest.reverse with
    | nil => by_cases hc : drop c = true <;> simp [hc]
    | cons d kept => simp

/-- What is left of a list does not end in what was taken away. -/
theorem eq_false_of_mem_getLast? {α : Type} {p : α → Bool} {l : List α} {a : α}
    (h : a ∈ (l.rdropWhile p).getLast?) : p a = false := by
  obtain ⟨hne, rfl⟩ := List.mem_getLast?_eq_getLast h
  exact Bool.eq_false_iff.mpr (List.rdropWhile_last_not p l hne)

theorem trimEnd_eq_nil_iff {drop : Char → Bool} {text : List Char} :
    trimEnd drop text = [] ↔ ∀ c ∈ text, drop c = true := by
  rw [trimEnd_eq_rdropWhile, List.rdropWhile_eq_nil_iff]

/-! ### What can be seen -/

/-- The characters of a text that are not white space. -/
def visible (text : List Char) : List Char :=
  text.filter (!isBlank ·)

theorem visible_append (text more : List Char) : visible (text ++ more) = visible text ++ visible more :=
  List.filter_append _ _

theorem visible_cons_of_blank {c : Char} (h : isBlank c = true) (rest : List Char) :
    visible (c :: rest) = visible rest :=
  List.filter_cons_of_neg (by simp [h])

theorem visible_eq_nil_iff {text : List Char} : visible text = [] ↔ ∀ c ∈ text, isBlank c = true := by
  simp [visible]

theorem visible_trimEnd (text : List Char) : visible (trimEnd isBlank text) = visible text := by
  have hend : visible (text.rtakeWhile isBlank) = [] :=
    visible_eq_nil_iff.mpr fun _ => List.mem_rtakeWhile_imp
  conv_rhs => rw [← List.rdropWhile_append_rtakeWhile (p := isBlank) (l := text)]
  rw [visible_append, hend, List.append_nil, trimEnd_eq_rdropWhile]

/-- Cutting at white space loses nothing that can be seen. -/
theorem flatMap_visible_pieces {cut : Char → Bool} (hcut : ∀ c, cut c = true → isBlank c = true)
    (text : List Char) : (pieces cut text).flatMap visible = visible text := by
  induction text with
  | nil => rfl
  | cons c rest ih =>
    by_cases hc : cut c = true
    · rw [pieces, if_pos hc, List.flatMap_cons, ih, visible_cons_of_blank (hcut c hc)]
      rfl
    · obtain ⟨first, more, hrest⟩ := List.exists_cons_of_ne_nil (pieces_ne_nil cut rest)
      rw [hrest, List.flatMap_cons] at ih
      rw [pieces, if_neg hc, hrest]
      dsimp only
      rw [List.flatMap_cons, ← List.singleton_append, visible_append, List.append_assoc, ih,
        ← visible_append, List.singleton_append]

/-! ### Ends of lines -/

/-- The text with a line feed for every end of a line: a line feed, with or without a carriage return
before it, and a backslash followed by `n`. -/
def withFeeds : List Char → List Char
  | '\r' :: '\n' :: rest => '\n' :: withFeeds rest
  | '\\' :: 'n' :: rest => '\n' :: withFeeds rest
  | c :: rest => c :: withFeeds rest
  | [] => []

/-- The text without the ends of lines that are written as a backslash followed by `n`. -/
def withoutEscapes : List Char → List Char
  | '\\' :: 'n' :: rest => withoutEscapes rest
  | c :: rest => c :: withoutEscapes rest
  | [] => []

theorem head?_replacePair_ne {first second new c : Char} (hnew : new ≠ c) {text : List Char}
    (h : text.head? ≠ some c) : (replacePair first second [new] text).head? ≠ some c := by
  fun_cases replacePair first second [new] text with
  | case1 a b rest hpair => simpa [replacePair, hpair] using hnew
  | case2 a b rest hpair => simpa [replacePair, hpair] using h
  | case3 short hshort => exact h

/-- The two replacements are one reading of the text. -/
theorem replacePair_replacePair (text : List Char) :
    replacePair '\\' 'n' ['\n'] (replacePair '\r' '\n' ['\n'] text) = withFeeds text := by
  fun_induction withFeeds text with
  | case1 rest ih =>
    rw [replacePair, if_pos ⟨rfl, rfl⟩, List.singleton_append, replacePair_cons_of_ne (by decide), ih]
  | case2 rest ih =>
    have hfirst : replacePair '\r' '\n' ['\n'] ('\\' :: 'n' :: rest) =
        '\\' :: 'n' :: replacePair '\r' '\n' ['\n'] rest := by
      rw [replacePair_cons_of_ne (by decide), replacePair_cons_of_ne (by decide)]
    rw [hfirst, replacePair, if_pos ⟨rfl, rfl⟩, List.singleton_append, ih]
  | case3 c rest hreturn hescape ih =>
    have hfirst : replacePair '\r' '\n' ['\n'] (c :: rest) = c :: replacePair '\r' '\n' ['\n'] rest := by
      by_cases hc : c = '\r'
      · refine replacePair_cons_of_head? fun hhead => ?_
        obtain ⟨more, hrest⟩ := List.head?_eq_some_iff.mp hhead
        exact hreturn more hc hrest
      · exact replacePair_cons_of_ne hc
    rw [hfirst, ← ih]
    by_cases hc : c = '\\'
    · refine replacePair_cons_of_head? (head?_replacePair_ne (by decide) fun hhead => ?_)
      obtain ⟨more, hrest⟩ := List.head?_eq_some_iff.mp hhead
      exact hescape more hc hrest
    · exact replacePair_cons_of_ne hc
  | case4 => rfl

/-- What can be seen of a text stays, but for the written ends of lines. -/
theorem visible_withFeeds (text : List Char) :
    visible (withFeeds text) = visible (withoutEscapes text) := by
  fun_induction withFeeds text with
  | case1 rest ih =>
    rw [withoutEscapes, withoutEscapes, visible_cons_of_blank rfl, visible_cons_of_blank rfl,
      visible_cons_of_blank rfl, ih]
    all_goals exact fun _ h => absurd h (by decide)
  | case2 rest ih => rw [withoutEscapes, visible_cons_of_blank rfl, ih]
  | case3 c rest hreturn hescape ih =>
    rw [withoutEscapes]
    · rw [← List.singleton_append, visible_append, ih, ← visible_append]
      rfl
    · exact hescape
  | case4 => rfl

/-! ### Bare carriage returns -/

/-- Whether anything that can be seen follows before the line ends. -/
def goesOn : List Char → Bool
  | [] => false
  | c :: rest =>
    if c = '\n' ∨ (c = '\\' ∧ rest.head? = some 'n') then false else !isBlank c || goesOn rest

/-- Some carriage return does not belong to the end of its line. -/
def HasBareReturn (text : List Char) : Prop :=
  ∃ rest, '\r' :: rest <:+ text ∧ goesOn rest = true

theorem hasBareReturn_cons {c : Char} {text : List Char} :
    HasBareReturn (c :: text) ↔ (c = '\r' ∧ goesOn text = true) ∨ HasBareReturn text := by
  unfold HasBareReturn
  constructor
  · rintro ⟨rest, hsuffix, hrest⟩
    rcases List.suffix_cons_iff.mp hsuffix with heq | hsuffix
    · obtain ⟨rfl, rfl⟩ := List.cons.inj heq
      exact .inl ⟨rfl, hrest⟩
    · exact .inr ⟨rest, hsuffix, hrest⟩
  · rintro (⟨rfl, htext⟩ | ⟨rest, hsuffix, hrest⟩)
    · exact ⟨text, List.suffix_refl _, htext⟩
    · exact ⟨rest, hsuffix.trans (List.suffix_cons _ _), hrest⟩

theorem pieces_cons_feed (rest : List Char) :
    pieces (· == '\n') ('\n' :: rest) = [] :: pieces (· == '\n') rest := rfl

theorem pieces_cons_of_ne_feed {c : Char} (h : c ≠ '\n') {rest first : List Char}
    {more : List (List Char)} (hrest : pieces (· == '\n') rest = first :: more) :
    pieces (· == '\n') (c :: rest) = (c :: first) :: more := by
  rw [pieces, if_neg (by simpa using h), hrest]

/-- A text goes on if its first line does. -/
theorem goesOn_iff {text first : List Char} {more : List (List Char)}
    (h : pieces (· == '\n') (withFeeds text) = first :: more) :
    goesOn text = true ↔ visible first ≠ [] := by
  fun_induction withFeeds text generalizing first more with
  | case1 rest ih =>
    obtain ⟨rfl, -⟩ := List.cons.inj h
    have hblank : isBlank '\r' = true := rfl
    simp [goesOn, visible, hblank]
  | case2 rest ih =>
    obtain ⟨rfl, -⟩ := List.cons.inj h
    simp [goesOn, visible]
  | case3 c rest hreturn hescape ih =>
    by_cases hc : c = '\n'
    · subst hc
      obtain ⟨rfl, -⟩ := List.cons.inj h
      simp [goesOn, visible]
    · obtain ⟨line, others, hrest⟩ :=
        List.exists_cons_of_ne_nil (pieces_ne_nil (· == '\n') (withFeeds rest))
      rw [pieces_cons_of_ne_feed hc hrest] at h
      obtain ⟨rfl, -⟩ := List.cons.inj h
      have hgoes : ¬ (c = '\n' ∨ (c = '\\' ∧ rest.head? = some 'n')) := by
        rintro (hfeed | ⟨hback, hhead⟩)
        · exact hc hfeed
        · obtain ⟨more, hmore⟩ := List.head?_eq_some_iff.mp hhead
          exact hescape more hback hmore
      rw [goesOn, if_neg hgoes, Bool.or_eq_true, ih hrest]
      by_cases hblank : isBlank c = true <;> simp [visible, hblank]
  | case4 =>
    obtain ⟨rfl, -⟩ := List.cons.inj h
    simp [goesOn, visible]

/-- White space in a line stays if something that can be seen is behind it. -/
theorem mem_trimEnd_cons {c d : Char} (hd : isBlank d = true) {line : List Char} :
    d ∈ trimEnd isBlank (c :: line) ↔ (c = d ∧ visible line ≠ []) ∨ d ∈ trimEnd isBlank line := by
  have hnil : trimEnd isBlank line = [] ↔ visible line = [] :=
    trimEnd_eq_nil_iff.trans visible_eq_nil_iff.symm
  rw [trimEnd_cons, Ne, ← hnil]
  split_ifs with h
  · simp [h.1]
  · rw [List.mem_cons, eq_comm]
    refine or_congr_left ⟨fun he => ⟨he, fun hline => h ⟨hline, he ▸ hd⟩⟩, And.left⟩

/-- A carriage return stays in a line exactly if it is a bare one. -/
theorem hasBareReturn_iff (text : List Char) :
    HasBareReturn text ↔
      ∃ line ∈ pieces (· == '\n') (withFeeds text), '\r' ∈ trimEnd isBlank line := by
  fun_induction withFeeds text with
  | case1 rest ih =>
    rw [hasBareReturn_cons, hasBareReturn_cons, ih, pieces_cons_feed]
    simp [goesOn, trimEnd]
  | case2 rest ih =>
    rw [hasBareReturn_cons, hasBareReturn_cons, ih, pieces_cons_feed]
    simp [trimEnd]
  | case3 c rest hreturn hescape ih =>
    rw [hasBareReturn_cons, ih]
    by_cases hc : c = '\n'
    · subst hc
      rw [pieces_cons_feed]
      simp [trimEnd]
    · obtain ⟨first, more, hrest⟩ :=
        List.exists_cons_of_ne_nil (pieces_ne_nil (· == '\n') (withFeeds rest))
      rw [pieces_cons_of_ne_feed hc hrest, hrest, goesOn_iff hrest]
      simp only [List.exists_mem_cons_iff, mem_trimEnd_cons (by decide : isBlank '\r' = true), or_assoc]
  | case4 => simp [HasBareReturn, pieces, trimEnd]

/-! ### Lines of documentation -/

/-- The lines of a text without white space at their ends. -/
def trimmedLines (text : List Char) : List (List Char) :=
  (pieces (· == '\n') (withFeeds text)).map (trimEnd isBlank)

/-- The lines of a text but for the blank ones before the first line with text and after the last. -/
def keptLines (text : List Char) : List (List Char) :=
  ((trimmedLines text).dropWhile isBlankLine).rdropWhile isBlankLine

theorem docLines_eq (text : String) : docLines text = (keptLines text.toList).map String.ofList := by
  unfold docLines keptLines trimmedLines
  rw [replacePair_replacePair]
  rfl

theorem isBlankLine_iff {line : List Char} : isBlankLine line = true ↔ visible line = [] := by
  rw [isBlankLine, List.all_eq_true, visible_eq_nil_iff]

/-- The lines that are not kept are blank. -/
theorem exists_trimmedLines_eq (text : List Char) :
    ∃ before after, trimmedLines text = before ++ (keptLines text ++ after) ∧
      ∀ line ∈ before ++ after, isBlankLine line = true := by
  refine ⟨(trimmedLines text).takeWhile isBlankLine,
    ((trimmedLines text).dropWhile isBlankLine).rtakeWhile isBlankLine, ?_, ?_⟩
  · rw [keptLines, List.rdropWhile_append_rtakeWhile, List.takeWhile_append_dropWhile]
  · exact List.forall_mem_append.mpr
      ⟨fun _ => List.mem_takeWhile_imp, fun _ => List.mem_rtakeWhile_imp⟩

theorem mem_trimmedLines_of_mem {text line : List Char} (h : line ∈ keptLines text) :
    line ∈ trimmedLines text := by
  obtain ⟨before, after, heq, -⟩ := exists_trimmedLines_eq text
  rw [heq]
  exact List.mem_append_right _ (List.mem_append_left _ h)

/-- A blank line has nothing left when the white space at its end is gone. -/
theorem eq_nil_of_isBlankLine {text line : List Char} (h : line ∈ trimmedLines text)
    (hblank : isBlankLine line = true) : line = [] := by
  obtain ⟨piece, -, rfl⟩ := List.mem_map.mp h
  rw [isBlankLine_iff, visible_trimEnd] at hblank
  exact trimEnd_eq_nil_iff.mpr (visible_eq_nil_iff.mp hblank)

/-- The lines that are not kept hold no characters. -/
theorem exists_mem_keptLines_iff {text : List Char} {c : Char} :
    (∃ line ∈ keptLines text, c ∈ line) ↔ ∃ line ∈ trimmedLines text, c ∈ line := by
  constructor
  · rintro ⟨line, hline, hc⟩
    exact ⟨line, mem_trimmedLines_of_mem hline, hc⟩
  · rintro ⟨line, hline, hc⟩
    obtain ⟨before, after, heq, hblank⟩ := exists_trimmedLines_eq text
    have hkept : line ∉ before ++ after := by
      intro hmem
      rw [eq_nil_of_isBlankLine hline (hblank line hmem)] at hc
      exact List.not_mem_nil hc
    rw [heq] at hline
    simp only [List.mem_append] at hline hkept
    exact ⟨line, by tauto, hc⟩

theorem flatMap_visible_keptLines (text : List Char) :
    (keptLines text).flatMap visible = visible (withoutEscapes text) := by
  obtain ⟨before, after, heq, hblank⟩ := exists_trimmedLines_eq text
  obtain ⟨hbefore, hafter⟩ := List.forall_mem_append.mp hblank
  have hnone : ∀ {lines : List (List Char)}, (∀ line ∈ lines, isBlankLine line = true) →
      lines.flatMap visible = [] :=
    fun h => List.flatMap_eq_nil_iff.mpr fun line hline => isBlankLine_iff.mp (h line hline)
  calc (keptLines text).flatMap visible
    _ = (trimmedLines text).flatMap visible := by
      rw [heq, List.flatMap_append, List.flatMap_append, hnone hbefore, hnone hafter, List.nil_append,
        List.append_nil]
    _ = (pieces (· == '\n') (withFeeds text)).flatMap visible := by
      rw [trimmedLines, List.flatMap_map]
      exact List.flatMap_congr fun line _ => visible_trimEnd line
    _ = visible (withFeeds text) := flatMap_visible_pieces (fun c hc => by rw [eq_of_beq hc]; rfl) _
    _ = visible (withoutEscapes text) := visible_withFeeds text

/-- The lines at both ends say something. -/
theorem isBlankLine_eq_false_of_mem {text line : List Char}
    (h : line ∈ (keptLines text).head? ∨ line ∈ (keptLines text).getLast?) :
    isBlankLine line = false := by
  rcases h with hfirst | hlast
  · obtain ⟨more, hlines⟩ := List.head?_eq_some_iff.mp hfirst
    obtain ⟨after, hstarted⟩ : keptLines text <+: (trimmedLines text).dropWhile isBlankLine :=
      List.rdropWhile_prefix _ _
    have hhead := List.head?_dropWhile_not isBlankLine (trimmedLines text)
    rw [← hstarted, hlines] at hhead
    exact hhead
  · exact eq_false_of_mem_getLast? hlast

/-- **What the lines of documentation hold.** No line holds a line feed or ends in white space, and
neither the first nor the last is blank. There are none exactly if the text has nothing but white space
and written ends of lines, and what can be seen of the text is what can be seen of its lines. A carriage
return is in some line exactly if the text has a bare one. -/
theorem docLines_faithful (text : String) :
    let lines := (docLines text).map String.toList
    (∀ line ∈ lines, '\n' ∉ line ∧ ∀ c ∈ line.getLast?, isBlank c = false) ∧
      (∀ line, line ∈ lines.head? ∨ line ∈ lines.getLast? → isBlankLine line = false) ∧
      (lines = [] ↔ ∀ c ∈ withoutEscapes text.toList, isBlank c = true) ∧
      lines.flatMap visible = visible (withoutEscapes text.toList) ∧
      ((∃ line ∈ lines, '\r' ∈ line) ↔ HasBareReturn text.toList) := by
  intro lines
  have hlines : lines = keptLines text.toList := by
    have hround : String.toList ∘ String.ofList = id := funext fun _ => String.toList_ofList
    show (docLines text).map String.toList = keptLines text.toList
    rw [docLines_eq, List.map_map, hround, List.map_id]
  have hseen : lines.flatMap visible = visible (withoutEscapes text.toList) := by
    rw [hlines, flatMap_visible_keptLines]
  have hends : ∀ line, line ∈ lines.head? ∨ line ∈ lines.getLast? → isBlankLine line = false := by
    intro line
    rw [hlines]
    exact isBlankLine_eq_false_of_mem
  refine ⟨fun line hline => ?_, hends, ?_, hseen, ?_⟩
  · obtain ⟨piece, hpiece, rfl⟩ := List.mem_map.mp (mem_trimmedLines_of_mem (hlines ▸ hline))
    rw [trimEnd_eq_rdropWhile]
    refine ⟨fun hfeed => ?_, fun c => eq_false_of_mem_getLast?⟩
    have := cut_eq_false_of_mem_pieces hpiece ((List.rdropWhile_prefix _ _).subset hfeed)
    simp at this
  · rw [← visible_eq_nil_iff, ← hseen]
    refine ⟨fun h => by rw [h]; rfl, fun h => ?_⟩
    by_contra hne
    obtain ⟨first, more, hcons⟩ := List.exists_cons_of_ne_nil hne
    have hfirst := hends first (.inl (by rw [hcons]; rfl))
    rw [← Bool.not_eq_true, isBlankLine_iff] at hfirst
    rw [hcons, List.flatMap_cons, List.append_eq_nil_iff] at h
    exact hfirst h.1
  · rw [hlines, exists_mem_keptLines_iff, trimmedLines, hasBareReturn_iff]
    simp only [List.mem_map, exists_exists_and_eq_and]

/-- A description with a bare carriage return has a line with one. -/
theorem bareReturn_ofTwoLines :
    HasBareReturn "First\rSecond".toList ∧ docLines "First\rSecond" = ["First\rSecond"] ∧
      '\r' ∈ "First\rSecond".toList := by
  refine ⟨⟨"Second".toList, ?_, ?_⟩, ?_, ?_⟩
  all_goals decide +kernel

end Toolwright.Text
