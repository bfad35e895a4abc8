import Mathlib.Data.List.Basic
import Toolwright.Text.Category

/-!
# Looking up classes

The class of a character is searched for in a table of runs by halving; here it is read off the runs from
the first to the last (`Class.of_eq_pick`), which needs that the starts of the runs ascend
(`Class.pairwise_entries`). What has to be known of the characters beyond ASCII is then a matter of
going through the runs once: those that are blank are not part of words (`isWord_of_isBlank`), and those
that only differ from an ASCII letter in case are (`isWord_of_variant`).
-/

namespace Toolwright.Text

namespace Class

variable {code : Nat}

/-! ### The table -/

/-- The starts of the runs of a text, with their classes, in order. The run being read is given as for
`decode`. -/
def entries : List Char → Nat → Class → Nat → List (Nat × Class)
  | [], start, cls, count => [(start, cls), (start + max count 1, hidden)]
  | c :: rest, start, cls, count =>
    if c.isDigit then entries rest start cls (count * 10 + (c.toNat - '0'.toNat))
    else (start, cls) :: entries rest (start + max count 1) (ofCode c) 0

theorem toList_decode (chars : List Char) (start : Nat) (cls : Class) (count : Nat)
    (table : Array (Nat × Class)) :
    (decode chars start cls count table).toList = table.toList ++ entries chars start cls count := by
  induction chars generalizing start cls count table with
  | nil => simp [decode, entries]
  | cons c rest ih =>
    rw [decode, entries]
    split
    · exact ih ..
    · rw [ih, Array.toList_push, List.append_assoc]
      rfl

/-- The entry of the run being read comes first. -/
theorem exists_entries_eq_cons (chars : List Char) (start : Nat) (cls : Class) (count : Nat) :
    ∃ rest, entries chars start cls count = (start, cls) :: rest := by
  induction chars generalizing count with
  | nil => exact ⟨_, rfl⟩
  | cons c rest ih =>
    rw [entries]
    split
    · exact ih _
    · exact ⟨_, rfl⟩

theorem start_le_of_mem_entries {chars : List Char} {start : Nat} {cls : Class} {count : Nat}
    {entry : Nat × Class} (h : entry ∈ entries chars start cls count) : start ≤ entry.1 := by
  induction chars generalizing start cls count with
  | nil =>
    rw [entries, List.mem_cons, List.mem_singleton] at h
    rcases h with rfl | rfl
    · exact Nat.le_refl _
    · exact Nat.le_add_right _ _
  | cons c rest ih =>
    rw [entries] at h
    split at h
    · exact ih h
    · rcases List.mem_cons.mp h with rfl | h
      · exact Nat.le_refl _
      · exact Nat.le_trans (Nat.le_add_right _ _) (ih h)

/-- The starts of the runs ascend. -/
theorem pairwise_entries (chars : List Char) (start : Nat) (cls : Class) (count : Nat) :
    (entries chars start cls count).Pairwise fun a b => a.1 < b.1 := by
  induction chars generalizing start cls count with
  | nil =>
    have : 0 < max count 1 := by omega
    simp [entries, this]
  | cons c rest ih =>
    rw [entries]
    split
    · exact ih ..
    · refine List.pairwise_cons.mpr ⟨fun later hlater => ?_, ih ..⟩
      have := start_le_of_mem_entries hlater
      dsimp only
      omega

/-! ### Searching -/

/-- The entry at `i` is the one of the run in which a code point lies. -/
structure Covers (table : List (Nat × Class)) (code i : Nat) (entry : Nat × Class) : Prop where
  there : table[i]? = some entry
  begins : entry.1 ≤ code
  ends : ∀ j later, i < j → table[j]? = some later → code < later.1

namespace Covers

variable {table : List (Nat × Class)} {i k : Nat} {entry other : Nat × Class}

/-- A run that begins no later than a code point is not beyond the one in which that lies. -/
theorem le_of_begins (h : Covers table code i entry) (hthere : table[k]? = some other)
    (hbegins : other.1 ≤ code) : k ≤ i := by
  by_contra hbeyond
  have := h.ends _ _ (Nat.lt_of_not_le hbeyond) hthere
  omega

/-- A run that begins later is beyond it. -/
theorem lt_of_begins_later (h : Covers table code i entry)
    (hsorted : table.Pairwise fun a b => a.1 < b.1) (hthere : table[k]? = some other)
    (hlater : code < other.1) : i < k := by
  obtain ⟨hi, hentry⟩ := List.getElem?_eq_some_iff.mp h.there
  obtain ⟨hk, hother⟩ := List.getElem?_eq_some_iff.mp hthere
  have hbegins := h.begins
  by_contra hbeyond
  rcases Nat.lt_or_eq_of_le (Nat.le_of_not_lt hbeyond) with hlt | rfl
  · have := List.pairwise_iff_getElem.mp hsorted _ _ hk hi hlt
    rw [hentry, hother] at this
    omega
  · rw [hentry] at hother
    rw [hother] at hbegins
    omega

end Covers

/-- Halving finds the run in which a code point lies. -/
theorem search_eq {table : Array (Nat × Class)} {i low high : Nat} {entry : Nat × Class}
    (hsorted : table.toList.Pairwise fun a b => a.1 < b.1) (h : Covers table.toList code i entry)
    (hlow : low ≤ i) (hhigh : i < high) (hsize : high ≤ table.size) :
    search table code low high = entry.2 := by
  induction hlength : high - low using Nat.strongRecOn generalizing low high with
  | _ n ih =>
    rw [search]
    by_cases hlast : high ≤ low + 1
    · obtain rfl : low = i := by omega
      rw [if_pos hlast, ← Array.getElem?_toList, h.there]
      rfl
    · rw [if_neg hlast]
      have hmiddle : (low + high) / 2 < table.toList.length := by
        rw [Array.length_toList]
        omega
      have hthere := List.getElem?_eq_getElem hmiddle
      dsimp only
      rw [← Array.getElem?_toList, hthere, Option.map_some, Option.getD_some]
      split
      · next hbegins =>
        exact ih _ (by omega) (h.le_of_begins hthere hbegins) hhigh hsize rfl
      · next hlater =>
        have hbefore := h.lt_of_begins_later hsorted hthere (Nat.lt_of_not_le hlater)
        exact ih _ (by omega) hlow hbefore (by omega) rfl

/-- The class of the run in which a code point lies, found by going through the runs. -/
def pick (code : Nat) : List (Nat × Class) → Class
  | [] => hidden
  | (_, cls) :: rest =>
    match rest with
    | [] => cls
    | (next, _) :: _ => if code < next then cls else pick code rest

theorem exists_covers {table : List (Nat × Class)} {first : Nat × Class}
    (hsorted : (first :: table).Pairwise fun a b => a.1 < b.1) (hfirst : first.1 ≤ code) :
    ∃ i entry, Covers (first :: table) code i entry ∧ pick code (first :: table) = entry.2 := by
  induction table generalizing first with
  | nil =>
    refine ⟨0, first, ⟨rfl, hfirst, fun j later hj hlater => ?_⟩, rfl⟩
    obtain ⟨k, rfl⟩ : ∃ k, j = k + 1 := ⟨j - 1, by omega⟩
    cases hlater
  | cons next table ih =>
    obtain ⟨hbefore, hrest⟩ := List.pairwise_cons.mp hsorted
    rw [pick]
    by_cases hcode : code < next.1
    · refine ⟨0, first, ⟨rfl, hfirst, fun j later hj hlater => ?_⟩, if_pos hcode⟩
      obtain ⟨k, rfl⟩ : ∃ k, j = k + 1 := ⟨j - 1, by omega⟩
      rw [List.getElem?_cons_succ] at hlater
      rcases List.mem_cons.mp (List.mem_of_getElem? hlater) with rfl | hmember
      · exact hcode
      · exact Nat.lt_trans hcode ((List.pairwise_cons.mp hrest).1 later hmember)
    · obtain ⟨i, entry, hcovers, hpick⟩ := ih hrest (Nat.le_of_not_lt hcode)
      refine ⟨i + 1, entry, ⟨hcovers.there, hcovers.begins, fun j later hj hlater => ?_⟩,
        (if_neg hcode).trans hpick⟩
      obtain ⟨k, rfl⟩ : ∃ k, j = k + 1 := ⟨j - 1, by omega⟩
      exact hcovers.ends k later (by omega) hlater

/-- **The class of a character is that of the run in which it lies.** -/
theorem of_eq_pick {text rest : List Char} {first : Char} (h : runs = String.ofList text)
    (hcodes : text.filter Char.isAlphanum = first :: rest) (c : Char) :
    of c = pick c.toNat (entries rest 0 (ofCode first) 0) := by
  have htable : table = starts (first :: rest) := by
    have hlist : runs.toList = text := (congrArg String.toList h).trans String.toList_ofList
    rw [table, hlist, hcodes]
  have hlist : table.toList = entries rest 0 (ofCode first) 0 := by
    rw [htable, starts, toList_decode]
    rfl
  obtain ⟨more, hmore⟩ := exists_entries_eq_cons rest 0 (ofCode first) 0
  have hsorted := pairwise_entries rest 0 (ofCode first) 0
  rw [hmore] at hlist hsorted
  obtain ⟨i, entry, hcovers, hpick⟩ := exists_covers hsorted (Nat.zero_le c.toNat)
  rw [hmore, hpick, of]
  rw [← hlist] at hcovers hsorted
  refine search_eq hsorted hcovers (Nat.zero_le i) ?_ (Nat.le_refl _)
  exact (List.getElem?_eq_some_iff.mp hcovers.there).1

/-- The class of some characters, after going through the runs for each. -/
theorem of_eq_of_all {text rest : List Char} {first : Char} (h : runs = String.ofList text)
    (hcodes : text.filter Char.isAlphanum = first :: rest)
    {chars : List Char} (isOne : Class → Bool)
    (hall : (chars.all fun c => isOne (pick c.toNat (entries rest 0 (ofCode first) 0))) = true) :
    ∀ c ∈ chars, isOne (of c) = true := by
  intro c hc
  rw [of_eq_pick h hcodes]
  exact List.all_eq_true.mp hall c hc

/-- A class of characters that words are made of. -/
def isWordClass (cls : Class) : Bool :=
  cls != hidden && cls != other

/-- The blanks beyond ASCII. -/
def wideBlanks : List Char :=
  ['\u0085', '\u00a0', '\u1680', '\u2000', '\u2001', '\u2002', '\u2003', '\u2004', '\u2005', '\u2006',
    '\u2007', '\u2008', '\u2009', '\u200a', '\u2028', '\u2029', '\u202f', '\u205f', '\u3000']

set_option maxRecDepth 100000 in
/-- The long s and the sign for kelvin. -/
theorem isWordClass_of_variants : ∀ c ∈ ['\u017f', '\u212a'], isWordClass (of c) = true := by
  refine of_eq_of_all (by unfold runs; rfl) rfl isWordClass ?_
  decide +kernel

set_option maxRecDepth 100000 in
theorem isWordClass_of_wideBlanks : ∀ c ∈ wideBlanks, !isWordClass (of c) := by
  refine of_eq_of_all (by unfold runs; rfl) rfl (fun cls => !isWordClass cls) ?_
  decide +kernel

end Class

/-! ### Characters of words -/

theorem isWord_of_wide {c : Char} (hwide : ¬ c.toNat < 0x80)
    (hclass : Class.isWordClass (Class.of c) = true) : isWord c = true := by
  rw [isWord, if_neg hwide]
  dsimp only
  split
  · rfl
  · cases hcls : Class.of c <;> first | rfl | (rw [hcls] at hclass; cases hclass)

/-- The letters beyond ASCII that are ASCII letters in another case are characters of words. -/
theorem isWord_of_variant {c : Char} (h : c = '\u017f' ∨ c = '\u212a') : isWord c = true := by
  refine isWord_of_wide ?_ (Class.isWordClass_of_variants c (by simpa using h))
  rcases h with rfl | rfl <;> decide

theorem mem_wideBlanks {c : Char} (hwide : ¬ c.toNat < 0x80) (h : isBlank c = true) :
    c ∈ Class.wideBlanks := by
  have hcode : c.toNat ∈ Class.wideBlanks.map Char.toNat := by
    simp only [isBlank, Bool.or_eq_true, Bool.and_eq_true, decide_eq_true_eq, beq_iff_eq] at h
    change c.toNat ∈ [0x85, 0xa0, 0x1680, 0x2000, 0x2001, 0x2002, 0x2003, 0x2004, 0x2005, 0x2006,
      0x2007, 0x2008, 0x2009, 0x200a, 0x2028, 0x2029, 0x202f, 0x205f, 0x3000]
    simp only [List.mem_cons, List.not_mem_nil, or_false]
    omega
  obtain ⟨blank, hblank, heq⟩ := List.mem_map.mp hcode
  rwa [← Char.toNat_inj.mp heq]

/-- **A blank is not a character of a word.** -/
theorem isWord_of_isBlank {c : Char} (h : isBlank c = true) : isWord c = false := by
  have hcode := h
  simp only [isBlank, Bool.or_eq_true, Bool.and_eq_true, decide_eq_true_eq, beq_iff_eq] at hcode
  by_cases hwide : c.toNat < 0x80
  · have hfew : c.toNat = 9 ∨ c.toNat = 10 ∨ c.toNat = 11 ∨ c.toNat = 12 ∨ c.toNat = 13 ∨
        c.toNat = 32 := by omega
    rw [← Char.ofNat_toNat c]
    rcases hfew with heq | heq | heq | heq | heq | heq <;> rw [heq] <;> rfl
  · have hclass := Class.isWordClass_of_wideBlanks c (mem_wideBlanks hwide h)
    rw [isWord, if_neg hwide]
    dsimp only
    rw [if_neg]
    · cases hcls : Class.of c <;> first | rfl | (rw [hcls] at hclass; cases hclass)
    · simp only [Bool.or_eq_true, Bool.and_eq_true, decide_eq_true_eq, beq_iff_eq]
      omega

end Toolwright.Text
