import Mathlib.Data.List.Basic
import Toolwright.Text.Pieces

/-!
# Pieces and pairs of characters

Cutting a text is cutting a list (`pieces_eq_splitOnP`, and `pieces_eq_splitOn` for one character), so that
all that is known about `List.splitOnP` is known about the pieces of a text. What occurs in a text is a part
of the list (`occurs_iff`). A replacement of two characters goes on behind a character as long as that does
not begin an occurrence of the two.
-/

namespace Toolwright.Text

/-! ### Pieces -/

theorem pieces_eq_splitOnP (cut : Char → Bool) (text : List Char) :
    pieces cut text = text.splitOnP cut := by
  induction text with
  | nil => rfl
  | cons c rest ih =>
    rw [pieces, List.splitOnP_cons_eq_if_modifyHead, ih]
    split
    · rfl
    · cases hrest : List.splitOnP cut rest with
      | nil => exact absurd hrest (List.splitOnP_ne_nil cut rest)
      | cons piece more => rfl

theorem pieces_eq_splitOn (cut : Char) (text : List Char) :
    pieces (· == cut) text = text.splitOn cut := by
  rw [List.splitOn_eq_splitOnP, pieces_eq_splitOnP]

section

variable {cut : Char → Bool} {c : Char} {text piece : List Char}

theorem pieces_append_cons (hc : cut c = true) (front : List Char) :
    pieces cut (front ++ c :: text) = pieces cut front ++ pieces cut text := by
  simp only [pieces_eq_splitOnP, List.splitOnP_append_cons front text hc]

theorem pieces_eq_singleton (h : ∀ c ∈ text, cut c = false) : pieces cut text = [text] := by
  rw [pieces_eq_splitOnP, List.splitOnP_eq_singleton h]

/-- What is in front of the first cut belongs to the first piece. -/
theorem pieces_append_of_forall {front : List Char} (h : ∀ c ∈ front, cut c = false) :
    pieces cut (front ++ text) = (pieces cut text).modifyHead (front ++ ·) := by
  induction front with
  | nil =>
    obtain ⟨first, more, htext⟩ := List.exists_cons_of_ne_nil (pieces_ne_nil cut text)
    rw [List.nil_append, htext]
    rfl
  | cons d front ih =>
    have hd : ¬ cut d = true := by simp [h d List.mem_cons_self]
    rw [pieces_eq_splitOnP, List.cons_append, List.splitOnP_cons_eq_if_modifyHead, if_neg hd,
      ← pieces_eq_splitOnP, ih fun c hc => h c (List.mem_cons_of_mem d hc), List.modifyHead_modifyHead]
    rfl

theorem cut_eq_false_of_mem_pieces (hpiece : piece ∈ pieces cut text) (hc : c ∈ piece) :
    cut c = false := by
  induction text generalizing piece with
  | nil => simp_all [pieces]
  | cons d rest ih =>
    by_cases hd : cut d = true
    · rw [pieces, if_pos hd] at hpiece
      obtain rfl | hpiece := List.mem_cons.mp hpiece
      · simp at hc
      · exact ih hpiece hc
    · obtain ⟨first, more, hrest⟩ := List.exists_cons_of_ne_nil (pieces_ne_nil cut rest)
      rw [pieces, if_neg hd, hrest] at hpiece
      rw [hrest] at ih
      obtain rfl | hpiece := List.mem_cons.mp hpiece
      · obtain rfl | hc := List.mem_cons.mp hc
        · simpa using hd
        · exact ih List.mem_cons_self hc
      · exact ih (List.mem_cons_of_mem first hpiece) hc

end

/-- The first piece is what the text begins with. -/
theorem prefix_of_pieces {cut : Char} {text piece : List Char} {more : List (List Char)}
    (h : pieces (· == cut) text = piece :: more) : piece <+: text := by
  have htext : [cut].intercalate (piece :: more) = text := by
    rw [← h, pieces_eq_splitOn, List.intercalate_splitOn]
  rw [← htext]
  cases more with
  | nil => simp
  | cons next more =>
    rw [List.intercalate_cons_cons, List.append_assoc]
    exact List.prefix_append _ _

/-! ### Occurrences -/

theorem occurs_iff {part text : List Char} : occurs part text = true ↔ part <:+: text := by
  induction text with
  | nil => rw [occurs, List.isEmpty_iff, List.infix_nil]
  | cons c rest ih =>
    rw [occurs, Bool.or_eq_true, ih, List.infix_cons_iff, Option.isSome_iff_exists]
    refine or_congr_left (exists_congr fun behind => ?_)
    rw [after?_eq_some_iff, eq_comm]

/-! ### Pairs -/

section

variable {first second c : Char} {new text : List Char}

theorem replacePair_cons_of_ne (h : c ≠ first) :
    replacePair first second new (c :: text) = c :: replacePair first second new text := by
  cases text with
  | nil => rfl
  | cons d rest => rw [replacePair, if_neg fun hpair => h hpair.1]

theorem replacePair_cons_of_head? (h : text.head? ≠ some second) :
    replacePair first second new (c :: text) = c :: replacePair first second new text := by
  cases text with
  | nil => rfl
  | cons d rest => rw [replacePair, if_neg fun hpair => h (congrArg some hpair.2)]

/-- A text in which a replacement leaves no trace is as it was. -/
theorem replacePair_eq_self (h : c ∉ replacePair first second [c] text) :
    replacePair first second [c] text = text := by
  fun_induction replacePair first second [c] text with
  | case1 a b rest hpair ih => simp at h
  | case2 a b rest hpair ih =>
    rw [ih fun hmem => h (List.mem_cons_of_mem a hmem)]
  | case3 short hshort => rfl

end

end Toolwright.Text
