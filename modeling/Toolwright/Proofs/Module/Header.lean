import Toolwright.Module.Generate
import Toolwright.Proofs.Text.Pieces

/-!
# The header of a module

The header is text in front of the items, and nothing quotes what it takes over from the document and from
its path. So it holds nothing but comments only if no line of it begins with what was taken over. The title
and the version cannot begin one, because they are put on one line before (`onOneLine_oneLine`). The name of
the file is taken as it is: the header is made of comments exactly if the lines of that name behind its
first are comments themselves (`comments_header_iff`), and a file need not be called so
(`escape_ofFileName`).

What ends a line is left open, since a reader of programs and a reader of texts differ about it. `LineBreaks`
says what the two have in common.
-/

namespace Toolwright

namespace Text

/-! ### Texts on one line -/

/-- A text in which white space is nothing but plain blanks. -/
def OnOneLine (text : List Char) : Prop :=
  ∀ c ∈ text, isBlank c = true → c = ' '

instance (text : List Char) : Decidable (OnOneLine text) :=
  List.decidableBAll (fun c => isBlank c = true → c = ' ') text

theorem OnOneLine.append {front text : List Char} (hfront : OnOneLine front) (htext : OnOneLine text) :
    OnOneLine (front ++ text) :=
  fun c hc => (List.mem_append.mp hc).elim (hfront c) (htext c)

theorem onOneLine_of_mem_words {text word : List Char} (h : word ∈ words text) : OnOneLine word := by
  intro c hc hblank
  rw [words, List.mem_filter] at h
  simp [cut_eq_false_of_mem_pieces h.1 hc] at hblank

theorem onOneLine_intersperse {parts : List (List Char)} (h : ∀ part ∈ parts, OnOneLine part) :
    OnOneLine (parts.intersperse [' ']).flatten := by
  induction parts with
  | nil => simp [OnOneLine]
  | cons part rest ih =>
    have hpart := h part List.mem_cons_self
    cases rest with
    | nil => simpa using hpart
    | cons next rest =>
      rw [List.intersperse_cons_cons, List.flatten_cons, List.flatten_cons]
      exact hpart.append ((by decide : OnOneLine [' ']).append
        (ih fun part hmem => h part (List.mem_cons_of_mem _ hmem)))

/-- Whatever a text is, what is made of it has no other white space than the blanks between its words. -/
theorem onOneLine_oneLine (text : String) : OnOneLine (oneLine text).toList := by
  rw [oneLine, String.toList_ofList]
  exact onOneLine_intersperse fun word => onOneLine_of_mem_words

/-- A class of characters that end lines: white space with the line feed, but without the plain blank. -/
structure LineBreaks (isBreak : Char → Bool) : Prop where
  feed : isBreak '\n' = true
  space : isBreak ' ' = false
  blank : ∀ c, isBreak c = true → isBlank c = true

namespace LineBreaks

variable {isBreak : Char → Bool} (hbreaks : LineBreaks isBreak) {text : List Char}
include hbreaks

theorem eq_false_of_mem {c : Char} (h : OnOneLine text) (hc : c ∈ text) : isBreak c = false := by
  by_contra hbreak
  rw [Bool.not_eq_false] at hbreak
  rw [h c hc (hbreaks.blank c hbreak), hbreaks.space] at hbreak
  contradiction

theorem pieces_eq (h : OnOneLine text) : pieces isBreak text = [text] :=
  pieces_eq_singleton fun _ => hbreaks.eq_false_of_mem h

/-- Lines that are each ended by a line feed may still hold lines. -/
theorem pieces_flatMap (lines : List (List Char)) :
    pieces isBreak (lines.flatMap (· ++ ['\n'])) = lines.flatMap (pieces isBreak) ++ [[]] := by
  induction lines with
  | nil => rfl
  | cons line lines ih =>
    rw [List.flatMap_cons, List.flatMap_cons, List.append_assoc, List.singleton_append,
      pieces_append_cons hbreaks.feed, ih, List.append_assoc]

end LineBreaks

/-- A reader of programs ends lines at line feeds. -/
theorem lineBreaks_feed : LineBreaks (· == '\n') where
  feed := rfl
  space := rfl
  blank c h := by rw [eq_of_beq h]; rfl

/-- The characters after which Unicode always begins a new line. -/
def mandatoryBreaks : List Char :=
  ['\n', '\x0b', '\x0c', '\r', '\u0085', '\u2028', '\u2029']

theorem lineBreaks_mandatory : LineBreaks mandatoryBreaks.contains where
  feed := rfl
  space := rfl
  blank c h := by
    have hall : mandatoryBreaks.all isBlank = true := rfl
    exact List.all_eq_true.mp hall c (List.contains_iff_mem.mp h)

end Text

namespace Module

open Text

/-! ### Comments -/

/-- A line that is no code of a module: there is nothing on it, or it is a comment about the module. -/
def IsComment (line : List Char) : Prop :=
  line = [] ∨ "//!".toList <+: line

instance (line : List Char) : Decidable (IsComment line) :=
  inferInstanceAs (Decidable (line = [] ∨ "//!".toList <+: line))

variable {isBreak : Char → Bool}

theorem IsComment.append {mark : List Char} (hmark : "//!".toList <+: mark) (text : List Char) :
    IsComment (mark ++ text) :=
  Or.inr (hmark.trans (List.prefix_append mark text))

theorem comments_of_onOneLine (hbreaks : LineBreaks isBreak) {text : List Char} (h : IsComment text)
    (hline : OnOneLine text) : ∀ line ∈ pieces isBreak text, IsComment line := by
  rw [hbreaks.pieces_eq hline]
  exact List.forall_mem_singleton.mpr h

/-- What is put behind the beginning of a comment goes on with the second of its lines. -/
theorem comments_append_iff (hbreaks : LineBreaks isBreak) {mark : List Char}
    (hmark : "//!".toList <+: mark) (hline : OnOneLine mark) (text : List Char) :
    (∀ line ∈ pieces isBreak (mark ++ text), IsComment line) ↔
      ∀ line ∈ (pieces isBreak text).tail, IsComment line := by
  obtain ⟨first, more, htext⟩ := List.exists_cons_of_ne_nil (pieces_ne_nil isBreak text)
  rw [pieces_append_of_forall fun c => hbreaks.eq_false_of_mem hline, htext, List.modifyHead_cons,
    List.forall_mem_cons, List.tail_cons]
  exact and_iff_right (IsComment.append hmark first)

/-! ### The header -/

/-- What the template of a header puts on one line. Only the name of the file may need more. -/
def headerLines (metadata : Metadata) : List (List Char) :=
  ["//! AUTO-GENERATED CODE - DO NOT EDIT!".toList,
    "//!".toList,
    "//! ".toList ++ (oneLine metadata.title).toList,
    "//! Source: ".toList ++ metadata.source.toList,
    "//! Version: ".toList ++ (oneLine metadata.version).toList,
    "//! Generated by `openapi-toolgen`".toList,
    []]

theorem header_eq (metadata : Metadata) :
    (header metadata).toList = (headerLines metadata).flatMap (· ++ ['\n']) := by
  unfold header
  simp only [String.toList_append, String.reduceToList, headerLines, List.flatMap_cons,
    List.flatMap_nil, List.append_assoc, List.cons_append, List.nil_append, List.append_nil]

/-- A header consists of comments exactly if the name of the file goes on with comments. -/
theorem comments_header_iff (hbreaks : LineBreaks isBreak) (metadata : Metadata) :
    (∀ line ∈ pieces isBreak (header metadata).toList, IsComment line) ↔
      ∀ line ∈ (pieces isBreak metadata.source.toList).tail, IsComment line := by
  have hfixed : ∀ {text : List Char}, IsComment text ∧ OnOneLine text →
      ∀ line ∈ pieces isBreak text, IsComment line :=
    fun h => comments_of_onOneLine hbreaks h.1 h.2
  have hcleaned : ∀ {mark : List Char}, "//!".toList <+: mark ∧ OnOneLine mark → ∀ text : String,
      ∀ line ∈ pieces isBreak (mark ++ (oneLine text).toList), IsComment line :=
    fun h text => hfixed ⟨.append h.1 _, h.2.append (onOneLine_oneLine text)⟩
  have hsource := comments_append_iff hbreaks
    (by simp : "//!".toList <+: "//! Source: ".toList) (by decide +kernel) metadata.source.toList
  -- the line with the name of the file is the only one that can hold more than one line
  rw [header_eq, hbreaks.pieces_flatMap, ← hsource]
  simp only [headerLines, List.flatMap_cons, List.flatMap_nil, List.forall_mem_append]
  constructor
  · rintro ⟨⟨-, -, -, h, -⟩, -⟩
    exact h
  · intro h
    exact ⟨⟨hfixed (by decide +kernel), hfixed (by decide +kernel), hcleaned (by decide +kernel) _, h,
      hcleaned (by decide +kernel) _, hfixed (by decide +kernel), hfixed (by decide), by simp⟩,
      by simp [IsComment]⟩

/-- **What a header lets through.** A module is its header and its items. Whatever ends a line, the header has
no lines but empty ones and comments exactly if this is so of the lines of the file name behind its first;
the title and the version are free. -/
theorem generate_confines_iff (hbreaks : LineBreaks isBreak) {metadata : Metadata} {service : String}
    {tools : List Tool} {code : String} (h : generate metadata service tools = .ok code) :
    code = header metadata ++ Source.render (items service tools) ∧
      ((∀ line ∈ pieces isBreak (header metadata).toList, IsComment line) ↔
        ∀ line ∈ (pieces isBreak metadata.source.toList).tail, IsComment line) := by
  refine ⟨?_, comments_header_iff hbreaks metadata⟩
  unfold generate at h
  split at h
  · contradiction
  · split at h
    · contradiction
    · exact (Except.ok.inj h).symm

/-- A title and a version of several lines, with words of a program in them, stay within comments. -/
theorem generate_confines_ofTitle :
    let metadata : Metadata := ⟨"Alerts\u2028mod extra;", "1\nmod extra;\r", "alerts.json"⟩
    let code := text metadata "alerts" []
    generate metadata "alerts" [] = .ok code ∧
      code = header metadata ++ Source.render (items "alerts" []) ∧
      ∀ line ∈ pieces mandatoryBreaks.contains (header metadata).toList, IsComment line := by
  intro metadata code
  have h : generate metadata "alerts" [] = .ok code := rfl
  have hconfines := generate_confines_iff lineBreaks_mandatory h
  exact ⟨h, hconfines.1, hconfines.2.mpr (by decide +kernel)⟩

/-- A file name of two lines gives the header a line that is no comment. -/
theorem escape_ofFileName :
    let path := "specs/alerts\nmod extra;.json"
    let metadata : Metadata := ⟨"ALERTS", Metadata.unknownVersion, (FilePath.fileName? path).getD ""⟩
    generate metadata "alerts" [] = .ok (text metadata "alerts" []) ∧
      "mod extra;.json".toList ∈ pieces (· == '\n') (header metadata).toList ∧
      ¬ IsComment "mod extra;.json".toList := by
  intro path metadata
  refine ⟨rfl, ?_, by decide +kernel⟩
  rw [header_eq, lineBreaks_feed.pieces_flatMap]
  refine List.mem_append_left _ (List.mem_flatMap.mpr
    ⟨"//! Source: ".toList ++ metadata.source.toList, ?_, ?_⟩)
  · simp [headerLines]
  · decide +kernel

end Module

end Toolwright
