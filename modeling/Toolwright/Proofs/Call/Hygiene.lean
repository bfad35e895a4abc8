import Toolwright.Call.Hygiene
import Toolwright.Proofs.Text.Lower
import Toolwright.Proofs.Text.Pieces

/-!
# What inputs get through

An input is refused if it is too long or if the mark of a script stands in it anywhere, in ASCII letters of
any case (`IsAcceptable`). The marks are looked for in the input in lower case, as all of Unicode has
it; that this finds them wherever they are, and finds nothing that is not one of them, rests on
`Lowered.infix_iff`, for no mark has a letter in it that a character beyond ASCII could become
(`plain_of_mem`). The arguments of a call are refused for the first one that is not acceptable.
-/

namespace Toolwright

open Text

/-- Somewhere in a text there is the mark of a script in ASCII letters of any case. -/
def HoldsScript (text : String) : Prop :=
  ∃ mark ∈ ["<script", "javascript:", "onerror="], ∃ found,
    found <:+: text.toList ∧ found.map Char.toLower = mark.toList

/-- A value that can be an input: a text has to be short and free of scripts. -/
def IsAcceptable (value : Json) : Prop :=
  ∀ text, value = .string text → text.length ≤ 10000 ∧ ¬ HoldsScript text

theorem plain_of_mem {mark : String} (h : mark ∈ maliciousPatterns) : Plain mark.toList := by
  simp only [maliciousPatterns, List.mem_cons, List.not_mem_nil, or_false] at h
  rcases h with rfl | rfl | rfl <;> exact ⟨by simp, by decide, by decide⟩

theorem isMalicious_iff {text : String} : isMalicious text = true ↔ HoldsScript text := by
  rw [isMalicious, List.any_eq_true]
  refine exists_congr fun mark => and_congr_right fun hmark => ?_
  rw [occurs_iff]
  exact (lowered_lower text.toList).infix_iff (plain_of_mem hmark)

/-- Why a text cannot be an input: its length goes before what is in it. -/
theorem inputFault?_string (name text : String) :
    inputFault? name (.string text) =
      if maxInputLength < text.length then some (.inputTooLong name)
      else if isMalicious text then some (.maliciousInput name) else none := rfl

theorem inputFault?_eq_none_iff {name : String} {value : Json} :
    inputFault? name value = none ↔ IsAcceptable value := by
  cases value with
  | string text =>
    have htext : IsAcceptable (.string text) ↔
        text.length ≤ maxInputLength ∧ ¬ isMalicious text = true := by
      rw [isMalicious_iff]
      exact ⟨fun h => h text rfl, fun h other heq => Json.string.inj heq ▸ h⟩
    rw [htext, inputFault?_string]
    split
    · next hlong => exact iff_of_false nofun fun h => Nat.not_lt.mpr h.1 hlong
    · next hshort =>
      split
      · next hscript => exact iff_of_false nofun fun h => h.2 hscript
      · next hclean => exact iff_of_true rfl ⟨Nat.le_of_not_lt hshort, hclean⟩
  | _ => exact iff_of_true rfl nofun

theorem inputFault?_eq_some_iff {name : String} {value : Json} {error : CallError} :
    inputFault? name value = some error ↔ ∃ text, value = .string text ∧
      (maxInputLength < text.length ∧ error = .inputTooLong name ∨
        text.length ≤ maxInputLength ∧ HoldsScript text ∧ error = .maliciousInput name) := by
  cases value with
  | string text =>
    simp only [Json.string.injEq, exists_eq_left']
    rw [inputFault?_string, ← isMalicious_iff]
    split
    · next hlong =>
      rw [or_iff_left fun h => Nat.not_lt.mpr h.1 hlong, and_iff_right hlong, Option.some.injEq, eq_comm]
    · next hshort =>
      rw [or_iff_right fun h => hshort h.1, and_iff_right (Nat.le_of_not_lt hshort)]
      split
      · next hscript => rw [and_iff_right hscript, Option.some.injEq, eq_comm]
      · next hclean => exact iff_of_false nofun fun h => hclean h.1
  | _ => exact iff_of_false nofun fun ⟨text, heq, _⟩ => nomatch heq

/-- The faults of the arguments, in their order. -/
def firstFault? (members : List (String × Json)) : Option CallError :=
  members.findSome? fun entry => inputFault? entry.1 entry.2

theorem validateInputs_object (members : List (String × Json)) :
    validateInputs (.object members) = (firstFault? members).elim (.ok ()) .error := by
  rw [validateInputs]
  split
  · next error hfault => rw [show firstFault? members = some error from hfault]; rfl
  · next hnone => rw [show firstFault? members = none from hnone]; rfl

/-- **No script and no text too long gets through.** The arguments of a call are let through just if all of
them are acceptable; otherwise the first one that is not is named, and what is said of it is that it
is too long if it is, and that it is malicious if not. -/
theorem validateInputs_iff (members : List (String × Json)) :
    (validateInputs (.object members) = .ok () ↔ ∀ entry ∈ members, IsAcceptable entry.2) ∧
    ∀ error, validateInputs (.object members) = .error error ↔
      ∃ before name text behind, members = before ++ (name, .string text) :: behind ∧
        (∀ entry ∈ before, IsAcceptable entry.2) ∧
        (10000 < text.length ∧ error = .inputTooLong name ∨
          text.length ≤ 10000 ∧ HoldsScript text ∧ error = .maliciousInput name) := by
  rw [validateInputs_object]
  have hok : (firstFault? members).elim (.ok ()) .error = (.ok () : Except CallError Unit) ↔
      firstFault? members = none := by
    cases firstFault? members <;> simp
  have herror : ∀ error, (firstFault? members).elim (.ok ()) .error =
      (.error error : Except CallError Unit) ↔ firstFault? members = some error := by
    cases firstFault? members <;> simp
  refine ⟨?_, fun error => ?_⟩
  · rw [hok, firstFault?, List.findSome?_eq_none_iff]
    exact forall₂_congr fun entry _ => inputFault?_eq_none_iff
  · rw [herror, firstFault?, List.findSome?_eq_some_iff]
    constructor
    · rintro ⟨before, ⟨name, value⟩, behind, hmembers, hfault, hbefore⟩
      obtain ⟨text, rfl, hwhy⟩ := inputFault?_eq_some_iff.mp hfault
      exact ⟨before, name, text, behind, hmembers,
        fun entry hentry => inputFault?_eq_none_iff.mp (hbefore entry hentry), hwhy⟩
    · rintro ⟨before, name, text, behind, hmembers, hbefore, hwhy⟩
      exact ⟨before, (name, .string text), behind, hmembers,
        inputFault?_eq_some_iff.mpr ⟨text, rfl, hwhy⟩,
        fun entry hentry => inputFault?_eq_none_iff.mpr (hbefore entry hentry)⟩

end Toolwright
