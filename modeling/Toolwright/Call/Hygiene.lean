import Toolwright.Call.Error
import Toolwright.Json.Printer
import Toolwright.Text.Category
import Toolwright.Text.Lower
import Toolwright.Text.Pieces

/-!
# Hygiene of inputs

Values that callers supply are checked before a request is made of them (`validateInputs`) and stripped
of everything unusual before they become part of a URL or a header (`sanitizeParam`).
-/

namespace Toolwright

/-- How many characters of an input are kept. -/
def maxSanitizedLength : Nat := 1000

/-- How many characters an input may have. -/
def maxInputLength : Nat := 10000

/-- The characters that an input keeps: those of words, white space and a few signs. -/
def isHarmless (c : Char) : Bool :=
  Text.isWord c || Text.isBlank c || ['-', '_', '.', '@', ',', ':', '/'].contains c

/-- The text without characters that are not harmless, cut off where it gets too long. -/
def sanitizeInput (text : String) : String :=
  String.ofList ((text.toList.filter isHarmless).take maxSanitizedLength)

/-- The text of a value in a URL or a header: strings are sanitized, and nothing is empty. -/
def sanitizeParam : Json → String
  | .string text => sanitizeInput text
  | .null => ""
  | value => value.render

/-- The marks of scripts. -/
def maliciousPatterns : List String := ["<script", "javascript:", "onerror="]

/-- Whether a text contains the mark of a script in letters of any case. -/
def isMalicious (text : String) : Bool :=
  let lowered := Text.lower text.toList
  maliciousPatterns.any fun pattern => Text.occurs pattern.toList lowered

/-- Why a value cannot be an input. Only strings are looked at. -/
def inputFault? (name : String) : Json → Option CallError
  | .string text =>
    if text.length > maxInputLength then some (.inputTooLong name)
    else if isMalicious text then some (.maliciousInput name)
    else none
  | _ => none

/-- Refuses arguments of which one cannot be an input; the first such one is named. -/
def validateInputs (arguments : Json) : Except CallError Unit :=
  match (arguments.members?.getD []).findSome? fun (name, value) => inputFault? name value with
  | some error => .error error
  | none => .ok ()

end Toolwright
