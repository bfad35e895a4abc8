import Toolwright.Text.Category
import Toolwright.Text.Pieces

/-!
# Redaction of messages

A message may quote what it is about, and that may be a secret or a path. Whatever looks like one is
replaced by a note that it was there: first the credentials, kind by kind, then the paths.
-/

namespace Toolwright.Redaction

open Text

/-- How many characters of a message are kept. -/
def maxLength : Nat := 500

/-- A text with every part that `match?` finds replaced; `match?` gives what follows the part that it finds
at the front of a text. -/
def replaceAll (match? : List Char → Option (List Char)) (replacement : List Char)
    (text : List Char) : List Char :=
  match text with
  | [] => []
  | c :: rest =>
    match match? (c :: rest) with
    | none => c :: replaceAll match? replacement rest
    | some after =>
      if after.length < (c :: rest).length then
        replacement ++ replaceAll match? replacement after
      else c :: replaceAll match? replacement rest
termination_by text.length
decreasing_by
  · exact Nat.lt_succ_self _
  · assumption
  · exact Nat.lt_succ_self _

/-! ### Credentials -/

/-- Whether a character is a letter, whatever its case. The sign for kelvin and the long s are letters too. -/
def isLetter (letter c : Char) : Bool :=
  c.toLower == letter || (letter == 'k' && c == '\u212a') || (letter == 's' && c == '\u017f')

/-- What follows a word at the front of a text, read without regard to case. -/
def afterWord? : List Char → List Char → Option (List Char)
  | [], text => some text
  | _ :: _, [] => none
  | letter :: word, c :: text => if isLetter letter c then afterWord? word text else none

/-- The text without its first character if that satisfies `drop`. -/
def dropOne (drop : Char → Bool) : List Char → List Char
  | [] => []
  | c :: rest => if drop c then rest else c :: rest

/-- What follows one or more characters at the front of a text that satisfy `keep`. -/
def afterRun? (keep : Char → Bool) : List Char → Option (List Char)
  | [] => none
  | c :: rest => if keep c then some (rest.dropWhile keep) else none

/-- What follows a value, with perhaps an equals sign or colon and perhaps a blank in front of it. -/
def afterValue? (text : List Char) : Option (List Char) :=
  afterRun? (fun c => isWord c || c == '-')
    (dropOne isBlank (dropOne (fun c => c == '=' || c == ':') text))

/-- What follows a keyword and its value. -/
def afterCredential? (keyword : String) (text : List Char) : Option (List Char) :=
  (afterWord? keyword.toList text).bind afterValue?

/-- What follows the keyword of an API key, which may be two words, and its value. -/
def afterApiKey? (text : List Char) : Option (List Char) :=
  (afterWord? "api".toList text).bind fun rest =>
    afterCredential? "key" (dropOne (fun c => c == '_' || c == '-') rest)

/-! ### Paths -/

/-- What follows the last separator among the characters at the front of a text that are word characters or
separators, if something comes before it. -/
def afterDirectories? (separator : Char) (text : List Char) : Option (List Char) :=
  let belongs (c : Char) : Bool := isWord c || c == separator
  let run := text.takeWhile belongs
  let tail := (run.reverse.takeWhile (· != separator)).reverse
  if run.length ≥ tail.length + 2 then some (tail ++ text.dropWhile belongs) else none

/-- What follows the directories of a path. -/
def afterPath? : List Char → Option (List Char)
  | '/' :: rest => afterDirectories? '/' rest
  | _ => none

/-- What follows the directories of a path with a drive letter. -/
def afterDrivePath? : List Char → Option (List Char)
  | drive :: ':' :: '\\' :: rest => if drive.isUpper then afterDirectories? '\\' rest else none
  | _ => none

/-! ### Messages -/

/-- What is looked for and what is written in its place, in order. -/
def rules : List ((List Char → Option (List Char)) × String) :=
  [(afterApiKey?, "API_KEY_REDACTED"), (afterCredential? "token", "TOKEN_REDACTED"),
    (afterCredential? "password", "PASSWORD_REDACTED"),
    (afterCredential? "secret", "SECRET_REDACTED"), (afterPath?, "/PATH_REDACTED/"),
    (afterDrivePath?, "PATH_REDACTED\\")]

/-- The message without credentials and directories, cut off where it gets too long. -/
def sanitizeMessage (message : String) : String :=
  let redacted := rules.foldl (fun text rule => replaceAll rule.1 rule.2.toList text) message.toList
  String.ofList (redacted.take maxLength)

end Toolwright.Redaction
