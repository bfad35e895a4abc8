import Toolwright.Text.Category
import Toolwright.Text.Pieces

/-!
# Names as vendors write them

Operation ids often begin with the HTTP method of their operation, and some vendors put a
namespace and a version in front of every id. Both are dropped before a name is normalised: the
method by `withoutVerb`, the namespace by `withoutVendor`, which moves the version to the end
so that two versions of an operation stay apart.
-/

namespace Toolwright.Name

open Text

/-- What follows `word` at the front of the text, read without regard to ASCII case. -/
def afterIgnoringCase? : List Char → List Char → Option (List Char)
  | [], text => some text
  | _ :: _, [] => none
  | w :: word, c :: text =>
    if w.toLower = c.toLower then afterIgnoringCase? word text else none

/-- Whether a character begins a new word of a name. -/
def beginsWord (c : Char) : Bool :=
  isUpper c || c == '_' || c == '-'

/-- The name without the method at its front, if a new word begins right after it. -/
def withoutVerb (name : List Char) (method : List Char) : List Char :=
  if method.isEmpty then name
  else
    match afterIgnoringCase? method name with
    | some (c :: rest) => if beginsWord c then c :: rest else name
    | _ => name

/-- The mark of the vendor namespace. -/
def vendorMark : String := "public_api-"

/-- A version in front of a name, the letter `v` with decimal digits, and what follows the hyphen
after it. -/
def version? : List Char → Option (List Char × List Char)
  | 'v' :: rest =>
    match rest.takeWhile isDigit, rest.dropWhile isDigit with
    | _ :: _, '-' :: name => some ('v' :: rest.takeWhile isDigit, name)
    | _, _ => none
  | _ => none

/-- The name without separators and vendor namespace in front; a version after the namespace
goes to the end. -/
def withoutVendor (name : List Char) : List Char :=
  let bare := trimStart (fun c => c == '-' || c == '_') name
  match after? vendorMark.toList bare with
  | none => bare
  | some rest =>
    match version? rest with
    | some (version, name) => name ++ '-' :: version
    | none => rest

end Toolwright.Name
