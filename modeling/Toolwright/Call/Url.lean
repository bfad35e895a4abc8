import Toolwright.Call.Host
import Toolwright.Text.Numeral

/-!
# URLs

A URL is read leniently and written in one form: `Url.read?` gives nothing for a text that is no URL, and
`Url.text` writes what was read with everything escaped that has to be, dots in the path worked out
and the number after the host left out where it is the usual one.
-/

namespace Toolwright

/-- A URL in normal form. -/
structure Url where
  scheme : List Char
  /-- User, host and number as they are written; not every URL has them. -/
  authority : Option (List Char)
  /-- Whether there is a host that is not empty. -/
  hasHost : Bool
  path : List Char
  query : Option (List Char)
  fragment : Option (List Char)
  deriving DecidableEq, Repr, Inhabited

namespace Url

open Text

/-- The schemes whose URLs always have a host and a path, with the numbers that
usually stand after the host. -/
def specialSchemes : List (String × Option Nat) :=
  [("http", some 80), ("https", some 443), ("ws", some 80), ("wss", some 443), ("ftp", some 21),
    ("file", none)]

/-- Whether a scheme is special. -/
def isSpecial (scheme : List Char) : Bool :=
  (specialSchemes.lookup (String.ofList scheme)).isSome

/-! ### Characters that are escaped -/

/-- In a fragment. -/
def escapedInFragment (c : Char) : Bool :=
  [' ', '"', '<', '>', '\u0060'].contains c

/-- In a path. -/
def escapedInPath (c : Char) : Bool :=
  escapedInFragment c || ['#', '?', '\x7b', '\x7d'].contains c

/-- In a user name or password. -/
def escapedInUser (c : Char) : Bool :=
  escapedInPath c || ['/', ':', ';', '=', '@', '[', '\\', ']', '^', '|'].contains c

/-- In a query. -/
def escapedInQuery (isSpecial : Bool) (c : Char) : Bool :=
  [' ', '"', '#', '<', '>'].contains c || (isSpecial && c == '\'')

/-! ### Parts -/

/-- The text without blanks and control characters at its ends and without tabs and line breaks. -/
def cleaned (text : String) : List Char :=
  (trim (fun c => c.toNat ≤ 0x20) text.toList).filter fun c =>
    c != '\t' && c != '\n' && c != '\r'

/-- The scheme and what follows its colon. -/
def scheme? (text : List Char) : Option (List Char × List Char) :=
  let name := text.takeWhile fun c => c.isAlphanum || c == '+' || c == '-' || c == '.'
  match name.head?, text.drop name.length with
  | some first, ':' :: rest => if first.isAlpha then some (name.map Char.toLower, rest) else none
  | _, _ => none

/-- The part of a text before its last `@`, if there is one, and the part after it. -/
def atLastAt (text : List Char) : Option (List Char) × List Char :=
  let host := (text.reverse.takeWhile (· != '@')).reverse
  if host.length = text.length then (none, text)
  else (some (text.take (text.length - host.length - 1)), host)

/-- The host and the number that may stand after it with a colon between them; a colon in brackets belongs
to the host. -/
def hostAndNumber (text : List Char) : List Char × Option (List Char) :=
  let last := (text.reverse.takeWhile fun c => c != ':' && c != ']').reverse
  match text.take (text.length - last.length) |>.reverse with
  | ':' :: host => (host.reverse, some last)
  | _ => (text, none)

/-- User and password as they are written, with the sign after them. -/
def userText (user : List Char) : List Char :=
  let name := user.takeWhile (· != ':')
  let password := (user.drop name.length).drop 1
  let name := percentEncode escapedInUser name
  let password := percentEncode escapedInUser password
  if name.isEmpty && password.isEmpty then []
  else name ++ (if password.isEmpty then [] else ':' :: password) ++ ['@']

/-- The normal form of user, host and number. -/
def authority? (scheme text : List Char) : Option (List Char) := do
  let (user, rest) := atLastAt text
  let (host, number?) := hostAndNumber rest
  let special := isSpecial scheme
  if special && host.isEmpty then none
  let host ← if host.isEmpty then some [] else Host.normal? special host
  let numberText ←
    match number? with
    | none | some [] => some []
    | some digits => do
      let number ← digitsBelow? 65536 digits
      if specialSchemes.lookup (String.ofList scheme) = some (some number) then some []
      else some (':' :: (toString number).toList)
  return (user.map userText).getD [] ++ host ++ numberText

/-- Whether a step of a path stays where it is. -/
def isDot (step : List Char) : Bool :=
  step == ['.'] || step.map Char.toLower == "%2e".toList

/-- Whether a step of a path goes up. -/
def isDoubleDot (step : List Char) : Bool :=
  ["..", ".%2e", "%2e.", "%2e%2e"].any fun form => step.map Char.toLower == form.toList

/-- The steps of a path with dots worked out; `done` are the steps before, the last one first. -/
def resolveDots (done : List (List Char)) : List (List Char) → List (List Char)
  | [] => done.reverse
  | [last] =>
    if isDoubleDot last then ([] :: done.drop 1).reverse
    else if isDot last then ([] :: done).reverse
    else (last :: done).reverse
  | step :: rest =>
    if isDoubleDot step then resolveDots (done.drop 1) rest
    else if isDot step then resolveDots done rest
    else resolveDots (step :: done) rest

/-- The normal form of a path. -/
def pathText (special : Bool) (text : List Char) : List Char :=
  let isSlash (c : Char) : Bool := c == '/' || (special && c == '\\')
  match text with
  | [] => if special then ['/'] else []
  | c :: rest =>
    let body := if isSlash c then rest else c :: rest
    (resolveDots [] (pieces isSlash body)).flatMap fun step =>
      '/' :: percentEncode escapedInPath step

/-- The text before the first `mark`, and the text after it if there is one. -/
def cutAt (mark : Char) (text : List Char) : List Char × Option (List Char) :=
  let before := text.takeWhile (· != mark)
  match text.drop before.length with
  | [] => (before, none)
  | _ :: after => (before, some after)

/-! ### Reading and writing -/

/-- The URL that a text is read as. -/
def read? (text : String) : Option Url := do
  let (scheme, rest) ← scheme? (cleaned text)
  let (rest, fragment) := cutAt '#' rest
  let (rest, query) := cutAt '?' rest
  let special := isSpecial scheme
  let isSlash (c : Char) : Bool := c == '/' || (special && c == '\\')
  let url (authority : Option (List Char)) (hasHost : Bool) (path : List Char) : Url :=
    { scheme := scheme
      authority := authority
      hasHost := hasHost
      path := path
      query := query.map (percentEncode (escapedInQuery special))
      fragment := fragment.map (percentEncode escapedInFragment) }
  if scheme = "file".toList then
    match rest with
    | a :: b :: tail =>
      if isSlash a && isSlash b then
        let host := tail.takeWhile fun c => !isSlash c
        let name ← if host.isEmpty then some [] else Host.normal? true host
        let name := if name = "localhost".toList then [] else name
        return url (some name) (!name.isEmpty) (pathText true (tail.drop host.length))
      else return url (some []) false (pathText true (a :: b :: tail))
    | short => return url (some []) false (pathText true short)
  else if special then
    let rest := rest.dropWhile isSlash
    let part := rest.takeWhile fun c => !isSlash c
    let authority ← authority? scheme part
    return url (some authority) true (pathText true (rest.drop part.length))
  else
    match rest with
    | '/' :: '/' :: tail =>
      let part := tail.takeWhile (· != '/')
      let authority ← authority? scheme part
      return url (some authority) (!authority.isEmpty) (pathText false (tail.drop part.length))
    | '/' :: tail => return url none false (pathText false ('/' :: tail))
    | opaquePath => return url none false (percentEncode (fun _ => false) opaquePath)

/-- The text of a URL. -/
def text (url : Url) : String :=
  String.ofList
    (url.scheme ++ ':' :: ((url.authority.map fun a => '/' :: '/' :: a).getD []) ++ url.path ++
      (url.query.map fun q => '?' :: q).getD [] ++ (url.fragment.map fun f => '#' :: f).getD [])

end Url

end Toolwright
