import Toolwright.Text.Case
import Toolwright.Text.Percent
import Toolwright.Text.Pieces
import Toolwright.Text.Punycode

/-!
# Hosts of URLs

A host is a domain, an address of four numbers or an address of eight pieces in square brackets. The same
host can be written in many ways; `Host.normal?` gives the one that stands for all of them.
-/

namespace Toolwright.Host

open Text

/-! ### Addresses of four numbers -/

/-- The number that a part of an address denotes, in base ten, eight or sixteen. -/
def numberOf? (digits : List Char) : Option Nat :=
  let inBase (base : Nat) (digits : List Char) : Option Nat :=
    digits.foldlM (fun n c =>
      (hexDigitValue? c).bind fun d => if d < base then some (n * base + d) else none) 0
  match digits with
  | [] => none
  | '0' :: 'x' :: rest | '0' :: 'X' :: rest => inBase 16 rest
  | '0' :: c :: rest => inBase 8 (c :: rest)
  | other => inBase 10 other

/-- Whether the last part of a domain is a number, so that it has to be an address. -/
def endsInNumber (parts : List (List Char)) : Bool :=
  let parts := if parts.getLast? = some [] && parts.length > 1 then parts.dropLast else parts
  match parts.getLast? with
  | some last => (!last.isEmpty && last.all Char.isDigit) || (numberOf? last).isSome
  | none => false

/-- The numbers of an address; the last part stands for all bytes that are left. -/
def addressNumber? (parts : List (List Char)) : Option Nat := do
  let parts := if parts.getLast? = some [] && parts.length > 1 then parts.dropLast else parts
  if parts.length > 4 then none
  let numbers ← parts.mapM numberOf?
  let last ← numbers.getLast?
  let first := numbers.dropLast
  if first.any (· > 255) || last ≥ Nat.pow 256 (5 - numbers.length) then none
  return first.zipIdx.foldl (fun address (n, i) => address + n * Nat.pow 256 (3 - i)) last

/-- An address as four numbers with dots between them. -/
def dotted (address : Nat) : List Char :=
  (String.intercalate "."
    ([3, 2, 1, 0].map fun i => toString (address / Nat.pow 256 i % 256))).toList

/-! ### Addresses of eight pieces -/

/-- A piece: up to four digits in base sixteen. -/
def piece? (digits : List Char) : Option Nat :=
  if digits.isEmpty || digits.length > 4 then none
  else digits.foldlM (fun n c => (hexDigitValue? c).map fun d => n * 16 + d) 0

/-- A byte in base ten, without a zero in front. -/
def byte? (digits : List Char) : Option Nat :=
  if digits.isEmpty || !digits.all Char.isDigit || digits.length > 3 then none
  else if digits.length > 1 && digits.head? = some '0' then none
  else
    let n := digits.foldl (fun n c => n * 10 + (c.toNat - '0'.toNat)) 0
    if n < 256 then some n else none

/-- The pieces between colons; the last may be an address of four numbers, which makes two. -/
def pieces? : List (List Char) → Option (List Nat)
  | [] => some []
  | [last] =>
    if last.contains '.' then
      match (pieces (· == '.') last).mapM byte? with
      | some [a, b, c, d] => some [a * 256 + b, c * 256 + d]
      | _ => none
    else (piece? last).map fun n => [n]
  | first :: rest => do return (← piece? first) :: (← pieces? rest)

/-- The text before the first two colons in a row and the text after them. -/
def atDoubleColon? : List Char → Option (List Char × List Char)
  | ':' :: ':' :: rest => some ([], rest)
  | c :: rest => (atDoubleColon? rest).map fun (before, after) => (c :: before, after)
  | [] => none

/-- The eight pieces of an address; two colons in a row stand for the zeros that are missing. -/
def eightPieces? (text : List Char) : Option (List Nat) :=
  let side (text : List Char) : Option (List Nat) :=
    if text.isEmpty then some [] else pieces? (pieces (· == ':') text)
  match atDoubleColon? text with
  | some (before, after) =>
    match side before, side after with
    | some front, some back =>
      if front.length + back.length < 8 && !before.contains '.' then
        some (front ++ List.replicate (8 - front.length - back.length) 0 ++ back)
      else none
    | _, _ => none
  | none => (side text).filter fun ps => ps.length = 8

/-- The length of the run of zeros at the front. -/
def zeroRun (ps : List Nat) : Nat := (ps.takeWhile (· == 0)).length

/-- Where the longest run of two or more zeros begins, and its length; the first of equal ones. -/
def longestZeros (ps : List Nat) : Option (Nat × Nat) :=
  let runs := (List.range ps.length).map fun i => (i, zeroRun (ps.drop i))
  runs.foldl (fun best run =>
    if run.2 ≥ 2 && (best.map fun b => decide (run.2 > b.2)).getD true then some run else best) none

/-- Pieces with colons between them. -/
def colonSeparated (ps : List Nat) : List Char :=
  (String.intercalate ":" (ps.map fun n => String.ofList (Nat.toDigits 16 n))).toList

/-- An address of eight pieces, with two colons in the place of the longest run of zeros. -/
def bracketed (ps : List Nat) : List Char :=
  let inner :=
    match longestZeros ps with
    | none => colonSeparated ps
    | some (start, length) =>
      colonSeparated (ps.take start) ++ [':', ':'] ++ colonSeparated (ps.drop (start + length))
  '[' :: inner ++ [']']

/-! ### Hosts -/

/-- Characters that no host has in it. -/
def isForbidden (c : Char) : Bool :=
  ['\x00', '\t', '\n', '\r', ' ', '#', '/', ':', '<', '>', '?', '@', '[', '\\', ']', '^',
    '|'].contains c

/-- Characters that no domain has in it. -/
def isForbiddenInDomain (c : Char) : Bool :=
  isForbidden c || c.toNat < 0x20 || c == '%' || c == '\x7f'

/-- The normal form of a domain or an address of four numbers. -/
def domain? (text : List Char) : Option (List Char) := do
  let decoded ← String.fromUTF8? ⟨(percentDecode text).toArray⟩
  let lowered := decoded.toList.flatMap lowerCase
  if lowered.isEmpty || lowered.any isForbiddenInDomain then none
  let parts := (pieces (· == '.') lowered).map Punycode.label
  if endsInNumber parts then (addressNumber? parts).map dotted
  else some (parts.intersperse ['.']).flatten

/-- The normal form of a host; only special schemes take a host apart. -/
def normal? (isSpecial : Bool) (text : List Char) : Option (List Char) :=
  match text with
  | '[' :: rest =>
    if rest.getLast? = some ']' then (eightPieces? rest.dropLast).map bracketed else none
  | text =>
    if isSpecial then domain? text
    else if text.any isForbidden then none
    else some (percentEncode (fun _ => false) text)

end Toolwright.Host
