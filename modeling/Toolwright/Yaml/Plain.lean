import Toolwright.Yaml.Value

/-!
# What plain scalars denote

A scalar without quotes and tag may be a null, a truth value, an integer in one of four bases or a
real; all others are strings. Digits behind a leading zero are no number. An integer that fits 128
bits but not 64 is a fault; one that is larger still is a real.
-/

namespace Toolwright.Yaml.Plain

open Decimal

/-- The null, in one of its spellings. -/
def isNull (text : String) : Bool :=
  ["null", "Null", "NULL", "~"].contains text

/-- A truth value, in one of its spellings. -/
def bool? (text : String) : Option Bool :=
  if ["true", "True", "TRUE"].contains text then some true
  else if ["false", "False", "FALSE"].contains text then some false
  else none

/-- The number that a digit denotes in a base up to sixteen. -/
def digit? (base : Nat) (c : Char) : Option Nat :=
  let value? : Option Nat :=
    if c.isDigit then some (c.toNat - '0'.toNat)
    else if 'a' ≤ c ∧ c ≤ 'f' then some (c.toNat - 'a'.toNat + 10)
    else if 'A' ≤ c ∧ c ≤ 'F' then some (c.toNat - 'A'.toNat + 10)
    else none
  value?.filter (· < base)

/-- The number that digits denote in a base; there must be one at least. -/
def digits? (base : Nat) (text : List Char) : Option Nat :=
  if text.isEmpty then none
  else text.foldlM (fun n c => (digit? base c).map fun d => n * base + d) 0

/-- Digits behind a leading zero, with a sign perhaps. -/
def isZeroPadded (text : List Char) : Bool :=
  let digits :=
    match text with
    | '-' :: rest => rest
    | '+' :: rest => rest
    | digits => digits
  match digits with
  | '0' :: c :: rest => (c :: rest).all Char.isDigit
  | _ => false

/-- The magnitude of an integer without sign, the base told by what stands in front. -/
def magnitude? (text : List Char) : Option Nat :=
  match text with
  | '0' :: 'x' :: rest => digits? 16 rest
  | '0' :: 'o' :: rest => digits? 8 rest
  | '0' :: 'b' :: rest => digits? 2 rest
  | digits => digits? 10 digits

/-- The integer that a text denotes, of any size. -/
def integer? (text : List Char) : Option Int :=
  if isZeroPadded text then none
  else
    match text with
    | '-' :: rest => (magnitude? rest).map fun n => -(n : Int)
    | '+' :: rest => (magnitude? rest).map Int.ofNat
    | rest => (magnitude? rest).map Int.ofNat

/-- The complaint about an integer that fits no type of a value. -/
def wideInteger (n : Int) : String :=
  "invalid type: integer `" ++ toString n ++ "` as " ++ (if n < 0 then "i128" else "u128") ++
    ", expected any YAML value"

/-- The integer that a text denotes, if it is an integer of at most 128 bits. -/
def narrowInteger? (text : List Char) : Option (Except String YamlNumber) :=
  match integer? text with
  | none => none
  | some n =>
    if -0x8000000000000000 ≤ n ∧ n < 0x10000000000000000 then some (.ok (.integer n))
    else if -0x80000000000000000000000000000000 ≤ n ∧
        n < 0x100000000000000000000000000000000 then some (.error (wideInteger n))
    else none

/-- The exponent of a real, from its letter on: nothing, or a letter, a sign and digits. -/
def exponent? (text : List Char) : Option Int :=
  match text with
  | [] => some 0
  | c :: rest =>
    if c == 'e' || c == 'E' then
      match rest with
      | '-' :: digits => (digits? 10 digits).map fun n => -(n : Int)
      | '+' :: digits => (digits? 10 digits).map Int.ofNat
      | digits => (digits? 10 digits).map Int.ofNat
    else none

/-- The nearest real to a decimal, if the decimal is not too large. -/
def nearest? (negative : Bool) (digits : List Char) (power : Int) : Option Binary64 :=
  let significand := digits.foldl (fun n c => n * 10 + (c.toNat - '0'.toNat)) 0
  if significand = 0 ∨ power + digits.length < -400 then some (Binary64.zero negative)
  else Binary64.ofDecimal? negative significand power

/-- The finite real that a text without plus sign denotes. -/
def finite? (text : List Char) : Option Binary64 :=
  let (negative, rest) :=
    match text with
    | '-' :: rest => (true, rest)
    | rest => (false, rest)
  let whole := rest.takeWhile Char.isDigit
  let rest := rest.dropWhile Char.isDigit
  let (fraction, rest) :=
    match rest with
    | '.' :: rest => (rest.takeWhile Char.isDigit, rest.dropWhile Char.isDigit)
    | rest => ([], rest)
  if whole.isEmpty && fraction.isEmpty then none
  else
    (exponent? rest).bind fun exponent =>
      nearest? negative (whole ++ fraction) (exponent - fraction.length)

/-- The real that a text denotes. -/
def real? (text : List Char) : Option YamlNumber :=
  let unsigned? : Option (List Char) :=
    match text with
    | '+' :: rest => if rest.head? == some '+' || rest.head? == some '-' then none else some rest
    | rest => some rest
  unsigned?.bind fun unsigned =>
    if [".inf", ".Inf", ".INF"].contains (String.ofList unsigned) then some (.infinite false)
    else if ["-.inf", "-.Inf", "-.INF"].contains (String.ofList text) then some (.infinite true)
    else if [".nan", ".NaN", ".NAN"].contains (String.ofList text) then some .notANumber
    else (finite? unsigned).map .real

/-- The value of a plain scalar, or a complaint. -/
def resolve (text : String) : Except String Yaml :=
  if text.isEmpty || isNull text then .ok .null
  else
    match bool? text, narrowInteger? text.toList with
    | some b, _ => .ok (.bool b)
    | none, some result => result.map Yaml.number
    | none, none =>
      if isZeroPadded text.toList then .ok (.string text)
      else
        match real? text.toList with
        | some x => .ok (.number x)
        | none => .ok (.string text)

/-- The complaint about a text that is not what its tag promises. -/
def notA (text expected : String) : String :=
  "invalid value: string " ++ Text.quoted text ++ ", expected " ++ expected

/-- The value of a scalar with a tag of the core schema, if the tag is one. -/
def resolveTagged? (tag text : String) : Option (Except String Yaml) :=
  if tag = "tag:yaml.org,2002:bool" then
    some (match bool? text with
      | some b => .ok (.bool b)
      | none => .error (notA text "a boolean"))
  else if tag = "tag:yaml.org,2002:int" then
    some (match narrowInteger? text.toList with
      | some result => result.map Yaml.number
      | none => .error (notA text "an integer"))
  else if tag = "tag:yaml.org,2002:float" then
    some (match real? text.toList with
      | some x => .ok (.number x)
      | none => .error (notA text "a float"))
  else if tag = "tag:yaml.org,2002:null" then
    some (if isNull text then .ok .null else .error (notA text "null"))
  else none

/-- The value of a scalar with an optional tag; `plain` says that it has no quotes. -/
def scalar (tag : Option String) (text : String) (plain : Bool) : Except String Yaml :=
  match tag with
  | none => if plain then resolve text else .ok (.string text)
  | some tag =>
    match resolveTagged? tag text with
    | some value => value
    | none => if tag.startsWith "!" && plain then resolve text else .ok (.string text)

end Toolwright.Yaml.Plain
