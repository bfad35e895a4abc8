/-!
# Punycode

A label of a domain may hold letters of any script, but is sent in ASCII: first come its ASCII characters,
then, as numbers of variable length in base 36, how far one has to go over all pairs of a character and
a place to get from one of the other characters to the next.
-/

namespace Toolwright.Text.Punycode

/-- A digit in base 36: the letters, then the figures. -/
def digit (n : Nat) : Char :=
  if n < 26 then Char.ofNat ('a'.toNat + n) else Char.ofNat ('0'.toNat + (n - 26))

/-- The least digit that is followed by another one, `place` being 36 for the first digit, 72 for the
second and so on. -/
def threshold (place bias : Nat) : Nat :=
  if place ≤ bias then 1 else min 26 (place - bias)

theorem one_le_threshold (place bias : Nat) : 1 ≤ threshold place bias := by
  unfold threshold; split <;> omega

/-- The digits of a number, from the digit at `place` on. -/
def digits (bias place n : Nat) : List Char :=
  let least := threshold place bias
  if n < least then [digit n]
  else
    digit (least + (n - least) % (36 - least)) ::
      digits bias (place + 36) ((n - least) / (36 - least))
termination_by n
decreasing_by
  have := one_le_threshold place bias
  have := Nat.div_le_self (n - threshold place bias) (36 - threshold place bias)
  omega

/-- The bias that a number of the size of `delta` suggests for the next one. -/
def settled (delta place : Nat) : Nat :=
  if delta > 455 then settled (delta / 35) (place + 36) else place + 36 * delta / (delta + 38)
termination_by delta
decreasing_by omega

/-- The bias after a number; `written` counts the characters that are in place with this one. -/
def nextBias (delta written : Nat) (isFirst : Bool) : Nat :=
  let delta := if isFirst then delta / 700 else delta / 2
  settled (delta + delta / written) 0

/-- What has been done of the characters that are not ASCII. -/
structure Progress where
  output : List Char
  /-- How many pairs have been passed over since the last character. -/
  delta : Nat
  bias : Nat
  /-- How many characters are in place. -/
  written : Nat
  deriving Repr, Inhabited

/-- One place of the text while the characters of the code `code` are put in. -/
def Progress.visit (progress : Progress) (ascii code : Nat) (c : Char) : Progress :=
  if c.toNat < code then { progress with delta := progress.delta + 1 }
  else if c.toNat = code then
    { output := progress.output ++ digits progress.bias 36 progress.delta
      delta := 0
      bias := nextBias progress.delta (progress.written + 1) (progress.written = ascii)
      written := progress.written + 1 }
  else progress

/-- The progress after all characters of the codes, which come in rising order and are at least `least`. -/
def Progress.putIn (text : List Char) (ascii : Nat) : List Nat → Nat → Progress → Progress
  | [], _, progress => progress
  | code :: rest, least, progress =>
    let skipped := (code - least) * (progress.written + 1)
    let progress :=
      text.foldl (fun p c => p.visit ascii code c) { progress with delta := progress.delta + skipped }
    putIn text ascii rest (code + 1) { progress with delta := progress.delta + 1 }

/-- A text in ASCII from which it can be read again. -/
def encode (text : List Char) : List Char :=
  let ascii := text.filter fun c => c.toNat < 0x80
  let codes := ((text.map Char.toNat).filter (0x80 ≤ ·)).mergeSort.eraseDups
  let start : Progress := { output := [], delta := 0, bias := 72, written := ascii.length }
  ascii ++ (if ascii.isEmpty then [] else ['-']) ++
    (Progress.putIn text ascii.length codes 0x80 start).output

/-- A label as it is sent: one that is ASCII already stays as it is. -/
def label (text : List Char) : List Char :=
  if text.all fun c => c.toNat < 0x80 then text else "xn--".toList ++ encode text

end Toolwright.Text.Punycode
