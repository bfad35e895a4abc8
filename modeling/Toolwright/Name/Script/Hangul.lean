/-!
# Korean syllables

A Korean syllable is one character made of a leading consonant, a vowel and at most one trailing
consonant or pair of them. The characters are numbered by these three, so that the parts can be
computed from the code point.
-/

namespace Toolwright.Name.Script

/-- The leading consonants in order. -/
def hangulLeads : Array String := #["g", "kk", "n", "d", "tt", "r", "m", "b", "pp", "s", "ss", "",
  "j", "jj", "ch", "k", "t", "p", "h"]

/-- The vowels in order. -/
def hangulVowels : Array String := #["a", "ae", "ya", "yae", "eo", "e", "yeo", "ye", "o", "wa", "wae",
  "oe", "yo", "u", "wo", "we", "wi", "yu", "eu", "ui", "i"]

/-- The trailing consonants in order, the first of them none. -/
def hangulTails : Array String := #["", "k", "kk", "ks", "n", "nj", "nh", "t", "l", "lk", "lm", "lb",
  "ls", "lt", "lp", "lh", "m", "p", "ps", "t", "t", "ng", "t", "t", "k", "t", "p", "h"]

/-- A word with a capital at its front. -/
def capitalized (word : String) : String :=
  match word.toList with
  | [] => ""
  | first :: rest => String.ofList (first.toUpper :: rest)

/-- The Latin text of a Korean syllable. -/
def hangul? (code : Nat) : Option String :=
  if code < 0xAC00 || 0xD7A3 < code then none
  else
    let place := code - 0xAC00
    let lead := hangulLeads.getD (place / 588) ""
    let vowel := hangulVowels.getD (place % 588 / 28) ""
    let tail := hangulTails.getD (place % 28) ""
    some (capitalized (lead ++ vowel ++ tail))

end Toolwright.Name.Script
