/-!
# Similar words

How much two words have in common, between 0 and 1: the share of either word that is found in the
other not too far away (`matched`), and how far these characters come in the same order.
-/

namespace Toolwright.Text

/-- The positions within reach of which a character of one word may be found in the other. -/
def reach (first second : Nat) : Nat :=
  max first second / 2 - 1

/-- The first place from `low` on and before `high` where `c` stands and that is not taken. -/
def freePlace? (word : Array Char) (taken : List Nat) (c : Char) (low high : Nat) : Option Nat :=
  (List.range high).find? fun place =>
    low ≤ place && word[place]? == some c && !taken.contains place

/-- The characters of the first word that are found in the second, each at a place of its own. What
is given are the characters of the first word from position `at_` on and the places taken before;
the answer holds every character found and its place. -/
def matched (word : Array Char) (reach at_ : Nat) (taken : List Nat) :
    List Char → List (Char × Nat)
  | [] => []
  | c :: rest =>
    match freePlace? word taken c (at_ - reach) (min word.size (at_ + reach + 1)) with
    | some place => (c, place) :: matched word reach (at_ + 1) (place :: taken) rest
    | none => matched word reach (at_ + 1) taken rest

/-- The similarity of two words. -/
def similarity (first second : List Char) : Float :=
  if first.isEmpty && second.isEmpty then 1.0
  else
    let word := second.toArray
    let found := matched word (reach first.length second.length) 0 [] first
    let places := (found.map (·.2)).mergeSort
    let moved := (found.zip places).countP fun ((c, _), place) => word[place]? != some c
    let count := Float.ofNat found.length
    if found.isEmpty then 0.0
    else
      (count / Float.ofNat first.length + count / Float.ofNat second.length +
        Float.ofNat (found.length - moved / 2) / count) / 3.0

/-- A word with its similarity, put among others so that the most similar is last; of two that are equally
similar the later one is later. -/
def rank (word : String) (score : Float) : List (String × Float) → List (String × Float)
  | [] => [(word, score)]
  | (other, best) :: rest =>
    if best > score then (word, score) :: (other, best) :: rest
    else (other, best) :: rank word score rest

/-- The words among some that are similar to a word, the most similar last. -/
def similarWords (word : String) (candidates : List String) : List String :=
  let ranked := candidates.foldl (fun ranked candidate =>
    let score := similarity word.toList candidate.toList
    if score > 0.7 then rank candidate score ranked else ranked) []
  ranked.map (·.1)

end Toolwright.Text
