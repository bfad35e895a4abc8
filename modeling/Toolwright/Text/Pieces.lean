/-!
# Cutting texts into pieces

Everything in this library that takes a text apart works on its list of characters, so that
what a cut does is an equation about lists. `pieces` is the one splitter: it cuts at every
character of a class and keeps empty pieces, so there is always at least one, and putting the
pieces together again with the cutting characters between them gives the text back.
-/

namespace Toolwright.Text

/-- The text cut at every character that satisfies `cut`; the cutting characters go away. -/
def pieces (cut : Char → Bool) : List Char → List (List Char)
  | [] => [[]]
  | c :: rest =>
    if cut c then [] :: pieces cut rest
    else
      match pieces cut rest with
      | [] => [[c]]
      | piece :: more => (c :: piece) :: more

theorem pieces_ne_nil (cut : Char → Bool) (text : List Char) : pieces cut text ≠ [] := by
  cases text with
  | nil => simp [pieces]
  | cons c rest =>
    unfold pieces
    split
    · simp
    · split <;> simp

/-- The text without the characters at its front that satisfy `drop`. -/
def trimStart (drop : Char → Bool) (text : List Char) : List Char :=
  text.dropWhile drop

/-- The text without the characters at its end that satisfy `drop`. -/
def trimEnd (drop : Char → Bool) : List Char → List Char
  | [] => []
  | c :: rest =>
    match trimEnd drop rest with
    | [] => if drop c then [] else [c]
    | kept => c :: kept

/-- The text without the characters at either end that satisfy `drop`. -/
def trim (drop : Char → Bool) (text : List Char) : List Char :=
  trimEnd drop (trimStart drop text)

/-- What follows `mark` at the front of the text, if it starts with `mark`. -/
def after? : List Char → List Char → Option (List Char)
  | [], text => some text
  | _ :: _, [] => none
  | m :: mark, c :: text => if m = c then after? mark text else none

theorem after?_eq_some_iff {mark text rest : List Char} :
    after? mark text = some rest ↔ text = mark ++ rest := by
  induction mark generalizing text with
  | nil => simp [after?, eq_comm]
  | cons m mark ih =>
    cases text with
    | nil => simp [after?]
    | cons c text =>
      by_cases h : m = c
      · simp [after?, h, ih]
      · simp [after?, h, Ne.symm h]

/-- Every occurrence of the two characters `first`, `second` made into `new`, from left to right. -/
def replacePair (first second : Char) (new : List Char) : List Char → List Char
  | a :: b :: rest =>
    if a = first ∧ b = second then new ++ replacePair first second new rest
    else a :: replacePair first second new (b :: rest)
  | short => short

/-- Whether `part` occurs in the text. -/
def occurs (part : List Char) : List Char → Bool
  | [] => part.isEmpty
  | c :: rest => (after? part (c :: rest)).isSome || occurs part rest

end Toolwright.Text
