import Toolwright.Json.NumberReader

/-!
# Reading JSON texts

A text is a list of bytes, which need not be well-formed UTF-8: bytes are checked when the string
that holds them ends. Each reading step gives the value and the bytes after it; the steps that
call each other carry the proof that those are fewer than they were given, which is why reading
ends.

Values nest at most 127 deep.
-/

namespace Toolwright.Json

/-- A value with the bytes after it, which are fewer than `n`. -/
abbrev ReadBelow (n : Nat) (α : Type) := Except Fault { r : α × List UInt8 // r.2.length < n }

/-- Whether a byte is blank between the parts of a text. -/
def isBlankByte (b : UInt8) : Bool := b = 32 || b = 10 || b = 9 || b = 13

/-- The bytes after the blanks at the front. -/
def skipBlanks : List UInt8 → List UInt8
  | b :: rest => if isBlankByte b then skipBlanks rest else b :: rest
  | [] => []

theorem length_skipBlanks_le (text : List UInt8) : (skipBlanks text).length ≤ text.length := by
  induction text with
  | nil => simp [skipBlanks]
  | cons b rest ih =>
    unfold skipBlanks
    split
    · simp; omega
    · simp

theorem length_lt_of_skipBlanks {text rest : List UInt8} {b : UInt8}
    (h : skipBlanks text = b :: rest) : rest.length < text.length := by
  have := length_skipBlanks_le text
  simp only [h, List.length_cons] at this
  omega

/-! ### Strings -/

/-- The number a hexadecimal digit denotes. -/
def hexValue? (b : UInt8) : Option Nat :=
  if 48 ≤ b ∧ b ≤ 57 then some (b.toNat - 48)
  else if 97 ≤ b ∧ b ≤ 102 then some (b.toNat - 87)
  else if 65 ≤ b ∧ b ≤ 70 then some (b.toNat - 55)
  else none

/-- The four hexadecimal digits of an escape. -/
def hexEscape : (text : List UInt8) → ReadBelow text.length Nat
  | a :: b :: c :: d :: rest =>
    match hexValue? a, hexValue? b, hexValue? c, hexValue? d with
    | some a, some b, some c, some d =>
      .ok ⟨(a * 4096 + b * 256 + c * 16 + d, rest), by simp; omega⟩
    | _, _, _, _ => faultHere .invalidEscape rest
  | _ => faultHere .endInString []

/-- The second half of a pair of hexadecimal escapes after its first half. -/
def trailingEscape : (text : List UInt8) → ReadBelow text.length Nat
  | [] => faultHere .endInString []
  | a :: rest =>
    if a = 92 then
      match rest with
      | [] => faultHere .endInString []
      | b :: rest =>
        if b = 117 then
          match hexEscape rest with
          | .ok ⟨(n, rest'), h⟩ => .ok ⟨(n, rest'), by simp at h ⊢; omega⟩
          | .error fault => .error fault
        else faultHere .endInHexEscape rest
    else faultHere .endInHexEscape rest

/-- The bytes of a code point. -/
def encodeCodePoint (n : Nat) : List UInt8 :=
  (Char.ofNat n).toString.toUTF8.toList

/-- The bytes that an escape stands for, read after the backslash. -/
def readEscape : (text : List UInt8) → ReadBelow text.length (List UInt8)
  | [] => faultHere .endInString []
  | b :: rest =>
    let single (code : UInt8) : ReadBelow (b :: rest).length (List UInt8) :=
      .ok ⟨([code], rest), by simp⟩
    if b = 34 ∨ b = 92 ∨ b = 47 then single b
    else if b = 98 then single 8
    else if b = 102 then single 12
    else if b = 110 then single 10
    else if b = 114 then single 13
    else if b = 116 then single 9
    else if b = 117 then
      match hexEscape rest with
      | .error fault => .error fault
      | .ok ⟨(n, rest₁), h₁⟩ =>
        if 0xdc00 ≤ n ∧ n ≤ 0xdfff then faultHere .loneSurrogate rest₁
        else if n < 0xd800 ∨ 0xdbff < n then
          .ok ⟨(encodeCodePoint n, rest₁), by simp at h₁ ⊢; omega⟩
        else
          match trailingEscape rest₁ with
          | .error fault => .error fault
          | .ok ⟨(m, rest₂), h₂⟩ =>
            if m < 0xdc00 ∨ 0xdfff < m then faultHere .loneSurrogate rest₂
            else
              .ok ⟨(encodeCodePoint ((n - 0xd800) * 0x400 + (m - 0xdc00) + 0x10000), rest₂),
                by simp at h₁ h₂ ⊢; omega⟩
    else faultHere .invalidEscape rest

/-- The bytes of a string up to its closing quote, which is read too; `seen` are those before,
the last one first. -/
def readBytes (seen : List UInt8) : (text : List UInt8) → ReadBelow text.length (List UInt8)
  | [] => faultHere .endInString []
  | b :: rest =>
    if b = 34 then .ok ⟨(seen.reverse, rest), by simp⟩
    else if b = 92 then
      match readEscape rest with
      | .error fault => .error fault
      | .ok ⟨(bytes, rest₁), h₁⟩ =>
        match readBytes (bytes.reverse ++ seen) rest₁ with
        | .error fault => .error fault
        | .ok ⟨r, h⟩ => .ok ⟨r, by simp at h₁ ⊢; omega⟩
    else if b < 32 then faultHere .controlCharacter rest
    else
      match readBytes (b :: seen) rest with
      | .error fault => .error fault
      | .ok ⟨r, h⟩ => .ok ⟨r, by simp; omega⟩
termination_by text => text.length
decreasing_by
  · simp at h₁ ⊢; omega
  · simp

/-- A string after its opening quote. Bytes that are no text are found when the string ends, in
front of its closing quote. -/
def readString (text : List UInt8) : ReadBelow text.length String :=
  match readBytes [] text with
  | .error fault => .error fault
  | .ok ⟨(bytes, rest), h⟩ =>
    match String.fromUTF8? ⟨bytes.toArray⟩ with
    | some s => .ok ⟨(s, rest), h⟩
    | none => .error ⟨.invalidCodePoint, rest.length + 1⟩

/-! ### Values -/

/-- The rest of a word whose first letter has been read. -/
def readWord (value : Json) : List UInt8 → (text : List UInt8) →
    Except Fault { r : Json × List UInt8 // r.2.length ≤ text.length }
  | [], text => .ok ⟨(value, text), Nat.le_refl _⟩
  | _ :: _, [] => faultHere .endInValue []
  | w :: word, b :: rest =>
    if w = b then
      match readWord value word rest with
      | .ok ⟨r, h⟩ => .ok ⟨r, by simp; omega⟩
      | .error fault => .error fault
    else faultHere .expectedIdent rest

/-- A number, with the check that it took at least one byte. -/
def readNumberBelow (negative : Bool) (text : List UInt8) (n : Nat) : ReadBelow n Json :=
  match readNumber negative text with
  | .error fault => .error fault
  | .ok (value, rest) =>
    if h : rest.length < n then .ok ⟨(Json.number value, rest), h⟩
    else faultHere .invalidNumber rest

mutual

/-- The value at the front of a text; `depth` is how deep values may still nest. -/
def readValue (depth : Nat) (text : List UInt8) : ReadBelow text.length Json :=
  match hs : skipBlanks text with
  | [] => faultHere .endInValue []
  | b :: rest =>
    have hlen : rest.length < text.length := length_lt_of_skipBlanks hs
    let word (value : Json) (letters : List UInt8) : ReadBelow text.length Json :=
      match readWord value letters rest with
      | .ok ⟨r, h⟩ => .ok ⟨r, by omega⟩
      | .error fault => .error fault
    if b = 110 then word .null [117, 108, 108]
    else if b = 116 then word (.bool true) [114, 117, 101]
    else if b = 102 then word (.bool false) [97, 108, 115, 101]
    else if b = 45 then readNumberBelow true rest text.length
    else if isDigitByte b then readNumberBelow false (b :: rest) text.length
    else if b = 34 then
      match readString rest with
      | .ok ⟨(s, rest₁), h⟩ => .ok ⟨(.string s, rest₁), by simp at h ⊢; omega⟩
      | .error fault => .error fault
    else if b = 91 then
      match depth with
      | 0 => faultAtNext .tooDeep (b :: rest)
      | depth + 1 =>
        match readItems depth true rest with
        | .ok ⟨(items, rest₁), h⟩ => .ok ⟨(.array items, rest₁), by simp at h ⊢; omega⟩
        | .error fault => .error fault
    else if b = 123 then
      match depth with
      | 0 => faultAtNext .tooDeep (b :: rest)
      | depth + 1 =>
        match readMembers depth true rest with
        | .ok ⟨(members, rest₁), h⟩ => .ok ⟨(.object members, rest₁), by simp at h ⊢; omega⟩
        | .error fault => .error fault
    else faultAtNext .expectedValue (b :: rest)
termination_by (text.length, 0)

/-- The items of a list up to its closing bracket, which is read too; `first` says that none has
been read yet. -/
def readItems (depth : Nat) (first : Bool) (text : List UInt8) :
    ReadBelow text.length (List Json) :=
  match hs : skipBlanks text with
  | [] => faultHere .endInList []
  | b :: rest =>
    have hlen : rest.length < text.length := length_lt_of_skipBlanks hs
    if b = 93 then .ok ⟨([], rest), hlen⟩
    else
      let next : Except Fault { r : List UInt8 // r.length ≤ text.length } :=
        if first then .ok ⟨b :: rest, by simp; omega⟩
        else if b = 44 then
          match skipBlanks rest with
          | [] => faultHere .endInValue []
          | c :: more =>
            if c = 93 then faultAtNext .trailingComma (c :: more) else .ok ⟨rest, by omega⟩
        else faultAtNext .expectedListCommaOrEnd (b :: rest)
      match next with
      | .error fault => .error fault
      | .ok ⟨text₁, h₁⟩ =>
        match readValue depth text₁ with
        | .error fault => .error fault
        | .ok ⟨(item, text₂), h₂⟩ =>
          match readItems depth false text₂ with
          | .error fault => .error fault
          | .ok ⟨(items, text₃), h₃⟩ =>
            .ok ⟨(item :: items, text₃), by simp at h₂ h₃ ⊢; omega⟩
termination_by (text.length, 1)
decreasing_by all_goals simp_all [Prod.lex_def]; omega

/-- The members of an object up to its closing brace, which is read too; `first` says that none
has been read yet. -/
def readMembers (depth : Nat) (first : Bool) (text : List UInt8) :
    ReadBelow text.length (List (String × Json)) :=
  match hs : skipBlanks text with
  | [] => faultHere .endInObject []
  | b :: rest =>
    have hlen : rest.length < text.length := length_lt_of_skipBlanks hs
    if b = 125 then .ok ⟨([], rest), hlen⟩
    else
      let next : Except Fault { r : List UInt8 // r.length < text.length } :=
        if first then
          if b = 34 then .ok ⟨rest, hlen⟩ else faultAtNext .keyNotString (b :: rest)
        else if b = 44 then
          match hc : skipBlanks rest with
          | [] => faultHere .endInValue []
          | c :: more =>
            if c = 34 then
              .ok ⟨more, Nat.lt_trans (length_lt_of_skipBlanks hc) hlen⟩
            else if c = 125 then faultAtNext .trailingComma (c :: more)
            else faultAtNext .keyNotString (c :: more)
        else faultAtNext .expectedObjectCommaOrEnd (b :: rest)
      match next with
      | .error fault => .error fault
      | .ok ⟨text₁, h₁⟩ =>
        match readString text₁ with
        | .error fault => .error fault
        | .ok ⟨(key, text₂), h₂⟩ =>
          match hc : skipBlanks text₂ with
          | [] => faultHere .endInObject []
          | c :: text₃ =>
            have h₃ : text₃.length < text₂.length := length_lt_of_skipBlanks hc
            if c = 58 then
              match readValue depth text₃ with
              | .error fault => .error fault
              | .ok ⟨(value, text₄), h₄⟩ =>
                match readMembers depth false text₄ with
                | .error fault => .error fault
                | .ok ⟨(members, text₅), h₅⟩ =>
                  .ok ⟨((key, value) :: members, text₅), Nat.lt_trans h₅ (Nat.lt_trans h₄
                    (Nat.lt_trans h₃ (Nat.lt_trans h₂ h₁)))⟩
            else faultAtNext .expectedColon (c :: text₃)
termination_by (text.length, 1)
decreasing_by all_goals simp_all [Prod.lex_def]; omega

end

/-- The value a text denotes, with members as they are written. -/
def read (text : List UInt8) : Except Fault Json :=
  match readValue 127 text with
  | .error fault => .error fault
  | .ok ⟨(value, rest), _⟩ =>
    match skipBlanks rest with
    | [] => .ok value
    | b :: more => faultAtNext .trailingCharacters (b :: more)

/-- The value of a text in which every object has each key once. -/
def ofText (text : String) : Except Fault Json :=
  (read text.toUTF8.toList).map canonical

end Toolwright.Json
