import Toolwright.Decimal.Shortest

/-!
# JSON values

A value keeps the members of an object in the order in which they were written. A text may write
a key twice; the rule for that is `Json.canonical`: a repeated key keeps the place of its first
occurrence and the value of its last. Readers give members as written, and documents are made
of canonical values only.
-/

namespace Toolwright

open Decimal

/-- A number of a JSON text: an integer where the text denotes one that fits, otherwise a binary
floating-point number. -/
inductive Number where
  | integer (value : Int)
  | real (value : Binary64)
  deriving DecidableEq, Repr, Inhabited

/-- A JSON value. -/
inductive Json where
  | null
  | bool (value : Bool)
  | number (value : Number)
  | string (text : String)
  | array (items : List Json)
  | object (members : List (String × Json))
  deriving Repr, Inhabited

namespace Number

/-- Whether two numbers are the same. An integer and a real never are. -/
def same : Number → Number → Bool
  | integer a, integer b => a == b
  | real a, real b => a.same b
  | _, _ => false

/-- The format of reals: positional from 10⁻⁵ up to below 10¹⁶, always with a point or an exponent. -/
def realFormat : RealFormat := ⟨-5, 16, "e+", "e-", ".0"⟩

/-- The text of a number. -/
def text : Number → String
  | integer value => toString value
  | real value => value.render realFormat

/-- The nearest real. -/
def toReal : Number → Binary64
  | integer value => (Binary64.ofInt? value).getD (Binary64.zero false)
  | real value => value

end Number

/-! ### Members -/

namespace Members

variable {α : Type}

/-- The value under a key. -/
def get? (key : String) : List (String × α) → Option α
  | [] => none
  | (k, v) :: rest => if k = key then some v else get? key rest

theorem mem_of_get? {key : String} {value : α} {members : List (String × α)}
    (h : get? key members = some value) : (key, value) ∈ members := by
  induction members with
  | nil => simp [get?] at h
  | cons head rest ih =>
    obtain ⟨k, v⟩ := head
    by_cases same : k = key
    · simp [get?, same] at h
      simp [same, h]
    · simp [get?, same] at h
      exact List.mem_cons_of_mem _ (ih h)

/-- The members with a value put under a key: in the place of the key if it is there, else last. -/
def insert (key : String) (value : α) : List (String × α) → List (String × α)
  | [] => [(key, value)]
  | (k, v) :: rest => if k = key then (k, value) :: rest else (k, v) :: insert key value rest

/-- The members put one after another into an object without members. -/
def ofPairs (pairs : List (String × α)) : List (String × α) :=
  pairs.foldl (fun members pair => insert pair.1 pair.2 members) []

/-- The keys in order. -/
def keys (members : List (String × α)) : List String :=
  members.map Prod.fst

end Members

namespace Json

/-! ### Views -/

/-- The text of a string. -/
def string? : Json → Option String
  | string text => some text
  | _ => none

/-- The truth value of a boolean. -/
def bool? : Json → Option Bool
  | bool value => some value
  | _ => none

/-- The items of an array. -/
def items? : Json → Option (List Json)
  | array items => some items
  | _ => none

/-- The members of an object. -/
def members? : Json → Option (List (String × Json))
  | object members => some members
  | _ => none

/-- Whether the value is an object. -/
def isObject : Json → Bool
  | object _ => true
  | _ => false

/-- The member of an object under a key; no other value has members. -/
def get? (value : Json) (key : String) : Option Json :=
  value.members?.bind (Members.get? key)

/-- The string under a key. -/
def getString? (value : Json) (key : String) : Option String :=
  (value.get? key).bind string?

/-! ### Repeated keys -/

mutual

/-- The value in which every object has each key once. -/
def canonical : Json → Json
  | array items => array (canonicalItems items)
  | object members => object (Members.ofPairs (canonicalMembers members))
  | other => other

/-- The items, each canonical. -/
def canonicalItems : List Json → List Json
  | [] => []
  | item :: rest => item.canonical :: canonicalItems rest

/-- The members as they are written, each value canonical. -/
def canonicalMembers : List (String × Json) → List (String × Json)
  | [] => []
  | (key, value) :: rest => (key, value.canonical) :: canonicalMembers rest

end

/-! ### Equality -/

mutual

/-- Whether two values are the same: the order of members does not matter. -/
def same : Json → Json → Bool
  | null, null => true
  | bool a, bool b => a == b
  | number a, number b => a.same b
  | string a, string b => a == b
  | array a, array b => sameItems a b
  | object a, object b => a.length == b.length && sameMembers a b
  | _, _ => false

/-- Whether two lists of items agree place by place. -/
def sameItems : List Json → List Json → Bool
  | [], [] => true
  | a :: as, b :: bs => same a b && sameItems as bs
  | _, _ => false

/-- Whether each member of the first object has its like in the second. -/
def sameMembers : List (String × Json) → List (String × Json) → Bool
  | [], _ => true
  | (key, value) :: rest, members =>
    (match Members.get? key members with
      | some other => same value other
      | none => false) && sameMembers rest members

end

end Json

end Toolwright
