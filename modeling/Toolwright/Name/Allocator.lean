/-!
# Unique names in a scope

An allocator hands out names that are pairwise different. A name that is taken gets the smallest
free number from two on as a suffix.
-/

namespace Toolwright

/-- The names taken in one scope, the latest first. -/
structure Allocator where
  taken : List String := []
  deriving DecidableEq, Repr, Inhabited

namespace Allocator

/-- An allocator in whose scope some names are taken from the start. -/
def reserving (names : List String) : Allocator := ⟨names⟩

/-- Whether a name is taken. -/
def contains (a : Allocator) (name : String) : Bool :=
  a.taken.contains name

/-- The name with a number. -/
def suffixed (name : String) (k : Nat) : String :=
  name ++ "_" ++ toString k

/-- The first free one among the names with the numbers from `k` on; `tries` of them are tried. -/
def firstFree (a : Allocator) (name : String) : Nat → Nat → String
  | 0, k => suffixed name k
  | tries + 1, k =>
    if a.contains (suffixed name k) then a.firstFree name tries (k + 1) else suffixed name k

/-- The name that a claim gives: the name itself if it is free, else the name with the smallest
free number. One of the first `taken.length + 1` numbers is free. -/
def choose (a : Allocator) (name : String) : String :=
  if a.contains name then a.firstFree name a.taken.length 2 else name

/-- Claims a name: the name given, and the allocator in which it is taken. -/
def claim (a : Allocator) (name : String) : String × Allocator :=
  let given := a.choose name
  (given, ⟨given :: a.taken⟩)

end Allocator

end Toolwright
