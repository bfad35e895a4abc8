import Toolwright.Yaml.Error
import Toolwright.Yaml.Value

/-!
# Merge keys

The entry under the key `<<` of a mapping is a mapping, or a sequence of mappings, whose entries
belong to the surrounding mapping unless it has them itself; of several mappings the earlier one
wins. The entry itself goes away, and the last entry of the mapping takes its place.

Mappings are merged from the outside in: what a merge brings in is merged in turn as a value of the
mapping, but a merge key among it stays.
-/

namespace Toolwright.Yaml

/-- The merge key. -/
def mergeKey : Yaml := .string "<<"

/-- The mapping without its first entry under a key; the last entry takes the place. -/
def takeOut (key : Yaml) (entries : List (Yaml × Yaml)) : Option Yaml × List (Yaml × Yaml) :=
  let before := entries.takeWhile fun entry => !key.same entry.1
  match entries.drop before.length with
  | [] => (none, entries)
  | (_, value) :: after =>
    match after.getLast? with
    | none => (some value, before)
    | some last => (some value, before ++ last :: after.dropLast)

/-- The mapping with the entries of another whose keys it does not have. -/
def addMissing (entries : List (Yaml × Yaml)) (more : List (Yaml × Yaml)) : List (Yaml × Yaml) :=
  more.foldl (fun entries entry => if hasKey entry.1 entries then entries else entries ++ [entry])
    entries

/-- The mapping with the entries of a sequence of mappings. -/
def addAll : List Yaml → List (Yaml × Yaml) → Except Error (List (Yaml × Yaml))
  | [], entries => .ok entries
  | .mapping more :: rest, entries => addAll rest (addMissing entries more)
  | .sequence _ :: _, _ => .error .sequenceInMergeElement
  | .tagged _ _ :: _, _ => .error .taggedInMerge
  | _ :: _, _ => .error .scalarInMergeElement

/-- The entries of a mapping after its merge key has been seen to. -/
def mergeEntries (entries : List (Yaml × Yaml)) : Except Error (List (Yaml × Yaml)) :=
  match takeOut mergeKey entries with
  | (none, entries) => .ok entries
  | (some (.mapping more), entries) => .ok (addMissing entries more)
  | (some (.sequence items), entries) => addAll items entries
  | (some (.tagged _ _), _) => .error .taggedInMerge
  | (some _, _) => .error .scalarInMerge

mutual

/-- How deep collections nest in a value. -/
def depth : Yaml → Nat
  | sequence items => depthItems items + 1
  | mapping entries => depthEntries entries + 1
  | tagged _ value => value.depth + 1
  | _ => 0

/-- How deep collections nest in the items. -/
def depthItems : List Yaml → Nat
  | [] => 0
  | item :: rest => max item.depth (depthItems rest)

/-- How deep collections nest in the values of the entries. -/
def depthEntries : List (Yaml × Yaml) → Nat
  | [] => 0
  | (_, value) :: rest => max value.depth (depthEntries rest)

end

/-- A step on every element, the last one first, so that its fault is the one that counts. -/
def mapFromEnd {α : Type} (step : α → Except Error α) : List α → Except Error (List α)
  | [] => .ok []
  | a :: rest => do
    let rest ← mapFromEnd step rest
    let a ← step a
    .ok (a :: rest)

/-- The value with all mappings merged that nest at most as deep as the first argument says. -/
def mergeWithin : Nat → Yaml → Except Error Yaml
  | 0, value => .ok value
  | bound + 1, .mapping entries => do
    let entries ← mergeEntries entries
    let entries ← mapFromEnd (fun (key, value) => do .ok (key, ← mergeWithin bound value)) entries
    .ok (.mapping entries)
  | bound + 1, .sequence items => do
    .ok (.sequence (← mapFromEnd (mergeWithin bound) items))
  | bound + 1, .tagged tag value => do .ok (.tagged tag (← mergeWithin bound value))
  | _ + 1, value => .ok value

/-- The value with all mappings merged. -/
def merge (value : Yaml) : Except Error Yaml :=
  mergeWithin value.depth value

end Toolwright.Yaml
