/-!
# Keyed lists

A keyed list holds pairs of a key and an entry in an order of its own.  Putting an entry under a
key that is present replaces it where it stands; a new key goes to the end.  Looking up is
`List.lookup`, so the first of several equal keys would count; lists built by `put` have none.
-/

namespace Worksheet.Keyed

/-- The list with `entry` under `key`. -/
def put {α : Type} : List (String × α) → String → α → List (String × α)
  | [], key, entry => [(key, entry)]
  | (k, e) :: rest, key, entry =>
    if k == key then (k, entry) :: rest else (k, e) :: put rest key entry

/-- The list with the entries of `pairs` put one after the other. -/
def putAll {α : Type} (entries pairs : List (String × α)) : List (String × α) :=
  pairs.foldl (fun entries pair => put entries pair.1 pair.2) entries

/-- The keyed list of a sequence of pairs. -/
def ofPairs {α : Type} (pairs : List (String × α)) : List (String × α) := putAll [] pairs

/-- The list without a key. -/
def erase {α : Type} (entries : List (String × α)) (key : String) : List (String × α) :=
  entries.filter fun pair => pair.1 != key

/-- The keys in order. -/
def keys {α : Type} (entries : List (String × α)) : List String := entries.map (·.1)

/-- Whether a key is present. -/
def has {α : Type} (entries : List (String × α)) (key : String) : Bool :=
  entries.any fun pair => pair.1 == key

/-- The strings in order of first occurrence, each once. -/
def distinct (names : List String) : List String :=
  names.foldl (fun seen name => if name ∈ seen then seen else seen ++ [name]) []

end Worksheet.Keyed
