/-!
# Sets of paths as increasing lists

Every set of paths in the library (watched hierarchies, required directories, roots) is kept as
a list that increases strictly in the order of text, which is the byte order of the UTF-8
encoding. Equal sets are then equal lists, and listing a set needs no sorting.
-/

namespace StableWatch.PathSet

/-- Inserts a path into an increasing list, keeping it increasing; a path already present is
not repeated. -/
def insert (path : String) : List String → List String
  | [] => [path]
  | head :: rest =>
    if path < head then path :: head :: rest
    else if path = head then head :: rest
    else head :: insert path rest

/-- The increasing list of the distinct members of a list. -/
def ofList (paths : List String) : List String :=
  paths.foldr insert []

/-- The members of the first set that are not in the second. -/
def diff (paths removed : List String) : List String :=
  paths.filter (fun path => !removed.contains path)

/-- The union of two sets. -/
def union (first second : List String) : List String :=
  second.foldr insert first

end StableWatch.PathSet
