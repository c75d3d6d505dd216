import StableWatch.Watch.Roots
/-!
# Root directories

A root directory is a directory preferred as a watch target over any directory inside it. It
contains a candidate when the candidate starts with the root followed by a slash, so a root does
not contain itself. Roots are identified by that prefix: `/a` and `/a/` are one root, and adding
one replaces the other.

A `RootSet` is one generation of roots (those of the current build, or those kept from earlier
builds). `find?` looks through the roots in increasing order of their prefixes and returns the
first that contains the candidate.
-/

namespace StableWatch

/-- A directory preferred as a watch target over the directories inside it. -/
structure Root where
  path : String
  deriving DecidableEq, Repr

namespace Root

/-- The text every path inside the root starts with: the root with one trailing slash. -/
def prefixText (root : Root) : String :=
  Path.withSeparator root.path

/-- The candidate lies inside the root. -/
def contains (root : Root) (candidate : String) : Bool :=
  root.prefixText.toList.isPrefixOf candidate.toList

end Root

/-- One generation of roots, increasing by prefix, one root per prefix. -/
structure RootSet where
  roots : List Root := []
  deriving DecidableEq, Repr

namespace RootSet

/-- The empty generation. -/
def empty : RootSet := {}

/-- Inserts a root into a list increasing by prefix; a root with the same prefix is replaced. -/
def insertRoot (root : Root) : List Root → List Root
  | [] => [root]
  | head :: rest =>
    if root.prefixText < head.prefixText then root :: head :: rest
    else if root.prefixText = head.prefixText then root :: rest
    else head :: insertRoot root rest

/-- Adds a root, replacing the one with the same prefix. -/
def add (set : RootSet) (root : Root) : RootSet :=
  ⟨insertRoot root set.roots⟩

/-- Adds every root of another generation. -/
def addAll (set other : RootSet) : RootSet :=
  other.roots.foldl add set

/-- Removes every root whose prefix is a prefix of a root of another generation. -/
def removeAll (set other : RootSet) : RootSet :=
  ⟨set.roots.filter (fun root => !other.roots.any (·.prefixText = root.prefixText))⟩

/-- Keeps the roots that satisfy a test. -/
def keep (set : RootSet) (test : Root → Bool) : RootSet :=
  ⟨set.roots.filter test⟩

/-- A generation of the given roots, each added in turn. -/
def ofPaths (paths : List String) : RootSet :=
  paths.foldl (fun set path => set.add ⟨path⟩) empty

/-- The generation of the outermost of the given paths. -/
def declare (paths : List String) : RootSet :=
  ofPaths (Roots.reduce paths)

/-- The first root, in order of prefixes, that contains the candidate. -/
def find? (set : RootSet) (candidate : String) : Option Root :=
  set.roots.find? (·.contains candidate)

/-- The paths of the roots, increasing. -/
def paths (set : RootSet) : List String :=
  PathSet.ofList (set.roots.map (·.path))

/-- The number of roots. -/
def size (set : RootSet) : Nat :=
  set.roots.length

end RootSet

end StableWatch
