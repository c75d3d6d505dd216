import StableWatch.Path.Basic
import StableWatch.Path.Set
/-!
# Reducing directories to hierarchies

Watching a directory hierarchy covers every directory below it, so a set of directories is
watched by its outermost members. `reduce` cleans every path, and keeps those that have no
strict ancestor among the cleaned paths, in increasing order. The strict ancestors of a path are
the parents `Path.dir` reaches from it before it stops changing: `/a/b` has `/a` and `/`, a
relative `a/b` has `a` and `.`.
-/

namespace StableWatch.Roots

/-- The parents of a path up to the point where the parent of a path is itself, with at most
`fuel` steps. -/
def ancestorsWithin : Nat → String → List String
  | 0, _ => []
  | fuel + 1, path =>
    let parent := Path.dir path
    if parent = path then [] else parent :: ancestorsWithin fuel parent

/-- The strict ancestors of a path, nearest first. A clean path loses at least one character or
reaches its fixed point with every step, so one step more than its length is enough. -/
def ancestors (path : String) : List String :=
  ancestorsWithin (path.length + 1) path

/-- Some strict ancestor of the path is in the set. -/
def hasAncestorIn (set : List String) (path : String) : Bool :=
  (ancestors path).any set.contains

/-- The outermost of the cleaned paths, in increasing order. -/
def reduce (paths : List String) : List String :=
  let set := PathSet.ofList (paths.map Path.clean)
  set.filter (fun path => !hasAncestorIn set path)

end StableWatch.Roots
