import StableWatch.Watch.Watcher
import StableWatch.Path.Set
/-!
# The dry-run backend

A backend that watches nothing: it records which hierarchies it was asked to watch, and counts
the requests to start and to stop. It never fails. Closing it forgets every hierarchy but keeps
the counts.
-/

namespace StableWatch

/-- The dry-run backend's state: the hierarchies recorded as watched, increasing, and the
numbers of start and stop requests. -/
structure DryRun where
  watched : List String := []
  starts : Nat := 0
  stops : Nat := 0
  deriving DecidableEq, Repr

namespace DryRun

/-- Records hierarchies as watched. -/
def start (paths : List String) (d : DryRun) : DryRun :=
  { d with watched := PathSet.union d.watched paths, starts := d.starts + 1 }

/-- Records hierarchies as no longer watched. -/
def stop (paths : List String) (d : DryRun) : DryRun :=
  { d with watched := PathSet.diff d.watched (PathSet.ofList paths), stops := d.stops + 1 }

/-- Forgets every hierarchy. -/
def close (d : DryRun) : DryRun :=
  { d with watched := [] }

/-- The dry-run backend as a watcher. -/
def watcher : Watcher DryRun where
  start paths d := (none, start paths d)
  stop paths d := (none, stop paths d)

end DryRun

end StableWatch
