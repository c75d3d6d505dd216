import StableWatch.Watch.Registry
import StableWatch.Tracker.Basic
/-!
# Builds

A build brings the watched hierarchies in line with the configuration and the file system, in
three steps that all run even when an earlier one fails:

1. the configured roots are declared to the registry;
2. the tracker rescans its locations and the registry records what changed;
3. the build is finished, which moves its roots to the earlier generation.

The build's error lists the errors of the steps once each: an error whose message repeats an
earlier one is left out, so a hierarchy failing in several steps is reported once. The messages
are joined with line breaks.
-/

namespace StableWatch

namespace Build

/-- What one build leaves behind: the roots it declared, as the registry cleaned them, the
directories required after the scan, and the errors of its steps without repeated messages. -/
structure Result where
  roots : List String
  required : List String
  errors : List RegistryError
  deriving DecidableEq, Repr

/-- The errors whose message no earlier error has, in order. -/
def distinct (errors : List RegistryError) : List RegistryError :=
  (errors.foldl (fun (seen, kept) e =>
    if seen.contains e.message then (seen, kept) else (seen ++ [e.message], kept ++ [e]))
    (([] : List String), ([] : List RegistryError))).2

/-- The build's error text: the messages joined with line breaks, or empty. -/
def Result.errorText (r : Result) : String :=
  "\n".intercalate (r.errors.map RegistryError.message)

/-- Runs a build against a registry, a tracker and a watcher. -/
def run {σ : Type} (w : Watcher σ) (view : FsView) (roots : List String) (reg : Registry)
    (t : Tracker) (svc : σ) : Result × Registry × Tracker × σ :=
  let declared := reg.declareRoots w roots svc
  let declaredRoots := declared.registry.currentRoots
  let (changes, t) := t.scan view
  let recorded := declared.registry.changed w changes.removed changes.added declared.watcher
  let required := recorded.registry.required
  let finished := recorded.registry.finishBuild w recorded.watcher
  let errors := distinct ([declared.error, recorded.error, finished.error].filterMap id)
  ({ roots := declaredRoots, required, errors }, finished.registry, t, finished.watcher)

end Build

end StableWatch
