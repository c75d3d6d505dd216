import StableWatch.Build.Basic
import StableWatch.Backend.DryRun
import StableWatch.Report.Build
/-!
# Planning a build

A plan runs one build from scratch against the dry-run backend, so nothing is watched, and
reports what would be: the roots, the roots kept for a next build, the hierarchies the backend
was left watching, the required directories and the build's error. The report has no start time
and no duration. Locations that the tracker refuses give no plan.
-/

namespace StableWatch

/-- The message of refused locations, as builds report them. -/
def LocationError.refusal (e : LocationError) : String :=
  "invalid locations: " ++ e.message

namespace Build

/-- The report of a build from scratch against the dry-run backend. -/
def plan (view : FsView) (roots locations : List String) : Except LocationError BuildReport := do
  let t ← Tracker.create locations
  let (result, reg, _, backend) := run DryRun.watcher view roots Registry.empty t {}
  return { roots := result.roots, previousRoots := reg.previousRoots,
           hierarchies := backend.watched, required := result.required,
           error := result.errorText }

end Build

end StableWatch
