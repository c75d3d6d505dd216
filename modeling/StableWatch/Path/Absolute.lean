import StableWatch.Path.Basic
import StableWatch.Text.Quoted
/-!
# Absolute paths

The watch registry accepts only absolute paths and keeps them clean. `normalize` is that
gate: it refuses an empty or relative path with `NotAbsolute`, and cleans every other one.
-/

namespace StableWatch.Path

/-- A path was expected to be absolute and is not; it carries the path as given. -/
structure NotAbsolute where
  path : String
  deriving DecidableEq, Repr

/-- The message names the path between double quotes. -/
def NotAbsolute.message (e : NotAbsolute) : String :=
  "path is not absolute: " ++ Text.quote e.path

/-- An absolute path cleaned, or the refusal of a relative one. -/
def normalize (path : String) : Except NotAbsolute String :=
  if isAbs path then .ok (clean path) else .error ⟨path⟩

end StableWatch.Path
