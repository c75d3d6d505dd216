import StableWatch.Path.Basic
import StableWatch.Time.Duration
import StableWatch.Time.Calendar
import StableWatch.Text.Block
import StableWatch.Text.Tree
/-!
# Build reports

A build report tells what one build left watched: its number, when it started and how long it
took, the roots declared for it and those kept from earlier builds, the watched hierarchies, the
directories the tracked paths require, and the build's error text.

`BuildReport.render` writes it for a terminal without colors:

* a blank line, then the header `━━━ Build #N ━━━`, or `━━━ Build ━━━` when the number is not
  positive;
* when the start is known, `  started YYYY-MM-DD HH:MM:SS, took D` at the start's offset, the
  duration rounded to milliseconds;
* the error, after `✗ `, when there is one;
* `  Not watching anything.` when no hierarchy is watched;
* one tree per hierarchy, labelled `✓ H`, with ` (root)` for a root of this build or
  ` (previous root)` for a root of an earlier one; in verbose mode its items are the required
  directories strictly below it, relative to it, in the order they are required;
* an `unwatched:` tree of `✗ D` for every required directory that no hierarchy is or contains.

Styled pieces (header, times, error, hierarchy paths, relative paths) go through `Text.block`;
the unwatched directories are written as they are.
-/

namespace StableWatch

/-- What a build report shows. A zero `startedAt` means the start is unknown. -/
structure BuildReport where
  number : Int := 0
  startedAt : Timestamp := Timestamp.zero
  duration : Duration := ⟨0⟩
  roots : List String := []
  previousRoots : List String := []
  hierarchies : List String := []
  required : List String := []
  error : String := ""
  deriving DecidableEq, Repr

namespace BuildReport

/-- The header line's text. -/
def header (b : BuildReport) : String :=
  if b.number > 0 then "━━━ Build #" ++ toString b.number ++ " ━━━" else "━━━ Build ━━━"

/-- The line telling when the build started and how long it took. -/
def timing (b : BuildReport) : String :=
  "  started " ++ b.startedAt.civil.stamp ++ ", took " ++
    (b.duration.round (Duration.ofMillis 1)).text

/-- The required directories that no hierarchy is or contains, in order. -/
def uncovered (b : BuildReport) : List String :=
  b.required.filter fun dir =>
    !b.hierarchies.any fun h => dir = h || Path.isAncestor h dir

/-- A required directory below a hierarchy, as the hierarchy's tree shows it. -/
def relativeItem (h dir : String) : String :=
  Text.block ((Path.rel h dir).getD dir)

/-- The tree of one hierarchy. -/
def hierarchyTree (verbose : Bool) (b : BuildReport) (h : String) : Text.Tree :=
  let role :=
    if b.roots.contains h then " (root)"
    else if b.previousRoots.contains h then " (previous root)"
    else ""
  let items :=
    if verbose then
      (b.required.filter fun dir => dir ≠ h && Path.isAncestor h dir).map (relativeItem h)
    else []
  { label := "✓ " ++ Text.block h ++ role, items }

/-- The report's text. -/
def render (verbose : Bool) (b : BuildReport) : String :=
  let started :=
    if b.startedAt.isZero then "" else Text.block b.timing ++ "\n"
  let failure := if b.error = "" then "" else "✗ " ++ Text.block b.error ++ "\n"
  let idle := if b.hierarchies.isEmpty then "  Not watching anything.\n" else ""
  let trees := String.join (b.hierarchies.map fun h => (hierarchyTree verbose b h).render)
  let unwatched := match b.uncovered with
    | [] => ""
    | dirs => ({ label := "unwatched:", items := dirs.map ("✗ " ++ ·) } : Text.Tree).render
  "\n" ++ b.header ++ "\n" ++ started ++ failure ++ idle ++ trees ++ unwatched

end BuildReport

end StableWatch
