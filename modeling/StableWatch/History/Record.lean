import StableWatch.Time.Duration
import StableWatch.Time.Calendar
import StableWatch.Report.Build
/-!
# Build records

A build record is what the history keeps of one build: its number, when it started, how long it
took, the roots declared for it, the hierarchies watched after it, and its error text (empty when
it succeeded). A list that was never given (`none`) is kept apart from an empty one, because the
history file writes the two differently.
-/

namespace StableWatch

/-- The outcome of one build. -/
structure BuildRecord where
  number : Int := 0
  startedAt : Timestamp := Timestamp.zero
  duration : Duration := ⟨0⟩
  roots : Option (List String) := none
  hierarchies : Option (List String) := none
  error : String := ""
  deriving DecidableEq, Repr

namespace BuildRecord

/-- The record as a report shows it: no previous roots and no required directories. -/
def report (r : BuildRecord) : BuildReport :=
  { number := r.number, startedAt := r.startedAt, duration := r.duration,
    roots := r.roots.getD [], hierarchies := r.hierarchies.getD [], error := r.error }

end BuildRecord

end StableWatch
