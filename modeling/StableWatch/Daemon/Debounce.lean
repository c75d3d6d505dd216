import StableWatch.Path.Set
/-!
# Settling changes

Change notifications arrive one path at a time and are handed on in batches: a path is kept
until no new change has arrived for the waiting time, and then every kept path is handed on at
once, in increasing order and each once. A flush with nothing kept hands nothing on.

Time is not modelled: a `Debouncer` is the set of kept paths, `schedule` keeps one more, and
`flush` is what happens when the waiting time has passed.
-/

namespace StableWatch

/-- The changed paths kept since the last flush, increasing and distinct. -/
structure Debouncer where
  pending : List String := []
  deriving DecidableEq, Repr

namespace Debouncer

/-- Keeps a changed path. -/
def schedule (d : Debouncer) (path : String) : Debouncer :=
  { pending := PathSet.insert path d.pending }

/-- Hands on the kept paths, if there are any, and forgets them. -/
def flush (d : Debouncer) : Option (List String) × Debouncer :=
  if d.pending.isEmpty then (none, d) else (some d.pending, {})

/-- Keeps a batch of changes that arrive together and flushes once the waiting time passes. -/
def settle (d : Debouncer) (batch : List String) : Option (List String) × Debouncer :=
  (batch.foldl schedule d).flush

end Debouncer

end StableWatch
