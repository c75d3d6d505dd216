import StableWatch.Watch.Registry
/-!
# A scripted watcher and registry sessions

A scripted watcher records every request and fails according to a rule set beforehand, so that a
registry can be driven through any failure pattern:

* `all` fails the whole request with a general failure;
* `listed` fails the requested hierarchies that the rule names, in request order, and succeeds
  when it names none of them;
* `verbatim` always fails, naming exactly the rule's paths, whatever was requested.

A session runs a list of registry calls against one scripted watcher and reports, after each,
the error, the requests made during it and the registry's state.
-/

namespace StableWatch.Scripted

/-- How a rule fails a request. -/
inductive Mode where
  | all
  | listed
  | verbatim
  deriving DecidableEq, Repr

/-- A failure rule for one kind of request. -/
structure Rule where
  mode : Mode
  paths : List String := []
  message : String := "denied"
  deriving DecidableEq, Repr

/-- How a rule answers a request for the given hierarchies. -/
def Rule.answer (rule : Rule) (requested : List String) : Option WatchFailure :=
  match rule.mode with
  | .all => some (.general rule.message)
  | .listed =>
    match requested.filter rule.paths.contains with
    | [] => none
    | named => some (.naming named rule.message)
  | .verbatim => some (.naming rule.paths rule.message)

/-- A request the registry sent. -/
inductive Request where
  | start (paths : List String)
  | stop (paths : List String)
  deriving DecidableEq, Repr

/-- The scripted watcher's state: its rules and the requests so far, oldest first. -/
structure State where
  startRule : Option Rule := none
  stopRule : Option Rule := none
  requests : List Request := []
  deriving DecidableEq, Repr

/-- The scripted watcher: it records each request, then answers by its rule, succeeding when
there is none. -/
def watcher : Watcher State where
  start paths st :=
    (st.startRule.bind (·.answer paths), { st with requests := st.requests ++ [.start paths] })
  stop paths st :=
    (st.stopRule.bind (·.answer paths), { st with requests := st.requests ++ [.stop paths] })

/-- One call of a session. -/
inductive Step where
  /-- Declare the roots of the build in progress. -/
  | roots (dirs : List String)
  /-- Report what a rescan dropped and recorded. -/
  | changed (removed added : List Snapshot)
  /-- End the build. -/
  | buildFinished
  /-- Set the watcher's rules from now on; a missing rule never fails. -/
  | rules (start stop : Option Rule)
  deriving DecidableEq, Repr

/-- What a session reports after a step. -/
structure Report where
  error : Option RegistryError
  requests : List Request
  watched : List String
  currentRoots : List String
  previousRoots : List String
  required : List String
  trackedCount : Nat
  deriving DecidableEq, Repr

/-- Applies one step to the registry and the watcher. -/
def apply (reg : Registry) (st : State) : Step → Outcome State
  | .roots dirs => reg.declareRoots watcher dirs st
  | .changed removed added => reg.changed watcher removed added st
  | .buildFinished => reg.finishBuild watcher st
  | .rules start stop => ⟨reg, { st with startRule := start, stopRule := stop }, none⟩

/-- The report of a step's outcome, with the requests made during the step. -/
def report (result : Outcome State) : Report where
  error := result.error
  requests := result.watcher.requests
  watched := result.registry.watched
  currentRoots := result.registry.currentRoots
  previousRoots := result.registry.previousRoots
  required := result.registry.required
  trackedCount := result.registry.trackedCount

/-- Runs the steps from the given registry and watcher state, one report per step. -/
def runFrom (reg : Registry) (st : State) : List Step → List Report
  | [] => []
  | step :: rest =>
    let result := apply reg { st with requests := [] } step
    report result :: runFrom result.registry result.watcher rest

/-- Runs a session from an empty registry and a watcher that never fails. -/
def run (steps : List Step) : List Report :=
  runFrom Registry.empty {} steps

end StableWatch.Scripted
