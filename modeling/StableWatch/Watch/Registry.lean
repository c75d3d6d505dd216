import StableWatch.Path.Absolute
import StableWatch.Watch.Snapshot
import StableWatch.Watch.RootSet
import StableWatch.Watch.Watcher
/-!
# The watch registry

The registry decides which directory hierarchies a watcher watches. It keeps

* for every tracked path, the directories its snapshot needs watched (`Snapshot.directories`);
* the roots declared for the build in progress, and the roots kept from earlier builds;
* the hierarchies the watcher watches.

The hierarchies it wants watched are `Registry.desired`: every required directory is replaced by
the current root containing it, else by the earlier root containing it, and the result is reduced
to its outermost members. After every change the registry asks the watcher to stop the watched
hierarchies that are no longer desired, then to start the desired ones not yet watched. Only what
succeeded is recorded; a failed stop ends the update before anything is started.

Roots make builds of the same project cheap: the roots of a build are kept for the next one as
long as they stay watched, so a directory appearing inside one needs no new watch.

Every path handed to the registry must be absolute; a call with a relative or empty one changes
nothing and is refused with `RegistryError.invalidPath`.
-/

namespace StableWatch

/-- Why a registry call failed. -/
inductive RegistryError where
  /-- A path given to the registry is empty or relative. -/
  | invalidPath (path : String)
  /-- The watcher could not stop watching these hierarchies; they stay watched. -/
  | stopFailed (paths : List String) (cause : WatchFailure)
  /-- The watcher could not start watching these hierarchies; they are not watched. -/
  | startFailed (paths : List String) (cause : WatchFailure)
  deriving DecidableEq, Repr

namespace RegistryError

/-- The message of a registry error. -/
def message : RegistryError → String
  | .invalidPath path => "invalid path: " ++ (Path.NotAbsolute.mk path).message
  | .stopFailed paths cause =>
    "failed to stop watching " ++ ", ".intercalate paths ++ ": " ++ cause.message
  | .startFailed paths cause =>
    "failed to start watching " ++ ", ".intercalate paths ++ ": " ++ cause.message

end RegistryError

/-- The state of a registry. `tracked` increases strictly by path and holds each path's required
directories as an increasing list; `watched` increases strictly. -/
structure Registry where
  tracked : List (String × List String) := []
  watched : List String := []
  current : RootSet := {}
  previous : RootSet := {}
  deriving DecidableEq, Repr

/-- A registry call's result: the new registry, the watcher's new state, and the error if the
call failed. -/
structure Outcome (σ : Type) where
  registry : Registry
  watcher : σ
  error : Option RegistryError

namespace Registry

/-- The registry of a fresh start: nothing tracked, watched or declared. -/
def empty : Registry := {}

/-- The directories required by any tracked path, increasing. -/
def required (reg : Registry) : List String :=
  PathSet.ofList (reg.tracked.flatMap (·.2))

/-- The number of tracked paths. -/
def trackedCount (reg : Registry) : Nat :=
  reg.tracked.length

/-- The roots of the build in progress, increasing. -/
def currentRoots (reg : Registry) : List String :=
  reg.current.paths

/-- The roots kept from earlier builds, increasing. -/
def previousRoots (reg : Registry) : List String :=
  reg.previous.paths

/-- A required directory as it is watched: through the current root containing it, else
through the earlier root containing it, else itself. -/
def substitute (reg : Registry) (dir : String) : String :=
  match reg.current.find? dir with
  | some root => root.path
  | none =>
    match reg.previous.find? dir with
    | some root => root.path
    | none => dir

/-- The hierarchies the registry wants watched. -/
def desired (reg : Registry) : List String :=
  Roots.reduce (PathSet.ofList (reg.required.map reg.substitute))

/-- Removes a tracked path. -/
def untrack (tracked : List (String × List String)) (path : String) :
    List (String × List String) :=
  tracked.filter (·.1 ≠ path)

/-- Adds required directories to a tracked path, tracking it if it is new. -/
def track (path : String) (dirs : List String) :
    List (String × List String) → List (String × List String)
  | [] => [(path, PathSet.ofList dirs)]
  | (key, known) :: rest =>
    if path < key then (path, PathSet.ofList dirs) :: (key, known) :: rest
    else if path = key then (key, PathSet.union known dirs) :: rest
    else (key, known) :: track path dirs rest

/-- A path checked to be absolute and cleaned, or refused as an invalid path. -/
def checkPath (path : String) : Except RegistryError String :=
  match Path.normalize path with
  | .ok clean => .ok clean
  | .error _ => .error (.invalidPath path)

/-- A snapshot with its path and non-empty link target checked and cleaned. -/
def checkSnapshot (s : Snapshot) : Except RegistryError Snapshot := do
  let path ← checkPath s.path
  if s.resolvedPath = "" then
    return { s with path }
  else
    let resolvedPath ← checkPath s.resolvedPath
    return { s with path, resolvedPath }

/-- Brings the watcher in line with `desired`: first stops what is no longer desired, then
starts what is missing. Each request lists its hierarchies in increasing order; only the
hierarchies that did not fail change the watched set. -/
def update (w : Watcher σ) (reg : Registry) (svc : σ) : Outcome σ :=
  let want := reg.desired
  let toStop := PathSet.diff reg.watched want
  let toStart := PathSet.diff want reg.watched
  let (stopFailure, svc) :=
    if toStop = [] then (none, svc) else w.stop toStop svc
  match stopFailure with
  | some failure =>
    let failed := failure.failed toStop
    let watched := reg.watched.filter (fun path => !toStop.contains path || failed.contains path)
    ⟨{ reg with watched }, svc, some (.stopFailed failed failure)⟩
  | none =>
    let reg := { reg with watched := PathSet.diff reg.watched toStop }
    let (startFailure, svc) :=
      if toStart = [] then (none, svc) else w.start toStart svc
    match startFailure with
    | some failure =>
      let failed := failure.failed toStart
      let watched := PathSet.union reg.watched (PathSet.diff toStart failed)
      ⟨{ reg with watched }, svc, some (.startFailed failed failure)⟩
    | none => ⟨{ reg with watched := PathSet.union reg.watched toStart }, svc, none⟩

/-- Records what a rescan of the tracked paths found: the snapshots it dropped and those it
recorded. Every dropped path stops being tracked, then every recorded snapshot adds its
directories to its path. All paths are checked before anything changes. -/
def changed (w : Watcher σ) (removed added : List Snapshot) (reg : Registry) (svc : σ) :
    Outcome σ :=
  let checked : Except RegistryError (List String × List Snapshot) := do
    let gone ← removed.mapM (fun s => checkPath s.path)
    let fresh ← added.mapM checkSnapshot
    return (gone, fresh)
  match checked with
  | .error e => ⟨reg, svc, some e⟩
  | .ok (gone, fresh) =>
    let tracked := gone.foldl untrack reg.tracked
    let tracked := fresh.foldl (fun acc s => track s.path s.directories acc) tracked
    update w { reg with tracked } svc

/-- Declares the roots of the build in progress, replacing an earlier declaration of this build.
They are reduced to the outermost, and earlier roots equal to one of them are dropped from the
earlier generation. -/
def declareRoots (w : Watcher σ) (dirs : List String) (reg : Registry) (svc : σ) : Outcome σ :=
  match dirs.mapM checkPath with
  | .error e => ⟨reg, svc, some e⟩
  | .ok clean =>
    let current := RootSet.declare clean
    update w { reg with current, previous := reg.previous.removeAll current } svc

/-- Ends the build: its roots join the earlier ones, the watched set is brought in line, and
earlier roots that are not themselves watched are forgotten, whether or not the update
succeeded. -/
def finishBuild (w : Watcher σ) (reg : Registry) (svc : σ) : Outcome σ :=
  let reg := { reg with previous := reg.previous.addAll reg.current, current := RootSet.empty }
  let result := update w reg svc
  let watched := result.registry.watched
  let previous := result.registry.previous.keep (fun root => watched.contains root.path)
  { result with registry := { result.registry with previous } }

end Registry

end StableWatch
