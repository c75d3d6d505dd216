import StableWatch.Build.Plan
import StableWatch.Config.Load
import StableWatch.History.Store
/-!
# The daemon

The daemon owns the configuration, the build history and, while it is enabled, four parts set
together: a watcher, the change loop that reports what the backend saw; a backend of the
configured kind; a registry driving it; and a tracker for the configured locations. It works with
a `Kit`: how a backend of a kind is made and driven, and how the file system is read.

* **Enabling** starts watching (refused when the backend's kind or the tracker's locations are
  refused) and runs a build. `start` runs a build even when a watcher runs already.
* **Disabling** stops watching: the backend is closed and the four parts are dropped.
* **A build request** takes a freshly loaded configuration. While disabled it only keeps the new
  configuration and is refused. When the backend or the waiting time changed, watching is stopped
  and started again from scratch and a build runs; otherwise the tracker takes the new locations
  and a build runs. A failed build is reported with its number, `build N failed: ...`.
* **Changes reported** by a watcher are dropped unless it is the current one; otherwise the
  locations are read again and the registry is told what changed, without a build.
* **Status** tells whether a watcher runs, what the registry watches and tracks, and the last
  build.

Every build is recorded in the history with the roots declared for it, the hierarchies the
registry watches after it, and its error text.
-/

namespace StableWatch

/-- What a daemon with backends of type `σ` works with. -/
structure Kit (σ : Type) where
  /-- The fresh backend of a kind, or why the kind is refused. -/
  make : String → Except String σ
  /-- How backends are driven. -/
  watcher : Watcher σ
  /-- The file system as it is now. -/
  view : FsView
  /-- The time now; builds start at it and take no time. -/
  now : Timestamp := Timestamp.zero

/-- Why a build failed. -/
inductive BuildFailure where
  /-- No backend of the configured kind could be made. -/
  | backend (reason : String)
  /-- The tracker refused the configured locations. -/
  | locations (e : LocationError)
  /-- Steps of the build failed, each error once. -/
  | steps (errors : List RegistryError)
  deriving DecidableEq, Repr

/-- The message of a build failure. -/
def BuildFailure.message : BuildFailure → String
  | .backend reason => "failed to create watch backend: " ++ reason
  | .locations e => e.refusal
  | .steps errors => "\n".intercalate (errors.map RegistryError.message)

/-- Why a daemon request failed. -/
inductive DaemonError where
  /-- The configuration file could not be loaded. -/
  | config (e : ConfigError)
  /-- A build was requested while the daemon is disabled. -/
  | disabled
  /-- A build failed; a positive number names the last recorded build. -/
  | failed (number : Int) (cause : BuildFailure)
  deriving DecidableEq, Repr

/-- The message of a daemon error. -/
def DaemonError.message : DaemonError → String
  | .config e => "failed to load config: " ++ e.message
  | .disabled => "daemon is disabled"
  | .failed number cause =>
    if number = 0 then cause.message else "build " ++ toString number ++ " failed: " ++ cause.message

/-- A finished build as requests report it. -/
structure BuildStatus where
  number : Int := 0
  startedAt : Timestamp := Timestamp.zero
  duration : Duration := ⟨0⟩
  roots : List String := []
  hierarchies : List String := []
  error : String := ""
  deriving DecidableEq, Repr

/-- What the daemon tells about itself. -/
structure DaemonStatus where
  configPath : String
  enabled : Bool
  backend : String
  watchCount : Nat := 0
  hierarchies : List String := []
  currentRoots : List String := []
  previousRoots : List String := []
  trackedCount : Nat := 0
  lastBuild : Option BuildStatus := none
  deriving DecidableEq, Repr


/-- The daemon's state. The watcher, the backend, the registry and the tracker are set while the
daemon is enabled; the registry drives the backend. -/
structure Daemon (σ : Type) where
  configPath : String
  config : Config
  history : History := {}
  /-- The change loop, named by the number of the start that made it, which tells its reports
  from those of earlier loops. -/
  watcher : Option Nat := none
  backend : Option σ := none
  registry : Option Registry := none
  tracker : Option Tracker := none
  /-- How many times watching was started. -/
  generation : Nat := 0
  deriving DecidableEq, Repr

namespace Daemon

variable {σ : Type}

/-! Every request that reads the backend, the registry or the tracker gives `none` when the part
it reads is not set: the program would stop there on a nil dereference. -/

/-- Starts watching unless a watcher runs: the backend first, then the tracker, whose refusal
drops the backend made for it; then the registry over the backend and a new watcher. -/
def startWatching (kit : Kit σ) (d : Daemon σ) : Except BuildFailure (Daemon σ) :=
  match d.watcher with
  | some _ => .ok d
  | none => do
    let backend ← (kit.make (Text.ofBytes d.config.daemon.backend)).mapError .backend
    let tracker ← (Tracker.create d.config.locations).mapError .locations
    return { d with watcher := some (d.generation + 1), backend := some backend,
                    registry := some Registry.empty, tracker := some tracker,
                    generation := d.generation + 1 }

/-- Stops watching, if a watcher runs: the backend is closed, and the watcher, the backend, the
registry and the tracker are dropped. -/
def stopWatching (d : Daemon σ) : Option (Daemon σ) :=
  match d.watcher with
  | none => some d
  | some _ => do
    -- closing the backend reads it
    let _ ← d.backend
    return { d with watcher := none, backend := none, registry := none, tracker := none }

/-- Runs a build with the registry and the tracker and records it; gives the errors of its
steps. -/
def runBuild (kit : Kit σ) (d : Daemon σ) : Option (Daemon σ × List RegistryError) := do
  let registry ← d.registry
  let tracker ← d.tracker
  let backend ← d.backend
  let (result, registry, tracker, backend) :=
    Build.run kit.watcher kit.view d.config.roots registry tracker backend
  let record : BuildRecord :=
    { startedAt := kit.now, roots := some result.roots, hierarchies := some registry.watched,
      error := result.errorText }
  let (_, history) := d.history.record record
  return ({ d with history, backend := some backend, registry := some registry,
                   tracker := some tracker }, result.errors)

/-- The last recorded build, or the empty status when there is none. -/
def lastStatus (d : Daemon σ) : BuildStatus :=
  match d.history.last? with
  | some r => { number := r.number, startedAt := r.startedAt, duration := r.duration,
                roots := r.roots.getD [], hierarchies := r.hierarchies.getD [], error := r.error }
  | none => {}

/-- The error of a build that failed, named by the last recorded build. -/
def outcome (d : Daemon σ) (cause : BuildFailure) : DaemonError :=
  .failed d.lastStatus.number cause

/-- Starts watching and runs a build. -/
def start (kit : Kit σ) (d : Daemon σ) : Option (Daemon σ × Option DaemonError) :=
  match d.startWatching kit with
  | .error e => some (d, some (.failed 0 e))
  | .ok d => (d.runBuild kit).map fun built => (built.1, none)

/-- Enables the daemon unless a watcher runs, running a build. -/
def enable (kit : Kit σ) (d : Daemon σ) : Option (Daemon σ) :=
  match d.watcher with
  | some _ => some d
  | none =>
    match d.startWatching kit with
    | .error _ => some d
    | .ok d => (d.runBuild kit).map Prod.fst

/-- Disables the daemon: stops watching, which does nothing unless a watcher runs. -/
def disable (d : Daemon σ) : Option (Daemon σ) :=
  d.stopWatching

/-- The answer to a build request after a build ran: its status, and its failed steps named by
its number. -/
def finish (built : Daemon σ × List RegistryError) : Daemon σ × BuildStatus × Option DaemonError :=
  (built.1, built.1.lastStatus,
    if built.2.isEmpty then none else some (built.1.outcome (.steps built.2)))

/-- Takes a freshly loaded configuration and runs a build; gives the build's status and the
error. -/
def build (kit : Kit σ) (loaded : Except ConfigError Config) (d : Daemon σ) :
    Option (Daemon σ × BuildStatus × Option DaemonError) :=
  match loaded with
  | .error e => some (d, {}, some (.config e))
  | .ok config =>
    match d.watcher with
    | none => some ({ d with config }, {}, some .disabled)
    | some _ =>
      let restart := config.daemon.backend ≠ d.config.daemon.backend ||
        config.daemon.debounce ≠ d.config.daemon.debounce
      let d := { d with config }
      if restart then do
        let d ← d.stopWatching
        match d.startWatching kit with
        | .error e => some (d, d.lastStatus, some (d.outcome e))
        | .ok d => (d.runBuild kit).map finish
      else do
        let tracker ← d.tracker
        match tracker.setLocations config.locations with
        | .error e => some (d, {}, some (.failed 0 (.locations e)))
        | .ok tracker => ({ d with tracker := some tracker }.runBuild kit).map finish

/-- What the daemon does when the watcher numbered `w` reports changes: nothing unless it is the
current watcher; otherwise the tracker reads the locations again, and the registry is told what
changed, when something did. -/
def handleChanges (kit : Kit σ) (w : Nat) (d : Daemon σ) : Option (Daemon σ) :=
  if d.watcher ≠ some w then some d
  else do
    let tracker ← d.tracker
    let (changes, tracker) := tracker.scan kit.view
    if changes.removed.isEmpty ∧ changes.added.isEmpty then
      return { d with tracker := some tracker }
    else
      let registry ← d.registry
      let backend ← d.backend
      let recorded := registry.changed kit.watcher changes.removed changes.added backend
      return { d with backend := some recorded.watcher, registry := some recorded.registry,
                      tracker := some tracker }

/-- The daemon's status: enabled while a watcher runs, with what the registry watches and tracks
when there is one. -/
def status (d : Daemon σ) : DaemonStatus :=
  let base : DaemonStatus :=
    { configPath := d.configPath, enabled := d.watcher.isSome,
      backend := Text.ofBytes d.config.daemon.backend,
      lastBuild := d.history.last?.map fun _ => d.lastStatus }
  match d.registry with
  | none => base
  | some r =>
    { base with watchCount := r.watched.length, hierarchies := r.watched,
                currentRoots := r.currentRoots, previousRoots := r.previousRoots,
                trackedCount := r.trackedCount }

end Daemon

end StableWatch
