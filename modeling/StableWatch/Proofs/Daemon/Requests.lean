import StableWatch.Daemon.Basic
import StableWatch.Proofs.Registry.Stability
/-!
# What each request of the daemon does

The daemon keeps its watcher, its backend, its registry and its tracker in four fields of their
own. `Daemon.session` reads the last three together while the watcher runs and all three are set,
and `Daemon.put` sets them from a session. One lemma per request, or per branch of a request, says
what it leaves behind, so that later proofs never unfold the daemon:

* `startWatching_eq_ok`: starting keeps a running watcher, or makes a fresh backend of the
  configured kind, a new tracker and the empty registry under the next watcher;
* `stopWatching_of_whole`: stopping a daemon whose parts are set together clears them all;
* `runBuild_of_session`: a build puts the session `Build.run` leaves;
* `handleChanges_of_other`, `handleChanges_of_session`: changes reported by a watcher that is not
  the current one are dropped; those of the current one are scanned and told to the registry,
  which, when nothing changed and it wants what it watches, would have changed nothing;
* `status_of_session`: the status of a daemon holding a session reads its registry;
* `build_of_error`, `build_of_disabled`, `build_of_restart_failed`, `build_of_restart`,
  `build_of_refused`, `build_of_locations`: the six ways a build request ends, the last four
  through a restart (`build_of_restarting`) or with the backend kept (`build_of_keeping`).

The requests are gathered as `Daemon.Request` and served by `Daemon.serve`, which gives none when
a request reads a part that is not set. `Daemon.Reachable` holds of the daemons that requests
reach from one with none of its parts set.
-/

namespace StableWatch

/-- Two daemon settings are equal when their backend kinds and their waiting times are. -/
theorem DaemonSettings.eq_iff {a b : DaemonSettings} :
    a = b ↔ a.backend = b.backend ∧ a.debounce = b.debounce := by
  cases a
  cases b
  simp [and_comm]

variable {σ : Type}

/-- What runs while the daemon is enabled: its backend, its registry and its tracker. -/
structure Session (σ : Type) where
  backend : σ
  registry : Registry := Registry.empty
  tracker : Tracker

/-- The session a build with the given roots leaves. -/
def Session.build (kit : Kit σ) (roots : List String) (s : Session σ) : Session σ :=
  let run := Build.run kit.watcher kit.view roots s.registry s.tracker s.backend
  { backend := run.2.2.2, registry := run.2.1, tracker := run.2.2.1 }

/-- The session after the tracker read the locations again and the registry was told what
changed. -/
def Session.rescan (kit : Kit σ) (s : Session σ) : Session σ :=
  let scanned := s.tracker.scan kit.view
  let recorded := s.registry.changed kit.watcher scanned.1.removed scanned.1.added s.backend
  { backend := recorded.watcher, registry := recorded.registry, tracker := scanned.2 }

namespace Daemon

/-- The backend, the registry and the tracker, while the watcher runs and all three are set. -/
def session (d : Daemon σ) : Option (Session σ) :=
  match d.watcher, d.backend, d.registry, d.tracker with
  | some _, some backend, some registry, some tracker => some { backend, registry, tracker }
  | _, _, _, _ => none

/-- Sets the backend, the registry and the tracker to those of a session. -/
def put (d : Daemon σ) (s : Session σ) : Daemon σ :=
  { d with backend := some s.backend, registry := some s.registry, tracker := some s.tracker }

/-- The daemon with none of its four parts set. -/
def cleared (d : Daemon σ) : Daemon σ :=
  { d with watcher := none, backend := none, registry := none, tracker := none }

/-- The watcher, the backend, the registry and the tracker are all set, or all unset. -/
structure Whole (d : Daemon σ) : Prop where
  backend : d.backend.isSome = d.watcher.isSome
  registry : d.registry.isSome = d.watcher.isSome
  tracker : d.tracker.isSome = d.watcher.isSome

variable {kit : Kit σ} {d d' : Daemon σ} {s : Session σ} {w : Nat}

@[simp] theorem put_watcher : (d.put s).watcher = d.watcher := rfl
@[simp] theorem put_config : (d.put s).config = d.config := rfl
@[simp] theorem put_history : (d.put s).history = d.history := rfl
@[simp] theorem cleared_watcher : d.cleared.watcher = none := rfl
@[simp] theorem cleared_config : d.cleared.config = d.config := rfl
@[simp] theorem cleared_history : d.cleared.history = d.history := rfl

theorem session_eq_some_iff :
    d.session = some s ↔ d.watcher.isSome ∧ d.backend = some s.backend ∧
      d.registry = some s.registry ∧ d.tracker = some s.tracker := by
  obtain ⟨backend, registry, tracker⟩ := s
  obtain ⟨_, _, _, _ | _, _ | _, _ | _, _ | _, _⟩ := d <;> simp [session, eq_comm]

theorem session_put (running : d.watcher.isSome) : (d.put s).session = some s :=
  session_eq_some_iff.mpr ⟨running, rfl, rfl, rfl⟩

theorem cleared_session : d.cleared.session = none := rfl

/-- The session put is the one read back. -/
theorem eq_of_session_put {s' : Session σ} (found : (d.put s).session = some s') : s' = s := by
  obtain ⟨-, backend, registry, tracker⟩ := session_eq_some_iff.mp found
  obtain ⟨_, _, _⟩ := s
  obtain ⟨_, _, _⟩ := s'
  simp_all [put]

theorem put_whole (running : d.watcher.isSome) : (d.put s).Whole :=
  ⟨running.symm, running.symm, running.symm⟩

theorem cleared_whole (d : Daemon σ) : d.cleared.Whole :=
  ⟨rfl, rfl, rfl⟩

/-- A daemon holding a session is whole. -/
theorem Whole.of_session (running : d.session = some s) : d.Whole := by
  obtain ⟨watching, backend, registry, tracker⟩ := session_eq_some_iff.mp running
  exact ⟨by rw [backend, watching]; rfl, by rw [registry, watching]; rfl,
    by rw [tracker, watching]; rfl⟩

/-- A whole daemon whose watcher runs holds a session. -/
theorem Whole.session_of_running (whole : d.Whole) (running : d.watcher.isSome) :
    ∃ s, d.session = some s := by
  obtain ⟨backend, hasBackend⟩ := Option.isSome_iff_exists.mp (whole.backend.trans running)
  obtain ⟨registry, hasRegistry⟩ := Option.isSome_iff_exists.mp (whole.registry.trans running)
  obtain ⟨tracker, hasTracker⟩ := Option.isSome_iff_exists.mp (whole.tracker.trans running)
  exact ⟨{ backend, registry, tracker },
    session_eq_some_iff.mpr ⟨running, hasBackend, hasRegistry, hasTracker⟩⟩

/-- A whole daemon without a watcher has none of its parts set. -/
theorem Whole.eq_cleared (whole : d.Whole) (idle : d.watcher = none) : d = d.cleared := by
  have noBackend : d.backend = none := by simpa [idle] using whole.backend
  have noRegistry : d.registry = none := by simpa [idle] using whole.registry
  have noTracker : d.tracker = none := by simpa [idle] using whole.tracker
  obtain ⟨_, _, _, _, _, _, _, _⟩ := d
  simp_all [cleared]

/-- A whole daemon holds a session exactly while its watcher runs. -/
theorem Whole.session_isSome (whole : d.Whole) : d.session.isSome = d.watcher.isSome := by
  cases running : d.watcher with
  | none => rw [whole.eq_cleared running, cleared_session]; rfl
  | some _ =>
    obtain ⟨s, found⟩ := whole.session_of_running (Option.isSome_of_eq_some running)
    rw [found]
    rfl

/-! ### Starting and stopping -/

/-- **What starting does**: nothing while a watcher runs; otherwise a fresh backend of the
configured kind, the empty registry and a new tracker for the configured locations, under the
next watcher. -/
theorem startWatching_eq_ok (started : d.startWatching kit = .ok d') :
    (d.watcher.isSome ∧ d' = d) ∨
      (d.watcher = none ∧ ∃ backend t,
        kit.make (Text.ofBytes d.config.daemon.backend) = .ok backend ∧
        Tracker.create d.config.locations = .ok t ∧
        d' = ({ d with watcher := some (d.generation + 1), generation := d.generation + 1 } :
          Daemon σ).put { backend, tracker := t }) := by
  unfold startWatching at started
  cases running : d.watcher with
  | some w =>
    rw [running] at started
    cases started
    exact Or.inl ⟨rfl, rfl⟩
  | none =>
    rw [running] at started
    cases made : kit.make (Text.ofBytes d.config.daemon.backend) with
    | error reason =>
      rw [made] at started
      cases started
    | ok backend =>
      cases created : Tracker.create d.config.locations with
      | error e =>
        rw [made, created] at started
        cases started
      | ok t =>
        rw [made, created] at started
        cases started
        exact Or.inr ⟨rfl, backend, t, rfl, rfl, rfl⟩

/-- Starting leaves a whole daemon whose watcher runs. -/
theorem startWatching_whole (whole : d.Whole) (started : d.startWatching kit = .ok d') :
    d'.Whole ∧ d'.watcher.isSome := by
  rcases startWatching_eq_ok started with ⟨running, rfl⟩ | ⟨-, backend, t, -, -, rfl⟩
  · exact ⟨whole, running⟩
  · exact ⟨put_whole rfl, rfl⟩

/-- Stopping a whole daemon clears its parts; the backend it closes is set whenever the watcher
runs. -/
theorem stopWatching_of_whole (whole : d.Whole) : d.stopWatching = some d.cleared := by
  cases running : d.watcher with
  | none =>
    rw [stopWatching, running, ← whole.eq_cleared running]
  | some _ =>
    obtain ⟨backend, hasBackend⟩ :=
      Option.isSome_iff_exists.mp (whole.backend.trans (Option.isSome_of_eq_some running))
    simp only [stopWatching, running, hasBackend, Option.bind_eq_bind, Option.bind_some]
    rfl

/-! ### Builds and changes -/

/-- A build in a running session puts the session the build leaves and records the build. -/
theorem runBuild_of_session (kit : Kit σ) (running : d.session = some s) :
    ∃ history errors,
      d.runBuild kit = some (({ d with history } : Daemon σ).put (s.build kit d.config.roots), errors) := by
  obtain ⟨-, hasBackend, hasRegistry, hasTracker⟩ := session_eq_some_iff.mp running
  exact ⟨_, _, by simp only [runBuild, hasBackend, hasRegistry, hasTracker, Option.bind_eq_bind,
    Option.bind_some]; rfl⟩

/-- A build in a whole daemon whose watcher runs answers, with the watcher kept and a whole
daemon. -/
theorem runBuild_whole (kit : Kit σ) (whole : d.Whole) (running : d.watcher.isSome) :
    ∃ built, d.runBuild kit = some built ∧ built.1.Whole ∧ built.1.watcher = d.watcher := by
  obtain ⟨s, found⟩ := whole.session_of_running running
  obtain ⟨history, errors, ran⟩ := runBuild_of_session kit found
  exact ⟨_, ran, put_whole running, rfl⟩

theorem handleChanges_of_other (other : d.watcher ≠ some w) : d.handleChanges kit w = some d := by
  rw [handleChanges, if_pos other]

/-- Changes reported by the current watcher put the session of a rescan; when nothing changed and
the registry wants what it watches, that is the session the registry, told nothing, would leave. -/
theorem handleChanges_of_session (kit : Kit σ) (current : d.watcher = some w)
    (running : d.session = some s) :
    ∃ s', d.handleChanges kit w = some (d.put s') ∧
      (s.registry.desired = s.registry.watched → s' = s.rescan kit) := by
  obtain ⟨-, hasBackend, hasRegistry, hasTracker⟩ := session_eq_some_iff.mp running
  rw [handleChanges, if_neg (fun other => other current)]
  simp only [hasTracker, Option.bind_eq_bind, Option.bind_some]
  split
  next unchanged =>
    refine ⟨{ s with tracker := (s.tracker.scan kit.view).2 }, ?_, fun same => ?_⟩
    · obtain ⟨_, _, _, _, _, _, _, _⟩ := d
      simp_all [put]
    · -- telling the registry that nothing changed would change nothing
      obtain ⟨noneRemoved, noneAdded⟩ := unchanged
      simp only [Session.rescan, List.isEmpty_iff.mp noneRemoved, List.isEmpty_iff.mp noneAdded,
        Registry.changed_nil, Registry.update_of_desired_eq _ same]
  next =>
    simp only [hasRegistry, hasBackend, Option.bind_some]
    exact ⟨s.rescan kit, rfl, fun _ => rfl⟩

/-- What the status of a daemon holding a session reads from its registry. -/
theorem status_of_session (running : d.session = some s) :
    d.status.hierarchies = s.registry.watched ∧ d.status.currentRoots = s.registry.currentRoots ∧
      d.status.previousRoots = s.registry.previousRoots ∧
      d.status.trackedCount = s.registry.trackedCount := by
  obtain ⟨-, -, hasRegistry, -⟩ := session_eq_some_iff.mp running
  simp only [status, hasRegistry, and_self]

/-! ### The six ends of a build request -/

section Build

variable {config : Config}

/-- The backend kind or the waiting time changed: the request restarts watching. -/
theorem restart_of_ne (restart : config.daemon ≠ d.config.daemon) :
    (decide (config.daemon.backend ≠ d.config.daemon.backend) ||
      decide (config.daemon.debounce ≠ d.config.daemon.debounce)) = true := by
  rw [ne_eq, DaemonSettings.eq_iff, not_and_or] at restart
  simpa using restart

theorem build_of_error (e : ConfigError) : d.build kit (.error e) = some (d, {}, some (.config e)) :=
  rfl

theorem build_of_disabled (idle : d.watcher = none) :
    d.build kit (.ok config) = some ({ d with config }, {}, some .disabled) := by
  simp only [build, idle]

/-- A build request whose settings differ stops watching, then starts again with the new
configuration: a refused start leaves the daemon stopped, and a start is followed by a build. -/
theorem build_of_restarting (running : d.session = some s)
    (restart : config.daemon ≠ d.config.daemon) :
    d.build kit (.ok config) =
      match ({ d with config } : Daemon σ).cleared.startWatching kit with
      | .error e => some (({ d with config } : Daemon σ).cleared,
          ({ d with config } : Daemon σ).cleared.lastStatus,
          some (({ d with config } : Daemon σ).cleared.outcome e))
      | .ok d' => (d'.runBuild kit).map finish := by
  have stopped :
      ({ d with config } : Daemon σ).stopWatching = some ({ d with config } : Daemon σ).cleared :=
    stopWatching_of_whole (Whole.of_session (d := { d with config }) running)
  obtain ⟨watching, -⟩ := session_eq_some_iff.mp running
  obtain ⟨w, current⟩ := Option.isSome_iff_exists.mp watching
  cases started : ({ d with config } : Daemon σ).cleared.startWatching kit <;>
  · simp only [build]
    -- the new configuration is set on the daemon whose watcher is now known
    simp only [current] at stopped started ⊢
    simp only [restart_of_ne restart, if_true, stopped, Option.bind_eq_bind, Option.bind_some,
      started]

/-- A build request with the same settings hands the tracker the new locations, then builds. -/
theorem build_of_keeping (running : d.session = some s) (same : config.daemon = d.config.daemon) :
    d.build kit (.ok config) =
      match s.tracker.setLocations config.locations with
      | .error e => some ({ d with config }, {}, some (.failed 0 (.locations e)))
      | .ok t => ((({ d with config } : Daemon σ).put { s with tracker := t }).runBuild kit).map
          finish := by
  obtain ⟨watching, hasBackend, hasRegistry, hasTracker⟩ := session_eq_some_iff.mp running
  obtain ⟨w, current⟩ := Option.isSome_iff_exists.mp watching
  simp only [build, current, same, ne_eq, not_true_eq_false, decide_false, Bool.or_false,
    Bool.false_eq_true, if_false, hasTracker, Option.bind_eq_bind, Option.bind_some]
  cases s.tracker.setLocations config.locations with
  | error e => rfl
  | ok t =>
    -- setting the tracker alone is putting the session with that tracker
    obtain ⟨_, _, _, _, _, _, _, _⟩ := d
    simp_all [put]

theorem build_of_restart_failed (running : d.session = some s)
    (restart : config.daemon ≠ d.config.daemon) {e : BuildFailure}
    (failed : ({ d with config } : Daemon σ).cleared.startWatching kit = .error e) :
    d.build kit (.ok config) =
      some (({ d with config } : Daemon σ).cleared, ({ d with config } : Daemon σ).cleared.lastStatus,
        some (({ d with config } : Daemon σ).cleared.outcome e)) := by
  rw [build_of_restarting running restart, failed]

theorem build_of_restart (running : d.session = some s) (restart : config.daemon ≠ d.config.daemon)
    (started : ({ d with config } : Daemon σ).cleared.startWatching kit = .ok d') :
    d.build kit (.ok config) = (d'.runBuild kit).map finish := by
  rw [build_of_restarting running restart, started]

theorem build_of_refused (running : d.session = some s) (same : config.daemon = d.config.daemon)
    {e : LocationError} (refused : s.tracker.setLocations config.locations = .error e) :
    d.build kit (.ok config) = some ({ d with config }, {}, some (.failed 0 (.locations e))) := by
  rw [build_of_keeping running same, refused]

theorem build_of_locations (running : d.session = some s) (same : config.daemon = d.config.daemon)
    {t : Tracker} (replaced : s.tracker.setLocations config.locations = .ok t) :
    d.build kit (.ok config) =
      ((({ d with config } : Daemon σ).put { s with tracker := t }).runBuild kit).map finish := by
  rw [build_of_keeping running same, replaced]

end Build

/-! ### Requests and the daemons they reach -/

/-- The requests the daemon serves. -/
inductive Request where
  | start
  | enable
  | disable
  /-- A build request, with the configuration as it was loaded. -/
  | build (loaded : Except ConfigError Config)
  /-- Changes reported by the watcher with this number, the current one or an earlier one. -/
  | changes (watcher : Nat)

/-- The daemon a request leaves; none when the request read a part that was not set. -/
def serve (kit : Kit σ) : Request → Daemon σ → Option (Daemon σ)
  | .start, d => (d.start kit).map (·.1)
  | .enable, d => d.enable kit
  | .disable, d => d.disable
  | .build loaded, d => (d.build kit loaded).map (·.1)
  | .changes w, d => d.handleChanges kit w

/-- The daemons that requests reach from a daemon with none of its parts set, each request served
with a kit that `allowed` admits. -/
inductive Reachable (allowed : Kit σ → Prop) : Daemon σ → Prop
  | idle {d : Daemon σ} : d.watcher = none → d.Whole → Reachable allowed d
  | step {d d' : Daemon σ} (kit : Kit σ) (request : Request) : allowed kit →
      Reachable allowed d → d.serve kit request = some d' → Reachable allowed d'

end Daemon

end StableWatch
