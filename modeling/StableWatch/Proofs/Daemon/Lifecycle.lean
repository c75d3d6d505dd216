import StableWatch.Backend.DryRun
import StableWatch.Fs.Host
import StableWatch.Proofs.Daemon.Requests
/-!
# The daemon's parts are set together, and read only when set

The daemon keeps a watcher, a backend, a registry and a tracker in four fields, set while it is
enabled. Its requests read them: a build reads the registry, the tracker and the backend the
registry drives; stopping closes the backend; changes reported by the current watcher read the
tracker and, when something changed, the registry and the backend. A read of a part that is not
set is where the program would stop on a nil dereference, and there a request gives none.

Every request keeps the four parts all set or all unset (`Daemon.Whole`), on each of its paths:

* starting makes the backend, then the tracker; when the tracker is refused, the backend made for
  it is dropped and nothing is set (`startWatching_whole`), and the build after a start finds its
  parts (`started_then_built`);
* stopping clears all four (`stopWatching_of_whole`);
* a build request that restarts stops first, and a start that then fails leaves all four unset;
  one that keeps the backend hands the tracker its locations before the build (`build_whole`);
* changes from a watcher other than the current one are dropped, and those of the current one
  find the tracker, the registry and the backend set (`handleChanges_whole`).

So a whole daemon answers every request and stays whole (`serve_whole`). Along any run of
requests from a daemon with nothing set, no request reads a part that is not set, and the status
says enabled exactly while the daemon holds its backend, registry and tracker
(`parts_set_together_and_read_when_set`).
-/

namespace StableWatch.Daemon

variable {σ : Type} {kit : Kit σ} {d : Daemon σ}

/-- The daemon says it is enabled exactly while a watcher runs. -/
@[simp]
theorem status_enabled (d : Daemon σ) : d.status.enabled = d.watcher.isSome := by
  unfold status
  split <;> rfl

/-- A whole daemon says it is enabled exactly while it holds a session. -/
theorem Whole.enabled_iff (whole : d.Whole) : d.status.enabled = true ↔ ∃ s, d.session = some s := by
  rw [status_enabled, ← whole.session_isSome, Option.isSome_iff_exists]

/-- A whole daemon with a new configuration is whole. -/
theorem Whole.with_config (whole : d.Whole) (config : Config) : ({ d with config } : Daemon σ).Whole :=
  ⟨whole.backend, whole.registry, whole.tracker⟩

/-! ### Each request -/

/-- After a start, the build finds the parts it reads, and leaves a whole daemon. -/
theorem started_then_built (whole : d.Whole) {d' : Daemon σ} (started : d.startWatching kit = .ok d') :
    ∃ built, d'.runBuild kit = some built ∧ built.1.Whole := by
  obtain ⟨startedWhole, running⟩ := startWatching_whole whole started
  obtain ⟨built, ran, builtWhole, -⟩ := runBuild_whole kit startedWhole running
  exact ⟨built, ran, builtWhole⟩

theorem start_whole (kit : Kit σ) (whole : d.Whole) :
    ∃ answer, d.start kit = some answer ∧ answer.1.Whole := by
  unfold start
  cases started : d.startWatching kit with
  | error e => exact ⟨_, rfl, whole⟩
  | ok d' =>
    obtain ⟨built, ran, builtWhole⟩ := started_then_built whole started
    exact ⟨(built.1, none), by dsimp only; rw [ran]; rfl, builtWhole⟩

theorem enable_whole (kit : Kit σ) (whole : d.Whole) : ∃ d', d.enable kit = some d' ∧ d'.Whole := by
  unfold enable
  split
  · exact ⟨d, rfl, whole⟩
  · cases started : d.startWatching kit with
    | error e => exact ⟨d, rfl, whole⟩
    | ok d' =>
      obtain ⟨built, ran, builtWhole⟩ := started_then_built whole started
      exact ⟨built.1, by dsimp only; rw [ran]; rfl, builtWhole⟩

theorem disable_of_whole (whole : d.Whole) : d.disable = some d.cleared :=
  stopWatching_of_whole whole

/-- **A build request keeps the parts together on each of its paths.** -/
theorem build_whole (kit : Kit σ) (whole : d.Whole) (loaded : Except ConfigError Config) :
    ∃ answer, d.build kit loaded = some answer ∧ answer.1.Whole := by
  cases loaded with
  | error e => exact ⟨_, build_of_error e, whole⟩
  | ok config =>
    cases running : d.watcher with
    | none => exact ⟨_, build_of_disabled running, whole.with_config config⟩
    | some w =>
      have watching : d.watcher.isSome := Option.isSome_of_eq_some running
      obtain ⟨s, found⟩ := whole.session_of_running watching
      by_cases same : config.daemon = d.config.daemon
      · -- the same backend: the tracker takes the new locations, then a build runs
        cases replaced : s.tracker.setLocations config.locations with
        | error e => exact ⟨_, build_of_refused found same replaced, whole.with_config config⟩
        | ok t =>
          rw [build_of_locations found same replaced]
          obtain ⟨built, ran, builtWhole, -⟩ :=
            runBuild_whole kit (put_whole (d := { d with config }) watching) watching
          exact ⟨_, by rw [ran]; rfl, builtWhole⟩
      · -- a restart stops first: a start that fails then leaves nothing set
        cases started : ({ d with config } : Daemon σ).cleared.startWatching kit with
        | error e => exact ⟨_, build_of_restart_failed found same started, cleared_whole _⟩
        | ok d' =>
          rw [build_of_restart found same started]
          obtain ⟨built, ran, builtWhole⟩ := started_then_built (cleared_whole _) started
          exact ⟨_, by rw [ran]; rfl, builtWhole⟩

/-- Changes from the current watcher find the parts they read; those of another are dropped. -/
theorem handleChanges_whole (kit : Kit σ) (whole : d.Whole) (w : Nat) :
    ∃ d', d.handleChanges kit w = some d' ∧ d'.Whole := by
  by_cases current : d.watcher = some w
  · have watching : d.watcher.isSome := Option.isSome_of_eq_some current
    obtain ⟨s, found⟩ := whole.session_of_running watching
    obtain ⟨s', handled, -⟩ := handleChanges_of_session kit current found
    exact ⟨_, handled, put_whole watching⟩
  · exact ⟨d, handleChanges_of_other current, whole⟩

/-- **A whole daemon answers every request, and stays whole.** -/
theorem serve_whole (whole : d.Whole) (kit : Kit σ) (request : Request) :
    ∃ d', d.serve kit request = some d' ∧ d'.Whole := by
  cases request with
  | start =>
    obtain ⟨answer, started, answerWhole⟩ := start_whole kit whole
    exact ⟨_, by rw [serve, started]; rfl, answerWhole⟩
  | enable => exact enable_whole kit whole
  | disable => exact ⟨_, disable_of_whole whole, cleared_whole d⟩
  | build loaded =>
    obtain ⟨answer, built, answerWhole⟩ := build_whole kit whole loaded
    exact ⟨_, by rw [serve, built]; rfl, answerWhole⟩
  | changes w => exact handleChanges_whole kit whole w

/-- Every daemon that requests reach is whole: the step is `serve_whole`. -/
theorem Reachable.whole {allowed : Kit σ → Prop} (reached : d.Reachable allowed) : d.Whole := by
  induction reached with
  | idle _ whole => exact whole
  | step kit request _ _ served ih =>
    obtain ⟨d', answered, whole'⟩ := serve_whole ih kit request
    rw [answered, Option.some.injEq] at served
    exact served ▸ whole'

/-- **The daemon's parts are set together, and read only when set.** Along any run of requests
from a daemon with none of its parts set, each request served with any kit: the watcher, the
backend, the registry and the tracker are all set or all unset; the status says enabled exactly
while the daemon holds the backend, the registry and the tracker; and starting, enabling,
disabling, a build request with any loaded configuration, and changes reported by any watcher,
the current one or an earlier one, each answer, never reading a part that is not set. -/
theorem parts_set_together_and_read_when_set {allowed : Kit σ → Prop} (reached : d.Reachable allowed)
    (kit : Kit σ) :
    d.Whole ∧ (d.status.enabled = true ↔ ∃ s, d.session = some s) ∧
      (d.start kit).isSome ∧ (d.enable kit).isSome ∧ d.disable.isSome ∧
      (∀ loaded, (d.build kit loaded).isSome) ∧ ∀ w, (d.handleChanges kit w).isSome := by
  have whole := reached.whole
  obtain ⟨_, started, -⟩ := start_whole kit whole
  obtain ⟨_, enabled, -⟩ := enable_whole kit whole
  refine ⟨whole, whole.enabled_iff, Option.isSome_of_eq_some started,
    Option.isSome_of_eq_some enabled, Option.isSome_of_eq_some (disable_of_whole whole),
    fun loaded => ?_, fun w => ?_⟩
  · obtain ⟨_, built, -⟩ := build_whole kit whole loaded
    exact Option.isSome_of_eq_some built
  · obtain ⟨_, handled, -⟩ := handleChanges_whole kit whole w
    exact Option.isSome_of_eq_some handled

/-- A daemon started, then asked to build with a new waiting time and a malformed location: the
restart stops watching, the start after it is refused, and the daemon is left with none of its
parts set, still answering every request. -/
theorem parts_cleared_after_failed_restart :
    let kit : Kit DryRun :=
      { make := fun _ => .ok {}, watcher := DryRun.watcher, view := ({} : HostFs).view }
    let idle : Daemon DryRun :=
      { configPath := "/etc/hierwatch.yaml", config := { roots := ["/src"], locations := ["/src/app"] } }
    let loaded : Except ConfigError Config :=
      .ok { idle.config with locations := ["/src/[a"],
                             daemon := { idle.config.daemon with debounce := Duration.ofMillis 2000 } }
    let d := ((idle.serve kit .start).bind (·.serve kit (.build loaded))).getD idle
    d.Reachable (fun _ => True) ∧ d.watcher = none ∧
      d.Whole ∧ (d.status.enabled = true ↔ ∃ s, d.session = some s) ∧
      (d.start kit).isSome ∧ (d.enable kit).isSome ∧ d.disable.isSome ∧
      (∀ loaded, (d.build kit loaded).isSome) ∧ ∀ w, (d.handleChanges kit w).isSome := by
  intro kit idle loaded d
  have answered : ((idle.serve kit .start).bind (·.serve kit (.build loaded))).isSome = true := by
    decide +kernel
  obtain ⟨final, finalEq⟩ := Option.isSome_iff_exists.mp answered
  obtain ⟨started, start, build⟩ := Option.bind_eq_some_iff.mp finalEq
  have reached : final.Reachable (fun _ => True) :=
    .step kit (.build loaded) trivial (.step kit .start trivial (.idle rfl ⟨rfl, rfl, rfl⟩) start)
      build
  have same : d = final := by
    show ((idle.serve kit .start).bind (·.serve kit (.build loaded))).getD idle = final
    rw [finalEq]
    rfl
  have stopped : d.watcher = none := by decide +kernel
  rw [same] at stopped ⊢
  exact ⟨reached, stopped, parts_set_together_and_read_when_set reached kit⟩

end StableWatch.Daemon
