import StableWatch.Proofs.Build.Plan
import StableWatch.Proofs.Daemon.Lifecycle
/-!
# The daemon's session follows its backend and its tracker

A daemon is driven by requests: starting, enabling, disabling, build requests with a freshly
loaded configuration, and changes reported by its watchers. Each request may come with a file
system changed in any way, and works with a kit whose watcher applies every request to what a
backend watches and whose fresh backends watch nothing (`Kit.Applies`); the dry-run backend is
such a kit on any host file system.

Every session such a run reaches is consistent (`Session.Consistent`): its backend watches what its
registry records as watched, the registry tracks what the tracker found and watches the outermost
of the required directories each under the earlier root containing it, with no roots of a build in
progress. Each request keeps that (`Daemon.serve_consistent`, from `start_consistent`,
`build_consistent`, `handleChanges_consistent`, ...), so the daemon's status tells what its backend
and its tracker hold (`status_follows_backend_and_tracker`).
-/

namespace StableWatch

open StableWatch.Path

namespace Registry

variable {σ : Type}

/-- A settled registry wants watched what it watches. -/
theorem Settled.desired_eq {reg : Registry} (settled : reg.Settled) (wellFormed : reg.WellFormed) :
    reg.desired = reg.watched := by
  rw [desired, Roots.reduce_ofList]
  exact (settled.watched_eq _ (forall₂_watchedThrough_substitute wellFormed reg.required)).symm

end Registry

variable {σ : Type} {watching : σ → List String}

/-- A kit the daemon's backends follow: its watcher applies every request to what a backend
watches, a fresh backend watches nothing, and its file system names entries cleanly. -/
structure Kit.Applies (watching : σ → List String) (kit : Kit σ) : Prop where
  watcher : kit.watcher.Applies watching
  fresh : ∀ kind backend, kit.make kind = .ok backend → watching backend = []
  childrenClean : kit.view.ChildrenClean

/-- What a session keeps true between requests: the backend watches what the registry records as
watched; the registry runs together with the tracker, is reachable and settled, has no roots of a
build in progress, and no earlier root of it lies below another. -/
structure Session.Consistent (watching : σ → List String) (s : Session σ) : Prop where
  mirrors : watching s.backend = s.registry.watched
  coupled : Coupled s.tracker s.registry
  reachable : s.registry.Reachable
  settled : s.registry.Settled
  noCurrent : s.registry.current.roots = []
  previousOutermost : ∀ root ∈ s.registry.previous.roots, ∀ other ∈ s.registry.previous.roots,
    isAncestor root.path other.path = false

namespace Session.Consistent

/-- A fresh session is consistent: a fresh backend, the empty registry and a new tracker. -/
theorem fresh {backend : σ} (idle : watching backend = []) {locations : List String}
    {t : Tracker} (created : Tracker.create locations = .ok t) :
    Consistent watching { backend, tracker := t } where
  mirrors := idle
  coupled := .start created
  reachable := .empty
  settled := Registry.settled_empty
  noCurrent := rfl
  previousOutermost root member := by cases member

variable {s : Session σ}

theorem setLocations (consistent : s.Consistent watching) {locations : List String} {t : Tracker}
    (replaced : s.tracker.setLocations locations = .ok t) :
    Consistent watching { s with tracker := t } :=
  { consistent with coupled := .setLocations consistent.coupled replaced }

/-- **A build keeps a session consistent.** -/
theorem run (consistent : s.Consistent watching) {kit : Kit σ} (applies : kit.Applies watching)
    (roots : List String) : Consistent watching (s.build kit roots) := by
  have settled : (Build.run kit.watcher kit.view roots s.registry s.tracker s.backend).2.1.Settled :=
    Build.run_settled applies.watcher.neverFails consistent.reachable consistent.settled
  refine ⟨Build.run_mirrors applies.watcher consistent.mirrors,
    Build.run_coupled consistent.coupled applies.childrenClean,
    Build.run_reachable consistent.reachable, settled, ?_, ?_⟩
  · exact congrArg RootSet.roots (Registry.finishBuild_current _ _ _)
  · -- the build's end keeps only watched earlier roots, and nothing watched lies below another
    intro root member other member'
    exact settled.outermost _ (Registry.previous_watched_finishBuild _ _ _ root member) _
      (Registry.previous_watched_finishBuild _ _ _ other member')

/-- Reporting what a scan changed keeps a session consistent. -/
theorem changed (consistent : s.Consistent watching) {kit : Kit σ} (applies : kit.Applies watching) :
    Consistent watching (s.rescan kit) where
  mirrors := applies.watcher.run_mirrors consistent.mirrors (.changed _ _)
  coupled := .scan kit.view _ _ applies.childrenClean consistent.coupled
  reachable := .step _ _ (.changed _ _) consistent.reachable
  settled := consistent.settled.run_of_neverFails consistent.reachable.wellFormed
    applies.watcher.neverFails (.changed _ _) _
  noCurrent := by
    simp only [Session.rescan]
    rw [Registry.changed_current]
    exact consistent.noCurrent
  previousOutermost := by
    simp only [Session.rescan]
    rw [Registry.changed_previous]
    exact consistent.previousOutermost

end Session.Consistent

namespace Daemon

/-- Every session of the daemon is consistent. -/
def Consistent (watching : σ → List String) (d : Daemon σ) : Prop :=
  ∀ s, d.session = some s → s.Consistent watching

variable {kit : Kit σ} {d d' : Daemon σ}

/-- Putting a consistent session leaves a consistent daemon. -/
theorem consistent_put {s : Session σ} (consistent : s.Consistent watching) :
    (d.put s).Consistent watching := by
  intro s' found
  rw [eq_of_session_put found]
  exact consistent

/-- A daemon without a watcher holds no session, so it is consistent. -/
theorem consistent_of_idle (idle : d.watcher = none) : d.Consistent watching := by
  intro s found
  have watching := (session_eq_some_iff.mp found).1
  simp [idle] at watching

theorem cleared_consistent (d : Daemon σ) : d.cleared.Consistent watching :=
  consistent_of_idle cleared_watcher

/-- A build in a consistent session leaves a consistent daemon. -/
theorem runBuild_consistent (consistent : d.Consistent watching) (applies : kit.Applies watching)
    {s : Session σ} (running : d.session = some s) {built : Daemon σ × List RegistryError}
    (ran : d.runBuild kit = some built) : built.1.Consistent watching := by
  obtain ⟨history, errors, ranEq⟩ := runBuild_of_session kit running
  rw [ranEq, Option.some.injEq] at ran
  subst ran
  exact consistent_put ((consistent s running).run applies d.config.roots)

/-- A start, then a build: the build runs in the session that ran, or in a fresh one. -/
theorem started_then_built_consistent (whole : d.Whole) (consistent : d.Consistent watching)
    (applies : kit.Applies watching) (started : d.startWatching kit = .ok d')
    {built : Daemon σ × List RegistryError} (ran : d'.runBuild kit = some built) :
    built.1.Consistent watching := by
  rcases startWatching_eq_ok started with ⟨running, rfl⟩ | ⟨-, backend, t, made, created, rfl⟩
  · obtain ⟨s, found⟩ := whole.session_of_running running
    exact runBuild_consistent consistent applies found ran
  · exact runBuild_consistent
      (consistent_put (Session.Consistent.fresh (applies.fresh _ _ made) created)) applies
      (session_put rfl) ran

theorem start_consistent (whole : d.Whole) (consistent : d.Consistent watching)
    (applies : kit.Applies watching) {answer : Daemon σ × Option DaemonError}
    (answered : d.start kit = some answer) : answer.1.Consistent watching := by
  unfold start at answered
  cases started : d.startWatching kit with
  | error e =>
    simp only [started, Option.some.injEq] at answered
    subst answered
    exact consistent
  | ok d'' =>
    simp only [started] at answered
    obtain ⟨built, ran, rfl⟩ := Option.map_eq_some_iff.mp answered
    exact started_then_built_consistent whole consistent applies started ran

theorem enable_consistent (whole : d.Whole) (consistent : d.Consistent watching)
    (applies : kit.Applies watching) (enabled : d.enable kit = some d') :
    d'.Consistent watching := by
  unfold enable at enabled
  split at enabled
  · cases enabled
    exact consistent
  · cases started : d.startWatching kit with
    | error e =>
      simp only [started, Option.some.injEq] at enabled
      subst enabled
      exact consistent
    | ok d'' =>
      simp only [started] at enabled
      obtain ⟨built, ran, rfl⟩ := Option.map_eq_some_iff.mp enabled
      exact started_then_built_consistent whole consistent applies started ran

theorem build_consistent (whole : d.Whole) (consistent : d.Consistent watching)
    (applies : kit.Applies watching) (loaded : Except ConfigError Config)
    {answer : Daemon σ × BuildStatus × Option DaemonError} (answered : d.build kit loaded = some answer) :
    answer.1.Consistent watching := by
  cases loaded with
  | error e =>
    rw [build_of_error, Option.some.injEq] at answered
    subst answered
    exact consistent
  | ok config =>
    cases running : d.watcher with
    | none =>
      rw [build_of_disabled running, Option.some.injEq] at answered
      subst answered
      exact consistent_of_idle running
    | some w =>
      have watching : d.watcher.isSome := Option.isSome_of_eq_some running
      obtain ⟨s, found⟩ := whole.session_of_running watching
      by_cases same : config.daemon = d.config.daemon
      · -- the same session, its tracker given the new locations
        cases replaced : s.tracker.setLocations config.locations with
        | error e =>
          rw [build_of_refused found same replaced, Option.some.injEq] at answered
          subst answered
          exact consistent
        | ok t =>
          rw [build_of_locations found same replaced] at answered
          obtain ⟨built, ran, rfl⟩ := Option.map_eq_some_iff.mp answered
          exact runBuild_consistent
            (consistent_put (d := { d with config }) ((consistent s found).setLocations replaced))
            applies (session_put (d := { d with config }) watching) ran
      · -- a restart: a fresh session, or none when it cannot start
        cases started : ({ d with config } : Daemon σ).cleared.startWatching kit with
        | error e =>
          rw [build_of_restart_failed found same started, Option.some.injEq] at answered
          subst answered
          exact cleared_consistent _
        | ok d'' =>
          rw [build_of_restart found same started] at answered
          obtain ⟨built, ran, rfl⟩ := Option.map_eq_some_iff.mp answered
          exact started_then_built_consistent (cleared_whole _) (cleared_consistent _) applies
            started ran

/-- Changes reported by the current watcher are told to a registry that wants what it watches;
those of another watcher are dropped. -/
theorem handleChanges_consistent (whole : d.Whole) (consistent : d.Consistent watching)
    (applies : kit.Applies watching) {w : Nat} (handled : d.handleChanges kit w = some d') :
    d'.Consistent watching := by
  by_cases current : d.watcher = some w
  · obtain ⟨s, found⟩ := whole.session_of_running (Option.isSome_of_eq_some current)
    have session := consistent s found
    obtain ⟨s', handledEq, rescanned⟩ := handleChanges_of_session kit current found
    rw [handledEq, Option.some.injEq] at handled
    subst handled
    rw [rescanned (session.settled.desired_eq session.reachable.wellFormed)]
    exact consistent_put (session.changed applies)
  · rw [handleChanges_of_other current, Option.some.injEq] at handled
    subst handled
    exact consistent

/-- **Every request keeps a whole daemon consistent.** -/
theorem serve_consistent (whole : d.Whole) (consistent : d.Consistent watching)
    (applies : kit.Applies watching) {request : Request} (served : d.serve kit request = some d') :
    d'.Consistent watching := by
  cases request with
  | start =>
    obtain ⟨answer, answered, rfl⟩ := Option.map_eq_some_iff.mp served
    exact start_consistent whole consistent applies answered
  | enable => exact enable_consistent whole consistent applies served
  | disable =>
    rw [serve, disable_of_whole whole, Option.some.injEq] at served
    subst served
    exact cleared_consistent d
  | build loaded =>
    obtain ⟨answer, answered, rfl⟩ := Option.map_eq_some_iff.mp served
    exact build_consistent whole consistent applies loaded answered
  | changes w => exact handleChanges_consistent whole consistent applies served

/-- The daemons a run reaches from one with none of its parts set. Each request comes with its
own kit, so the file system may change in any way between requests; every kit applies its
requests to what a backend watches, read by `watching`. -/
def Runs (watching : σ → List String) (d : Daemon σ) : Prop :=
  d.Reachable (Kit.Applies watching)

/-- Every session a run reaches is consistent. -/
theorem Runs.consistent (runs : d.Runs watching) : d.Consistent watching := by
  unfold Runs at runs
  induction runs with
  | idle idle _ => exact consistent_of_idle idle
  | step kit request applies reached served ih =>
    exact serve_consistent reached.whole ih applies served

end Daemon

/-- **The daemon's status follows its backend and its tracker.** Along any run from a daemon
without a session, whenever a session runs: the status lists as hierarchies exactly what the
backend watches; they are the outermost of the directories the tracker's snapshots need watched,
each put under the earlier build's root that strictly contains it; no roots of a build in progress
are left; and the status counts as many tracked paths as the tracker has snapshots. -/
theorem status_follows_backend_and_tracker {d : Daemon σ} (runs : d.Runs watching)
    {s : Session σ} (running : d.session = some s) :
    d.status.hierarchies = watching s.backend ∧
      d.status.hierarchies = Roots.reduce
        ((PathSet.ofList (s.tracker.snapshots.flatMap Snapshot.directories)).map
          (Roots.enclosing d.status.previousRoots)) ∧
      d.status.currentRoots = [] ∧
      d.status.trackedCount = s.tracker.size := by
  have consistent := runs.consistent s running
  have wellFormed := consistent.reachable.wellFormed
  have synced := consistent.coupled.synced.2
  obtain ⟨hierarchies, current, previous, tracked⟩ := Daemon.status_of_session running
  refine ⟨hierarchies.trans consistent.mirrors.symm, ?_, ?_, ?_⟩
  · -- the registry watches its required directories through its earlier roots, which are the
    -- enclosing ones since no earlier root lies below another
    rw [hierarchies, previous, ← Registry.required_eq_of_tracked synced,
      consistent.settled.watched_eq _
        (Registry.forall₂_watchedThrough_substitute wellFormed s.registry.required)]
    congr 1
    refine List.map_congr_left fun dir _ =>
      Registry.substitute_eq_enclosing wellFormed consistent.noCurrent (fun root => ?_) ?_ dir
    · rw [Registry.previousRoots, RootSet.mem_paths]
    · intro top member path member'
      rw [Registry.previousRoots, RootSet.mem_paths] at member member'
      exact consistent.previousOutermost _ member _ member'
  · rw [current, Registry.currentRoots, RootSet.paths, consistent.noCurrent]
    rfl
  · rw [tracked, Registry.trackedCount, synced, List.length_map, Tracker.snapshots, List.length_map]
    rfl

/-- A daemon started on a file system, then told of changes by its watcher after a directory
appeared, holds a session whose status follows its dry-run backend and its tracker. -/
theorem status_after_start_and_rescan :
    let dir : HostNode := ⟨.directory, 0, 493, 0⟩
    let before : HostFs := { nodes := [("/", dir), ("/src", dir)] }
    let after : HostFs := { nodes := [("/", dir), ("/src", dir), ("/src/lib", dir)] }
    let kit : HostFs → Kit DryRun := fun fs =>
      { make := fun _ => .ok {}, watcher := DryRun.watcher, view := fs.view }
    let idle : Daemon DryRun :=
      { configPath := "/etc/hierwatch.yaml", config := { roots := ["/src"], locations := ["/src/lib"] } }
    ∃ d, (idle.serve (kit before) .start).bind (·.serve (kit after) (.changes 1)) = some d ∧
      d.Runs DryRun.watched ∧ ∃ s, d.session = some s ∧
      d.status.hierarchies = DryRun.watched s.backend ∧
      d.status.hierarchies = Roots.reduce
        ((PathSet.ofList (s.tracker.snapshots.flatMap Snapshot.directories)).map
          (Roots.enclosing d.status.previousRoots)) ∧
      d.status.currentRoots = [] ∧
      d.status.trackedCount = s.tracker.size := by
  intro dir before after kit idle
  have applies : ∀ fs, (kit fs).Applies DryRun.watched := fun fs =>
    ⟨DryRun.applies, fun _ _ made => by cases made; rfl, HostFs.view_childrenClean fs⟩
  -- the start is evaluated; the changes after it are told by the lemmas of each request
  have startedWatcher : (idle.serve (kit before) .start).map Daemon.watcher = some (some 1) := by
    decide +kernel
  obtain ⟨first, start, firstWatcher⟩ := Option.map_eq_some_iff.mp startedWatcher
  have firstRuns : first.Runs DryRun.watched :=
    .step _ .start (applies before) (.idle rfl ⟨rfl, rfl, rfl⟩) start
  have watching : first.watcher.isSome := Option.isSome_of_eq_some firstWatcher
  obtain ⟨s, firstRunning⟩ := (Daemon.Reachable.whole firstRuns).session_of_running watching
  obtain ⟨s', handled, -⟩ := Daemon.handleChanges_of_session (kit after) firstWatcher firstRunning
  have runs : (first.put s').Runs DryRun.watched := .step _ (.changes 1) (applies after) firstRuns handled
  have running : (first.put s').session = some s' := Daemon.session_put watching
  refine ⟨first.put s', ?_, runs, s', running, status_follows_backend_and_tracker runs running⟩
  rw [start, Option.bind_some]
  exact handled

end StableWatch
