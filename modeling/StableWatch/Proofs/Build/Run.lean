import StableWatch.Build.Basic
import StableWatch.Proofs.Registry.Contract
import StableWatch.Proofs.Registry.Stability
import StableWatch.Proofs.Registry.Sync
/-!
# Builds against a watcher that does what it is asked

A watcher applies its requests (`Watcher.Applies`) when every request succeeds, a start adds the
requested hierarchies to those it watches and a stop removes them; the dry-run backend is one
(`DryRun.applies`). Such a watcher ends every registry call watching exactly what the registry
records as watched, when it did so before (`Applies.update_mirrors`, `Applies.runAll_mirrors`).

A build is, by definition, the three registry calls of `Registry.Call.build` around one scan of
the tracker, so it keeps what those calls keep: a reachable and settled registry, a
registry running together with its tracker, and a watcher agreeing with the registry
(`Build.run_reachable`, `run_settled`, `run_coupled`, `run_mirrors`). Against a watcher that never
fails, with absolute roots and a tidy tracker scanning a file system that names entries cleanly,
no step of a build fails (`Build.run_errors`).
-/

namespace StableWatch

open StableWatch.Path

/-- A watcher that does what it is asked: every request succeeds, a start adds the requested
hierarchies to those it watches and a stop removes them. `watching` reads the hierarchies a
state of the watcher watches, in increasing order. -/
structure Watcher.Applies {σ : Type} (w : Watcher σ) (watching : σ → List String) : Prop where
  start_ok : ∀ paths s, (w.start paths s).1 = none
  stop_ok : ∀ paths s, (w.stop paths s).1 = none
  start_watching : ∀ paths s, watching (w.start paths s).2 = PathSet.union (watching s) paths
  stop_watching : ∀ paths s, watching (w.stop paths s).2 = PathSet.diff (watching s) paths

namespace Watcher.Applies

variable {σ : Type} {w : Watcher σ} {watching : σ → List String}

theorem neverFails (applies : w.Applies watching) : w.NeverFails :=
  fun paths s => ⟨applies.start_ok paths s, applies.stop_ok paths s⟩

open Registry in
/-- A stop the registry asks for, or skips when it has nothing to stop, removes what it lists. -/
theorem answers_stop (applies : w.Applies watching) {paths : List String} {s : σ}
    {answer : Option WatchFailure × σ} (answered : Answers w.stop paths s answer) :
    answer.1 = none ∧ watching answer.2 = PathSet.diff (watching s) paths := by
  rcases answered with ⟨rfl, rfl⟩ | ⟨-, rfl⟩
  · exact ⟨rfl, (Contract.diff_nil (watching s)).symm⟩
  · exact ⟨applies.stop_ok paths s, applies.stop_watching paths s⟩

open Registry in
/-- A start the registry asks for, or skips when it has nothing to start, adds what it lists. -/
theorem answers_start (applies : w.Applies watching) {paths : List String} {s : σ}
    {answer : Option WatchFailure × σ} (answered : Answers w.start paths s answer) :
    answer.1 = none ∧ watching answer.2 = PathSet.union (watching s) paths := by
  rcases answered with ⟨rfl, rfl⟩ | ⟨-, rfl⟩
  · exact ⟨rfl, rfl⟩
  · exact ⟨applies.start_ok paths s, applies.start_watching paths s⟩

/-- **One update keeps the watcher and the registry agreeing** on what is watched. -/
theorem update_mirrors (applies : w.Applies watching) {reg : Registry} {s : σ}
    (same : watching s = reg.watched) :
    watching (reg.update w s).watcher = (reg.update w s).registry.watched := by
  obtain ⟨⟨stopAnswer, s₁⟩, stopped⟩ := Registry.answers_exists w.stop reg.toStop s
  obtain ⟨stopOk, stopWatching⟩ := applies.answers_stop stopped
  obtain ⟨⟨startAnswer, s'⟩, started⟩ := Registry.answers_exists w.start reg.toStart s₁
  obtain ⟨startOk, startWatching⟩ := applies.answers_start started
  dsimp only at stopOk startOk stopWatching startWatching
  subst stopOk startOk
  rw [Registry.update_of_ok stopped started, startWatching, stopWatching, same]

/-- Every registry call keeps the watcher and the registry agreeing: a refused call changes
neither, and every other call ends in an update. -/
theorem run_mirrors (applies : w.Applies watching) {reg : Registry} {s : σ}
    (same : watching s = reg.watched) (call : Registry.Call) :
    watching (call.run w reg s).watcher = (call.run w reg s).registry.watched := by
  cases call with
  | declareRoots dirs =>
    rcases Registry.declareRoots_cases w dirs reg s with ⟨_, refused⟩ | ⟨clean, -, ran⟩
    · rw [Registry.Call.run, refused]
      exact same
    · rw [Registry.Call.run, ran]
      exact applies.update_mirrors same
  | changed removed added =>
    rcases Registry.changed_cases w removed added reg s with
      ⟨_, refused⟩ | ⟨gone, fresh, -, -, ran⟩
    · rw [Registry.Call.run, refused]
      exact same
    · rw [Registry.Call.run, ran]
      exact applies.update_mirrors same
  | finishBuild =>
    rw [Registry.Call.run, Registry.finishBuild_eq]
    exact applies.update_mirrors same

/-- Along any sequence of registry calls the watcher watches what the registry records. -/
theorem runAll_mirrors (applies : w.Applies watching) (calls : List Registry.Call) :
    ∀ {reg : Registry} {s : σ}, watching s = reg.watched →
      watching (Registry.Call.runAll w calls reg s).2 =
        (Registry.Call.runAll w calls reg s).1.watched := by
  induction calls with
  | nil => exact fun same => same
  | cons call rest ih => exact fun same => ih (applies.run_mirrors same call)

end Watcher.Applies

/-- The dry-run backend applies every request to the hierarchies it records. -/
theorem DryRun.applies : DryRun.watcher.Applies DryRun.watched where
  start_ok _ _ := rfl
  stop_ok _ _ := rfl
  start_watching _ _ := rfl
  stop_watching paths d := by
    change PathSet.diff d.watched (PathSet.ofList paths) = PathSet.diff d.watched paths
    unfold PathSet.diff
    congr 1
    funext path
    simp [PathSet.mem_ofList]

namespace Registry

variable {σ : Type}

theorem changed_previous (w : Watcher σ) (removed added : List Snapshot) (reg : Registry)
    (svc : σ) : (reg.changed w removed added svc).registry.previous = reg.previous := by
  rcases changed_cases w removed added reg svc with ⟨_, refused⟩ | ⟨_, _, -, -, ran⟩
  · rw [refused]
  · rw [ran, update_previous]
    rfl

theorem finishBuild_current (w : Watcher σ) (reg : Registry) (svc : σ) :
    (reg.finishBuild w svc).registry.current = RootSet.empty := by
  rw [finishBuild_eq]
  exact update_current w reg.retired svc

end Registry

/-- Absolute roots pass the registry's check, cleaned. -/
theorem Registry.mapM_checkPath_of_isAbs {roots : List String}
    (absolute : ∀ root ∈ roots, isAbs root = true) :
    roots.mapM Registry.checkPath = .ok (roots.map Path.clean) :=
  mapM_eq_ok_of_forall fun root member =>
    Registry.checkPath_eq_ok.mpr ⟨absolute root member, rfl⟩

namespace Build

variable {σ : Type}

/-- **No step of a build fails** against a watcher that never fails, when the roots are absolute
and a tidy tracker scans a file system that names entries cleanly. -/
theorem run_errors {w : Watcher σ} (never : w.NeverFails) (view : FsView)
    (childrenClean : view.ChildrenClean) {roots : List String}
    (absolute : ∀ root ∈ roots, isAbs root = true) (reg : Registry) {t : Tracker} (tidy : t.Tidy)
    (svc : σ) : (run w view roots reg t svc).1.errors = [] := by
  obtain ⟨declared, declaredEq⟩ : ∃ declared, declared = reg.declareRoots w roots svc := ⟨_, rfl⟩
  obtain ⟨recorded, recordedEq⟩ : ∃ recorded, recorded = declared.registry.changed w
      (t.scan view).1.removed (t.scan view).1.added declared.watcher := ⟨_, rfl⟩
  have declaredOk : declared.error = none := by
    rw [declaredEq,
      Registry.declareRoots_of_checked w reg svc (Registry.mapM_checkPath_of_isAbs absolute)]
    exact Registry.update_error_of_neverFails never _ svc
  have recordedOk : recorded.error = none := by
    rw [recordedEq, Registry.changed_scan tidy childrenClean]
    exact Registry.update_error_of_neverFails never _ _
  have finishedOk : (recorded.registry.finishBuild w recorded.watcher).error = none := by
    rw [Registry.finishBuild_eq]
    exact Registry.update_error_of_neverFails never _ _
  simp only [run, ← declaredEq, ← recordedEq, declaredOk, recordedOk, finishedOk]
  rfl

/-! ### What a build keeps

Each fact the registry keeps along any registry calls, a build keeps: it is those calls. -/

section Kept

variable {w : Watcher σ} {view : FsView} {roots : List String} {reg : Registry} {t : Tracker}
  {svc : σ}

theorem run_reachable (reachable : reg.Reachable) : (run w view roots reg t svc).2.1.Reachable :=
  reachable.runAll w (Registry.Call.build roots (t.scan view).1.removed (t.scan view).1.added) svc

theorem run_settled (never : w.NeverFails) (reachable : reg.Reachable) (settled : reg.Settled) :
    (run w view roots reg t svc).2.1.Settled :=
  Registry.Settled.runAll never
    (Registry.Call.build roots (t.scan view).1.removed (t.scan view).1.added) svc reachable settled

/-- A watcher that applies its requests watches, after a build, what the registry records. -/
theorem run_mirrors {watching : σ → List String} (applies : w.Applies watching)
    (same : watching svc = reg.watched) :
    watching (run w view roots reg t svc).2.2.2 = (run w view roots reg t svc).2.1.watched :=
  applies.runAll_mirrors
    (Registry.Call.build roots (t.scan view).1.removed (t.scan view).1.added) same

/-- A build keeps a tracker and a registry running together. -/
theorem run_coupled (coupled : Coupled t reg) (childrenClean : view.ChildrenClean) :
    Coupled (run w view roots reg t svc).2.2.1 (run w view roots reg t svc).2.1 :=
  .finishBuild _ _ (.scan view _ _ childrenClean (.declareRoots _ _ roots coupled))

/-- A build requires what the snapshots of its scan need watched. -/
theorem run_required (coupled : Coupled t reg) (childrenClean : view.ChildrenClean) :
    (run w view roots reg t svc).1.required =
      PathSet.ofList ((t.scan view).2.snapshots.flatMap Snapshot.directories) :=
  Registry.required_eq_of_tracked
    (Coupled.scan view w _ childrenClean (.declareRoots w svc roots coupled)).synced.2

end Kept

end Build

end StableWatch
