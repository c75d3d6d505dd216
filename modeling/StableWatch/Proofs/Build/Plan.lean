import StableWatch.Build.Plan
import StableWatch.Proofs.Build.Run
/-!
# What a plan reports

A plan is one build from the empty registry against the dry-run backend. Where a build from
nothing watches a required directory is said without the registry by `Roots.enclosing`: under the
declared root strictly containing it, else at the directory itself. The registry finds the same
root (`Registry.substitute_eq_enclosing`), since the declared roots are reduced and no two of them
contain one another; so a build from the empty registry ends watching its required directories
there (`Registry.finish_watched_of_empty`).

* `Build.run_from_empty`: a build from nothing, against a watcher that applies its requests, fails
  nowhere, declares the outermost roots, requires what one scan's snapshots need, and ends with
  the watcher and the registry watching the outermost of the enclosed required directories, every
  required directory covered; the roots kept for the next build are the watched declared ones.
* `BuildReport.uncovered_eq_nil_iff`: a report shows no unwatched directory exactly when a
  hierarchy covers each required one.
* `plan_reports_fresh_build`: the plan's report, on any host file system.
-/

namespace StableWatch

open StableWatch.Path

namespace Roots

/-- Where a build that declared `roots` watches a directory: under the root strictly containing
it, else at the directory itself. -/
def enclosing (roots : List String) (dir : String) : String :=
  (roots.find? fun root => isAncestor root dir).getD dir

theorem enclosing_of_forall {roots : List String} {dir : String}
    (outside : ∀ root ∈ roots, isAncestor root dir = false) : enclosing roots dir = dir := by
  have missing : roots.find? (fun root => isAncestor root dir) = none :=
    List.find?_eq_none.mpr fun root member => by simp [outside root member]
  rw [enclosing, missing, Option.getD_none]

/-- Among clean roots none of which lies below another, the root covering a directory is the one
enclosing it. -/
theorem enclosing_of_covers {roots : List String} {dir root : String}
    (clean : ∀ path ∈ roots, IsCleanAbs path)
    (outermost : ∀ top ∈ roots, ∀ path ∈ roots, isAncestor top path = false)
    (member : root ∈ roots) (covers : Covers root dir) : enclosing roots dir = root := by
  cases found : roots.find? (fun root => isAncestor root dir) with
  | none =>
    have notBelow : isAncestor root dir = false := by
      simpa using List.find?_eq_none.mp found root member
    rw [enclosing, found, Option.getD_none]
    exact (covers.eq_of_isAncestor_eq_false notBelow).symm
  | some other =>
    have otherMember := List.mem_of_find?_eq_some found
    have matched := List.find?_some found
    have below : isAncestor other dir = true := matched
    rw [enclosing, found, Option.getD_some]
    -- both roots cover the directory and neither lies below the other
    exact Covers.eq_of_apart (clean other otherMember) (clean root member)
      (Covers.of_isAncestor below) covers (outermost other otherMember root member)
      (outermost root member other otherMember)

/-- Reduction cleans its paths, so cleaning absolute paths first changes nothing. -/
theorem reduce_map_clean {paths : List String} (absolute : ∀ path ∈ paths, isAbs path = true) :
    reduce (paths.map Path.clean) = reduce paths := by
  have twice : (paths.map Path.clean).map Path.clean = paths.map Path.clean :=
    map_clean_eq_self fun path member => by
      obtain ⟨original, originalMember, rfl⟩ := List.mem_map.mp member
      exact isCleanAbs_clean (absolute original originalMember)
  simp only [reduce, twice]

end Roots

/-- A generation's paths are the paths of its roots. -/
theorem RootSet.mem_paths {set : RootSet} {path : String} :
    path ∈ set.paths ↔ ⟨path⟩ ∈ set.roots := by
  rw [RootSet.paths, PathSet.mem_ofList, List.mem_map]
  constructor
  · rintro ⟨⟨path⟩, member, rfl⟩
    exact member
  · intro member
    exact ⟨⟨path⟩, member, rfl⟩

/-- The paths of a declared generation are the outermost of the declared paths. -/
theorem RootSet.paths_declare {paths : List String} (clean : ∀ path ∈ paths, IsCleanAbs path) :
    (RootSet.declare paths).paths = Roots.reduce paths :=
  PathSet.eq_of_mem_iff (PathSet.pairwise_ofList _) (Roots.pairwise_reduce paths) fun path => by
    rw [RootSet.mem_paths, (RootSet.WellFormed.declare clean).2 ⟨path⟩]

/-- **The registry's substitute is the enclosing root.** With no roots of a build in progress and
earlier roots that are outermost, the registry watches a directory under the earlier root enclosing
it. -/
theorem Registry.substitute_eq_enclosing {reg : Registry} (wellFormed : reg.WellFormed)
    (noCurrent : reg.current.roots = []) {declared : List String}
    (previous : ∀ root, root ∈ reg.previous.roots ↔ root.path ∈ declared)
    (outermost : ∀ top ∈ declared, ∀ path ∈ declared, isAncestor top path = false)
    (dir : String) : reg.substitute dir = Roots.enclosing declared dir := by
  have clean : ∀ path ∈ declared, IsCleanAbs path := fun path member =>
    wellFormed.previous.clean ⟨path⟩ ((previous ⟨path⟩).mpr member)
  have notCurrent := Registry.find?_current_eq_none noCurrent dir
  cases found : reg.previous.find? dir with
  | none =>
    rw [Registry.substitute_of_none notCurrent found]
    refine (Roots.enclosing_of_forall fun root member => ?_).symm
    -- a declared root strictly above the directory would contain it, and be found
    by_contra below
    rw [Bool.not_eq_false] at below
    have contains : (⟨root⟩ : Root).contains dir = true :=
      Root.contains_iff.mpr (isAncestor_iff.mp below).2
    exact RootSet.find?_ne_none ((previous ⟨root⟩).mpr member) contains found
  | some root =>
    obtain ⟨member, contains⟩ := RootSet.find?_spec found
    rw [Registry.substitute_of_previous notCurrent found]
    exact (Roots.enclosing_of_covers clean outermost ((previous root).mp member)
      (Root.covers_of_contains contains)).symm

/-- A report shows no unwatched directory exactly when every required directory is a hierarchy
or lies inside one. -/
theorem BuildReport.uncovered_eq_nil_iff {b : BuildReport} :
    b.uncovered = [] ↔ ∀ dir ∈ b.required, ∃ top ∈ b.hierarchies, Covers top dir := by
  simp only [BuildReport.uncovered, List.filter_eq_nil_iff, Bool.not_eq_true', List.any_eq_false,
    Bool.or_eq_true, decide_eq_true_eq, not_forall, not_not, exists_prop, Covers]
  exact forall₂_congr fun dir _ => exists_congr fun top => and_congr_right fun _ =>
    or_congr_left eq_comm

/-- The roots a build from the empty registry retires at its end are exactly the outermost of its
checked roots. -/
theorem Registry.retired_previous_of_empty {σ : Type} (w : Watcher σ) {roots clean : List String}
    (checked : roots.mapM checkPath = .ok clean) (svc : σ) (removed added : List Snapshot)
    (root : Root) :
    root ∈ ((Registry.empty.declareRoots w roots svc).registry.changed w removed added
        (Registry.empty.declareRoots w roots svc).watcher).registry.retired.previous.roots ↔
      root.path ∈ Roots.reduce clean := by
  obtain ⟨recorded, recordedEq⟩ : ∃ recorded, recorded =
      (Registry.empty.declareRoots w roots svc).registry.changed w removed added
        (Registry.empty.declareRoots w roots svc).watcher := ⟨_, rfl⟩
  rw [← recordedEq]
  have wellFormed : recorded.registry.WellFormed := by
    rw [recordedEq]
    exact (wellFormed_empty.declareRoots w roots svc).changed w _ _ _
  have current : recorded.registry.current = RootSet.declare clean := by
    rw [recordedEq, changed_current, declareRoots_of_checked w _ svc checked, update_current]
    rfl
  have noPrevious : recorded.registry.previous.roots = [] := by
    rw [recordedEq, changed_previous, declareRoots_of_checked w _ svc checked, update_previous]
    rfl
  rw [← (RootSet.WellFormed.declare (clean_of_checked checked)).2 root, ← current]
  show root ∈ (recorded.registry.previous.addAll recorded.registry.current).roots ↔ _
  rw [(wellFormed.previous.addAll wellFormed.current).2 root, noPrevious]
  simp

/-- A build from the empty registry ends watching the outermost of its required directories, each
put under the checked root enclosing it. -/
theorem Registry.finish_watched_of_empty {σ : Type} {w : Watcher σ} (never : w.NeverFails)
    {roots clean : List String} (checked : roots.mapM checkPath = .ok clean) (svc : σ)
    (removed added : List Snapshot) :
    let recorded := (Registry.empty.declareRoots w roots svc).registry.changed w removed added
      (Registry.empty.declareRoots w roots svc).watcher
    (recorded.registry.retired.update w recorded.watcher).registry.watched =
      Roots.reduce (recorded.registry.required.map (Roots.enclosing (Roots.reduce clean))) := by
  intro recorded
  have wellFormed : recorded.registry.retired.WellFormed :=
    ((wellFormed_empty.declareRoots w roots svc).changed w _ _ _).retired
  -- the retired roots are the reduced checked ones, none of which lies below another
  have substituted : ∀ dir, recorded.registry.retired.substitute dir =
      Roots.enclosing (Roots.reduce clean) dir :=
    substitute_eq_enclosing wellFormed rfl (retired_previous_of_empty w checked svc removed added)
      fun top member path member' =>
        Roots.reduce_antichain (clean_of_checked checked) member member'
  rw [update_watched_of_ok w _ wellFormed.watched_increasing (update_error_of_neverFails never _ _),
    desired, Roots.reduce_ofList, List.map_congr_left fun dir _ => substituted dir]
  rfl

namespace Build

variable {σ : Type}

/-- **A build from nothing.** Against a watcher that applies its requests and watches nothing yet,
with absolute roots and a tracker just created, scanning a file system that names entries cleanly:
nothing fails; the build's roots are the outermost configured ones; it requires what the scanned
snapshots need; the watcher watches what the registry does, the outermost of the required
directories each put under the declared root enclosing it, so that every required directory is
covered; and the roots kept for the next build are the declared roots that are watched. -/
theorem run_from_empty {w : Watcher σ} {watching : σ → List String} (applies : w.Applies watching)
    {svc : σ} (idle : watching svc = []) {view : FsView} (childrenClean : view.ChildrenClean)
    {roots locations : List String} (absolute : ∀ root ∈ roots, isAbs root = true) {t : Tracker}
    (created : Tracker.create locations = .ok t) :
    let out := run w view roots Registry.empty t svc
    out.1.errors = [] ∧ out.1.roots = Roots.reduce roots ∧
      out.1.required = PathSet.ofList ((t.scan view).2.snapshots.flatMap Snapshot.directories) ∧
      watching out.2.2.2 = out.2.1.watched ∧
      out.2.1.watched = Roots.reduce (out.1.required.map (Roots.enclosing out.1.roots)) ∧
      out.2.1.previousRoots = out.1.roots.filter out.2.1.watched.contains ∧
      ∀ dir ∈ out.1.required, ∃ top ∈ out.2.1.watched, Covers top dir := by
  intro out
  have never := applies.neverFails
  have checked := Registry.mapM_checkPath_of_isAbs absolute
  have cleanRoots := Registry.clean_of_checked checked
  have reduced := Roots.reduce_map_clean absolute
  -- the first and second calls of the build, and the update that ends it
  obtain ⟨declared, declaredEq⟩ : ∃ declared, declared = Registry.empty.declareRoots w roots svc :=
    ⟨_, rfl⟩
  obtain ⟨recorded, recordedEq⟩ : ∃ recorded, recorded = declared.registry.changed w
      (t.scan view).1.removed (t.scan view).1.added declared.watcher := ⟨_, rfl⟩
  obtain ⟨ended, endedEq⟩ : ∃ ended, ended = recorded.registry.retired.update w recorded.watcher :=
    ⟨_, rfl⟩
  have outRoots : out.1.roots = declared.registry.currentRoots := by rw [declaredEq]; rfl
  have outRequired : out.1.required = recorded.registry.required := by
    rw [recordedEq, declaredEq]; rfl
  have outRegistry : out.2.1 = ended.registry.pruned := by rw [endedEq, recordedEq, declaredEq]; rfl
  have rootsEq : declared.registry.currentRoots = Roots.reduce roots := by
    rw [declaredEq, Registry.declareRoots_of_checked w Registry.empty svc checked,
      Registry.currentRoots, Registry.update_current]
    exact (RootSet.paths_declare cleanRoots).trans reduced
  have retiredPrevious : ∀ root, root ∈ recorded.registry.retired.previous.roots ↔
      root.path ∈ Roots.reduce roots := by
    intro root
    rw [recordedEq, declaredEq, Registry.retired_previous_of_empty w checked, reduced]
  -- the build's end watches each required directory under the declared root enclosing it
  have watchedEq : ended.registry.watched =
      Roots.reduce (recorded.registry.required.map (Roots.enclosing (Roots.reduce roots))) := by
    rw [endedEq, recordedEq, declaredEq, ← reduced]
    exact Registry.finish_watched_of_empty never checked svc _ _
  have coupled : Coupled out.2.2.1 out.2.1 := run_coupled (Coupled.start created) childrenClean
  have required : out.1.required =
      PathSet.ofList ((t.scan view).2.snapshots.flatMap Snapshot.directories) :=
    run_required (Coupled.start created) childrenClean
  refine ⟨run_errors never view childrenClean absolute Registry.empty (Tracker.Tidy.create created)
    svc, outRoots.trans rootsEq, required, run_mirrors applies idle, ?_, ?_, ?_⟩
  · rw [outRegistry, outRequired, outRoots, rootsEq]
    exact watchedEq
  · rw [outRoots, rootsEq]
    apply PathSet.eq_of_mem_iff (PathSet.pairwise_ofList _) ((Roots.pairwise_reduce roots).filter _)
    intro path
    have retired : ended.registry.previous = recorded.registry.retired.previous := by
      rw [endedEq, Registry.update_previous]
    show path ∈ out.2.1.previousRoots ↔ _
    rw [outRegistry, Registry.previousRoots, RootSet.mem_paths, Registry.mem_pruned_previous,
      retired, retiredPrevious, List.mem_filter, List.contains_iff_mem]
    rfl
  · -- the registry the build leaves is settled, and requires what the build required
    have sameRequired : out.2.1.required =
        PathSet.ofList ((t.scan view).2.snapshots.flatMap Snapshot.directories) :=
      Registry.required_eq_of_tracked coupled.synced.2
    rw [required, ← sameRequired]
    exact (run_settled never Registry.Reachable.empty Registry.settled_empty).covered

/-- With locations the tracker accepts, a plan reports the build it runs from nothing against the
dry-run backend. -/
theorem plan_eq_ok {view : FsView} {roots locations : List String} {t : Tracker}
    (created : Tracker.create locations = .ok t) :
    plan view roots locations =
      .ok { roots := (run DryRun.watcher view roots Registry.empty t {}).1.roots,
            previousRoots := (run DryRun.watcher view roots Registry.empty t {}).2.1.previousRoots,
            hierarchies := (run DryRun.watcher view roots Registry.empty t {}).2.2.2.watched,
            required := (run DryRun.watcher view roots Registry.empty t {}).1.required,
            error := (run DryRun.watcher view roots Registry.empty t {}).1.errorText } := by
  rw [plan, created]
  rfl

end Build

/-- **What a plan reports.** On any host file system, for absolute roots and locations the tracker
accepts, a plan succeeds with no error. It reports as roots the outermost configured ones; as
required directories those the snapshots of one scan need watched; as hierarchies the outermost of
the required directories, each put under the declared root strictly containing it; as roots kept
for a next build the declared roots that are watched; and no required directory unwatched. -/
theorem plan_reports_fresh_build (fs : HostFs) {roots locations : List String}
    (absolute : ∀ root ∈ roots, isAbs root = true) {t : Tracker}
    (accepted : Tracker.create locations = .ok t) :
    ∃ report, Build.plan fs.view roots locations = .ok report ∧ report.error = "" ∧
      report.roots = Roots.reduce roots ∧
      report.required = PathSet.ofList ((t.scan fs.view).2.snapshots.flatMap Snapshot.directories) ∧
      report.hierarchies = Roots.reduce (report.required.map (Roots.enclosing report.roots)) ∧
      report.previousRoots = report.roots.filter report.hierarchies.contains ∧
      report.uncovered = [] := by
  obtain ⟨errors, rootsEq, requiredEq, mirrors, watchedEq, previousEq, covered⟩ :=
    Build.run_from_empty DryRun.applies (show DryRun.watched {} = [] from rfl)
      (HostFs.view_childrenClean fs) absolute accepted
  refine ⟨_, Build.plan_eq_ok accepted, ?_, rootsEq, requiredEq, ?_, ?_, ?_⟩
  · simp only [Build.Result.errorText, errors, List.map_nil]
    rfl
  · exact mirrors.trans watchedEq
  · rw [mirrors]
    exact previousEq
  · rw [BuildReport.uncovered_eq_nil_iff, mirrors]
    exact covered

/-- A plan of two nested roots, for a file two levels below the outer one: the inner root is
dropped, and the outer one is watched and kept. -/
theorem plan_of_nested_roots :
    let fs : HostFs := { nodes := [("/", ⟨.directory, 0, 493, 0⟩),
      ("/src", ⟨.directory, 0, 493, 0⟩), ("/src/app", ⟨.directory, 0, 493, 0⟩),
      ("/src/app/main.go", ⟨.file [], 0, 420, 0⟩)] }
    let t : Tracker := { locations := ["/src/app/main.go"] }
    (∀ root ∈ ["/src/app", "/src"], isAbs root = true) ∧
      Tracker.create ["/src/app/main.go"] = .ok t ∧
      ∃ report, Build.plan fs.view ["/src/app", "/src"] ["/src/app/main.go"] = .ok report ∧
        report.error = "" ∧ report.roots = Roots.reduce ["/src/app", "/src"] ∧
        report.required =
          PathSet.ofList ((t.scan fs.view).2.snapshots.flatMap Snapshot.directories) ∧
        report.hierarchies = Roots.reduce (report.required.map (Roots.enclosing report.roots)) ∧
        report.previousRoots = report.roots.filter report.hierarchies.contains ∧
        report.uncovered = [] := by
  intro fs t
  have absolute : ∀ root ∈ ["/src/app", "/src"], isAbs root = true := by decide
  have accepted : Tracker.create ["/src/app/main.go"] = .ok t := rfl
  exact ⟨absolute, accepted, plan_reports_fresh_build fs absolute accepted⟩

end StableWatch
