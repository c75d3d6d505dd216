import StableWatch.Config.Decode
import StableWatch.Proofs.Build.Run
/-!
# The registry is never given an invalid path

The registry refuses an empty or relative path with `RegistryError.invalidPath`, and a refused
report of a scan leaves the registry behind the tracker, which has taken the scan already. No
such refusal happens to a daemon whose roots were decoded as a path list:

* decoding a path list expands, checks and cleans every path (`Decoding.pathList_clean`), so the
  roots a build declares pass the check (`Registry.declareRoots_error_ne_invalidPath`);
* a tracker whose locations were checked, scanning a file system that names entries by clean
  absolute paths, reports and keeps only clean snapshots (`Tracker.Tidy.scan_clean`), which pass
  the check as they are (`Registry.changed_scan`);
* bringing the watcher in line fails only as the watcher does
  (`Registry.update_error_ne_invalidPath`).

So against any watcher no report of changes and no step of a build is refused for a path
(`Build.run_no_invalidPath`), and the registry tracks exactly the paths of the tracker's
snapshots (`registry_never_given_invalid_path`).
-/

namespace StableWatch

open StableWatch.Path

/-! ### Decoded path lists -/

namespace Decoding

/-- Expanding a path list checks its first path, then the rest. -/
theorem expandPaths_cons (env : Environment) (first : List Nat) (rest : List (List Nat)) :
    expandPaths env (first :: rest) =
      (if isAbs (Places.expandTilde env (textOf first)) then
        pure (clean (Places.expandTilde env (textOf first)))
      else throw (.relativePath (Places.expandTilde env (textOf first))) : DecodeM String) >>=
        fun path => (path :: ·) <$> expandPaths env rest := by
  unfold expandPaths
  rw [List.mapM_cons]
  simp only [map_eq_pure_bind]

/-- Expanded paths are clean and absolute. -/
theorem expandPaths_clean {env : Environment} :
    ∀ {paths : List (List Nat)} {st st' : Decoding} {out : List String},
      (expandPaths env paths).run st = .ok (out, st') → ∀ path ∈ out, IsCleanAbs path
  | [], _, _, _, decoded => by
    cases decoded
    intro path member
    cases member
  | first :: rest, st, st', out, decoded => by
    rw [expandPaths_cons] at decoded
    by_cases absolute : isAbs (Places.expandTilde env (textOf first)) = true
    · simp only [absolute, if_true, pure_bind, StateT.run_map] at decoded
      cases more : (expandPaths env rest).run st with
      | error e =>
        simp only [more] at decoded
        cases decoded
      | ok result =>
        obtain ⟨found, _⟩ := result
        simp only [more, Except.map_ok, Except.ok.injEq, Prod.mk.injEq] at decoded
        obtain ⟨rfl, -⟩ := decoded
        intro path member
        rcases List.mem_cons.mp member with rfl | later
        · exact isCleanAbs_clean absolute
        · exact expandPaths_clean more path later
    · -- a relative path is refused
      simp only [absolute, Bool.false_eq_true, if_false] at decoded
      cases decoded

/-- What a decoding wrapped in `some` gives is what the decoding gives. -/
theorem run_eq_ok_of_map_some {α : Type} {x : DecodeM α} {st st' : Decoding} {a : α}
    (decoded : (some <$> x).run st = .ok (some a, st')) : x.run st = .ok (a, st') := by
  rw [StateT.run_map] at decoded
  cases ran : x.run st with
  | error e =>
    rw [ran] at decoded
    cases decoded
  | ok result =>
    rw [ran] at decoded
    obtain ⟨found, _⟩ := result
    simp only [Except.map_ok, Except.ok.injEq, Prod.mk.injEq, Option.some.injEq] at decoded
    rw [decoded.1, decoded.2]

theorem pathsAsList_clean {env : Environment} {d : Yaml.Document} {fuel i : Nat}
    {st st' : Decoding} {paths : List String}
    (decoded : (pathsAsList env d fuel i).run st = .ok (some paths, st')) :
    ∀ path ∈ paths, IsCleanAbs path := by
  unfold pathsAsList at decoded
  split at decoded
  · cases decoded
  · split at decoded
    · exact expandPaths_clean (run_eq_ok_of_map_some decoded)
    · -- a list with type errors decodes to nothing
      simp only [StateT.run_bind, StateT.run_modify, StateT.run_pure, pure_bind] at decoded
      cases decoded

/-- **A decoded path list is clean and absolute**: one text or a list of texts, each
tilde-expanded, checked to be absolute and cleaned. -/
theorem pathList_clean {env : Environment} {d : Yaml.Document} {fuel i : Nat} {st st' : Decoding}
    {paths : List String} (decoded : (pathList env d fuel i).run st = .ok (some paths, st')) :
    ∀ path ∈ paths, IsCleanAbs path := by
  unfold pathList at decoded
  split at decoded
  · split at decoded
    · exact expandPaths_clean (run_eq_ok_of_map_some decoded)
    · exact pathsAsList_clean decoded
  · cases decoded
  · exact pathsAsList_clean decoded

end Decoding

/-! ### Refusals for a path -/

namespace Registry

variable {σ : Type}

/-- **Bringing the watcher in line fails only as the watcher does**, never for a path. -/
theorem update_error_ne_invalidPath (w : Watcher σ) (reg : Registry) (svc : σ) (path : String) :
    (update w reg svc).error ≠ some (.invalidPath path) := by
  rcases update_trichotomy w reg svc with ⟨_, _, stopped⟩ | ⟨_, _, _, stopped, started⟩ |
      ⟨_, _, stopped, started⟩
  · rw [update_of_stop_failed stopped]
    simp
  · rw [update_of_start_failed stopped started]
    simp
  · rw [update_of_ok stopped started]
    simp

theorem finishBuild_error_ne_invalidPath (w : Watcher σ) (reg : Registry) (svc : σ)
    (path : String) : (reg.finishBuild w svc).error ≠ some (.invalidPath path) := by
  rw [finishBuild_eq]
  exact update_error_ne_invalidPath w _ svc path

/-- Absolute roots are declared without a refusal for a path. -/
theorem declareRoots_error_ne_invalidPath (w : Watcher σ) (reg : Registry) (svc : σ)
    {roots : List String} (absolute : ∀ root ∈ roots, isAbs root = true) (path : String) :
    (reg.declareRoots w roots svc).error ≠ some (.invalidPath path) := by
  rw [declareRoots_of_checked w reg svc (mapM_checkPath_of_isAbs absolute)]
  exact update_error_ne_invalidPath w _ svc path

/-- The report of a scan by a tidy tracker, of a file system that names entries cleanly, is not
refused for a path. -/
theorem changed_scan_error_ne_invalidPath {t : Tracker} (tidy : t.Tidy) {view : FsView}
    (childrenClean : view.ChildrenClean) (w : Watcher σ) (reg : Registry) (svc : σ)
    (path : String) :
    (reg.changed w (t.scan view).1.removed (t.scan view).1.added svc).error ≠
      some (.invalidPath path) := by
  rw [changed_scan tidy childrenClean]
  exact update_error_ne_invalidPath w _ svc path

/-- The registry tracks the paths of the snapshots it was told of. -/
theorem tracked_paths {reg : Registry} {snapshots : List Snapshot}
    (synced : reg.tracked = snapshots.map Snapshot.requirement) :
    reg.tracked.map Prod.fst = snapshots.map Snapshot.path := by
  rw [synced, List.map_map]
  rfl

end Registry

namespace Build

variable {σ : Type}

/-- A build keeps only errors its steps gave. -/
theorem mem_of_mem_distinct {e : RegistryError} :
    ∀ {errors : List RegistryError}, e ∈ distinct errors → e ∈ errors := by
  intro errors
  -- the fold only ever appends the error it reads
  induction errors using List.reverseRecOn with
  | nil =>
    intro member
    cases member
  | append_singleton rest last ih =>
    intro member
    unfold distinct at member ih
    rw [List.foldl_append, List.foldl_cons, List.foldl_nil] at member
    split at member
    next seen kept folded =>
      rw [folded] at ih
      rw [List.mem_append]
      split at member
      · exact Or.inl (ih member)
      · rcases List.mem_append.mp member with old | new
        · exact Or.inl (ih old)
        · exact Or.inr new

/-- **No step of a build is refused for a path**, against any watcher, when the roots are
absolute and a tidy tracker scans a file system that names entries cleanly. -/
theorem run_no_invalidPath (w : Watcher σ) {view : FsView} (childrenClean : view.ChildrenClean)
    {roots : List String} (absolute : ∀ root ∈ roots, isAbs root = true) (reg : Registry)
    {t : Tracker} (tidy : t.Tidy) (svc : σ) (path : String) :
    .invalidPath path ∉ (run w view roots reg t svc).1.errors := by
  intro member
  obtain ⟨error, listed, named⟩ := List.mem_filterMap.mp (mem_of_mem_distinct member)
  simp only [List.mem_cons, List.not_mem_nil, or_false, id] at listed named
  subst named
  rcases listed with declared | recorded | finished
  · exact Registry.declareRoots_error_ne_invalidPath w reg svc absolute path declared.symm
  · exact Registry.changed_scan_error_ne_invalidPath tidy childrenClean w _ _ path recorded.symm
  · exact Registry.finishBuild_error_ne_invalidPath w _ _ path finished.symm

end Build

/-- **The registry is never given an invalid path.** A decoded path list is clean and absolute.
However a tracker and a registry started together are run, against any watchers and on file
systems that name entries by clean absolute paths, the registry tracks exactly the paths of the
tracker's snapshots; every snapshot a scan reports or keeps has a clean absolute path and, when it
records a link target, a clean absolute one; reporting the scan is never refused for a path, and
neither is any step of a build whose roots are absolute, as decoded roots are. -/
theorem registry_never_given_invalid_path :
    (∀ (env : Environment) (d : Yaml.Document) (fuel i : Nat) (st st' : Decoding)
      (paths : List String), (Decoding.pathList env d fuel i).run st = .ok (some paths, st') →
        ∀ path ∈ paths, IsCleanAbs path) ∧
      ∀ (t : Tracker) (reg : Registry), Coupled t reg →
        reg.tracked.map Prod.fst = t.snapshots.map Snapshot.path ∧
        ∀ view : FsView, view.ChildrenClean →
          (∀ s ∈ (t.scan view).1.removed ++ (t.scan view).1.added ++ (t.scan view).2.snapshots,
            s.Clean) ∧
          (∀ (σ : Type) (w : Watcher σ) (svc : σ) (path : String),
            (reg.changed w (t.scan view).1.removed (t.scan view).1.added svc).error ≠
              some (.invalidPath path)) ∧
          ∀ (σ : Type) (w : Watcher σ) (roots : List String) (svc : σ),
            (∀ root ∈ roots, isAbs root = true) →
              ∀ path, .invalidPath path ∉ (Build.run w view roots reg t svc).1.errors := by
  refine ⟨fun _ _ _ _ _ _ _ decoded => Decoding.pathList_clean decoded,
    fun t reg coupled => ?_⟩
  obtain ⟨tidy, synced⟩ := coupled.synced
  refine ⟨Registry.tracked_paths synced, fun view childrenClean => ?_⟩
  obtain ⟨removedClean, addedClean, keptClean⟩ := tidy.scan_clean childrenClean
  refine ⟨fun s member => ?_, fun _ w svc path =>
      Registry.changed_scan_error_ne_invalidPath tidy childrenClean w reg svc path,
    fun _ w _ svc absolute path =>
      Build.run_no_invalidPath w childrenClean absolute reg tidy svc path⟩
  rcases List.mem_append.mp member with reported | kept
  · rcases List.mem_append.mp reported with removed | added
    · exact removedClean s removed
    · exact addedClean s added
  · exact keptClean s kept

end StableWatch
