import StableWatch.Proofs.Build.Run
/-!
# A registry call checks its paths before it changes anything

Every path handed to the registry must be absolute. A report of a rescan (`Registry.changed`)
checks the paths of the dropped snapshots, then the path of each recorded snapshot and its link
target when it records one; a declaration of roots (`Registry.declareRoots`) checks every root.
All checks come before any change:

* a call given an empty or relative path anywhere is refused with `RegistryError.invalidPath`,
  naming such a path, which normalizing refuses as not absolute; the registry and the watcher's
  state are the ones given, whatever the watcher (`Registry.changed_of_relative`,
  `Registry.declareRoots_of_relative`);
* a call whose paths are all absolute applies its change to the cleaned paths
  (`Snapshot.normalized`) and updates (`Registry.changed_of_absolute`), and an update fails only
  with what the watcher answered (`Registry.update_error_fromWatcher`).
-/

namespace StableWatch

open StableWatch.Path

/-- Every input of a `mapM` in `Except` that succeeds succeeds. -/
theorem exists_ok_of_mapM_eq_ok {α β ε : Type} {f : α → Except ε β} :
    ∀ {inputs : List α} {outputs : List β}, inputs.mapM f = .ok outputs →
      ∀ input ∈ inputs, ∃ output, f input = .ok output
  | [], _, _ => by simp
  | input :: rest, outputs, succeeded => by
    rw [List.mapM_cons] at succeeded
    cases first : f input with
    | error e =>
      rw [first] at succeeded
      cases succeeded
    | ok result =>
      cases others : rest.mapM f with
      | error e =>
        rw [first, others] at succeeded
        cases succeeded
      | ok more =>
        intro other member
        rcases List.mem_cons.mp member with rfl | later
        · exact ⟨result, first⟩
        · exact exists_ok_of_mapM_eq_ok others other later

/-- A `mapM` in `Except` over inputs one of which fails fails, with the error of some input. -/
theorem exists_of_mapM_of_failing {α β ε : Type} {f : α → Except ε β} {inputs : List α}
    (failing : ∃ input ∈ inputs, ∀ output, f input ≠ .ok output) :
    ∃ e, inputs.mapM f = .error e ∧ ∃ input ∈ inputs, f input = .error e := by
  cases run : inputs.mapM f with
  | ok outputs =>
    obtain ⟨input, member, refused⟩ := failing
    obtain ⟨output, passed⟩ := exists_ok_of_mapM_eq_ok run input member
    exact absurd passed (refused output)
  | error e => exact ⟨e, rfl, exists_of_mapM_eq_error run⟩

/-- Normalizing refuses a path that is not absolute, under its own name. -/
theorem Path.normalize_of_relative {path : String} (relative : isAbs path = false) :
    Path.normalize path = .error ⟨path⟩ := by
  simp [Path.normalize, relative]

/-- A snapshot the registry accepts: its path is absolute, and so is its link target when it
records one. -/
def Snapshot.Absolute (s : Snapshot) : Prop :=
  isAbs s.path = true ∧ (s.resolvedPath ≠ "" → isAbs s.resolvedPath = true)

instance : DecidablePred Snapshot.Absolute := fun _ => inferInstanceAs (Decidable (_ ∧ _))

/-- A snapshot as the registry keeps it: its path cleaned, and its link target cleaned when it
records one. -/
def Snapshot.normalized (s : Snapshot) : Snapshot :=
  { s with
    path := clean s.path
    resolvedPath := if s.resolvedPath = "" then "" else clean s.resolvedPath }

namespace Registry

variable {σ : Type}

/-! ### Checking one path or snapshot -/

theorem checkPath_of_isAbs {path : String} (absolute : isAbs path = true) :
    checkPath path = .ok (clean path) :=
  checkPath_eq_ok.mpr ⟨absolute, rfl⟩

theorem checkPath_ne_ok {path : String} (relative : isAbs path = false) (checked : String) :
    checkPath path ≠ .ok checked := by
  intro passed
  rw [(checkPath_eq_ok.mp passed).1] at relative
  cases relative

/-- An accepted snapshot passes the check, cleaned. -/
theorem checkSnapshot_of_absolute {s : Snapshot} (absolute : s.Absolute) :
    checkSnapshot s = .ok s.normalized := by
  obtain ⟨path, kind, resolvedPath, resolvedKind⟩ := s
  obtain ⟨absolutePath, absoluteTarget⟩ := absolute
  dsimp only at absolutePath absoluteTarget
  unfold checkSnapshot Snapshot.normalized
  rw [checkPath_of_isAbs absolutePath]
  by_cases unlinked : resolvedPath = ""
  · subst unlinked
    rfl
  · simp only [unlinked, if_false, checkPath_of_isAbs (absoluteTarget unlinked)]
    rfl

/-- A snapshot that is not accepted does not pass the check. -/
theorem checkSnapshot_ne_ok {s : Snapshot} (relative : ¬ s.Absolute) (checked : Snapshot) :
    checkSnapshot s ≠ .ok checked := by
  intro passed
  obtain ⟨-, -, pathChecked, target⟩ := checkSnapshot_eq_ok passed
  refine relative ⟨(checkPath_eq_ok.mp pathChecked).1, fun linked => ?_⟩
  rcases target with ⟨unlinked, -⟩ | ⟨-, targetChecked⟩
  · exact absurd unlinked linked
  · exact (checkPath_eq_ok.mp targetChecked).1

/-! ### Refused calls -/

/-- **A report with a path that is not absolute is refused** before anything changes: the error
names a path of the report that normalizing refuses, and the registry and the watcher's state are
the ones given. -/
theorem changed_of_relative (w : Watcher σ) (reg : Registry) (svc : σ)
    {removed added : List Snapshot}
    (relative : (∃ s ∈ removed, isAbs s.path = false) ∨ ∃ s ∈ added, ¬ s.Absolute) :
    ∃ path, Path.normalize path = .error ⟨path⟩ ∧
      ((∃ s ∈ removed, path = s.path) ∨ ∃ s ∈ added, path = s.path ∨ path = s.resolvedPath) ∧
      reg.changed w removed added svc = ⟨reg, svc, some (.invalidPath path)⟩ := by
  unfold changed
  cases goneChecked : removed.mapM (fun s => checkPath s.path) with
  | error e =>
    obtain ⟨s, member, refused⟩ := exists_of_mapM_eq_error goneChecked
    obtain ⟨relativePath, rfl⟩ := checkPath_eq_error_iff.mp refused
    exact ⟨s.path, normalize_of_relative relativePath, Or.inl ⟨s, member, rfl⟩,
      by simp [bind, Except.bind]⟩
  | ok gone =>
    -- every dropped path passed, so some recorded snapshot is refused
    have failing : ∃ s ∈ added, ∀ checked, checkSnapshot s ≠ .ok checked := by
      rcases relative with ⟨s, member, relativePath⟩ | ⟨s, member, notAbsolute⟩
      · obtain ⟨checked, passed⟩ := exists_ok_of_mapM_eq_ok goneChecked s member
        exact absurd passed (checkPath_ne_ok relativePath checked)
      · exact ⟨s, member, checkSnapshot_ne_ok notAbsolute⟩
    obtain ⟨e, freshChecked, s, member, refused⟩ := exists_of_mapM_of_failing failing
    obtain ⟨path, named, relativePath, rfl⟩ := checkSnapshot_eq_error refused
    exact ⟨path, normalize_of_relative relativePath, Or.inr ⟨s, member, named⟩,
      by simp [freshChecked, bind, Except.bind]⟩

/-- **A declaration with a root that is not absolute is refused** before anything changes. -/
theorem declareRoots_of_relative (w : Watcher σ) (reg : Registry) (svc : σ) {dirs : List String}
    (relative : ∃ dir ∈ dirs, isAbs dir = false) :
    ∃ path, Path.normalize path = .error ⟨path⟩ ∧ path ∈ dirs ∧
      reg.declareRoots w dirs svc = ⟨reg, svc, some (.invalidPath path)⟩ := by
  obtain ⟨dir, member, relativeDir⟩ := relative
  obtain ⟨e, checked, refusedDir, refusedMember, refused⟩ :=
    exists_of_mapM_of_failing ⟨dir, member, checkPath_ne_ok relativeDir⟩
  obtain ⟨relativeRefused, rfl⟩ := checkPath_eq_error_iff.mp refused
  refine ⟨refusedDir, normalize_of_relative relativeRefused, refusedMember, ?_⟩
  unfold declareRoots
  rw [checked]

/-! ### Accepted calls -/

/-- **A report whose paths are all absolute passes the check**: the registry untracks the cleaned
paths of the dropped snapshots, tracks the recorded snapshots cleaned, and updates. -/
theorem changed_of_absolute (w : Watcher σ) (reg : Registry) (svc : σ)
    {removed added : List Snapshot} (absoluteRemoved : ∀ s ∈ removed, isAbs s.path = true)
    (absoluteAdded : ∀ s ∈ added, s.Absolute) :
    reg.changed w removed added svc =
      update w (reg.rescanned (removed.map fun s => clean s.path)
        (added.map Snapshot.normalized)) svc := by
  have goneChecked : removed.mapM (fun s => checkPath s.path) =
      .ok (removed.map fun s => clean s.path) :=
    mapM_eq_ok_of_forall fun s member => checkPath_of_isAbs (absoluteRemoved s member)
  have freshChecked : added.mapM checkSnapshot = .ok (added.map Snapshot.normalized) :=
    mapM_eq_ok_of_forall fun s member => checkSnapshot_of_absolute (absoluteAdded s member)
  unfold changed
  simp only [goneChecked, freshChecked, bind, Except.bind, pure, Except.pure]
  rfl

/-- What an update's error reports: the failure the watcher answered to the stop, or, after a stop
that went through, to the start. -/
def FromWatcher (w : Watcher σ) (reg : Registry) (svc : σ) (e : RegistryError) : Prop :=
  ∃ failure,
    (∃ svc', Answers w.stop reg.toStop svc (some failure, svc') ∧
      e = .stopFailed (failure.failed reg.toStop) failure) ∨
    ∃ svc₁ svc', Answers w.stop reg.toStop svc (none, svc₁) ∧
      Answers w.start reg.toStart svc₁ (some failure, svc') ∧
      e = .startFailed (failure.failed reg.toStart) failure

/-- **An update fails only with what the watcher answered.** -/
theorem update_error_fromWatcher (w : Watcher σ) (reg : Registry) (svc : σ) {e : RegistryError}
    (failed : (update w reg svc).error = some e) : FromWatcher w reg svc e := by
  rcases update_trichotomy w reg svc with ⟨failure, svc', stopped⟩ |
      ⟨svc₁, failure, svc', stopped, started⟩ | ⟨svc₁, svc', stopped, started⟩
  · rw [update_of_stop_failed stopped] at failed
    exact ⟨failure, Or.inl ⟨svc', stopped, (Option.some.inj failed).symm⟩⟩
  · rw [update_of_start_failed stopped started] at failed
    exact ⟨failure, Or.inr ⟨svc₁, svc', stopped, started, (Option.some.inj failed).symm⟩⟩
  · rw [update_of_ok stopped started] at failed
    cases failed

/-- **A registry call checks every path before it changes anything.** A report of a rescan or a
declaration of roots that is given an empty or relative path anywhere (a dropped snapshot's path,
a recorded snapshot's path or recorded link target, a root) is refused with an invalid-path error
naming such a path, which normalizing refuses as not absolute. The registry, its tracked
requirements, roots and watched hierarchies, and the watcher's state are the ones given, whatever
the watcher: it was asked nothing. A call whose paths are all absolute applies its change to the
cleaned paths and updates, and fails only with a failure the watcher answered in that update. -/
theorem registry_checks_paths_first (w : Watcher σ) (reg : Registry) (svc : σ) :
    (∀ removed added : List Snapshot,
      ((∃ s ∈ removed, isAbs s.path = false) ∨ ∃ s ∈ added, ¬ s.Absolute) →
        ∃ path, Path.normalize path = .error ⟨path⟩ ∧
          ((∃ s ∈ removed, path = s.path) ∨
            ∃ s ∈ added, path = s.path ∨ path = s.resolvedPath) ∧
          reg.changed w removed added svc = ⟨reg, svc, some (.invalidPath path)⟩) ∧
    (∀ dirs : List String, (∃ dir ∈ dirs, isAbs dir = false) →
        ∃ path, Path.normalize path = .error ⟨path⟩ ∧ path ∈ dirs ∧
          reg.declareRoots w dirs svc = ⟨reg, svc, some (.invalidPath path)⟩) ∧
    (∀ removed added : List Snapshot, (∀ s ∈ removed, isAbs s.path = true) →
        (∀ s ∈ added, s.Absolute) →
        reg.changed w removed added svc = update w (reg.rescanned
          (removed.map fun s => clean s.path) (added.map Snapshot.normalized)) svc ∧
        ∀ e, (reg.changed w removed added svc).error = some e →
          FromWatcher w (reg.rescanned (removed.map fun s => clean s.path)
            (added.map Snapshot.normalized)) svc e) ∧
    (∀ dirs : List String, (∀ dir ∈ dirs, isAbs dir = true) →
        reg.declareRoots w dirs svc = update w (reg.declared (dirs.map clean)) svc ∧
        ∀ e, (reg.declareRoots w dirs svc).error = some e →
          FromWatcher w (reg.declared (dirs.map clean)) svc e) := by
  refine ⟨fun removed added relative => changed_of_relative w reg svc relative,
    fun dirs relative => declareRoots_of_relative w reg svc relative,
    fun removed added absoluteRemoved absoluteAdded => ?_, fun dirs absolute => ?_⟩
  · have accepted := changed_of_absolute w reg svc absoluteRemoved absoluteAdded
    refine ⟨accepted, fun e failed => update_error_fromWatcher w _ svc ?_⟩
    rwa [accepted] at failed
  · have accepted := declareRoots_of_checked w reg svc (mapM_checkPath_of_isAbs absolute)
    refine ⟨accepted, fun e failed => update_error_fromWatcher w _ svc ?_⟩
    rwa [accepted] at failed

/-- A report recording a snapshot under a relative path is refused, while a root declared by an
absolute path is accepted. -/
theorem relative_snapshot_refused :
    (∃ path, Path.normalize path = .error ⟨path⟩ ∧
      ((∃ s ∈ ([] : List Snapshot), path = s.path) ∨
        ∃ s ∈ [({ path := "src/a" } : Snapshot)], path = s.path ∨ path = s.resolvedPath) ∧
      Registry.empty.changed DryRun.watcher [] [{ path := "src/a" }] {} =
        ⟨Registry.empty, {}, some (.invalidPath path)⟩) ∧
    Registry.empty.declareRoots DryRun.watcher ["/proj/"] {} =
      update DryRun.watcher (Registry.empty.declared (["/proj/"].map clean)) {} :=
  ⟨(registry_checks_paths_first DryRun.watcher Registry.empty {}).1 [] [{ path := "src/a" }]
      (Or.inr ⟨_, List.mem_singleton_self _, by decide⟩),
    ((registry_checks_paths_first DryRun.watcher Registry.empty {}).2.2.2 ["/proj/"]
      (by decide)).1⟩

end Registry

end StableWatch
