import StableWatch.Proofs.RootSet
import StableWatch.Watch.Registry
/-!
# Registry calls, one at a time

The registry is driven by three calls (`Registry.Call`): declaring the roots of a build, reporting
what a rescan changed, and finishing a build. A registry is reachable when some sequence of calls,
each against any watcher in any state, leads to it from the empty registry (`Registry.Reachable`):
the watcher may fail in any way, at any call.

The one step all three calls share is `update`, which asks the watcher to stop what is watched and
no longer desired (`toStop`), then to start what is desired and not watched (`toStart`). What a
watcher answers to one request is described by `Answers`, which includes the request the registry
leaves out when it has nothing to ask. `update` then has exactly three outcomes: the stop failed
(`update_of_stop_failed`), the stop went through and the start failed (`update_of_start_failed`),
or both went through (`update_of_ok`). Every later proof about `update` starts from these three
lemmas.

Every reachable registry is well formed (`Reachable.wellFormed`): every tracked directory and
every root is a clean absolute path, the watched hierarchies increase, and both generations of
roots are well formed. This is what lets the path lemmas apply to everything a registry holds.
-/

namespace StableWatch

open StableWatch.Path

/-- Every result of a `mapM` in `Except` that succeeds comes from one of the inputs. -/
theorem exists_of_mapM_eq_ok {α β ε : Type} {f : α → Except ε β} :
    ∀ {inputs : List α} {outputs : List β}, inputs.mapM f = .ok outputs →
      ∀ output ∈ outputs, ∃ input ∈ inputs, f input = .ok output
  | [], outputs, succeeded => by
    simp only [List.mapM_nil] at succeeded
    cases succeeded
    simp
  | input :: rest, outputs, succeeded => by
    rw [List.mapM_cons] at succeeded
    cases first : f input with
    | error e =>
      rw [first] at succeeded
      cases succeeded
    | ok result =>
      cases others : rest.mapM f with
      | error e =>
        rw [first, others] at succeeded
        cases succeeded
      | ok more =>
        rw [first, others] at succeeded
        cases succeeded
        intro output member
        rcases List.mem_cons.mp member with rfl | later
        · exact ⟨input, List.mem_cons_self, first⟩
        · obtain ⟨source, sourceMember, checked⟩ := exists_of_mapM_eq_ok others output later
          exact ⟨source, List.mem_cons_of_mem input sourceMember, checked⟩

/-- A `mapM` in `Except` whose every step succeeds succeeds with all the results. -/
theorem mapM_eq_ok_of_forall {α β ε : Type} {f : α → Except ε β} {g : α → β} :
    ∀ {inputs : List α}, (∀ input ∈ inputs, f input = .ok (g input)) →
      inputs.mapM f = .ok (inputs.map g)
  | [], _ => rfl
  | input :: rest, succeeds => by
    rw [List.mapM_cons, succeeds input List.mem_cons_self,
      mapM_eq_ok_of_forall fun other member => succeeds other (List.mem_cons_of_mem input member)]
    rfl

/-- A `mapM` in `Except` fails with the error of one of the inputs. -/
theorem exists_of_mapM_eq_error {α β ε : Type} {f : α → Except ε β} :
    ∀ {inputs : List α} {e : ε}, inputs.mapM f = .error e → ∃ input ∈ inputs, f input = .error e
  | [], e, failed => by
    simp only [List.mapM_nil] at failed
    cases failed
  | input :: rest, e, failed => by
    rw [List.mapM_cons] at failed
    cases first : f input with
    | error e' =>
      rw [first] at failed
      cases failed
      exact ⟨input, List.mem_cons_self, first⟩
    | ok result =>
      cases others : rest.mapM f with
      | error e' =>
        rw [first, others] at failed
        cases failed
        obtain ⟨source, sourceMember, refused⟩ := exists_of_mapM_eq_error others
        exact ⟨source, List.mem_cons_of_mem input sourceMember, refused⟩
      | ok more =>
        rw [first, others] at failed
        cases failed

/-! ### Clean paths and snapshots -/

/-- The directories a snapshot needs watched are clean absolute paths when its path and its link
target, if any, are. -/
theorem Snapshot.directories_clean {s : Snapshot} (cleanPath : IsCleanAbs s.path)
    (cleanTarget : s.resolvedPath ≠ "" → IsCleanAbs s.resolvedPath) :
    ∀ dir ∈ s.directories, IsCleanAbs dir := by
  have required : ∀ {path : String} (kind : EntryKind), IsCleanAbs path →
      IsCleanAbs (Snapshot.requiredDirectory path kind) := by
    intro path kind cleanPath
    unfold Snapshot.requiredDirectory
    split
    · exact cleanPath
    · exact IsCleanAbs.dir cleanPath
  intro dir member
  unfold Snapshot.directories at member
  simp only at member
  split_ifs at member with linked differs <;>
    simp only [List.mem_cons, List.not_mem_nil, or_false] at member
  · rcases member with rfl | rfl
    · exact required _ cleanPath
    · exact required _ (cleanTarget linked.1)
  · subst member
    exact required _ cleanPath
  · subst member
    exact required _ cleanPath

/-- A watcher that never fails: every request to start or to stop succeeds. -/
def Watcher.NeverFails {σ : Type} (w : Watcher σ) : Prop :=
  ∀ paths svc, (w.start paths svc).1 = none ∧ (w.stop paths svc).1 = none

namespace Registry

theorem checkPath_eq_ok {path checked : String} :
    checkPath path = .ok checked ↔ isAbs path = true ∧ checked = Path.clean path := by
  unfold checkPath Path.normalize
  by_cases absolute : isAbs path = true
  · simp only [absolute, if_true, true_and]
    exact ⟨fun same => (Except.ok.inj same).symm, fun same => by rw [same]⟩
  · simp only [absolute, Bool.false_eq_true, if_false, false_and, iff_false]
    intro impossible
    cases impossible

/-- A path that passes the check comes out clean and absolute. -/
theorem isCleanAbs_of_checkPath {path checked : String} (passed : checkPath path = .ok checked) :
    IsCleanAbs checked := by
  obtain ⟨absolute, rfl⟩ := checkPath_eq_ok.mp passed
  exact isCleanAbs_clean absolute

/-- A clean absolute path passes the check as it is. -/
theorem checkPath_of_isCleanAbs {path : String} (cleanPath : IsCleanAbs path) :
    checkPath path = .ok path :=
  checkPath_eq_ok.mpr ⟨cleanPath.1, cleanPath.2.symm⟩

/-- The check refuses exactly the paths that are not absolute, each as an invalid path under its
own name. -/
theorem checkPath_eq_error_iff {path : String} {e : RegistryError} :
    checkPath path = .error e ↔ isAbs path = false ∧ e = .invalidPath path := by
  unfold checkPath Path.normalize
  by_cases absolute : isAbs path = true
  · simp only [absolute, if_true, Bool.true_eq_false, false_and, iff_false]
    intro impossible
    cases impossible
  · simp only [absolute, Bool.false_eq_true, if_false, true_and]
    exact ⟨fun same => (Except.error.inj same).symm, fun same => by rw [same]⟩

/-- A path refused by the check is refused as an invalid path, under its own name. -/
theorem checkPath_eq_error {path : String} {e : RegistryError} (refused : checkPath path = .error e) :
    e = .invalidPath path :=
  (checkPath_eq_error_iff.mp refused).2

/-- A snapshot refused by the check is refused for its path or its link target, whichever is not
absolute, as an invalid path. -/
theorem checkSnapshot_eq_error {s : Snapshot} {e : RegistryError}
    (refused : checkSnapshot s = .error e) :
    ∃ path, (path = s.path ∨ path = s.resolvedPath) ∧ isAbs path = false ∧
      e = .invalidPath path := by
  unfold checkSnapshot at refused
  cases pathChecked : checkPath s.path with
  | error e' =>
    rw [pathChecked] at refused
    cases refused
    exact ⟨s.path, Or.inl rfl, checkPath_eq_error_iff.mp pathChecked⟩
  | ok path =>
    rw [pathChecked] at refused
    by_cases unlinked : s.resolvedPath = ""
    · simp only [unlinked, if_true] at refused
      cases refused
    · simp only [unlinked, if_false] at refused
      cases targetChecked : checkPath s.resolvedPath with
      | error e' =>
        rw [targetChecked] at refused
        cases refused
        exact ⟨s.resolvedPath, Or.inr rfl, checkPath_eq_error_iff.mp targetChecked⟩
      | ok target =>
        rw [targetChecked] at refused
        cases refused

/-- What checking a snapshot does: it checks and cleans the path, and the link target when there
is one, and keeps both kinds. -/
theorem checkSnapshot_eq_ok {s checked : Snapshot} (passed : checkSnapshot s = .ok checked) :
    checked.kind = s.kind ∧ checked.resolvedKind = s.resolvedKind ∧
      checkPath s.path = .ok checked.path ∧
      (s.resolvedPath = "" ∧ checked.resolvedPath = "" ∨
        s.resolvedPath ≠ "" ∧ checkPath s.resolvedPath = .ok checked.resolvedPath) := by
  unfold checkSnapshot at passed
  cases pathChecked : checkPath s.path with
  | error e =>
    rw [pathChecked] at passed
    cases passed
  | ok path =>
    rw [pathChecked] at passed
    by_cases unlinked : s.resolvedPath = ""
    · simp only [unlinked, if_true] at passed
      cases passed
      exact ⟨rfl, rfl, rfl, Or.inl ⟨unlinked, rfl⟩⟩
    · simp only [unlinked, if_false] at passed
      cases targetChecked : checkPath s.resolvedPath with
      | error e =>
        rw [targetChecked] at passed
        cases passed
      | ok target =>
        rw [targetChecked] at passed
        cases passed
        exact ⟨rfl, rfl, rfl, Or.inr ⟨unlinked, rfl⟩⟩

/-- The directories of a checked snapshot are clean absolute paths. -/
theorem directories_clean_of_checkSnapshot {s checked : Snapshot}
    (passed : checkSnapshot s = .ok checked) : ∀ dir ∈ checked.directories, IsCleanAbs dir := by
  obtain ⟨-, -, pathChecked, target⟩ := checkSnapshot_eq_ok passed
  refine Snapshot.directories_clean (isCleanAbs_of_checkPath pathChecked) fun linked => ?_
  rcases target with ⟨-, unlinked⟩ | ⟨-, targetChecked⟩
  · exact absurd unlinked linked
  · exact isCleanAbs_of_checkPath targetChecked

/-! ### What `update` asks and does -/

/-- The watched hierarchies that are no longer desired. -/
def toStop (reg : Registry) : List String :=
  PathSet.diff reg.watched reg.desired

/-- The desired hierarchies that are not watched yet. -/
def toStart (reg : Registry) : List String :=
  PathSet.diff reg.desired reg.watched

variable {σ : Type}

/-- How a watcher answers the registry's request for `paths`: a request for no paths is not made
and counts as a success that leaves the watcher as it was. -/
def Answers (call : List String → σ → Option WatchFailure × σ) (paths : List String) (svc : σ)
    (answer : Option WatchFailure × σ) : Prop :=
  (paths = [] ∧ answer = (none, svc)) ∨ (paths ≠ [] ∧ call paths svc = answer)

theorem answers_exists (call : List String → σ → Option WatchFailure × σ) (paths : List String)
    (svc : σ) : ∃ answer, Answers call paths svc answer := by
  by_cases empty : paths = []
  · exact ⟨(none, svc), Or.inl ⟨empty, rfl⟩⟩
  · exact ⟨call paths svc, Or.inr ⟨empty, rfl⟩⟩

/-- **A failed stop** leaves watched the requested hierarchies the failure names, and ends the
update before anything is started. -/
theorem update_of_stop_failed {w : Watcher σ} {reg : Registry} {svc svc' : σ}
    {failure : WatchFailure} (stopped : Answers w.stop reg.toStop svc (some failure, svc')) :
    update w reg svc =
      ⟨{ reg with watched := reg.watched.filter fun path =>
          !reg.toStop.contains path || (failure.failed reg.toStop).contains path },
        svc', some (.stopFailed (failure.failed reg.toStop) failure)⟩ := by
  rcases stopped with ⟨-, impossible⟩ | ⟨nonempty, answer⟩
  · simp at impossible
  · unfold update
    simp only [toStop] at nonempty answer ⊢
    simp only [if_neg nonempty, answer]

/-- **A failed start** after a successful stop adds the requested hierarchies the failure does
not name. -/
theorem update_of_start_failed {w : Watcher σ} {reg : Registry} {svc svc₁ svc' : σ}
    {failure : WatchFailure} (stopped : Answers w.stop reg.toStop svc (none, svc₁))
    (started : Answers w.start reg.toStart svc₁ (some failure, svc')) :
    update w reg svc =
      ⟨{ reg with
          watched := PathSet.union (PathSet.diff reg.watched reg.toStop)
            (PathSet.diff reg.toStart (failure.failed reg.toStart)) },
        svc', some (.startFailed (failure.failed reg.toStart) failure)⟩ := by
  rcases started with ⟨-, impossible⟩ | ⟨startNonempty, startAnswer⟩
  · simp at impossible
  unfold update
  simp only [toStop, toStart] at stopped startNonempty startAnswer ⊢
  rcases stopped with ⟨empty, ⟨⟩⟩ | ⟨nonempty, answer⟩
  · simp only [if_pos empty, if_neg startNonempty, startAnswer]
  · simp only [if_neg nonempty, answer, if_neg startNonempty, startAnswer]

/-- **A successful update** stops and starts everything it asked for. -/
theorem update_of_ok {w : Watcher σ} {reg : Registry} {svc svc₁ svc' : σ}
    (stopped : Answers w.stop reg.toStop svc (none, svc₁))
    (started : Answers w.start reg.toStart svc₁ (none, svc')) :
    update w reg svc =
      ⟨{ reg with watched := PathSet.union (PathSet.diff reg.watched reg.toStop) reg.toStart },
        svc', none⟩ := by
  unfold update
  simp only [toStop, toStart] at stopped started ⊢
  rcases stopped with ⟨empty, ⟨⟩⟩ | ⟨nonempty, answer⟩ <;>
    rcases started with ⟨startEmpty, ⟨⟩⟩ | ⟨startNonempty, startAnswer⟩
  · simp only [if_pos empty, if_pos startEmpty]
  · simp only [if_pos empty, if_neg startNonempty, startAnswer]
  · simp only [if_neg nonempty, answer, if_pos startEmpty]
  · simp only [if_neg nonempty, answer, if_neg startNonempty, startAnswer]

/-- Every update ends in one of the three ways above. -/
theorem update_trichotomy (w : Watcher σ) (reg : Registry) (svc : σ) :
    (∃ failure svc', Answers w.stop reg.toStop svc (some failure, svc')) ∨
    (∃ svc₁ failure svc', Answers w.stop reg.toStop svc (none, svc₁) ∧
      Answers w.start reg.toStart svc₁ (some failure, svc')) ∨
    (∃ svc₁ svc', Answers w.stop reg.toStop svc (none, svc₁) ∧
      Answers w.start reg.toStart svc₁ (none, svc')) := by
  obtain ⟨⟨stopFailure, svc₁⟩, stopped⟩ := answers_exists w.stop reg.toStop svc
  cases stopFailure with
  | some failure => exact Or.inl ⟨failure, svc₁, stopped⟩
  | none =>
    obtain ⟨⟨startFailure, svc'⟩, started⟩ := answers_exists w.start reg.toStart svc₁
    cases startFailure with
    | some failure => exact Or.inr (Or.inl ⟨svc₁, failure, svc', stopped, started⟩)
    | none => exact Or.inr (Or.inr ⟨svc₁, svc', stopped, started⟩)

@[simp]
theorem mem_toStop {reg : Registry} {path : String} :
    path ∈ reg.toStop ↔ path ∈ reg.watched ∧ path ∉ reg.desired :=
  PathSet.mem_diff

@[simp]
theorem mem_toStart {reg : Registry} {path : String} :
    path ∈ reg.toStart ↔ path ∈ reg.desired ∧ path ∉ reg.watched :=
  PathSet.mem_diff

/-- An update changes the watched hierarchies only. -/
theorem update_registry (w : Watcher σ) (reg : Registry) (svc : σ) :
    (update w reg svc).registry = { reg with watched := (update w reg svc).registry.watched } := by
  rcases update_trichotomy w reg svc with ⟨_, _, stopped⟩ | ⟨_, _, _, stopped, started⟩ |
      ⟨_, _, stopped, started⟩
  · rw [update_of_stop_failed stopped]
  · rw [update_of_start_failed stopped started]
  · rw [update_of_ok stopped started]

@[simp]
theorem update_tracked (w : Watcher σ) (reg : Registry) (svc : σ) :
    (update w reg svc).registry.tracked = reg.tracked :=
  by rw [update_registry]

@[simp]
theorem update_current (w : Watcher σ) (reg : Registry) (svc : σ) :
    (update w reg svc).registry.current = reg.current :=
  by rw [update_registry]

@[simp]
theorem update_previous (w : Watcher σ) (reg : Registry) (svc : σ) :
    (update w reg svc).registry.previous = reg.previous :=
  by rw [update_registry]

@[simp]
theorem update_required (w : Watcher σ) (reg : Registry) (svc : σ) :
    (update w reg svc).registry.required = reg.required := by
  unfold required
  rw [update_tracked]

@[simp]
theorem update_substitute (w : Watcher σ) (reg : Registry) (svc : σ) :
    (update w reg svc).registry.substitute = reg.substitute := by
  funext dir
  unfold substitute
  rw [update_current, update_previous]

@[simp]
theorem update_desired (w : Watcher σ) (reg : Registry) (svc : σ) :
    (update w reg svc).registry.desired = reg.desired := by
  unfold desired
  rw [update_required, update_substitute]

theorem pairwise_desired (reg : Registry) : reg.desired.Pairwise (· < ·) :=
  Roots.pairwise_reduce _

theorem pairwise_update_watched (w : Watcher σ) {reg : Registry} (svc : σ)
    (increasing : reg.watched.Pairwise (· < ·)) :
    (update w reg svc).registry.watched.Pairwise (· < ·) := by
  rcases update_trichotomy w reg svc with ⟨_, _, stopped⟩ | ⟨_, _, _, stopped, started⟩ |
      ⟨_, _, stopped, started⟩
  · rw [update_of_stop_failed stopped]
    exact increasing.filter _
  · rw [update_of_start_failed stopped started]
    exact PathSet.pairwise_union _ (PathSet.pairwise_diff _ increasing)
  · rw [update_of_ok stopped started]
    exact PathSet.pairwise_union _ (PathSet.pairwise_diff _ increasing)

/-- **An update that reports no error watches exactly what is desired.** -/
theorem update_watched_of_ok (w : Watcher σ) {reg : Registry} (svc : σ)
    (increasing : reg.watched.Pairwise (· < ·)) (ok : (update w reg svc).error = none) :
    (update w reg svc).registry.watched = reg.desired := by
  rcases update_trichotomy w reg svc with ⟨_, _, stopped⟩ | ⟨_, _, _, stopped, started⟩ |
      ⟨_, _, stopped, started⟩
  · rw [update_of_stop_failed stopped] at ok
    cases ok
  · rw [update_of_start_failed stopped started] at ok
    cases ok
  · rw [update_of_ok stopped started]
    refine PathSet.eq_of_mem_iff
      (PathSet.pairwise_union _ (PathSet.pairwise_diff _ increasing)) (pairwise_desired reg)
      fun path => ?_
    simp only [PathSet.mem_union, PathSet.mem_diff, mem_toStop, mem_toStart]
    tauto

/-- A request to a watcher whose every answer is a success is answered with success. -/
theorem Answers.succeeds {call : List String → σ → Option WatchFailure × σ}
    (never : ∀ paths svc, (call paths svc).1 = none) {paths : List String} {svc : σ}
    {answer : Option WatchFailure × σ} (answered : Answers call paths svc answer) :
    answer.1 = none := by
  rcases answered with ⟨-, rfl⟩ | ⟨-, rfl⟩
  · rfl
  · exact never paths svc

/-- Against a watcher that never fails, no update fails. -/
theorem update_error_of_neverFails {w : Watcher σ} (never : w.NeverFails) (reg : Registry)
    (svc : σ) : (update w reg svc).error = none := by
  rcases update_trichotomy w reg svc with ⟨_, _, stopped⟩ | ⟨_, _, _, _, started⟩ |
      ⟨_, _, stopped, started⟩
  · have succeeded := Answers.succeeds (fun paths svc => (never paths svc).2) stopped
    simp at succeeded
  · have succeeded := Answers.succeeds (fun paths svc => (never paths svc).1) started
    simp at succeeded
  · rw [update_of_ok stopped started]

/-! ### Substitution by roots -/

theorem substitute_of_current {reg : Registry} {dir : String} {root : Root}
    (found : reg.current.find? dir = some root) : reg.substitute dir = root.path := by
  simp [substitute, found]

theorem substitute_of_previous {reg : Registry} {dir : String} {root : Root}
    (notCurrent : reg.current.find? dir = none) (found : reg.previous.find? dir = some root) :
    reg.substitute dir = root.path := by
  simp [substitute, notCurrent, found]

theorem substitute_of_none {reg : Registry} {dir : String}
    (notCurrent : reg.current.find? dir = none) (notPrevious : reg.previous.find? dir = none) :
    reg.substitute dir = dir := by
  simp [substitute, notCurrent, notPrevious]

/-- A directory is watched through something that covers it. -/
theorem covers_substitute (reg : Registry) (dir : String) : Covers (reg.substitute dir) dir := by
  cases current : reg.current.find? dir with
  | some root =>
    rw [substitute_of_current current]
    exact Root.covers_of_contains (RootSet.find?_spec current).2
  | none =>
    cases previous : reg.previous.find? dir with
    | some root =>
      rw [substitute_of_previous current previous]
      exact Root.covers_of_contains (RootSet.find?_spec previous).2
    | none =>
      rw [substitute_of_none current previous]

theorem mem_required {reg : Registry} {dir : String} :
    dir ∈ reg.required ↔ ∃ entry ∈ reg.tracked, dir ∈ entry.2 := by
  simp [required]

/-! ### Calls -/

/-- A call the owner of a registry makes. -/
inductive Call where
  /-- Declare the roots of the build in progress. -/
  | declareRoots (dirs : List String)
  /-- Report what a rescan dropped and recorded. -/
  | changed (removed added : List Snapshot)
  /-- End the build. -/
  | finishBuild
  deriving DecidableEq, Repr

/-- Makes a call against a watcher. -/
def Call.run (w : Watcher σ) : Call → Registry → σ → Outcome σ
  | .declareRoots dirs, reg, svc => reg.declareRoots w dirs svc
  | .changed removed added, reg, svc => reg.changed w removed added svc
  | .finishBuild, reg, svc => reg.finishBuild w svc

/-- Makes calls one after another against one watcher; the registry and the watcher's state at the
end. -/
def Call.runAll (w : Watcher σ) : List Call → Registry → σ → Registry × σ
  | [], reg, svc => (reg, svc)
  | call :: rest, reg, svc =>
    let out := call.run w reg svc
    Call.runAll w rest out.registry out.watcher

/-- The registries some sequence of calls leads to from the empty one, each call made against a
watcher of any kind, in any state. -/
inductive Reachable : Registry → Prop
  | empty : Reachable Registry.empty
  | step {reg : Registry} {σ : Type} (w : Watcher σ) (svc : σ) (call : Call) :
      Reachable reg → Reachable (call.run w reg svc).registry

/-- The registry a rescan's report leads to before the update: the dropped paths untracked, then
the recorded snapshots tracked. -/
def rescanned (reg : Registry) (gone : List String) (fresh : List Snapshot) : Registry :=
  { reg with
    tracked := fresh.foldl (fun acc s => track s.path s.directories acc)
      (gone.foldl untrack reg.tracked) }

/-- The registry a declaration leads to before the update: the reduced roots are the current
generation and leave the earlier one. -/
def declared (reg : Registry) (clean : List String) : Registry :=
  { reg with
    current := RootSet.declare clean
    previous := reg.previous.removeAll (RootSet.declare clean) }

/-- What `changed` does: a path that fails the check refuses the call as an invalid path and
changes nothing; otherwise the dropped paths are untracked, the recorded snapshots tracked, and
the watched set brought in line. -/
theorem changed_cases (w : Watcher σ) (removed added : List Snapshot) (reg : Registry) (svc : σ) :
    (∃ path, reg.changed w removed added svc = ⟨reg, svc, some (.invalidPath path)⟩) ∨
    ∃ gone fresh, removed.mapM (fun s => checkPath s.path) = .ok gone ∧
      added.mapM checkSnapshot = .ok fresh ∧
      reg.changed w removed added svc = update w (reg.rescanned gone fresh) svc := by
  unfold changed
  cases goneChecked : removed.mapM (fun s => checkPath s.path) with
  | error e =>
    obtain ⟨s, -, refused⟩ := exists_of_mapM_eq_error goneChecked
    have invalid := checkPath_eq_error refused
    subst invalid
    exact Or.inl ⟨s.path, by simp [bind, Except.bind]⟩
  | ok gone =>
    cases freshChecked : added.mapM checkSnapshot with
    | error e =>
      obtain ⟨s, -, refused⟩ := exists_of_mapM_eq_error freshChecked
      obtain ⟨path, -, -, invalid⟩ := checkSnapshot_eq_error refused
      subst invalid
      exact Or.inl ⟨path, by simp [bind, Except.bind]⟩
    | ok fresh =>
      exact Or.inr ⟨gone, fresh, rfl, rfl,
        by simp [bind, Except.bind, pure, Except.pure, rescanned]⟩

/-- What `declareRoots` does: a path that fails the check refuses the call as an invalid path and
changes nothing; otherwise the reduced roots become the current generation, leave the earlier
one, and the watched set is brought in line. -/
theorem declareRoots_cases (w : Watcher σ) (dirs : List String) (reg : Registry) (svc : σ) :
    (∃ path, reg.declareRoots w dirs svc = ⟨reg, svc, some (.invalidPath path)⟩) ∨
    ∃ clean, dirs.mapM checkPath = .ok clean ∧
      reg.declareRoots w dirs svc = update w (reg.declared clean) svc := by
  unfold declareRoots
  cases checked : dirs.mapM checkPath with
  | error e =>
    obtain ⟨dir, -, refused⟩ := exists_of_mapM_eq_error checked
    have invalid := checkPath_eq_error refused
    subst invalid
    exact Or.inl ⟨dir, rfl⟩
  | ok clean => exact Or.inr ⟨clean, rfl, rfl⟩

/-- Against a watcher that never fails, a call fails only by refusing a path, and then leaves the
registry as it was. -/
theorem Call.run_of_neverFails {w : Watcher σ} (never : w.NeverFails) (call : Call)
    (reg : Registry) (svc : σ) :
    (call.run w reg svc).error = none ∨ (call.run w reg svc).registry = reg := by
  cases call with
  | declareRoots dirs =>
    rcases declareRoots_cases w dirs reg svc with ⟨e, refused⟩ | ⟨clean, -, ran⟩
    · right
      simp only [Call.run, refused]
    · left
      simp only [Call.run, ran]
      exact update_error_of_neverFails never _ svc
  | changed removed added =>
    rcases changed_cases w removed added reg svc with ⟨e, refused⟩ | ⟨gone, fresh, -, -, ran⟩
    · right
      simp only [Call.run, refused]
    · left
      simp only [Call.run, ran]
      exact update_error_of_neverFails never _ svc
  | finishBuild =>
    left
    exact update_error_of_neverFails never _ svc

/-- The registry a build's end updates: the roots of the build join the earlier ones. -/
def retired (reg : Registry) : Registry :=
  { reg with previous := reg.previous.addAll reg.current, current := RootSet.empty }

/-- The registry with the earlier roots that are not themselves watched forgotten. -/
def pruned (reg : Registry) : Registry :=
  { reg with previous := reg.previous.keep fun root => reg.watched.contains root.path }

/-- What `finishBuild` does: it updates the retired registry, then prunes it, whether or not the
update succeeded. -/
theorem finishBuild_eq (w : Watcher σ) (reg : Registry) (svc : σ) :
    reg.finishBuild w svc =
      { update w reg.retired svc with registry := (update w reg.retired svc).registry.pruned } :=
  rfl

theorem mem_pruned_previous {reg : Registry} {root : Root} :
    root ∈ reg.pruned.previous.roots ↔ root ∈ reg.previous.roots ∧ root.path ∈ reg.watched := by
  simp [pruned]

/-- Declaring roots tracks what was tracked. -/
theorem declareRoots_tracked (w : Watcher σ) (dirs : List String) (reg : Registry) (svc : σ) :
    (reg.declareRoots w dirs svc).registry.tracked = reg.tracked := by
  rcases declareRoots_cases w dirs reg svc with ⟨_, refused⟩ | ⟨_, _, ran⟩
  · rw [refused]
  · rw [ran, update_tracked]
    rfl

/-- Ending a build tracks what was tracked. -/
theorem finishBuild_tracked (w : Watcher σ) (reg : Registry) (svc : σ) :
    (reg.finishBuild w svc).registry.tracked = reg.tracked := by
  rw [finishBuild_eq]
  exact update_tracked w reg.retired svc

/-! ### Well-formed registries -/

/-- What every reachable registry satisfies: everything it holds is a clean absolute path, its
watched set increases, its generations of roots are well formed, and no root of the build in
progress lies inside another, since they are declared reduced. -/
structure WellFormed (reg : Registry) : Prop where
  tracked_clean : ∀ entry ∈ reg.tracked, ∀ dir ∈ entry.2, IsCleanAbs dir
  watched_increasing : reg.watched.Pairwise (· < ·)
  current : reg.current.WellFormed
  current_outermost : ∀ root ∈ reg.current.roots, ∀ other ∈ reg.current.roots,
    isAncestor root.path other.path = false
  previous : reg.previous.WellFormed

theorem wellFormed_empty : Registry.empty.WellFormed where
  tracked_clean := by simp [Registry.empty]
  watched_increasing := by simp [Registry.empty]
  current := RootSet.wellFormed_empty
  current_outermost := by simp [Registry.empty]
  previous := RootSet.wellFormed_empty

theorem WellFormed.required_clean {reg : Registry} (wellFormed : reg.WellFormed) :
    ∀ dir ∈ reg.required, IsCleanAbs dir := by
  intro dir member
  obtain ⟨entry, tracked, inEntry⟩ := mem_required.mp member
  exact wellFormed.tracked_clean entry tracked dir inEntry

/-- A directory is watched through a clean absolute path when it is one. -/
theorem WellFormed.substitute_clean {reg : Registry} (wellFormed : reg.WellFormed) {dir : String}
    (cleanDir : IsCleanAbs dir) : IsCleanAbs (reg.substitute dir) := by
  cases current : reg.current.find? dir with
  | some root =>
    rw [substitute_of_current current]
    exact wellFormed.current.clean root (RootSet.find?_spec current).1
  | none =>
    cases previous : reg.previous.find? dir with
    | some root =>
      rw [substitute_of_previous current previous]
      exact wellFormed.previous.clean root (RootSet.find?_spec previous).1
    | none =>
      rw [substitute_of_none current previous]
      exact cleanDir

/-- The hierarchies reduced into the desired ones are clean absolute paths. -/
theorem WellFormed.substituted_clean {reg : Registry} (wellFormed : reg.WellFormed) :
    ∀ path ∈ reg.required.map reg.substitute, IsCleanAbs path := by
  intro path member
  obtain ⟨dir, required, rfl⟩ := List.mem_map.mp member
  exact wellFormed.substitute_clean (wellFormed.required_clean dir required)

/-- No desired hierarchy lies inside another. -/
theorem WellFormed.desired_outermost {reg : Registry} (wellFormed : reg.WellFormed) :
    ∀ top ∈ reg.desired, ∀ path ∈ reg.desired, isAncestor top path = false := by
  have clean : ∀ path ∈ PathSet.ofList (reg.required.map reg.substitute), IsCleanAbs path := by
    intro path member
    exact wellFormed.substituted_clean path (PathSet.mem_ofList.mp member)
  intro top member path member'
  exact Roots.reduce_antichain clean member member'

theorem WellFormed.update {reg : Registry} (wellFormed : reg.WellFormed) (w : Watcher σ)
    (svc : σ) : (update w reg svc).registry.WellFormed := by
  rw [update_registry]
  exact ⟨wellFormed.tracked_clean, pairwise_update_watched w svc wellFormed.watched_increasing,
    wellFormed.current, wellFormed.current_outermost, wellFormed.previous⟩

/-- Untracking paths keeps exactly the entries of the other paths. -/
theorem mem_foldl_untrack {entry : String × List String} :
    ∀ (gone : List String) (tracked : List (String × List String)),
      entry ∈ gone.foldl untrack tracked ↔ entry ∈ tracked ∧ entry.1 ∉ gone
  | [], _ => by simp
  | path :: rest, tracked => by
    rw [List.foldl_cons, mem_foldl_untrack rest, untrack, List.mem_filter]
    simp only [ne_eq, decide_not, Bool.not_eq_eq_eq_not, Bool.not_true, decide_eq_false_iff_not,
      List.mem_cons, not_or]
    tauto

theorem foldl_untrack_sublist :
    ∀ (gone : List String) (tracked : List (String × List String)),
      (gone.foldl untrack tracked).Sublist tracked
  | [], _ => List.Sublist.refl _
  | _ :: rest, _ => (foldl_untrack_sublist rest _).trans List.filter_sublist

/-- A directory tracked after `track` was tracked before or is one of the added ones. -/
theorem dir_mem_of_mem_track {path dir : String} {dirs : List String}
    {entry : String × List String} :
    ∀ {tracked : List (String × List String)}, entry ∈ track path dirs tracked →
      dir ∈ entry.2 → dir ∈ dirs ∨ ∃ old ∈ tracked, dir ∈ old.2
  | [], member, inEntry => by
    simp only [track, List.mem_singleton] at member
    subst member
    exact Or.inl (PathSet.mem_ofList.mp inEntry)
  | (key, known) :: rest, member, inEntry => by
    simp only [track] at member
    split_ifs at member with before same
    · rcases List.mem_cons.mp member with rfl | old
      · exact Or.inl (PathSet.mem_ofList.mp inEntry)
      · exact Or.inr ⟨entry, old, inEntry⟩
    · rcases List.mem_cons.mp member with rfl | old
      · rcases PathSet.mem_union.mp inEntry with wasKnown | added
        · exact Or.inr ⟨(key, known), List.mem_cons_self, wasKnown⟩
        · exact Or.inl added
      · exact Or.inr ⟨entry, List.mem_cons_of_mem _ old, inEntry⟩
    · rcases List.mem_cons.mp member with rfl | later
      · exact Or.inr ⟨(key, known), List.mem_cons_self, inEntry⟩
      · rcases dir_mem_of_mem_track later inEntry with added | ⟨old, oldMember, inOld⟩
        · exact Or.inl added
        · exact Or.inr ⟨old, List.mem_cons_of_mem _ oldMember, inOld⟩

/-- Tracking snapshots whose directories are clean keeps every tracked directory clean. -/
theorem tracked_clean_foldl_track :
    ∀ (fresh : List Snapshot) {tracked : List (String × List String)},
      (∀ s ∈ fresh, ∀ dir ∈ s.directories, IsCleanAbs dir) →
      (∀ entry ∈ tracked, ∀ dir ∈ entry.2, IsCleanAbs dir) →
      ∀ entry ∈ fresh.foldl (fun acc s => track s.path s.directories acc) tracked,
        ∀ dir ∈ entry.2, IsCleanAbs dir
  | [], _, _, clean => clean
  | s :: rest, tracked, freshClean, clean => by
    refine tracked_clean_foldl_track rest
      (fun other member => freshClean other (List.mem_cons_of_mem s member)) ?_
    intro entry member dir inEntry
    rcases dir_mem_of_mem_track member inEntry with added | ⟨old, oldMember, inOld⟩
    · exact freshClean s List.mem_cons_self dir added
    · exact clean old oldMember dir inOld

theorem WellFormed.rescanned {reg : Registry} (wellFormed : reg.WellFormed) (gone : List String)
    {added fresh : List Snapshot} (checked : added.mapM checkSnapshot = .ok fresh) :
    (reg.rescanned gone fresh).WellFormed := by
  have freshClean : ∀ s ∈ fresh, ∀ dir ∈ s.directories, IsCleanAbs dir := by
    intro s member
    obtain ⟨input, -, passed⟩ := exists_of_mapM_eq_ok checked s member
    exact directories_clean_of_checkSnapshot passed
  have trackedClean := tracked_clean_foldl_track fresh freshClean fun entry member =>
    wellFormed.tracked_clean entry ((mem_foldl_untrack gone reg.tracked).mp member).1
  exact ⟨trackedClean, wellFormed.watched_increasing, wellFormed.current,
    wellFormed.current_outermost, wellFormed.previous⟩

/-- Paths that all pass the check come out clean and absolute. -/
theorem clean_of_checked {dirs clean : List String} (checked : dirs.mapM checkPath = .ok clean) :
    ∀ path ∈ clean, IsCleanAbs path := by
  intro path member
  obtain ⟨input, -, passed⟩ := exists_of_mapM_eq_ok checked path member
  exact isCleanAbs_of_checkPath passed

theorem WellFormed.declared {reg : Registry} (wellFormed : reg.WellFormed)
    {dirs clean : List String} (checked : dirs.mapM checkPath = .ok clean) :
    (reg.declared clean).WellFormed := by
  have cleanRoots := clean_of_checked checked
  have declaredRoots := RootSet.WellFormed.declare cleanRoots
  -- the declared roots are the reduction of the paths, so none lies inside another
  have outermost : ∀ root ∈ (RootSet.declare clean).roots,
      ∀ other ∈ (RootSet.declare clean).roots, isAncestor root.path other.path = false := by
    intro root member other otherMember
    exact Roots.reduce_antichain cleanRoots ((declaredRoots.2 root).mp member)
      ((declaredRoots.2 other).mp otherMember)
  exact ⟨wellFormed.tracked_clean, wellFormed.watched_increasing, declaredRoots.1, outermost,
    wellFormed.previous.removeAll _⟩

theorem WellFormed.changed {reg : Registry} (wellFormed : reg.WellFormed) (w : Watcher σ)
    (removed added : List Snapshot) (svc : σ) :
    (reg.changed w removed added svc).registry.WellFormed := by
  rcases changed_cases w removed added reg svc with ⟨e, refused⟩ | ⟨gone, fresh, -, checked, ran⟩
  · rw [refused]
    exact wellFormed
  · rw [ran]
    exact (wellFormed.rescanned gone checked).update w svc

theorem WellFormed.declareRoots {reg : Registry} (wellFormed : reg.WellFormed) (w : Watcher σ)
    (dirs : List String) (svc : σ) : (reg.declareRoots w dirs svc).registry.WellFormed := by
  rcases declareRoots_cases w dirs reg svc with ⟨e, refused⟩ | ⟨clean, checked, ran⟩
  · rw [refused]
    exact wellFormed
  · rw [ran]
    exact (wellFormed.declared checked).update w svc

theorem WellFormed.retired {reg : Registry} (wellFormed : reg.WellFormed) :
    reg.retired.WellFormed :=
  ⟨wellFormed.tracked_clean, wellFormed.watched_increasing, RootSet.wellFormed_empty,
    by simp [Registry.retired, RootSet.empty], (wellFormed.previous.addAll wellFormed.current).1⟩

theorem WellFormed.pruned {reg : Registry} (wellFormed : reg.WellFormed) :
    reg.pruned.WellFormed :=
  ⟨wellFormed.tracked_clean, wellFormed.watched_increasing, wellFormed.current,
    wellFormed.current_outermost, wellFormed.previous.keep _⟩

theorem WellFormed.finishBuild {reg : Registry} (wellFormed : reg.WellFormed) (w : Watcher σ)
    (svc : σ) : (reg.finishBuild w svc).registry.WellFormed := by
  rw [finishBuild_eq]
  exact (wellFormed.retired.update w svc).pruned

theorem WellFormed.run {reg : Registry} (wellFormed : reg.WellFormed) (w : Watcher σ)
    (call : Call) (svc : σ) : (call.run w reg svc).registry.WellFormed := by
  cases call with
  | declareRoots dirs => exact wellFormed.declareRoots w dirs svc
  | changed removed added => exact wellFormed.changed w removed added svc
  | finishBuild => exact wellFormed.finishBuild w svc

/-- Every registry a run of calls passes through is reachable. -/
theorem Reachable.runAll {reg : Registry} (reachable : reg.Reachable) (w : Watcher σ)
    (calls : List Call) (svc : σ) : (Call.runAll w calls reg svc).1.Reachable := by
  induction calls generalizing reg svc with
  | nil => exact reachable
  | cons call rest ih =>
    simp only [Call.runAll]
    exact ih (Reachable.step w svc call reachable) _

/-- **Every reachable registry is well formed.** -/
theorem Reachable.wellFormed {reg : Registry} (reachable : reg.Reachable) : reg.WellFormed := by
  induction reachable with
  | empty => exact wellFormed_empty
  | step w svc call _ ih => exact ih.run w call svc

end Registry

end StableWatch
