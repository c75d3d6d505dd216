import StableWatch.Proofs.Outermost
import StableWatch.Proofs.Registry.Validation
/-!
# Registry calls read their inputs as sets

A declaration of roots and a report of a rescan whose paths are all absolute depend only on the
sets their inputs make once cleaned: the set of cleaned roots; the set of cleaned paths of the
dropped snapshots, and the set of recorded snapshots cleaned (`Snapshot.normalized`). Permuting a
list, repeating an entry, or spelling a path another way that cleans to the same path (a trailing
or doubled slash, a `.` component) gives the same registry, the same requests to the watcher and
the same answer (`registry_calls_read_inputs_as_sets`).

For roots this is `Roots.reduce_congr`. For a report it rests on how the registry keeps its
tracked requirements (`Registry.TrackedTidy`): increasing by path, each with an increasing list of
directories, as every reachable registry does (`Registry.Reachable.trackedTidy`). Two such lists
with the same paths and the same directories under each path are the same list
(`Registry.TrackedTidy.ext`), and untracking and tracking change the paths and the directories
under them in a way that only the sets of their arguments decide (`Registry.mem_keys_track`,
`Registry.requires_track`, and their folds), so the tracked requirements after a report are
decided by those sets too (`Registry.rescanned_congr`).
-/

namespace StableWatch

open StableWatch.Path

namespace Registry

variable {σ : Type}

/-! ### Tracked requirements -/

/-- The tracked requirements name the directory `dir` under the path `key`. -/
def Requires (tracked : List (String × List String)) (key dir : String) : Prop :=
  ∃ dirs, (key, dirs) ∈ tracked ∧ dir ∈ dirs

@[simp]
theorem requires_nil {key dir : String} : ¬ Requires [] key dir := by
  simp [Requires]

@[simp]
theorem requires_cons {key dir path : String} {dirs : List String}
    {rest : List (String × List String)} :
    Requires ((path, dirs) :: rest) key dir ↔ (key = path ∧ dir ∈ dirs) ∨ Requires rest key dir := by
  simp only [Requires, List.mem_cons, Prod.mk.injEq]
  constructor
  · rintro ⟨found, ⟨rfl, rfl⟩ | later, member⟩
    · exact Or.inl ⟨rfl, member⟩
    · exact Or.inr ⟨found, later, member⟩
  · rintro (⟨rfl, member⟩ | ⟨found, later, member⟩)
    · exact ⟨dirs, Or.inl ⟨rfl, rfl⟩, member⟩
    · exact ⟨found, Or.inr later, member⟩

/-- Tracked requirements as the registry keeps them: increasing by path, each with an increasing
list of directories. -/
structure TrackedTidy (tracked : List (String × List String)) : Prop where
  increasing : KeysIncrease tracked
  dirs_increasing : ∀ entry ∈ tracked, entry.2.Pairwise (· < ·)

/-- An entry of tidy requirements is an entry of any tidy requirements with the same paths and
the same directories under each: the path is there, with an increasing list of the same
directories. -/
theorem TrackedTidy.mem_of_same {tracked other : List (String × List String)}
    (tidy : TrackedTidy tracked) (tidy' : TrackedTidy other)
    (sameKeys : ∀ key, key ∈ tracked.map Prod.fst ↔ key ∈ other.map Prod.fst)
    (sameDirs : ∀ key dir, Requires tracked key dir ↔ Requires other key dir)
    {entry : String × List String} (member : entry ∈ tracked) : entry ∈ other := by
  obtain ⟨key, known⟩ := entry
  obtain ⟨⟨key', found⟩, foundMember, sameKey⟩ :=
    List.mem_map.mp ((sameKeys key).mp (List.mem_map_of_mem member))
  dsimp only at sameKey
  subst sameKey
  have sameMembers : ∀ dir, dir ∈ found ↔ dir ∈ known := by
    intro dir
    constructor
    · intro inFound
      obtain ⟨dirs, inTracked, inDirs⟩ := (sameDirs key' dir).mpr ⟨found, foundMember, inFound⟩
      have same := tidy.increasing.eq_of_key_eq inTracked member rfl
      rw [Prod.mk.injEq] at same
      exact same.2 ▸ inDirs
    · intro inKnown
      obtain ⟨dirs, inOther, inDirs⟩ := (sameDirs key' dir).mp ⟨known, member, inKnown⟩
      have same := tidy'.increasing.eq_of_key_eq inOther foundMember rfl
      rw [Prod.mk.injEq] at same
      exact same.2 ▸ inDirs
  have sameList : found = known := PathSet.eq_of_mem_iff
    (tidy'.dirs_increasing _ foundMember) (tidy.dirs_increasing _ member) sameMembers
  rw [← sameList]
  exact foundMember

/-- **Tidy requirements are decided by their paths and the directories under each.** -/
theorem TrackedTidy.ext {tracked other : List (String × List String)}
    (tidy : TrackedTidy tracked) (tidy' : TrackedTidy other)
    (sameKeys : ∀ key, key ∈ tracked.map Prod.fst ↔ key ∈ other.map Prod.fst)
    (sameDirs : ∀ key dir, Requires tracked key dir ↔ Requires other key dir) :
    tracked = other :=
  tidy.increasing.ext tidy'.increasing fun _ =>
    ⟨tidy.mem_of_same tidy' sameKeys sameDirs,
      tidy'.mem_of_same tidy (fun key => (sameKeys key).symm) (fun key dir => (sameDirs key dir).symm)⟩

/-! ### Tracking and untracking -/

@[simp]
theorem mem_keys_track {path key : String} {dirs : List String} :
    ∀ {tracked : List (String × List String)},
      key ∈ (track path dirs tracked).map Prod.fst ↔ key = path ∨ key ∈ tracked.map Prod.fst
  | [] => by simp [track]
  | (top, known) :: rest => by
    unfold track
    split_ifs with before same
    · simp
    · subst same
      simp
    · simp only [List.map_cons, List.mem_cons, mem_keys_track]
      tauto

@[simp]
theorem requires_track {path key dir : String} {dirs : List String} :
    ∀ {tracked : List (String × List String)},
      Requires (track path dirs tracked) key dir ↔
        Requires tracked key dir ∨ (key = path ∧ dir ∈ dirs)
  | [] => by simp [track]
  | (top, known) :: rest => by
    unfold track
    split_ifs with before same
    · simp only [requires_cons, PathSet.mem_ofList]
      tauto
    · -- the path is tracked already: its directories grow
      subst same
      simp only [requires_cons, PathSet.mem_union]
      tauto
    · simp only [requires_cons, requires_track]
      tauto

theorem dirs_increasing_track (path : String) (dirs : List String) :
    ∀ {tracked : List (String × List String)}, (∀ entry ∈ tracked, entry.2.Pairwise (· < ·)) →
      ∀ entry ∈ track path dirs tracked, entry.2.Pairwise (· < ·)
  | [], _, entry, member => by
    unfold track at member
    rw [List.mem_singleton.mp member]
    exact PathSet.pairwise_ofList dirs
  | (top, known) :: rest, increasing, entry, member => by
    unfold track at member
    split_ifs at member with before same
    · rcases List.mem_cons.mp member with rfl | later
      · exact PathSet.pairwise_ofList dirs
      · exact increasing entry later
    · rcases List.mem_cons.mp member with rfl | later
      · exact PathSet.pairwise_union dirs (increasing _ List.mem_cons_self)
      · exact increasing entry (List.mem_cons_of_mem _ later)
    · rcases List.mem_cons.mp member with rfl | later
      · exact increasing _ List.mem_cons_self
      · exact dirs_increasing_track path dirs
          (fun other member => increasing other (List.mem_cons_of_mem _ member)) entry later

theorem TrackedTidy.track {tracked : List (String × List String)} (tidy : TrackedTidy tracked)
    (path : String) (dirs : List String) : TrackedTidy (Registry.track path dirs tracked) :=
  ⟨keysIncrease_track path dirs tidy.increasing, dirs_increasing_track path dirs tidy.dirs_increasing⟩

/-- Tracking snapshots in turn tracks every path of them, each with the directories of all its
snapshots. -/
theorem keys_foldl_track {key : String} :
    ∀ (fresh : List Snapshot) (tracked : List (String × List String)),
      key ∈ (fresh.foldl (fun acc s => track s.path s.directories acc) tracked).map Prod.fst ↔
        key ∈ tracked.map Prod.fst ∨ ∃ s ∈ fresh, s.path = key
  | [], _ => by simp
  | s :: rest, tracked => by
    rw [List.foldl_cons, keys_foldl_track rest, mem_keys_track]
    simp only [List.mem_cons, exists_eq_or_imp]
    tauto

theorem requires_foldl_track {key dir : String} :
    ∀ (fresh : List Snapshot) (tracked : List (String × List String)),
      Requires (fresh.foldl (fun acc s => track s.path s.directories acc) tracked) key dir ↔
        Requires tracked key dir ∨ ∃ s ∈ fresh, s.path = key ∧ dir ∈ s.directories
  | [], _ => by simp
  | s :: rest, tracked => by
    rw [List.foldl_cons, requires_foldl_track rest, requires_track]
    simp only [List.mem_cons, exists_eq_or_imp]
    tauto

theorem TrackedTidy.foldl_track :
    ∀ (fresh : List Snapshot) {tracked : List (String × List String)}, TrackedTidy tracked →
      TrackedTidy (fresh.foldl (fun acc s => Registry.track s.path s.directories acc) tracked)
  | [], _, tidy => tidy
  | s :: rest, _, tidy => TrackedTidy.foldl_track rest (tidy.track s.path s.directories)

theorem keys_foldl_untrack {key : String} (gone : List String)
    (tracked : List (String × List String)) :
    key ∈ (gone.foldl untrack tracked).map Prod.fst ↔ key ∈ tracked.map Prod.fst ∧ key ∉ gone := by
  simp only [List.mem_map, mem_foldl_untrack]
  constructor
  · rintro ⟨entry, ⟨member, kept⟩, rfl⟩
    exact ⟨⟨entry, member, rfl⟩, kept⟩
  · rintro ⟨⟨entry, member, rfl⟩, kept⟩
    exact ⟨entry, ⟨member, kept⟩, rfl⟩

theorem requires_foldl_untrack {key dir : String} (gone : List String)
    (tracked : List (String × List String)) :
    Requires (gone.foldl untrack tracked) key dir ↔ Requires tracked key dir ∧ key ∉ gone := by
  simp only [Requires, mem_foldl_untrack]
  constructor
  · rintro ⟨dirs, ⟨member, kept⟩, inDirs⟩
    exact ⟨⟨dirs, member, inDirs⟩, kept⟩
  · rintro ⟨⟨dirs, member, inDirs⟩, kept⟩
    exact ⟨dirs, ⟨member, kept⟩, inDirs⟩

theorem TrackedTidy.foldl_untrack {tracked : List (String × List String)}
    (tidy : TrackedTidy tracked) (gone : List String) : TrackedTidy (gone.foldl untrack tracked) :=
  ⟨tidy.increasing.sublist (foldl_untrack_sublist gone tracked),
    fun entry member => tidy.dirs_increasing entry ((foldl_untrack_sublist gone tracked).subset member)⟩

theorem TrackedTidy.rescanned {reg : Registry} (tidy : TrackedTidy reg.tracked) (gone : List String)
    (fresh : List Snapshot) : TrackedTidy (reg.rescanned gone fresh).tracked :=
  TrackedTidy.foldl_track fresh (tidy.foldl_untrack gone)

/-- **The tracked requirements after a report depend only on the set of dropped paths and the set
of recorded snapshots.** -/
theorem rescanned_congr {reg : Registry} (tidy : TrackedTidy reg.tracked) {gone gone' : List String}
    {fresh fresh' : List Snapshot} (sameGone : ∀ path, path ∈ gone ↔ path ∈ gone')
    (sameFresh : ∀ s, s ∈ fresh ↔ s ∈ fresh') :
    reg.rescanned gone fresh = reg.rescanned gone' fresh' := by
  have tracked : (reg.rescanned gone fresh).tracked = (reg.rescanned gone' fresh').tracked := by
    refine (tidy.rescanned gone fresh).ext (tidy.rescanned gone' fresh') (fun key => ?_)
      (fun key dir => ?_)
    · simp only [rescanned, keys_foldl_track, keys_foldl_untrack, sameGone, sameFresh]
    · simp only [rescanned, requires_foldl_track, requires_foldl_untrack, sameGone, sameFresh]
  simp only [rescanned] at tracked ⊢
  rw [tracked]

/-- Every reachable registry keeps its tracked requirements tidy. -/
theorem Reachable.trackedTidy {reg : Registry} (reachable : reg.Reachable) :
    TrackedTidy reg.tracked := by
  induction reachable with
  | empty => exact ⟨List.Pairwise.nil, fun _ member => by cases member⟩
  | @step reg τ w svc call _ ih =>
    cases call with
    | declareRoots dirs =>
      simp only [Call.run, declareRoots_tracked]
      exact ih
    | changed removed added =>
      rcases changed_cases w removed added reg svc with ⟨_, refused⟩ | ⟨gone, fresh, -, -, ran⟩
      · simp only [Call.run, refused]
        exact ih
      · simp only [Call.run, ran, update_tracked]
        exact ih.rescanned gone fresh
    | finishBuild =>
      simp only [Call.run, finishBuild_tracked]
      exact ih

/-! ### Declared roots -/

/-- The roots a declaration leads to depend only on the set of the cleaned roots. -/
theorem declared_congr {reg : Registry} {roots roots' : List String}
    (same : ∀ path, path ∈ roots.map clean ↔ path ∈ roots'.map clean) :
    reg.declared roots = reg.declared roots' := by
  unfold declared RootSet.declare
  rw [Roots.reduce_congr same]

theorem map_clean_clean (paths : List String) : (paths.map clean).map clean = paths.map clean := by
  simp only [List.map_map, Function.comp_def, clean_clean]

/-- **A registry call reads its paths as sets.** With every path absolute, declaring roots gives
the same outcome (registry, watcher state and answer) for any two lists with the same cleaned
roots; from any reachable registry, a report gives the same outcome for any two reports with the
same cleaned paths of dropped snapshots and the same recorded snapshots once cleaned. So
permuting a list, repeating entries, or respelling a path by another that cleans to it changes
neither the registry, nor the requests the watcher receives, nor the result. -/
theorem registry_calls_read_inputs_as_sets (w : Watcher σ) (reg : Registry) (svc : σ) :
    (∀ dirs dirs' : List String, (∀ dir ∈ dirs, isAbs dir = true) →
      (∀ dir ∈ dirs', isAbs dir = true) →
      (∀ path, path ∈ dirs.map clean ↔ path ∈ dirs'.map clean) →
        reg.declareRoots w dirs svc = reg.declareRoots w dirs' svc) ∧
    (reg.Reachable → ∀ removed removed' added added' : List Snapshot,
      (∀ s ∈ removed ++ removed', isAbs s.path = true) → (∀ s ∈ added ++ added', s.Absolute) →
      (∀ path, path ∈ removed.map (fun s => clean s.path) ↔
        path ∈ removed'.map (fun s => clean s.path)) →
      (∀ s, s ∈ added.map Snapshot.normalized ↔ s ∈ added'.map Snapshot.normalized) →
        reg.changed w removed added svc = reg.changed w removed' added' svc) := by
  refine ⟨fun dirs dirs' absolute absolute' same => ?_,
    fun reachable removed removed' added added' absoluteRemoved absoluteAdded sameRemoved
      sameAdded => ?_⟩
  · have sameRoots : ∀ path, path ∈ (dirs.map clean).map clean ↔
        path ∈ (dirs'.map clean).map clean := by
      simpa only [map_clean_clean] using same
    rw [declareRoots_of_checked w reg svc (mapM_checkPath_of_isAbs absolute),
      declareRoots_of_checked w reg svc (mapM_checkPath_of_isAbs absolute'),
      declared_congr sameRoots]
  · rw [changed_of_absolute w reg svc (fun s member => absoluteRemoved s (List.mem_append_left _ member))
        (fun s member => absoluteAdded s (List.mem_append_left _ member)),
      changed_of_absolute w reg svc (fun s member => absoluteRemoved s (List.mem_append_right _ member))
        (fun s member => absoluteAdded s (List.mem_append_right _ member)),
      rescanned_congr reachable.trackedTidy sameRemoved sameAdded]

/-- Roots given in another order, with a trailing slash and a `.` component, and a report that
records one snapshot twice, once under a doubled slash, lead to the same outcomes. -/
theorem respelled_inputs_agree :
    Registry.empty.declareRoots DryRun.watcher ["/b", "/a/"] {} =
      Registry.empty.declareRoots DryRun.watcher ["/a", "/b/.", "/b"] {} ∧
    Registry.empty.changed DryRun.watcher [] [{ path := "/a//x" }, { path := "/a/x" }] {} =
      Registry.empty.changed DryRun.watcher [] [{ path := "/a/x" }] {} := by
  have roots : ["/b", "/a/"].map clean = ["/b", "/a"] := by decide
  have roots' : ["/a", "/b/.", "/b"].map clean = ["/a", "/b", "/b"] := by decide
  have recorded : ([{ path := "/a//x" }, { path := "/a/x" }] : List Snapshot).map
      Snapshot.normalized = [{ path := "/a/x" }, { path := "/a/x" }] := by decide
  have recorded' : ([{ path := "/a/x" }] : List Snapshot).map Snapshot.normalized =
      [{ path := "/a/x" }] := by decide
  have sets := registry_calls_read_inputs_as_sets DryRun.watcher Registry.empty {}
  refine ⟨sets.1 _ _ (by decide) (by decide) fun path => ?_,
    sets.2 .empty [] [] _ _ (by decide) (by decide) (fun path => Iff.rfl) fun s => ?_⟩
  · rw [roots, roots']
    simp only [List.mem_cons, List.not_mem_nil, or_false]
    tauto
  · rw [recorded, recorded']
    simp only [List.mem_cons, List.not_mem_nil, or_false, or_self]

end Registry

end StableWatch
