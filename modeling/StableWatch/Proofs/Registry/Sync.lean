import Mathlib
import StableWatch.Backend.DryRun
import StableWatch.Proofs.Tracker.Entries
/-!
# A registry in step with a tracker

The tracker finds what the tracked paths are; the registry keeps, for each, the directories its
snapshot needs watched. The two are kept in step by handing every scan's report to
`Registry.changed`, which untracks the paths of the snapshots reported dropped and then tracks the
snapshots reported recorded.

A scan reports a changed path twice, its old snapshot as dropped and its new one as recorded, so
the registry forgets what the old snapshot needed before it learns what the new one needs. With
that, one report brings a registry tracking the requirements of the old entries to one tracking
the requirements of the new entries, whatever they are (`rescanned_tracked`): every path untracked
is one whose entry is gone or changed, and every path tracked afterwards is new to the registry,
so tracking only adds it.

`Coupled` lists what can happen to a tracker and a registry started together: locations replaced,
a scan of any file system reported at once, roots declared and builds ended, each registry call
against any watcher in any state. Every pair it reaches is in step
(`registry_tracks_tracker_snapshots`): the registry tracks exactly the tracker's paths, each with
exactly the directories of its current snapshot, so nothing an earlier snapshot needed survives.
-/

namespace StableWatch

open StableWatch.Path

/-- What a registry tracks for a snapshot: its path, with the directories it needs watched. -/
def Snapshot.requirement (s : Snapshot) : String × List String :=
  (s.path, PathSet.ofList s.directories)

namespace Registry

variable {σ : Type}

/-! ### Tracking a path -/

/-- An entry after tracking a path is under that path or was there before. -/
theorem mem_track {path : String} {dirs : List String} {item : String × List String} :
    ∀ {tracked : List (String × List String)}, item ∈ track path dirs tracked →
      item.1 = path ∨ item ∈ tracked
  | [], member => by
    rw [List.mem_singleton.mp member]
    exact Or.inl rfl
  | (key, known) :: rest, member => by
    unfold track at member
    split_ifs at member with before same
    · rcases List.mem_cons.mp member with rfl | later
      · exact Or.inl rfl
      · exact Or.inr later
    · rcases List.mem_cons.mp member with rfl | later
      · exact Or.inl same.symm
      · exact Or.inr (List.mem_cons_of_mem _ later)
    · rcases List.mem_cons.mp member with rfl | later
      · exact Or.inr List.mem_cons_self
      · rcases mem_track later with tracking | old
        · exact Or.inl tracking
        · exact Or.inr (List.mem_cons_of_mem _ old)

theorem keysIncrease_track (path : String) (dirs : List String) :
    ∀ {tracked : List (String × List String)}, KeysIncrease tracked →
      KeysIncrease (track path dirs tracked)
  | [], _ => List.pairwise_singleton _ _
  | (key, known) :: rest, increasing => by
    obtain ⟨below, restIncreasing⟩ := List.pairwise_cons.mp increasing
    unfold track
    split_ifs with before same
    · refine List.Pairwise.cons (fun item member => ?_) increasing
      rcases List.mem_cons.mp member with rfl | later
      · exact before
      · exact before.trans (below item later)
    · exact List.Pairwise.cons below restIncreasing
    · -- the path goes further down, past a smaller key
      have after : key < path := lt_of_le_of_ne (not_lt.mp before) (Ne.symm same)
      refine List.Pairwise.cons (fun item member => ?_) (keysIncrease_track path dirs restIncreasing)
      rcases mem_track member with rfl | old
      · exact after
      · exact below item old

/-- Tracking a path not tracked yet adds it with its directories, and nothing else. -/
theorem mem_track_of_fresh {path : String} {dirs : List String} (item : String × List String) :
    ∀ {tracked : List (String × List String)}, (∀ old ∈ tracked, old.1 ≠ path) →
      (item ∈ track path dirs tracked ↔ item = (path, PathSet.ofList dirs) ∨ item ∈ tracked)
  | [], _ => by simp [track]
  | (key, known) :: rest, fresh => by
    have notKey : path ≠ key := fun same => fresh (key, known) List.mem_cons_self same.symm
    unfold track
    split_ifs with before
    · exact List.mem_cons
    · rw [List.mem_cons, List.mem_cons,
        mem_track_of_fresh item fun old member => fresh old (List.mem_cons_of_mem _ member)]
      tauto

/-- **Tracking snapshots of new, distinct paths** adds their requirements, in place. -/
theorem foldl_track_fresh :
    ∀ (fresh : List Snapshot) {tracked : List (String × List String)}, KeysIncrease tracked →
      fresh.Pairwise (fun s s' => s.path < s'.path) →
      (∀ s ∈ fresh, ∀ old ∈ tracked, old.1 ≠ s.path) →
      KeysIncrease (fresh.foldl (fun acc s => track s.path s.directories acc) tracked) ∧
        ∀ item, item ∈ fresh.foldl (fun acc s => track s.path s.directories acc) tracked ↔
          item ∈ tracked ∨ ∃ s ∈ fresh, s.requirement = item
  | [], _, increasing, _, _ => ⟨increasing, fun item => by simp⟩
  | s :: rest, tracked, increasing, distinct, absent => by
    obtain ⟨below, restDistinct⟩ := List.pairwise_cons.mp distinct
    have first : ∀ item, item ∈ track s.path s.directories tracked ↔
        item = (s.path, PathSet.ofList s.directories) ∨ item ∈ tracked :=
      fun item => mem_track_of_fresh item (absent s List.mem_cons_self)
    -- the later snapshots are new to the registry that tracks `s` too
    have restAbsent : ∀ s' ∈ rest, ∀ old ∈ track s.path s.directories tracked, old.1 ≠ s'.path := by
      intro s' later old member
      rcases mem_track member with tracking | wasOld
      · rw [tracking]
        exact (below s' later).ne
      · exact absent s' (List.mem_cons_of_mem _ later) old wasOld
    obtain ⟨restIncreasing, restMembers⟩ := foldl_track_fresh rest
      (keysIncrease_track s.path s.directories increasing) restDistinct restAbsent
    refine ⟨restIncreasing, fun item => ?_⟩
    rw [List.foldl_cons, restMembers, first]
    simp only [List.mem_cons, or_and_right, exists_or, exists_eq_left, Snapshot.requirement,
      @eq_comm _ item]
    tauto

/-! ### Reports of clean snapshots -/

/-- A clean snapshot passes the check as it is. -/
theorem checkSnapshot_of_clean {s : Snapshot} (clean : s.Clean) : checkSnapshot s = .ok s := by
  obtain ⟨path, kind, resolvedPath, resolvedKind⟩ := s
  obtain ⟨cleanPath, unlinked | cleanTarget⟩ := clean
  · dsimp only at cleanPath unlinked
    subst unlinked
    unfold checkSnapshot
    rw [checkPath_of_isCleanAbs cleanPath]
    rfl
  · dsimp only at cleanPath cleanTarget
    have linked : resolvedPath ≠ "" := by
      rintro rfl
      cases cleanTarget.1
    unfold checkSnapshot
    simp only [checkPath_of_isCleanAbs cleanPath, linked, if_false,
      checkPath_of_isCleanAbs cleanTarget]
    rfl

/-- Reports of clean snapshots pass the check: the registry untracks the paths of the dropped
snapshots, tracks the recorded ones, and updates. -/
theorem changed_of_clean (w : Watcher σ) {removed added : List Snapshot}
    (cleanRemoved : ∀ s ∈ removed, s.Clean) (cleanAdded : ∀ s ∈ added, s.Clean) (reg : Registry)
    (svc : σ) :
    reg.changed w removed added svc = update w (reg.rescanned (removed.map (·.path)) added) svc := by
  have goneChecked : removed.mapM (fun s => checkPath s.path) = .ok (removed.map (·.path)) :=
    mapM_eq_ok_of_forall fun s member => checkPath_of_isCleanAbs (cleanRemoved s member).1
  have freshChecked : added.mapM checkSnapshot = .ok added := by
    rw [@mapM_eq_ok_of_forall _ _ _ checkSnapshot id added
      fun s member => checkSnapshot_of_clean (cleanAdded s member), List.map_id]
  unfold changed
  simp only [goneChecked, freshChecked, bind, Except.bind, pure, Except.pure]
  rfl

/-! ### One report -/

section Report

open Tracker

variable {old new : List (String × TrackedEntry)} (oldTidy : TidyEntries old)
  (newTidy : TidyEntries new)

/-- The requirements of tidy entries are keyed by the entries' paths. -/
theorem keysIncrease_requirements {entries : List (String × TrackedEntry)}
    (tidy : TidyEntries entries) : KeysIncrease (entries.map (·.2.snapshot.requirement)) := by
  refine List.pairwise_map.mpr (tidy.increasing.imp_of_mem fun member member' before => ?_)
  simp only [Snapshot.requirement]
  rw [(tidy.tidy _ member).1, (tidy.tidy _ member').1]
  exact before

include oldTidy newTidy in
/-- The path of an old entry is reported dropped exactly when the entry is not a new one. -/
theorem mem_dropped_iff {item : String × TrackedEntry} (member : item ∈ old) :
    item.1 ∈ (differing old new).map (·.path) ↔ item ∉ new := by
  constructor
  · rintro dropped
    obtain ⟨s, reported, samePath⟩ := List.mem_map.mp dropped
    obtain ⟨other, otherMember, missing, rfl⟩ := (mem_differing newTidy.increasing).mp reported
    have same : other = item := oldTidy.increasing.eq_of_key_eq otherMember member
      ((oldTidy.tidy other otherMember).1.symm.trans samePath)
    rw [← same]
    exact missing
  · intro missing
    refine List.mem_map.mpr ⟨item.2.snapshot,
      (mem_differing newTidy.increasing).mpr ⟨item, member, missing, rfl⟩, ?_⟩
    exact (oldTidy.tidy item member).1

include oldTidy newTidy in
/-- Untracking the paths reported dropped keeps the requirements of the old entries that are new
entries too. -/
theorem mem_untracked_iff {reg : Registry}
    (synced : reg.tracked = old.map (·.2.snapshot.requirement)) (item : String × List String) :
    item ∈ ((differing old new).map (·.path)).foldl untrack reg.tracked ↔
      ∃ entry ∈ old, entry ∈ new ∧ entry.2.snapshot.requirement = item := by
  rw [mem_foldl_untrack, synced, List.mem_map]
  constructor
  · rintro ⟨⟨entry, entryOld, rfl⟩, notDropped⟩
    have keyed : entry.2.snapshot.requirement.1 = entry.1 := (oldTidy.tidy entry entryOld).1
    rw [keyed, mem_dropped_iff oldTidy newTidy entryOld, not_not] at notDropped
    exact ⟨entry, entryOld, notDropped, rfl⟩
  · rintro ⟨entry, entryOld, entryNew, rfl⟩
    have keyed : entry.2.snapshot.requirement.1 = entry.1 := (oldTidy.tidy entry entryOld).1
    refine ⟨⟨entry, entryOld, rfl⟩, ?_⟩
    rw [keyed, mem_dropped_iff oldTidy newTidy entryOld, not_not]
    exact entryNew

include oldTidy newTidy in
/-- **Reporting a scan brings the registry along.** A registry tracking the requirements of the
snapshots of tidy entries `old`, told what tidy entries `new` drop and record against them, tracks
the requirements of the snapshots of `new`. -/
theorem rescanned_tracked {reg : Registry}
    (synced : reg.tracked = old.map (·.2.snapshot.requirement)) :
    (reg.rescanned ((differing old new).map (·.path)) (differing new old)).tracked =
      new.map (·.2.snapshot.requirement) := by
  have untracked := mem_untracked_iff oldTidy newTidy synced
  have keptIncreasing : KeysIncrease (((differing old new).map (·.path)).foldl untrack reg.tracked) :=
    (synced ▸ keysIncrease_requirements oldTidy).sublist (foldl_untrack_sublist _ _)
  -- every recorded snapshot is of a path no longer tracked: a kept entry is old, a recorded one not
  have absent : ∀ s ∈ differing new old,
      ∀ item ∈ ((differing old new).map (·.path)).foldl untrack reg.tracked, item.1 ≠ s.path := by
    intro s recorded item member samePath
    obtain ⟨entry, entryOld, entryNew, rfl⟩ := (untracked item).mp member
    obtain ⟨other, otherNew, missing, rfl⟩ := (mem_differing oldTidy.increasing).mp recorded
    have same : entry = other := newTidy.increasing.eq_of_key_eq entryNew otherNew
      ((newTidy.tidy entry entryNew).1.symm.trans (samePath.trans (newTidy.tidy other otherNew).1))
    exact missing (same ▸ entryOld)
  obtain ⟨increasing, members⟩ := foldl_track_fresh (differing new old) keptIncreasing
    (pairwise_differing newTidy old) absent
  refine KeysIncrease.ext increasing (keysIncrease_requirements newTidy) fun item => ?_
  rw [members item, untracked item]
  constructor
  · rintro (⟨entry, -, entryNew, rfl⟩ | ⟨s, recorded, rfl⟩)
    · exact List.mem_map_of_mem entryNew
    · obtain ⟨entry, entryNew, -, rfl⟩ := (mem_differing oldTidy.increasing).mp recorded
      exact List.mem_map_of_mem entryNew
  · intro member
    obtain ⟨entry, entryNew, rfl⟩ := List.mem_map.mp member
    by_cases entryOld : entry ∈ old
    · -- an entry that did not change stays tracked
      exact Or.inl ⟨entry, entryOld, entryNew, rfl⟩
    · -- a new or changed one is recorded
      exact Or.inr ⟨entry.2.snapshot,
        (mem_differing oldTidy.increasing).mpr ⟨entry, entryNew, entryOld, rfl⟩, rfl⟩

end Report

/-! ### Scans reported at once -/

theorem snapshots_map_requirement (t : Tracker) :
    t.snapshots.map Snapshot.requirement = t.entries.map (·.2.snapshot.requirement) := by
  rw [Tracker.snapshots, List.map_map]
  rfl

/-- The report of a scan by a tidy tracker, of a file system that names entries cleanly, passes the
check: the registry untracks the paths the scan dropped, tracks what it recorded, and updates. -/
theorem changed_scan {t : Tracker} (tidy : t.Tidy) {view : FsView}
    (childrenClean : view.ChildrenClean) (w : Watcher σ) (reg : Registry) (svc : σ) :
    reg.changed w (t.scan view).1.removed (t.scan view).1.added svc =
      update w (reg.rescanned ((t.scan view).1.removed.map (·.path)) (t.scan view).1.added) svc := by
  obtain ⟨removedClean, addedClean, -⟩ := tidy.scan_clean childrenClean
  exact changed_of_clean w removedClean addedClean reg svc

/-- **A scan reported at once keeps the registry in step** with a tidy tracker, on a file system
that names entries cleanly, against any watcher. -/
theorem scan_synced {t : Tracker} (tidy : t.Tidy) {view : FsView}
    (childrenClean : view.ChildrenClean) {reg : Registry}
    (synced : reg.tracked = t.snapshots.map Snapshot.requirement) (w : Watcher σ) (svc : σ) :
    (reg.changed w (t.scan view).1.removed (t.scan view).1.added svc).registry.tracked =
      (t.scan view).2.snapshots.map Snapshot.requirement := by
  have newTidy := (tidy.scan childrenClean).entries
  rw [changed_scan tidy childrenClean, update_tracked, snapshots_map_requirement]
  simp only [Tracker.scan] at newTidy ⊢
  exact rescanned_tracked tidy.entries newTidy (synced.trans (snapshots_map_requirement t))

/-- A registry tracking the requirements of some snapshots requires the directories they need. -/
theorem required_eq_of_tracked {reg : Registry} {snapshots : List Snapshot}
    (synced : reg.tracked = snapshots.map Snapshot.requirement) :
    reg.required = PathSet.ofList (snapshots.flatMap Snapshot.directories) := by
  unfold required
  rw [synced]
  apply PathSet.eq_of_mem_iff (PathSet.pairwise_ofList _) (PathSet.pairwise_ofList _)
  intro dir
  simp [PathSet.mem_ofList, Snapshot.requirement]

end Registry

/-! ### A tracker and a registry run together -/

/-- What can happen to a tracker and a registry started together: the tracker's locations are
replaced, a scan of a file system is reported to the registry at once, and the registry declares
roots and ends builds; each registry call is made against any watcher in any state, so any of
them may fail. A scanned file system may be any that names the entries of a directory by clean
absolute paths, as the host's does, and it may change in any way between scans. -/
inductive Coupled : Tracker → Registry → Prop
  | start {locations : List String} {t : Tracker} :
      Tracker.create locations = .ok t → Coupled t Registry.empty
  | setLocations {t t' : Tracker} {reg : Registry} {locations : List String} :
      Coupled t reg → t.setLocations locations = .ok t' → Coupled t' reg
  | scan {t : Tracker} {reg : Registry} {σ : Type} (view : FsView) (w : Watcher σ) (svc : σ) :
      view.ChildrenClean → Coupled t reg →
      Coupled (t.scan view).2
        (reg.changed w (t.scan view).1.removed (t.scan view).1.added svc).registry
  | declareRoots {t : Tracker} {reg : Registry} {σ : Type} (w : Watcher σ) (svc : σ)
      (dirs : List String) : Coupled t reg → Coupled t (reg.declareRoots w dirs svc).registry
  | finishBuild {t : Tracker} {reg : Registry} {σ : Type} (w : Watcher σ) (svc : σ) :
      Coupled t reg → Coupled t (reg.finishBuild w svc).registry

/-- Every pair a run reaches has a tidy tracker and a registry tracking the requirements of its
snapshots. -/
theorem Coupled.synced {t : Tracker} {reg : Registry} (coupled : Coupled t reg) :
    t.Tidy ∧ reg.tracked = t.snapshots.map Snapshot.requirement := by
  induction coupled with
  | start created =>
    refine ⟨Tracker.Tidy.create created, ?_⟩
    obtain ⟨_, _, rfl⟩ := Tracker.create_eq_ok created
    rfl
  | setLocations _ replaced ih =>
    refine ⟨ih.1.setLocations replaced, ?_⟩
    obtain ⟨_, _, rfl⟩ := Tracker.setLocations_eq_ok replaced
    exact ih.2
  | scan view w svc childrenClean _ ih =>
    exact ⟨ih.1.scan childrenClean, Registry.scan_synced ih.1 childrenClean ih.2 w svc⟩
  | declareRoots w svc dirs _ ih =>
    rw [Registry.declareRoots_tracked]
    exact ih
  | finishBuild w svc _ ih =>
    rw [Registry.finishBuild_tracked]
    exact ih

/-- **The registry tracks exactly what the tracker found.** However a tracker and a registry
started together are run, the registry tracks the paths of the tracker's snapshots, each with
exactly the directories its current snapshot needs watched, as many as the tracker has; the
directories it requires are those all snapshots need. -/
theorem registry_tracks_tracker_snapshots {t : Tracker} {reg : Registry} (coupled : Coupled t reg) :
    reg.tracked = t.snapshots.map Snapshot.requirement ∧ reg.trackedCount = t.size ∧
      reg.required = PathSet.ofList (t.snapshots.flatMap Snapshot.directories) := by
  have synced := coupled.synced.2
  refine ⟨synced, ?_, Registry.required_eq_of_tracked synced⟩
  rw [Registry.trackedCount, synced, List.length_map, Tracker.snapshots, List.length_map]
  rfl

/-- A file `/proj/a` that becomes a directory between two scans is tracked, after the second,
with what the directory needs. -/
theorem tracked_after_file_becomes_directory :
    let asFile : HostFs := { nodes := [("/", ⟨.directory, 0, 493, 0⟩),
      ("/proj", ⟨.directory, 0, 493, 0⟩), ("/proj/a", ⟨.file [], 0, 420, 0⟩)] }
    let asDirectory : HostFs := { nodes := [("/", ⟨.directory, 0, 493, 0⟩),
      ("/proj", ⟨.directory, 0, 493, 1⟩), ("/proj/a", ⟨.directory, 0, 493, 1⟩)] }
    let t : Tracker := { locations := ["/proj/a"] }
    let first := t.scan asFile.view
    let reg := (Registry.empty.changed DryRun.watcher first.1.removed first.1.added {}).registry
    let second := first.2.scan asDirectory.view
    let reg' := (reg.changed DryRun.watcher second.1.removed second.1.added {}).registry
    reg'.tracked = second.2.snapshots.map Snapshot.requirement ∧
      reg'.trackedCount = second.2.size ∧
      reg'.required = PathSet.ofList (second.2.snapshots.flatMap Snapshot.directories) :=
  registry_tracks_tracker_snapshots (.scan _ _ _ (HostFs.view_childrenClean _)
    (.scan _ _ _ (HostFs.view_childrenClean _)
      (.start (show Tracker.create ["/proj/a"] = .ok { locations := ["/proj/a"] } by rfl))))

end StableWatch
