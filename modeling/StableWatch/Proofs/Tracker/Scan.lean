import StableWatch.Proofs.Tracker.Entries
/-!
# What a scan reports

A scan reads every location again and reports, against the entries the tracker recorded before,
the snapshots of the paths that disappeared or changed (`removed`) and of the paths that appeared
or changed (`added`); an entry changes when its snapshot, size, time or change stamp does.
Whatever happened between two scans (the file system changed, the locations were replaced),
the second scan's report is exactly that (`Tracker.Reports`):

* `removed` lists, increasing by path, the old snapshot of every path whose old entry is not
  the new one, and `added` the new snapshot of every path whose new entry is not the old one
  (`Tracker.mem_differing_iff`, `Tracker.pairwise_differing_of_keyed`);
* forgetting the paths of `removed` and then recording the snapshots of `added` turns the old
  snapshots, looked up by path, into the new ones (`Tracker.apply_differing`).

Both rest on entries being keyed by the paths of their snapshots, increasing (`Tracker.Keyed`),
which every reading of the locations gives (`Tracker.keyed_readAll`). A scan right after another,
of the same file system and locations, reads the same entries and reports nothing
(`Tracker.differing_self`).
-/

namespace StableWatch

namespace Tracker

/-! ### Snapshots looked up by path -/

/-- The snapshot recorded under a path. -/
def snapshotAt (entries : List (String × TrackedEntry)) (path : String) : Option Snapshot :=
  (entries.lookup path).map (·.snapshot)

/-- Snapshots by path, with nothing under a path any more. -/
def forget (known : String → Option Snapshot) (path : String) : String → Option Snapshot :=
  fun other => if other = path then none else known other

/-- Snapshots by path, with a snapshot recorded under its path. -/
def record (known : String → Option Snapshot) (s : Snapshot) : String → Option Snapshot :=
  fun other => if other = s.path then some s else known other

/-- A report applied to snapshots by path: the paths of the removed snapshots are forgotten,
then the added snapshots recorded. -/
def Changes.apply (report : Changes) (known : String → Option Snapshot) :
    String → Option Snapshot :=
  report.added.foldl record (report.removed.foldl (fun known s => forget known s.path) known)

/-- Forgetting paths leaves nothing under a path, or what was there. -/
theorem foldl_forget_cases (path : String) :
    ∀ (removed : List Snapshot) (known : String → Option Snapshot),
      removed.foldl (fun known s => forget known s.path) known path = none ∨
        removed.foldl (fun known s => forget known s.path) known path = known path
  | [], _ => Or.inr rfl
  | s :: rest, known => by
    rw [List.foldl_cons]
    rcases foldl_forget_cases path rest (forget known s.path) with gone | kept
    · exact Or.inl gone
    · rw [kept, forget]
      split_ifs
      · exact Or.inl rfl
      · exact Or.inr rfl

theorem foldl_forget_of_mem {path : String} :
    ∀ {removed : List Snapshot} {s : Snapshot} (known : String → Option Snapshot), s ∈ removed →
      s.path = path → removed.foldl (fun known s => forget known s.path) known path = none
  | [], _, _, member, _ => by cases member
  | s' :: rest, s, known, member, named => by
    rw [List.foldl_cons]
    rcases List.mem_cons.mp member with rfl | later
    · -- forgotten first, and forgetting more keeps it forgotten
      rcases foldl_forget_cases path rest (forget known s.path) with gone | kept
      · exact gone
      · rw [kept, forget, if_pos named.symm]
    · exact foldl_forget_of_mem _ later named

theorem foldl_forget_of_forall {path : String} :
    ∀ {removed : List Snapshot} (known : String → Option Snapshot), (∀ s ∈ removed, s.path ≠ path) →
      removed.foldl (fun known s => forget known s.path) known path = known path
  | [], _, _ => rfl
  | s :: rest, known, away => by
    rw [List.foldl_cons, foldl_forget_of_forall _ fun s' later => away s' (List.mem_cons_of_mem _ later),
      forget, if_neg (Ne.symm (away s List.mem_cons_self))]

theorem foldl_record_of_forall {path : String} :
    ∀ {added : List Snapshot} (known : String → Option Snapshot), (∀ s ∈ added, s.path ≠ path) →
      added.foldl record known path = known path
  | [], _, _ => rfl
  | s :: rest, known, away => by
    rw [List.foldl_cons, foldl_record_of_forall _ fun s' later => away s' (List.mem_cons_of_mem _ later),
      record, if_neg (Ne.symm (away s List.mem_cons_self))]

/-- A path of exactly one recorded snapshot has that snapshot. -/
theorem foldl_record_of_unique {path : String} :
    ∀ {added : List Snapshot} {s : Snapshot} (known : String → Option Snapshot), s ∈ added →
      s.path = path → (∀ s' ∈ added, s'.path = path → s' = s) →
        added.foldl record known path = some s
  | [], _, _, member, _, _ => by cases member
  | s' :: rest, s, known, member, named, unique => by
    rw [List.foldl_cons]
    by_cases later : s ∈ rest
    · exact foldl_record_of_unique _ later named
        fun other member' => unique other (List.mem_cons_of_mem _ member')
    · -- the snapshot is the first one, and no later one has its path
      have first : s' = s := by
        rcases List.mem_cons.mp member with same | inRest
        · exact same.symm
        · exact absurd inRest later
      have away : ∀ other ∈ rest, other.path ≠ path := by
        intro other member' same
        exact later (unique other (List.mem_cons_of_mem _ member') same ▸ member')
      rw [foldl_record_of_forall _ away, record, first, if_pos named.symm]

/-! ### Keyed entries -/

theorem entryFor_path (view : FsView) (path : String) (info : NodeInfo) :
    (entryFor view path info).snapshot.path = path := by
  unfold entryFor
  split
  · exact linkEntry_path view path
  · rfl

theorem entryAt_path (view : FsView) (path : String) : (entryAt view path).snapshot.path = path := by
  unfold entryAt
  split
  · exact entryFor_path view path _
  · rfl

/-- Every entry a location gives is keyed by the path of its snapshot. -/
theorem read_keyed (view : FsView) (location : String) :
    ∀ item ∈ read view location, item.2.snapshot.path = item.1 := by
  intro item member
  unfold read at member
  dsimp only at member
  split_ifs at member
  · rcases List.mem_cons.mp member with rfl | below
    · exact entryAt_path view _
    · obtain ⟨info, -, entry⟩ := mem_matching below
      rw [entry]
      exact entryFor_path view _ info
  · rw [List.mem_singleton.mp member]
    exact entryAt_path view _
  · rw [List.mem_singleton.mp member]
    exact entryAt_path view _

/-- **Reading the locations gives keyed entries**, whatever the file system. -/
theorem keyed_readAll (view : FsView) (locations : List String) : Keyed (readAll view locations) := by
  have nothing : KeysIncrease ([] : List (String × TrackedEntry)) := List.Pairwise.nil
  obtain ⟨increasing, members⟩ := foldl_putEntry (locations.flatMap (read view)) nothing
  refine ⟨increasing, fun item member => ?_⟩
  rcases members item member with empty | readItem
  · cases empty
  · obtain ⟨location, -, inRead⟩ := List.mem_flatMap.mp readItem
    exact read_keyed view location item inRead

theorem Keyed.path_of_lookup {entries : List (String × TrackedEntry)} (keyed : Keyed entries)
    {path : String} {entry : TrackedEntry} (found : entries.lookup path = some entry) :
    entry.snapshot.path = path :=
  keyed.path_eq (path, entry) (keyed.increasing.lookup_eq_some_iff.mp found)

/-! ### Reports -/

/-- The snapshots one keyed list reports against another, read through lookups: the snapshot of
every path whose entry in the first is not its entry in the second. -/
theorem mem_differing_iff {first second : List (String × TrackedEntry)}
    (increasing : KeysIncrease first) (increasing' : KeysIncrease second) {s : Snapshot} :
    s ∈ differing first second ↔ ∃ path entry, first.lookup path = some entry ∧
      second.lookup path ≠ some entry ∧ s = entry.snapshot := by
  rw [mem_differing increasing']
  constructor
  · rintro ⟨⟨path, entry⟩, member, missing, rfl⟩
    exact ⟨path, entry, increasing.lookup_eq_some_iff.mpr member,
      fun found => missing (increasing'.lookup_eq_some_iff.mp found), rfl⟩
  · rintro ⟨path, entry, found, missing, rfl⟩
    exact ⟨(path, entry), increasing.lookup_eq_some_iff.mp found,
      fun member => missing (increasing'.lookup_eq_some_iff.mpr member), rfl⟩

/-- A list of entries reports nothing against itself. -/
theorem differing_self {entries : List (String × TrackedEntry)} (increasing : KeysIncrease entries) :
    differing entries entries = [] := by
  unfold differing
  rw [List.filterMap_eq_nil_iff]
  rintro ⟨path, entry⟩ member
  simp [increasing.lookup_eq_some_iff.mpr member]

/-- A snapshot reported under a path comes from the entry there. -/
theorem eq_of_mem_differing {first second : List (String × TrackedEntry)} (keyedFirst : Keyed first)
    (keyedSecond : Keyed second) {s : Snapshot} (reported : s ∈ differing first second)
    {path : String} (named : s.path = path) :
    ∃ entry, first.lookup path = some entry ∧ second.lookup path ≠ some entry ∧ s = entry.snapshot := by
  obtain ⟨path', entry, found, missing, rfl⟩ :=
    (mem_differing_iff keyedFirst.increasing keyedSecond.increasing).mp reported
  have samePath : path' = path := (keyedFirst.path_of_lookup found).symm.trans named
  subst samePath
  exact ⟨entry, found, missing, rfl⟩

section Apply

variable {old new : List (String × TrackedEntry)} (keyed : Keyed old) (keyed' : Keyed new)
include keyed keyed'

/-- **Applying a report gives the new snapshots.** Forgetting the paths of the snapshots one keyed
list reports against another, then recording those the other reports against it, turns the
snapshots of the first, by path, into those of the second. -/
theorem apply_differing :
    (⟨differing old new, differing new old⟩ : Changes).apply (snapshotAt old) = snapshotAt new := by
  funext path
  unfold Changes.apply
  dsimp only
  cases inNew : new.lookup path with
  | none =>
    -- nothing is recorded under the path, and the old snapshot there, if any, is forgotten
    have notAdded : ∀ s ∈ differing new old, s.path ≠ path := by
      intro s reported named
      obtain ⟨entry, found, -, -⟩ := eq_of_mem_differing keyed' keyed reported named
      rw [inNew] at found
      cases found
    rw [foldl_record_of_forall _ notAdded, snapshotAt, inNew, Option.map_none]
    cases inOld : old.lookup path with
    | none =>
      rcases foldl_forget_cases path (differing old new) (snapshotAt old) with gone | kept
      · exact gone
      · rw [kept, snapshotAt, inOld, Option.map_none]
    | some entry =>
      have removed : entry.snapshot ∈ differing old new :=
        (mem_differing_iff keyed.increasing keyed'.increasing).mpr
          ⟨path, entry, inOld, by simp [inNew], rfl⟩
      exact foldl_forget_of_mem _ removed (keyed.path_of_lookup inOld)
  | some entry =>
    by_cases unchanged : old.lookup path = some entry
    · -- the entry is the same: the path is neither forgotten nor recorded again
      have notAdded : ∀ s ∈ differing new old, s.path ≠ path := by
        intro s reported named
        obtain ⟨entry', found, missing, -⟩ := eq_of_mem_differing keyed' keyed reported named
        rw [inNew] at found
        cases found
        exact missing unchanged
      have notRemoved : ∀ s ∈ differing old new, s.path ≠ path := by
        intro s reported named
        obtain ⟨entry', found, missing, -⟩ := eq_of_mem_differing keyed keyed' reported named
        rw [unchanged] at found
        cases found
        exact missing inNew
      rw [foldl_record_of_forall _ notAdded, foldl_forget_of_forall _ notRemoved, snapshotAt,
        snapshotAt, unchanged, inNew]
    · -- the entry is new or changed: its snapshot is the only one recorded under the path
      have added : entry.snapshot ∈ differing new old :=
        (mem_differing_iff keyed'.increasing keyed.increasing).mpr ⟨path, entry, inNew, unchanged, rfl⟩
      have unique : ∀ s ∈ differing new old, s.path = path → s = entry.snapshot := by
        intro s reported named
        obtain ⟨entry', found, -, rfl⟩ := eq_of_mem_differing keyed' keyed reported named
        rw [inNew] at found
        cases found
        rfl
      rw [foldl_record_of_unique _ added (keyed'.path_of_lookup inNew) unique, snapshotAt, inNew,
        Option.map_some]

end Apply

/-- What a report must be against the entries `old` recorded before and the entries `new` read
now: the old snapshots of the paths whose entry is gone or changed, and the new snapshots of the
paths whose entry is new or changed, each list increasing by path; applied to the old snapshots
by path, it gives the new ones. -/
structure Reports (old new : List (String × TrackedEntry)) (report : Changes) : Prop where
  removed_increasing : report.removed.Pairwise fun s s' => s.path < s'.path
  mem_removed : ∀ s, s ∈ report.removed ↔ ∃ path entry, old.lookup path = some entry ∧
    new.lookup path ≠ some entry ∧ s = entry.snapshot
  added_increasing : report.added.Pairwise fun s s' => s.path < s'.path
  mem_added : ∀ s, s ∈ report.added ↔ ∃ path entry, new.lookup path = some entry ∧
    old.lookup path ≠ some entry ∧ s = entry.snapshot
  apply_eq : report.apply (snapshotAt old) = snapshotAt new

/-- Keyed entries report against each other what `Reports` says. -/
theorem Keyed.reports {old new : List (String × TrackedEntry)} (keyed : Keyed old)
    (keyed' : Keyed new) : Reports old new ⟨differing old new, differing new old⟩ where
  removed_increasing := pairwise_differing_of_keyed keyed new
  mem_removed _ := mem_differing_iff keyed.increasing keyed'.increasing
  added_increasing := pairwise_differing_of_keyed keyed' old
  mem_added _ := mem_differing_iff keyed'.increasing keyed.increasing
  apply_eq := apply_differing keyed keyed'

/-- **A scan reports exactly what changed since the scan before.** Take any tracker, scan a file
system, then replace the locations in any way and scan any file system (the same one changed).
The second scan reports, against the entries the first recorded, the old snapshots of the paths
whose entry is gone or changed (in snapshot, size, time or change stamp) and the new snapshots of
the paths whose entry is new or changed, each increasing by path; forgetting the paths of the
first list and recording the second turns the first scan's snapshots, by path, into the second's.
A scan right after a scan, of the same file system and locations, reports nothing. -/
theorem scan_reports_entry_changes (t : Tracker) (first second : FsView) (locations : List String) :
    Reports (t.scan first).2.entries
        (({ (t.scan first).2 with locations } : Tracker).scan second).2.entries
        (({ (t.scan first).2 with locations } : Tracker).scan second).1 ∧
      ((t.scan first).2.scan first).1 = { removed := [], added := [] } := by
  have keyed := keyed_readAll first t.locations
  refine ⟨keyed.reports (keyed_readAll second locations), ?_⟩
  show (⟨differing (readAll first t.locations) (readAll first t.locations),
    differing (readAll first t.locations) (readAll first t.locations)⟩ : Changes) = _
  rw [differing_self keyed.increasing]

end Tracker

end StableWatch
