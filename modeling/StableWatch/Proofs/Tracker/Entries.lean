import Mathlib
import StableWatch.Fs.Host
import StableWatch.Tracker.Basic
import StableWatch.Proofs.CleanPath
import StableWatch.Proofs.Registry.Basic
/-!
# What a scan leaves in a tracker

A scan reads every location of a tracker again and keeps one entry per path. This module shows
that what it keeps is always tidy (`Tracker.Tidy.scan`):

* the entries increase strictly by path (`KeysIncrease`), since each is put in its place
  (`Tracker.keysIncrease_putEntry`);
* each entry is keyed by the path of its snapshot, and that path is clean and absolute, and so
  is the link target a snapshot records (`Tracker.read_tidy`).

The second needs the locations to be clean and absolute, which checking them makes them
(`Tracker.Tidy.setLocations`), and a file system that names the entries of a directory by clean
absolute paths (`FsView.ChildrenClean`), as the host's does by joining the directory's path with
each name (`HostFs.view_childrenClean`). A pattern's base is then clean and absolute too
(`Glob.base_clean`), and so is every path a walk from it visits (`FsView.walk_clean`).

What a scan reports is read through `Tracker.mem_differing`: the snapshots of the entries of one
list that are not entries of the other.
-/

namespace StableWatch

open StableWatch.Path

/-! ### Lists keyed by increasing paths -/

/-- A list of entries keyed by path, strictly increasing by key. -/
def KeysIncrease {β : Type} (entries : List (String × β)) : Prop :=
  entries.Pairwise fun first second => first.1 < second.1

namespace KeysIncrease

variable {β : Type} {entries : List (String × β)}

/-- No two entries share a key. -/
theorem eq_of_key_eq (increasing : KeysIncrease entries) {first second : String × β}
    (member : first ∈ entries) (member' : second ∈ entries) (same : first.1 = second.1) :
    first = second := by
  induction entries with
  | nil => cases member
  | cons head rest ih =>
    obtain ⟨below, restIncreasing⟩ := List.pairwise_cons.mp increasing
    rcases List.mem_cons.mp member with rfl | later
    · rcases List.mem_cons.mp member' with rfl | later'
      · rfl
      · exact absurd same (below second later').ne
    · rcases List.mem_cons.mp member' with rfl | later'
      · exact absurd same.symm (below first later).ne
      · exact ih restIncreasing later later'

/-- Looking a path up finds exactly the entry under it. -/
theorem lookup_eq_some_iff (increasing : KeysIncrease entries) {path : String} {value : β} :
    entries.lookup path = some value ↔ (path, value) ∈ entries := by
  constructor
  · intro found
    obtain ⟨before, after, rfl, -⟩ := List.lookup_eq_some_iff.mp found
    simp
  · intro member
    obtain ⟨stored, found⟩ : ∃ stored, entries.lookup path = some stored := by
      cases lookedUp : entries.lookup path with
      | some stored => exact ⟨stored, rfl⟩
      | none =>
        have missing := List.lookup_eq_none_iff.mp lookedUp _ member
        simp at missing
    have storedMember : (path, stored) ∈ entries := by
      obtain ⟨before, after, split, -⟩ := List.lookup_eq_some_iff.mp found
      rw [split]
      simp
    have same := increasing.eq_of_key_eq storedMember member rfl
    simp only [Prod.mk.injEq, true_and] at same
    rw [found, same]

/-- Two lists keyed by increasing paths with the same entries are the same list. -/
theorem ext (increasing : KeysIncrease entries) {other : List (String × β)}
    (increasing' : KeysIncrease other) (same : ∀ entry, entry ∈ entries ↔ entry ∈ other) :
    entries = other := by
  have : Std.Irrefl fun first second : String × β => first.1 < second.1 :=
    ⟨fun _ => lt_irrefl _⟩
  have : Std.Antisymm fun first second : String × β => first.1 < second.1 :=
    ⟨fun _ _ before after => absurd (before.trans after) (lt_irrefl _)⟩
  exact List.Pairwise.eq_of_mem_iff increasing increasing' same

end KeysIncrease

/-! ### Clean file systems -/

/-- A view of a file system that names the entries of a clean absolute directory by clean absolute
paths, as joining the directory's path with each entry's name does. -/
def FsView.ChildrenClean (view : FsView) : Prop :=
  ∀ dir, IsCleanAbs dir → ∀ child ∈ view.children dir, IsCleanAbs child

/-- The host's file system names every entry by its directory's path joined with its name. -/
theorem HostFs.view_childrenClean (fs : HostFs) : fs.view.ChildrenClean := by
  intro dir cleanDir child member
  change child ∈ fs.children dir at member
  unfold HostFs.children at member
  split at member
  · obtain ⟨name, -, rfl⟩ := List.mem_map.mp member
    exact isCleanAbs_join cleanDir.1 name
  · cases member

namespace FsView

variable {view : FsView} (childrenClean : view.ChildrenClean)

include childrenClean in
/-- A walk from a clean absolute path visits only clean absolute paths. -/
theorem walkFrom_clean :
    ∀ (depth : Nat) {path : String} (info : NodeInfo), IsCleanAbs path →
      ∀ item ∈ view.walkFrom depth path info, IsCleanAbs item.1
  | 0, path, info, cleanPath, item, member => by
    simp only [walkFrom, List.mem_singleton] at member
    subst member
    exact cleanPath
  | depth + 1, path, info, cleanPath, item, member => by
    unfold walkFrom at member
    split_ifs at member
    · rcases List.mem_cons.mp member with rfl | below
      · exact cleanPath
      · obtain ⟨child, isChild, inChild⟩ := List.mem_flatMap.mp below
        split at inChild
        · exact walkFrom_clean depth _ (childrenClean path cleanPath child isChild) item inChild
        · cases inChild
    · rw [List.mem_singleton.mp member]
      exact cleanPath

include childrenClean in
theorem walk_clean {path : String} (cleanPath : IsCleanAbs path) :
    ∀ item ∈ view.walk path, IsCleanAbs item.1 := by
  intro item member
  unfold walk at member
  split at member
  · exact walkFrom_clean childrenClean _ _ cleanPath item member
  · cases member

end FsView

/-! ### The base of a pattern -/

namespace Glob

/-- Once a slash has been found, one is still found at the end. -/
theorem lastSlashBeforeMeta_isSome (chars : List Char) (pos : Nat) (found : Option Nat)
    (someFound : found.isSome) : (lastSlashBeforeMeta chars pos found).isSome := by
  fun_induction lastSlashBeforeMeta chars pos found <;> simp_all

/-- The base of a pattern that starts at the root starts at the root. -/
theorem splitBase_head (rest : List Char) : (splitBase ('/' :: rest)).head? = some '/' := by
  obtain ⟨idx, found⟩ :=
    Option.isSome_iff_exists.mp (lastSlashBeforeMeta_isSome rest 1 (some 0) rfl)
  have start : lastSlashBeforeMeta ('/' :: rest) 0 none = some idx := by
    rw [lastSlashBeforeMeta.eq_def]
    simpa using found
  unfold splitBase
  rw [start]
  cases idx with
  | zero => rfl
  | succ idx => simp [unescapeMeta]

/-- **The base of an absolute pattern is clean and absolute.** -/
theorem base_clean {pattern : String} (absolute : isAbs pattern = true) :
    IsCleanAbs (base pattern) := by
  have head : pattern.toList.head? = some '/' := by simpa [isAbs] using absolute
  obtain ⟨rest, chars⟩ : ∃ rest, pattern.toList = '/' :: rest := by
    cases text : pattern.toList with
    | nil => simp [text] at head
    | cons c rest =>
      simp only [text, List.head?_cons, Option.some.injEq] at head
      exact ⟨rest, by rw [head]⟩
  unfold base
  apply isCleanAbs_clean
  simpa [isAbs, String.toList_ofList, chars] using splitBase_head rest

end Glob

/-! ### Entries -/

/-- A snapshot a registry can take as it is: its path is clean and absolute, and so is its link
target when it records one. -/
def Snapshot.Clean (s : Snapshot) : Prop :=
  IsCleanAbs s.path ∧ (s.resolvedPath = "" ∨ IsCleanAbs s.resolvedPath)

namespace Tracker

/-- An entry as a scan leaves it: keyed by the path of its snapshot, which is clean. -/
def TidyEntry (item : String × TrackedEntry) : Prop :=
  item.2.snapshot.path = item.1 ∧ item.2.snapshot.Clean

/-- Where a link below a clean absolute path resolves is absolute. -/
theorem linkTarget_isAbs {path : String} (cleanPath : IsCleanAbs path) (target : String) :
    isAbs (if isAbs target then target else join [dir path, target]) = true := by
  split
  · assumption
  · exact (isCleanAbs_join cleanPath.dir.1 target).1

theorem linkEntry_path (view : FsView) (path : String) : (linkEntry view path).snapshot.path = path := by
  unfold linkEntry
  split
  · rfl
  · dsimp only
    split <;> rfl

/-- A link records no target, or the clean form of where it resolves. -/
theorem linkEntry_resolvedPath (view : FsView) (path : String) :
    (linkEntry view path).snapshot.resolvedPath = "" ∨ ∃ target,
      (linkEntry view path).snapshot.resolvedPath =
        clean (if isAbs target then target else join [dir path, target]) := by
  unfold linkEntry
  split
  · exact Or.inl rfl
  · rename_i target _
    dsimp only
    split
    · exact Or.inr ⟨target, rfl⟩
    · exact Or.inr ⟨target, rfl⟩

theorem linkEntry_tidy (view : FsView) {path : String} (cleanPath : IsCleanAbs path) :
    TidyEntry (path, linkEntry view path) := by
  refine ⟨linkEntry_path view path, (linkEntry_path view path).symm ▸ cleanPath, ?_⟩
  rcases linkEntry_resolvedPath view path with unlinked | ⟨target, resolved⟩
  · exact Or.inl unlinked
  · rw [resolved]
    exact Or.inr (isCleanAbs_clean (linkTarget_isAbs cleanPath target))

theorem entryFor_tidy (view : FsView) {path : String} (cleanPath : IsCleanAbs path)
    (info : NodeInfo) : TidyEntry (path, entryFor view path info) := by
  unfold entryFor
  split
  · exact linkEntry_tidy view cleanPath
  · exact ⟨rfl, cleanPath, Or.inl rfl⟩

theorem entryAt_tidy (view : FsView) {path : String} (cleanPath : IsCleanAbs path) :
    TidyEntry (path, entryAt view path) := by
  unfold entryAt
  split
  · exact entryFor_tidy view cleanPath _
  · exact ⟨rfl, cleanPath, Or.inl rfl⟩

/-- Every entry matching a pattern is the entry of a path of the walk. -/
theorem mem_matching {view : FsView} {pattern : String} {item : String × TrackedEntry} :
    ∀ {walked : List (String × NodeInfo)}, item ∈ matching view pattern walked →
      ∃ info, (item.1, info) ∈ walked ∧ item.2 = entryFor view item.1 info
  | [], member => by cases member
  | (path, info) :: rest, member => by
    unfold matching at member
    split at member
    · rcases List.mem_cons.mp member with rfl | later
      · exact ⟨info, List.mem_cons_self, rfl⟩
      · obtain ⟨info', walked, entry⟩ := mem_matching later
        exact ⟨info', List.mem_cons_of_mem _ walked, entry⟩
    · obtain ⟨info', walked, entry⟩ := mem_matching member
      exact ⟨info', List.mem_cons_of_mem _ walked, entry⟩
    · cases member

/-- **Reading a clean absolute location gives tidy entries**, on a file system that names its
entries cleanly: the location's own entry, or the base's and those of the paths below it. -/
theorem read_tidy {view : FsView} (childrenClean : view.ChildrenClean) {location : String}
    (cleanLocation : IsCleanAbs location) : ∀ item ∈ read view location, TidyEntry item := by
  have cleanBase := Glob.base_clean cleanLocation.1
  intro item member
  unfold read at member
  dsimp only at member
  split_ifs at member
  · rcases List.mem_cons.mp member with rfl | below
    · exact entryAt_tidy view cleanBase
    · obtain ⟨info, walked, entry⟩ := mem_matching below
      have cleanPath := FsView.walk_clean childrenClean cleanBase _ (List.mem_of_mem_drop walked)
      obtain ⟨path, entry'⟩ := item
      dsimp only at entry cleanPath
      rw [entry]
      exact entryFor_tidy view cleanPath info
  · rw [List.mem_singleton.mp member]
    exact entryAt_tidy view cleanBase
  · rw [List.mem_singleton.mp member]
    exact entryAt_tidy view cleanLocation

/-! ### Putting entries in their place -/

theorem mem_putEntry {path : String} {entry : TrackedEntry} {item : String × TrackedEntry} :
    ∀ {entries : List (String × TrackedEntry)}, item ∈ putEntry path entry entries →
      item = (path, entry) ∨ item ∈ entries
  | [], member => by simpa [putEntry] using member
  | (key, known) :: rest, member => by
    unfold putEntry at member
    split_ifs at member
    · rcases List.mem_cons.mp member with rfl | later
      · exact Or.inl rfl
      · exact Or.inr later
    · rcases List.mem_cons.mp member with rfl | later
      · exact Or.inl rfl
      · exact Or.inr (List.mem_cons_of_mem _ later)
    · rcases List.mem_cons.mp member with rfl | later
      · exact Or.inr List.mem_cons_self
      · rcases mem_putEntry later with rfl | old
        · exact Or.inl rfl
        · exact Or.inr (List.mem_cons_of_mem _ old)

theorem keysIncrease_putEntry (path : String) (entry : TrackedEntry) :
    ∀ {entries : List (String × TrackedEntry)}, KeysIncrease entries →
      KeysIncrease (putEntry path entry entries)
  | [], _ => List.pairwise_singleton _ _
  | (key, known) :: rest, increasing => by
    obtain ⟨below, restIncreasing⟩ := List.pairwise_cons.mp increasing
    unfold putEntry
    split_ifs with before same
    · refine List.Pairwise.cons (fun item member => ?_) increasing
      rcases List.mem_cons.mp member with rfl | later
      · exact before
      · exact before.trans (below item later)
    · subst same
      exact List.Pairwise.cons below restIncreasing
    · -- the entry goes further down, past a smaller key
      have after : key < path := lt_of_le_of_ne (not_lt.mp before) (Ne.symm same)
      refine List.Pairwise.cons (fun item member => ?_)
        (keysIncrease_putEntry path entry restIncreasing)
      rcases mem_putEntry member with rfl | old
      · exact after
      · exact below item old

/-- Putting entries one after another keeps the keys increasing, and keeps only entries that were
there or were put. -/
theorem foldl_putEntry (items : List (String × TrackedEntry)) :
    ∀ {entries : List (String × TrackedEntry)}, KeysIncrease entries →
      KeysIncrease (items.foldl (fun acc item => putEntry item.1 item.2 acc) entries) ∧
        ∀ item ∈ items.foldl (fun acc item => putEntry item.1 item.2 acc) entries,
          item ∈ entries ∨ item ∈ items := by
  induction items with
  | nil => exact fun increasing => ⟨increasing, fun item member => Or.inl member⟩
  | cons first rest ih =>
    intro entries increasing
    obtain ⟨restIncreasing, restMembers⟩ := ih (keysIncrease_putEntry first.1 first.2 increasing)
    refine ⟨restIncreasing, fun item member => ?_⟩
    rcases restMembers item member with put | later
    · rcases mem_putEntry put with rfl | old
      · exact Or.inr List.mem_cons_self
      · exact Or.inl old
    · exact Or.inr (List.mem_cons_of_mem _ later)

/-! ### Tidy trackers -/

/-- Entries as a scan leaves them: increasing by path, each tidy. -/
structure TidyEntries (entries : List (String × TrackedEntry)) : Prop where
  increasing : KeysIncrease entries
  tidy : ∀ item ∈ entries, TidyEntry item

/-- A tracker as checking its locations and scanning leave it: clean absolute locations, and tidy
entries. -/
structure Tidy (t : Tracker) : Prop where
  locations_clean : ∀ location ∈ t.locations, IsCleanAbs location
  entries : TidyEntries t.entries

/-- Checked locations are clean and absolute. -/
theorem checkLocations_clean {locations checked : List String}
    (passed : checkLocations locations = .ok checked) : ∀ location ∈ checked, IsCleanAbs location := by
  intro location member
  obtain ⟨input, -, accepted⟩ := exists_of_mapM_eq_ok passed location member
  split_ifs at accepted with relative
  · cases accepted
    exact isCleanAbs_clean (by simpa using relative)

/-- A tracker is created with its locations checked, and nothing scanned. -/
theorem create_eq_ok {locations : List String} {t : Tracker} (created : create locations = .ok t) :
    ∃ checked, checkLocations locations = .ok checked ∧ t = { locations := checked } := by
  unfold Tracker.create at created
  cases passed : checkLocations locations with
  | error e => simp [passed, Except.map] at created
  | ok checked =>
    simp only [passed, Except.map, Except.ok.injEq] at created
    exact ⟨checked, rfl, created.symm⟩

/-- Replacing the locations checks them and keeps the entries. -/
theorem setLocations_eq_ok {t t' : Tracker} {locations : List String}
    (replaced : t.setLocations locations = .ok t') :
    ∃ checked, checkLocations locations = .ok checked ∧ t' = { t with locations := checked } := by
  unfold Tracker.setLocations at replaced
  cases passed : checkLocations locations with
  | error e => simp [passed, Except.map] at replaced
  | ok checked =>
    simp only [passed, Except.map, Except.ok.injEq] at replaced
    exact ⟨checked, rfl, replaced.symm⟩

theorem Tidy.create {locations : List String} {t : Tracker} (created : create locations = .ok t) :
    t.Tidy := by
  obtain ⟨checked, passed, rfl⟩ := create_eq_ok created
  exact ⟨checkLocations_clean passed, List.Pairwise.nil, fun _ member => by cases member⟩

theorem Tidy.setLocations {t t' : Tracker} (tidy : t.Tidy) {locations : List String}
    (replaced : t.setLocations locations = .ok t') : t'.Tidy := by
  obtain ⟨checked, passed, rfl⟩ := setLocations_eq_ok replaced
  exact ⟨checkLocations_clean passed, tidy.entries⟩

/-- **A scan leaves a tidy tracker tidy**, on a file system that names its entries cleanly. -/
theorem Tidy.scan {t : Tracker} (tidy : t.Tidy) {view : FsView}
    (childrenClean : view.ChildrenClean) : (t.scan view).2.Tidy := by
  have nothing : KeysIncrease ([] : List (String × TrackedEntry)) := List.Pairwise.nil
  obtain ⟨increasing, members⟩ := foldl_putEntry (t.locations.flatMap (read view)) nothing
  refine ⟨tidy.locations_clean, increasing, fun item member => ?_⟩
  rcases members item member with empty | read
  · cases empty
  · obtain ⟨location, given, inRead⟩ := List.mem_flatMap.mp read
    exact read_tidy childrenClean (tidy.locations_clean location given) item inRead

/-! ### What a scan reports -/

/-- An entry reports its snapshot against a list unless the list holds it. -/
theorem report_eq_some {second : List (String × TrackedEntry)} {path : String}
    {entry : TrackedEntry} {s : Snapshot} :
    (if second.lookup path = some entry then none else some entry.snapshot) = some s ↔
      second.lookup path ≠ some entry ∧ entry.snapshot = s := by
  by_cases found : second.lookup path = some entry <;> simp [found]

/-- The snapshots one list reports against another are those of its entries missing from the
other. -/
theorem mem_differing {first second : List (String × TrackedEntry)}
    (increasing : KeysIncrease second) {s : Snapshot} :
    s ∈ differing first second ↔ ∃ item ∈ first, item ∉ second ∧ item.2.snapshot = s := by
  unfold differing
  rw [List.mem_filterMap]
  constructor
  · rintro ⟨⟨path, entry⟩, member, reported⟩
    obtain ⟨missing, rfl⟩ := report_eq_some.mp reported
    exact ⟨(path, entry), member, fun found => missing (increasing.lookup_eq_some_iff.mpr found),
      rfl⟩
  · rintro ⟨⟨path, entry⟩, member, missing, rfl⟩
    exact ⟨(path, entry), member, report_eq_some.mpr
      ⟨fun found => missing (increasing.lookup_eq_some_iff.mp found), rfl⟩⟩

/-- Entries increasing by path, each keyed by the path of its snapshot. -/
structure Keyed (entries : List (String × TrackedEntry)) : Prop where
  increasing : KeysIncrease entries
  path_eq : ∀ item ∈ entries, item.2.snapshot.path = item.1

theorem TidyEntries.keyed {entries : List (String × TrackedEntry)} (tidy : TidyEntries entries) :
    Keyed entries :=
  ⟨tidy.increasing, fun item member => (tidy.tidy item member).1⟩

/-- The snapshots a list of keyed entries reports increase by path. -/
theorem pairwise_differing_of_keyed {first : List (String × TrackedEntry)} (keyed : Keyed first)
    (second : List (String × TrackedEntry)) :
    (differing first second).Pairwise fun s s' => s.path < s'.path := by
  unfold differing
  refine List.Pairwise.filterMap _ (fun ⟨path, entry⟩ ⟨path', entry'⟩ related s reported s'
    reported' => ?_) (List.Pairwise.and_mem.mp keyed.increasing)
  obtain ⟨member, member', before⟩ := related
  obtain ⟨-, rfl⟩ := report_eq_some.mp reported
  obtain ⟨-, rfl⟩ := report_eq_some.mp reported'
  rw [keyed.path_eq _ member, keyed.path_eq _ member']
  exact before

/-- The snapshots a list of tidy entries reports increase by path. -/
theorem pairwise_differing {first : List (String × TrackedEntry)} (tidy : TidyEntries first)
    (second : List (String × TrackedEntry)) :
    (differing first second).Pairwise fun s s' => s.path < s'.path :=
  pairwise_differing_of_keyed tidy.keyed second

/-- What tidy entries report against any others is clean. -/
theorem differing_clean {first : List (String × TrackedEntry)} (tidy : TidyEntries first)
    (second : List (String × TrackedEntry)) : ∀ s ∈ differing first second, s.Clean := by
  intro s reported
  obtain ⟨⟨path, entry⟩, member, reported⟩ := List.mem_filterMap.mp reported
  obtain ⟨-, rfl⟩ := report_eq_some.mp reported
  exact (tidy.tidy _ member).2

/-- **A scan reports only clean snapshots and keeps only clean ones**, when a tidy tracker scans a
file system that names entries cleanly. -/
theorem Tidy.scan_clean {t : Tracker} (tidy : t.Tidy) {view : FsView}
    (childrenClean : view.ChildrenClean) :
    (∀ s ∈ (t.scan view).1.removed, s.Clean) ∧ (∀ s ∈ (t.scan view).1.added, s.Clean) ∧
      ∀ s ∈ (t.scan view).2.snapshots, s.Clean := by
  have scanned := (tidy.scan childrenClean).entries
  refine ⟨differing_clean tidy.entries _, differing_clean scanned _, fun s member => ?_⟩
  obtain ⟨item, inEntries, rfl⟩ := List.mem_map.mp member
  exact (scanned.tidy item inEntries).2

end Tracker

end StableWatch
