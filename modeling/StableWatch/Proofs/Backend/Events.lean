import StableWatch.Fs.Memory
import StableWatch.Proofs.Backend.Walk
/-!
# Change events keep a hierarchy's directories as a fresh walk finds them

A backend over single-directory watches keeps, for a hierarchy, the directories it added watches
for, and change events keep that set current: a removed or renamed path takes its directories
with it (`HierarchyBackend.onEvent_removal`), and a created directory is added with everything the
walk finds below it (`HierarchyBackend.onEvent_creation`).

Take a facility that never fails and a hierarchy `top` started on a view of a tree in which no
link below `top` leads to a directory (`FsView.Fits`), on a backend whose other hierarchies lie
neither above nor below `top` (`HierarchyBackend.Beside`); a path below `top` then belongs to `top`
alone (`Holds.hierarchyFor`). After each change of the file system, let the backend handle a
remove event for every path below `top` that vanished or changed kind, then a create event for
every path that appeared or changed kind, each group in any order
(`HierarchyBackend.Maintained`). The removals leave the directories that are still directories
(`records_after_removals`); the creations add every directory that is new
(`records_after_change`); neither touches another hierarchy (`Keeps`). So the backend records
for `top` exactly what starting `top` afresh on the file system as it now is would record
(`maintained_dirs_eq_fresh_walk`).

The two conditions on the events and the links are needed: a create event handled before the
remove event of the same path loses the directory; and the create event of a link to a directory
reads its path through the link and adds it, though the walk that starts a hierarchy does not
enter links (`out_of_order_or_linked_events_miss_fresh_walk`).
-/

namespace StableWatch

open StableWatch.Path

namespace FsView

/-- A clean path below `top` that held something before a change and, after it, holds nothing or
a node of another kind. -/
def Vanished (top : String) (before after : FsView) (path : String) : Prop :=
  IsCleanAbs path ∧ StrictAncestor top path ∧ (before.kindAt path).isSome ∧
    before.kindAt path ≠ after.kindAt path

/-- A clean path below `top` that holds something after a change and, before it, held nothing or
a node of another kind. -/
def Appeared (top : String) (before after : FsView) (path : String) : Prop :=
  IsCleanAbs path ∧ StrictAncestor top path ∧ (after.kindAt path).isSome ∧
    before.kindAt path ≠ after.kindAt path

/-- What watching a hierarchy `top` needs of a view: a tree in which `top` is a clean absolute
path to a directory, and no link below `top` leads to a directory. -/
structure Fits (top : String) (view : FsView) : Prop where
  tree : view.Tree
  top_clean : IsCleanAbs top
  top_dir : view.kindAt top = some .directory
  top_stat : ∃ info, view.stat top = .ok info ∧ info.kind = .directory
  stat_below : ∀ path, IsCleanAbs path → StrictAncestor top path →
    ((∃ info, view.stat path = .ok info ∧ info.kind = .directory) ↔
      view.kindAt path = some .directory)

end FsView

/-- A remove or rename event that is not also a create event. -/
def EventOps.Removal (ops : EventOps) : Prop :=
  ops.create = false ∧ (ops.remove || ops.rename) = true

instance : DecidablePred EventOps.Removal := fun _ => inferInstanceAs (Decidable (_ ∧ _))

/-! ### The in-memory file system -/

instance : DecidablePred IsCleanAbs := fun _ => inferInstanceAs (Decidable (_ ∧ _))

/-- Two strict ancestors of one path are one path, or one lies above the other: going up from the
path passes through each in turn. -/
theorem Path.StrictAncestor.total {first second path : String}
    (firstAbove : StrictAncestor first path) (secondAbove : StrictAncestor second path) :
    first = second ∨ StrictAncestor first second ∨ StrictAncestor second first := by
  -- going up is a function, so the walk to `second` passes through each step to `first`
  have along : ∀ {lower upper : String}, ParentStep lower upper → StrictAncestor second lower →
      upper = second ∨ StrictAncestor second upper := by
    intro lower upper step above
    obtain ⟨parent, parentStep, rest⟩ := Relation.TransGen.head'_iff.mp above
    have same : parent = upper := parentStep.1.symm.trans step.1
    subst same
    rcases Relation.reflTransGen_iff_eq_or_transGen.mp rest with same | further
    · exact Or.inl same.symm
    · exact Or.inr further
  induction firstAbove with
  | single step => exact (along step secondAbove).imp_right Or.inr
  | tail _ step ih =>
    rcases ih with rfl | below | above
    · exact Or.inr (Or.inl (Relation.TransGen.single step))
    · exact Or.inr (Or.inl (below.tail step))
    · exact (along step above).imp_right Or.inr

/-- A clean path no deeper than `top` is not strictly below it. -/
theorem not_strictAncestor_of_depth_le {top path : String} (cleanPath : clean path = path)
    (shallow : depth path ≤ depth top) : ¬ StrictAncestor top path :=
  fun above => absurd (above.depth_lt cleanPath) (Nat.not_lt.mpr shallow)

namespace MemFs

/-- An in-memory file system without links whose nodes are keyed by clean absolute paths, each
but the root in a directory node, and none as deep as the view's bound. -/
def Plain (fs : MemFs) : Prop :=
  fs.links = [] ∧ ∀ node ∈ fs.nodes, IsCleanAbs node.1 ∧
    (dir node.1 ≠ node.1 → fs.node? (dir node.1) = some .directory) ∧
    depth node.1 < fs.nodes.length + 1

instance (fs : MemFs) : Decidable fs.Plain := inferInstanceAs (Decidable (_ ∧ _))

variable {fs : MemFs} {path : String}

theorem key_of_isCleanAbs (cleanPath : IsCleanAbs path) : key path = path := by
  unfold key
  dsimp only
  rw [cleanPath.2, if_neg]
  -- neither `.` nor `..` is absolute
  rintro (same | same) <;>
    exact absurd cleanPath.1 (by rw [same]; decide)

theorem mem_nodes_of_node? {node : MemNode} (found : fs.node? path = some node) :
    (path, node) ∈ fs.nodes := by
  obtain ⟨front, back, split, -⟩ := List.lookup_eq_some_iff.mp found
  rw [split]
  exact List.mem_append_right _ List.mem_cons_self

/-- On the in-memory file system, something stands at a clean absolute path only at a node or at
a link. -/
theorem mem_keys_of_kindAt (cleanPath : IsCleanAbs path) (found : (fs.view.kindAt path).isSome) :
    path ∈ fs.nodes.map Prod.fst ∨ path ∈ fs.links.map Prod.fst := by
  obtain ⟨kind, kindIs⟩ := Option.isSome_iff_exists.mp found
  obtain ⟨info, read, -⟩ := FsView.exists_lstat_of_kindAt kindIs
  change fs.lstat path = _ at read
  rw [lstat, key_of_isCleanAbs cleanPath] at read
  cases linked : fs.links.lookup path with
  | some target =>
    obtain ⟨entry, member, same⟩ := List.lookup_isSome_iff.mp (by rw [linked]; rfl)
    exact Or.inr (List.mem_map.mpr ⟨entry, member, (beq_iff_eq.mp same).symm⟩)
  | none =>
    rw [linked] at read
    cases node : fs.node? path with
    | none =>
      rw [nodeInfo, node] at read
      cases read
    | some n => exact Or.inl (List.mem_map.mpr ⟨_, mem_nodes_of_node? node, rfl⟩)

/-- On the in-memory file system, the clean paths strictly below `top` at which something stands
are among the keys of nodes and links deeper than `top`. -/
theorem mem_of_kindAt_below {top : String} {keys : List String} (cleanPath : IsCleanAbs path)
    (below : StrictAncestor top path) (found : (fs.view.kindAt path).isSome)
    (covered : ∀ key ∈ fs.nodes.map Prod.fst ++ fs.links.map Prod.fst,
      depth key ≤ depth top ∨ key ∈ keys) : path ∈ keys := by
  have stored := List.mem_append.mpr (mem_keys_of_kindAt cleanPath found)
  exact (covered path stored).resolve_left
    fun shallow => not_strictAncestor_of_depth_le cleanPath.2 shallow below

section Plain

variable (plain : fs.Plain)
include plain

theorem lstat_of_plain (cleanPath : IsCleanAbs path) : fs.view.lstat path = fs.nodeInfo path := by
  change fs.lstat path = _
  rw [lstat, key_of_isCleanAbs cleanPath, plain.1]
  rfl

theorem stat_of_plain (cleanPath : IsCleanAbs path) : fs.view.stat path = fs.nodeInfo path := by
  change fs.stat path = _
  rw [stat, key_of_isCleanAbs cleanPath, maxLinks]
  unfold follow
  rw [plain.1]
  rfl

theorem kindAt_eq_directory_iff (cleanPath : IsCleanAbs path) :
    fs.view.kindAt path = some .directory ↔ fs.node? path = some .directory := by
  rw [FsView.kindAt, lstat_of_plain plain cleanPath, nodeInfo]
  cases fs.node? path with
  | none => simp
  | some node => cases node <;> simp

theorem node?_of_lstat {info : NodeInfo} (cleanPath : IsCleanAbs path)
    (read : fs.view.lstat path = .ok info) : ∃ node, fs.node? path = some node := by
  rw [lstat_of_plain plain cleanPath, nodeInfo] at read
  cases found : fs.node? path with
  | none =>
    rw [found] at read
    cases read
  | some node => exact ⟨node, rfl⟩

/-- **The in-memory file system without links is a tree**, when its nodes are keyed by clean
absolute paths, each in a directory node, and none nests as deep as the bound. -/
theorem Plain.tree : fs.view.Tree where
  children_below dir' cleanDir child member := by
    change child ∈ fs.children dir' at member
    rw [children, key_of_isCleanAbs cleanDir] at member
    obtain ⟨⟨_, node⟩, listed, rfl⟩ := List.mem_map.mp member
    obtain ⟨held, kept⟩ := List.mem_filter.mp listed
    simp only [Bool.and_eq_true, ne_eq, decide_eq_true_eq] at kept
    have cleanChild := (plain.2 _ held).1
    rw [parentKey, key_of_isCleanAbs cleanChild.dir] at kept
    exact ⟨cleanChild, kept.2, fun same => kept.1 same.symm⟩
  listed path parent info cleanPath read step := by
    obtain ⟨node, found⟩ := node?_of_lstat plain cleanPath read
    have held := mem_nodes_of_node? found
    have parentNode := (plain.2 _ held).2.1 fun same => step.2 (step.1.symm.trans same)
    rw [step.1] at parentNode
    refine ⟨(kindAt_eq_directory_iff plain (step.1 ▸ cleanPath.dir)).mpr parentNode, ?_⟩
    change path ∈ fs.children parent
    rw [children, key_of_isCleanAbs (step.1 ▸ cleanPath.dir)]
    refine List.mem_map.mpr ⟨(path, node), List.mem_filter.mpr ⟨held, ?_⟩, rfl⟩
    simp only [Bool.and_eq_true, ne_eq, decide_eq_true_eq]
    rw [parentKey, key_of_isCleanAbs cleanPath.dir, step.1]
    exact ⟨fun same => step.2 same.symm, rfl⟩
  shallow path info cleanPath read := by
    obtain ⟨node, found⟩ := node?_of_lstat plain cleanPath read
    exact (plain.2 _ (mem_nodes_of_node? found)).2.2

/-- A plain in-memory file system fits every directory node at a clean absolute path. -/
theorem Plain.fits {top : String} (cleanTop : IsCleanAbs top)
    (topNode : fs.node? top = some .directory) : fs.view.Fits top where
  tree := plain.tree
  top_clean := cleanTop
  top_dir := (kindAt_eq_directory_iff plain cleanTop).mpr topNode
  top_stat := by
    rw [stat_of_plain plain cleanTop, nodeInfo, topNode]
    exact ⟨_, rfl, rfl⟩
  stat_below path cleanPath _ := by
    rw [stat_of_plain plain cleanPath, ← lstat_of_plain plain cleanPath]
    exact ⟨fun ⟨info, read, directory⟩ => directory ▸ FsView.kindAt_of_lstat read,
      FsView.exists_lstat_of_kindAt⟩

end Plain

end MemFs

namespace HierarchyBackend

variable {κ : Type} {view : FsView} {f : Facility κ}

/-- Handles change events in order. -/
def onEvents (view : FsView) (f : Facility κ) (events : List (String × EventOps))
    (b : HierarchyBackend) (k : κ) : HierarchyBackend × κ :=
  events.foldl (fun (b, k) event => let (_, b, k) := b.onEvent view f event.1 event.2 k; (b, k))
    (b, k)

theorem onEvents_cons (event : String × EventOps) (events : List (String × EventOps))
    (b : HierarchyBackend) (k : κ) :
    onEvents view f (event :: events) b k =
      onEvents view f events (b.onEvent view f event.1 event.2 k).2.1
        (b.onEvent view f event.1 event.2 k).2.2 :=
  rfl

theorem onEvents_append (first second : List (String × EventOps)) (b : HierarchyBackend) (k : κ) :
    onEvents view f (first ++ second) b k =
      onEvents view f second (onEvents view f first b k).1 (onEvents view f first b k).2 := by
  unfold onEvents
  rw [List.foldl_append]

/-! ### One hierarchy among others -/

/-- A hierarchy `root` beside `top`: a clean absolute path other than `top`, neither above
nor below it. -/
def Beside (top root : String) : Prop :=
  IsCleanAbs root ∧ root ≠ top ∧ ¬ StrictAncestor top root ∧ ¬ StrictAncestor root top

/-- A path strictly below `top` is neither a hierarchy beside `top` nor below one: the strict
ancestors of the path lie in one line. -/
theorem Beside.not_covers {top root path : String} (apart : Beside top root)
    (cleanPath : IsCleanAbs path) (below : StrictAncestor top path) :
    (decide (path = root) || isAncestor root path) = false := by
  rw [Bool.or_eq_false_iff, decide_eq_false_iff_not, Bool.eq_false_iff]
  refine ⟨fun same => apart.2.2.1 (same ▸ below), fun inside => ?_⟩
  have above := (isAncestor_iff_strictAncestor apart.1 cleanPath).mp inside
  rcases above.total below with same | rootBelow | topBelow
  · exact apart.2.1 same
  · exact apart.2.2.2 rootBelow
  · exact apart.2.2.1 topBelow

theorem lookup_putHierarchy_self (root : String) (dirs : List String) :
    ∀ hs : List (String × List String), (putHierarchy root dirs hs).lookup root = some dirs
  | [] => by simp [putHierarchy]
  | (key, known) :: rest => by
    unfold putHierarchy
    split
    · simp [List.lookup]
    · split
      · simp [List.lookup]
      · next same =>
        have differs : (root == key) = false := beq_eq_false_iff_ne.mpr same
        simp [List.lookup, differs, lookup_putHierarchy_self root dirs rest]

theorem lookup_putHierarchy_of_ne {root other : String} (dirs : List String) (apart : other ≠ root) :
    ∀ hs : List (String × List String), (putHierarchy root dirs hs).lookup other = hs.lookup other
  | [] => by simp [putHierarchy, List.lookup, beq_eq_false_iff_ne.mpr apart]
  | (key, known) :: rest => by
    have differs : (other == root) = false := beq_eq_false_iff_ne.mpr apart
    unfold putHierarchy
    split
    · simp [List.lookup, differs]
    · split
      · next same =>
        subst same
        simp [List.lookup, differs]
      · simp only [List.lookup, lookup_putHierarchy_of_ne dirs apart rest]

/-- Setting a hierarchy's directories adds no other hierarchy. -/
theorem eq_or_mem_of_mem_putHierarchy {root : String} {dirs : List String}
    {entry : String × List String} :
    ∀ {hs : List (String × List String)}, entry ∈ putHierarchy root dirs hs → entry = (root, dirs) ∨ entry ∈ hs
  | [], member => by simpa [putHierarchy] using member
  | (key, known) :: rest, member => by
    unfold putHierarchy at member
    split at member
    · simpa using member
    · split at member
      · rcases List.mem_cons.mp member with same | later
        · exact Or.inl same
        · exact Or.inr (List.mem_cons_of_mem _ later)
      · rcases List.mem_cons.mp member with same | later
        · exact Or.inr (same ▸ List.mem_cons_self)
        · exact (eq_or_mem_of_mem_putHierarchy later).imp_right (List.mem_cons_of_mem _)

section Single

variable {top : String} {dirs : List String} {b : HierarchyBackend}

/-- A backend holding the hierarchy `top` with the directories `dirs`, every other hierarchy it
holds apart from `top`. -/
structure Holds (top : String) (b : HierarchyBackend) (dirs : List String) : Prop where
  lookup : b.hierarchies.lookup top = some dirs
  apart : ∀ entry ∈ b.hierarchies, entry.1 ≠ top → Beside top entry.1

/-- A path strictly below `top` belongs to `top`, the only hierarchy at or above it. -/
theorem Holds.hierarchyFor (holds : Holds top b dirs) (cleanTop : IsCleanAbs top) {path : String}
    (cleanPath : IsCleanAbs path) (below : StrictAncestor top path) :
    b.hierarchyFor path = some (top, dirs) := by
  have inside : isAncestor top path = true :=
    (isAncestor_iff_strictAncestor cleanTop cleanPath).mpr below
  obtain ⟨held, apart⟩ := holds
  unfold HierarchyBackend.hierarchyFor
  generalize b.hierarchies = hs at held apart
  induction hs with
  | nil => simp at held
  | cons entry rest ih =>
    obtain ⟨key, known⟩ := entry
    by_cases same : key = top
    · subst same
      have knownEq : known = dirs := by simpa [List.lookup] using held
      simp [inside, knownEq]
    · -- an entry before `top`'s is apart from it, so the path does not belong to it
      have keyBeside := apart (key, known) List.mem_cons_self same
      rw [List.find?_cons_of_neg (by simpa using keyBeside.not_covers cleanPath below)]
      have differs : (top == key) = false := beq_eq_false_iff_ne.mpr (Ne.symm same)
      exact ih (by simpa [List.lookup, differs] using held)
        (fun entry member => apart entry (List.mem_cons_of_mem _ member))

/-- `b'` holds `top` with `dirs`, every other hierarchy apart from `top` and as `b` holds it. -/
structure Keeps (top : String) (b b' : HierarchyBackend) (dirs : List String) : Prop where
  holds : Holds top b' dirs
  others : ∀ root, root ≠ top → b'.hierarchies.lookup root = b.hierarchies.lookup root

theorem Keeps.refl (holds : Holds top b dirs) : Keeps top b b dirs :=
  ⟨holds, fun _ _ => rfl⟩

theorem Keeps.trans {b' b'' : HierarchyBackend} {dirs' : List String} (first : Keeps top b b' dirs)
    (second : Keeps top b' b'' dirs') : Keeps top b b'' dirs' :=
  ⟨second.holds, fun root other => (second.others root other).trans (first.others root other)⟩

/-- Setting the directories of `top` keeps every other hierarchy. -/
theorem Keeps.put (apart : ∀ entry ∈ b.hierarchies, entry.1 ≠ top → Beside top entry.1)
    (dirs' : List String) :
    Keeps top b { b with hierarchies := putHierarchy top dirs' b.hierarchies } dirs' where
  holds :=
    { lookup := lookup_putHierarchy_self top dirs' _
      apart := fun entry member other =>
        (eq_or_mem_of_mem_putHierarchy member).elim (fun same => absurd (by rw [same]) other)
          (apart entry · other) }
  others root other := lookup_putHierarchy_of_ne dirs' other _

/-- The separator form of a clean absolute path other than the root is the path and a slash. -/
theorem withSeparator_toList_of_ne_root {path : String} (cleanPath : IsCleanAbs path)
    (notRoot : dir path ≠ path) : (withSeparator path).toList = (path ++ "/").toList := by
  obtain ⟨parts, components, text⟩ := isCleanAbs_iff.mp cleanPath
  rw [withSeparator_toList_rootedText components text, String.toList_append, text]
  have nonempty : parts ≠ [] := by
    rintro rfl
    have root : path = "/" := String.toList_inj.mp text
    exact notRoot (by rw [root]; rfl)
  rw [if_neg nonempty]
  rfl

/-- Removing a path takes every recorded directory at or below it. -/
theorem covers_removed_iff {path x : String} (cleanPath : IsCleanAbs path)
    (notRoot : dir path ≠ path) (cleanX : IsCleanAbs x) :
    (decide (x = path) || (path ++ "/").toList.isPrefixOf x.toList) = true ↔
      x = path ∨ StrictAncestor path x := by
  rw [Bool.or_eq_true, decide_eq_true_iff, ← isAncestor_iff_strictAncestor cleanPath cleanX,
    isAncestor_iff, withSeparator_toList_of_ne_root cleanPath notRoot, List.isPrefixOf_iff_prefix]
  constructor
  · rintro (same | prefixed)
    · exact Or.inl same
    · by_cases same : x = path
      · exact Or.inl same
      · exact Or.inr ⟨Ne.symm same, prefixed⟩
  · rintro (same | ⟨-, prefixed⟩)
    · exact Or.inl same
    · exact Or.inr prefixed

variable {path : String} {ops : EventOps}

/-- **A remove or rename event** drops the path and every recorded directory below it, and
leaves the other hierarchies. -/
theorem onEvent_removal (holds : Holds top b dirs) (cleanTop : IsCleanAbs top)
    (cleanDirs : ∀ x ∈ dirs, IsCleanAbs x) (cleanPath : IsCleanAbs path)
    (below : StrictAncestor top path) (removal : ops.Removal) (view : FsView) (f : Facility κ)
    (k : κ) :
    ∃ dirs', Keeps top b (b.onEvent view f path ops k).2.1 dirs' ∧
      dirs'.Sublist dirs ∧ ∀ x, x ∈ dirs' ↔ x ∈ dirs ∧ ¬ (x = path ∨ StrictAncestor path x) := by
  have notRoot : dir path ≠ path := (strictAncestor_iff.mp below).1
  have notTop : path ≠ top := fun same => strictAncestor_irrefl cleanPath.2 (same ▸ below)
  unfold onEvent
  rw [cleanPath.2]
  dsimp only
  rw [holds.hierarchyFor cleanTop cleanPath below]
  dsimp only
  rw [if_neg (by rw [removal.1]; exact Bool.false_ne_true), removal.2, Bool.true_and,
    if_pos (decide_eq_true notTop), List.partition_eq_filter_filter]
  refine ⟨_, Keeps.put holds.apart _, List.filter_sublist, fun x => ?_⟩
  rw [List.mem_filter, Function.comp_apply, Bool.not_eq_true']
  constructor
  · rintro ⟨member, kept⟩
    refine ⟨member, fun covered => ?_⟩
    rw [(covers_removed_iff cleanPath notRoot (cleanDirs x member)).mpr covered] at kept
    exact Bool.noConfusion kept
  · rintro ⟨member, uncovered⟩
    refine ⟨member, Bool.eq_false_iff.mpr fun covered => uncovered ?_⟩
    exact (covers_removed_iff cleanPath notRoot (cleanDirs x member)).mp covered

/-- **A create event** of a directory not yet recorded records it with every directory below it;
any other create event changes nothing. Whatever it adds is a directory below the hierarchy, a
created directory is recorded after it, and the other hierarchies stay as they are. -/
theorem onEvent_creation (fits : view.Fits top) (never : ∀ path k, (f.add path k).1 = none)
    (holds : Holds top b dirs) (increasing : dirs.Pairwise (· < ·))
    (cleanPath : IsCleanAbs path) (below : StrictAncestor top path) (creation : ops.create = true)
    (k : κ) :
    ∃ dirs', Keeps top b (b.onEvent view f path ops k).2.1 dirs' ∧
      dirs'.Pairwise (· < ·) ∧ (∀ x ∈ dirs, x ∈ dirs') ∧
      (∀ x ∈ dirs', x ∈ dirs ∨ view.DirBelow top x) ∧
      (view.kindAt path = some .directory → path ∈ dirs') := by
  unfold onEvent
  rw [cleanPath.2]
  dsimp only
  rw [holds.hierarchyFor fits.top_clean cleanPath below]
  dsimp only
  rw [if_pos creation]
  cases stated : view.stat path with
  | error e =>
    -- nothing that `stat` cannot read is a directory
    refine ⟨dirs, Keeps.refl holds, increasing, fun _ member => member, fun _ member => Or.inl member,
      fun directory => ?_⟩
    obtain ⟨info, read, -⟩ := (fits.stat_below path cleanPath below).mpr directory
    rw [stated] at read
    cases read
  | ok info =>
    dsimp only
    by_cases fresh : info.kind = .directory ∧ !dirs.contains path
    · rw [if_pos fresh, Facility.add_of_never never path k]
      dsimp only
      -- the created directory is read through no link, so the walk starts at it
      have directory : view.kindAt path = some .directory :=
        (fits.stat_below path cleanPath below).mp ⟨info, stated, fresh.1⟩
      obtain ⟨pathInfo, pathRead, pathDir⟩ := FsView.exists_lstat_of_kindAt directory
      have added := mem_addBelow fits.tree never cleanPath pathRead pathDir
        (PathSet.insert path dirs) (f.add path k).2
      refine ⟨_, Keeps.put holds.apart _, pairwise_addBelow _ (PathSet.pairwise_insert _ increasing) _,
        fun x member => (added x).mpr (Or.inl (PathSet.mem_insert.mpr (Or.inr member))), ?_,
        fun _ => (added path).mpr (Or.inl (PathSet.mem_insert.mpr (Or.inl rfl)))⟩
      have pathBelow : view.DirBelow top path := ⟨cleanPath, below, directory⟩
      intro x member
      rcases (added x).mp member with inserted | deeper
      · rcases PathSet.mem_insert.mp inserted with rfl | old
        · exact Or.inr pathBelow
        · exact Or.inl old
      · exact Or.inr (pathBelow.trans deeper)
    · rw [if_neg fresh]
      refine ⟨dirs, Keeps.refl holds, increasing, fun _ member => member, fun _ member => Or.inl member,
        fun directory => ?_⟩
      -- a directory the event does not add is recorded already
      obtain ⟨statInfo, statRead, statDir⟩ := (fits.stat_below path cleanPath below).mpr directory
      rw [stated] at statRead
      cases statRead
      by_contra absent
      exact fresh ⟨statDir, by simpa using absent⟩

end Single

/-! ### Groups of events -/

section Groups

variable {top : String}

/-- Remove events, in any order, drop every recorded directory at or below one of their paths. -/
theorem onEvents_removals (cleanTop : IsCleanAbs top) :
    ∀ (removals : List (String × EventOps)) {b : HierarchyBackend} {dirs : List String} (k : κ),
      Holds top b dirs → (∀ x ∈ dirs, IsCleanAbs x) → dirs.Pairwise (· < ·) →
      (∀ event ∈ removals, IsCleanAbs event.1 ∧ StrictAncestor top event.1 ∧ event.2.Removal) →
      ∃ dirs', Keeps top b (onEvents view f removals b k).1 dirs' ∧ dirs'.Pairwise (· < ·) ∧
        ∀ x, x ∈ dirs' ↔ x ∈ dirs ∧ ∀ event ∈ removals, ¬ (x = event.1 ∨ StrictAncestor event.1 x)
  | [], _, dirs, _, holds, _, increasing, _ => ⟨dirs, Keeps.refl holds, increasing, fun x => by simp⟩
  | event :: rest, b, dirs, k, holds, cleanDirs, increasing, removing => by
    obtain ⟨cleanPath, below, removal⟩ := removing event List.mem_cons_self
    obtain ⟨dirs₁, keeps₁, sub, members₁⟩ :=
      onEvent_removal holds cleanTop cleanDirs cleanPath below removal view f k
    rw [onEvents_cons]
    obtain ⟨dirs', keeps', increasing', members'⟩ := onEvents_removals cleanTop rest _ keeps₁.holds
      (fun x member => cleanDirs x ((members₁ x).mp member).1) (increasing.sublist sub)
      (fun other member => removing other (List.mem_cons_of_mem _ member))
    refine ⟨dirs', keeps₁.trans keeps', increasing', fun x => ?_⟩
    rw [members', members₁, List.forall_mem_cons]
    tauto

/-- Create events, in any order, record every created directory, keep what was recorded, and
add only directories below the hierarchy. -/
theorem onEvents_creations (fits : view.Fits top) (never : ∀ path k, (f.add path k).1 = none) :
    ∀ (creations : List (String × EventOps)) {b : HierarchyBackend} {dirs : List String} (k : κ),
      Holds top b dirs → dirs.Pairwise (· < ·) →
      (∀ event ∈ creations, IsCleanAbs event.1 ∧ StrictAncestor top event.1 ∧
        event.2.create = true) →
      ∃ dirs', Keeps top b (onEvents view f creations b k).1 dirs' ∧
        dirs'.Pairwise (· < ·) ∧ (∀ x ∈ dirs, x ∈ dirs') ∧
        (∀ x ∈ dirs', x ∈ dirs ∨ view.DirBelow top x) ∧
        ∀ event ∈ creations, view.kindAt event.1 = some .directory → event.1 ∈ dirs'
  | [], _, dirs, _, holds, increasing, _ =>
    ⟨dirs, Keeps.refl holds, increasing, fun _ member => member, fun _ member => Or.inl member,
      fun _ member => absurd member List.not_mem_nil⟩
  | event :: rest, b, dirs, k, holds, increasing, creating => by
    obtain ⟨cleanPath, below, creation⟩ := creating event List.mem_cons_self
    obtain ⟨dirs₁, keeps₁, increasing₁, kept₁, sound₁, recorded₁⟩ :=
      onEvent_creation fits never holds increasing cleanPath below creation k
    rw [onEvents_cons]
    obtain ⟨dirs', keeps', increasing', kept', sound', recorded'⟩ :=
      onEvents_creations fits never rest _ keeps₁.holds increasing₁
        (fun other member => creating other (List.mem_cons_of_mem _ member))
    refine ⟨dirs', keeps₁.trans keeps', increasing', fun x member => kept' x (kept₁ x member),
      fun x member => ?_, fun other member directory => ?_⟩
    · rcases sound' x member with old | new
      · exact sound₁ x old
      · exact Or.inr new
    · rcases List.mem_cons.mp member with rfl | later
      · exact kept' _ (recorded₁ directory)
      · exact recorded' other later directory

end Groups

/-! ### A change of the file system -/

section Change

variable {top : String} {before after : FsView} {b₀ : HierarchyBackend}

/-- What the backend records on a view: the hierarchy `top`, with `top` and every directory below
it, in increasing order, and every other hierarchy apart from `top` and as `b₀` holds it. -/
def Records (view : FsView) (top : String) (b₀ b : HierarchyBackend) : Prop :=
  ∃ dirs, Keeps top b₀ b dirs ∧ dirs.Pairwise (· < ·) ∧
    ∀ x, x ∈ dirs ↔ x = top ∨ view.DirBelow top x

/-- Two backends that record a hierarchy on the same view hold the same directories for it. -/
theorem Records.lookup_eq {view : FsView} {b₀ b₀' b b' : HierarchyBackend}
    (records : Records view top b₀ b) (records' : Records view top b₀' b') :
    b.hierarchies.lookup top = b'.hierarchies.lookup top := by
  obtain ⟨dirs, keeps, increasing, members⟩ := records
  obtain ⟨dirs', keeps', increasing', members'⟩ := records'
  rw [keeps.holds.lookup, keeps'.holds.lookup,
    PathSet.eq_of_mem_iff increasing increasing' fun x => by rw [members, members']]

/-- A path that is a directory before and after a change did not vanish. -/
theorem not_vanished_of_directory {path : String}
    (directory : before.kindAt path = some .directory)
    (directory' : after.kindAt path = some .directory) : ¬ FsView.Vanished top before after path :=
  fun vanished => vanished.2.2.2 (directory.trans directory'.symm)

/-- The strict ancestors of a directory below `top` are directories. -/
theorem DirBelow.ancestor_directory {view : FsView} (fits : view.Fits top) {path ancestor : String}
    (below : view.DirBelow top path) (above : StrictAncestor ancestor path) :
    view.kindAt ancestor = some .directory := by
  obtain ⟨info, read, -⟩ := FsView.exists_lstat_of_kindAt below.2.2
  exact fits.tree.kindAt_of_strictAncestor below.1 read above

/-- **The remove events of a change** leave `top` and every directory that is one before and
after the change, and only directories after it. -/
theorem records_after_removals (fitsBefore : before.Fits top) (fitsAfter : after.Fits top)
    {b : HierarchyBackend} (records : Records before top b₀ b)
    (removals : List (String × EventOps))
    (removing : ∀ path, path ∈ removals.map Prod.fst ↔ FsView.Vanished top before after path)
    (removal : ∀ event ∈ removals, event.2.Removal) (k : κ) :
    ∃ dirs, Keeps top b₀ (onEvents after f removals b k).1 dirs ∧
      dirs.Pairwise (· < ·) ∧ (∀ x ∈ dirs, x = top ∨ after.DirBelow top x) ∧
      ∀ x, x = top ∨ (before.DirBelow top x ∧ after.DirBelow top x) → x ∈ dirs := by
  obtain ⟨dirs, keeps, increasing, members⟩ := records
  have cleanTop := fitsBefore.top_clean
  have vanished : ∀ event ∈ removals, FsView.Vanished top before after event.1 :=
    fun event member => (removing event.1).mp (List.mem_map_of_mem member)
  obtain ⟨dirs', keeps', increasing', members'⟩ := onEvents_removals cleanTop removals k keeps.holds
    (fun x member => ((members x).mp member).elim (· ▸ cleanTop) (·.1)) increasing
    (fun event member => ⟨(vanished event member).1, (vanished event member).2.1,
      removal event member⟩)
  refine ⟨dirs', keeps.trans keeps', increasing', fun x member => ?_, fun x kept => ?_⟩
  · obtain ⟨recorded, uncovered⟩ := (members' x).mp member
    rcases (members x).mp recorded with rfl | below
    · exact Or.inl rfl
    · -- a directory that is none after the change vanished, and its remove event dropped it
      by_contra gone
      have notBelow : ¬ after.DirBelow top x := fun stays => gone (Or.inr stays)
      have differ : before.kindAt x ≠ after.kindAt x := fun same =>
        notBelow ⟨below.1, below.2.1, same ▸ below.2.2⟩
      obtain ⟨event, member, named⟩ := List.mem_map.mp ((removing x).mpr
        ⟨below.1, below.2.1, by rw [below.2.2]; rfl, differ⟩)
      exact uncovered event member (Or.inl named.symm)
  · refine (members' x).mpr ⟨(members x).mpr (kept.imp id (·.1)), fun event member => ?_⟩
    -- what is a directory on both sides is none of the vanished paths, nor below one
    have gone := vanished event member
    rintro (rfl | above)
    · rcases kept with rfl | ⟨below, below'⟩
      · exact strictAncestor_irrefl gone.1.2 gone.2.1
      · exact not_vanished_of_directory below.2.2 below'.2.2 gone
    · rcases kept with rfl | ⟨below, below'⟩
      · exact strictAncestor_irrefl cleanTop.2 (gone.2.1.trans above)
      · exact not_vanished_of_directory (DirBelow.ancestor_directory fitsBefore below above)
          (DirBelow.ancestor_directory fitsAfter below' above) gone

/-- **A change handled in order**: after the remove events of what vanished and then the create
events of what appeared, the backend records the hierarchy on the new view. -/
theorem records_after_change (fitsBefore : before.Fits top) (fitsAfter : after.Fits top)
    (never : ∀ path k, (f.add path k).1 = none) {b : HierarchyBackend}
    (records : Records before top b₀ b) (removals creations : List (String × EventOps))
    (removing : ∀ path, path ∈ removals.map Prod.fst ↔ FsView.Vanished top before after path)
    (removal : ∀ event ∈ removals, event.2.Removal)
    (creating : ∀ path, path ∈ creations.map Prod.fst ↔ FsView.Appeared top before after path)
    (creation : ∀ event ∈ creations, event.2.create = true) (k : κ) :
    Records after top b₀ (onEvents after f (removals ++ creations) b k).1 := by
  rw [onEvents_append]
  obtain ⟨dirs, keeps, increasing, sound, kept⟩ :=
    records_after_removals fitsBefore fitsAfter records removals removing removal k
  have appeared : ∀ event ∈ creations, FsView.Appeared top before after event.1 :=
    fun event member => (creating event.1).mp (List.mem_map_of_mem member)
  obtain ⟨dirs', keeps', increasing', kept', sound', recorded'⟩ :=
    onEvents_creations fitsAfter never creations _ keeps.holds increasing
      (fun event member => ⟨(appeared event member).1, (appeared event member).2.1,
        creation event member⟩)
  refine ⟨dirs', keeps.trans keeps', increasing', fun x => ⟨fun member => ?_, fun wanted => ?_⟩⟩
  · rcases sound' x member with old | new
    · exact sound x old
    · exact Or.inr new
  · rcases wanted with rfl | below'
    · exact kept' _ (kept _ (Or.inl rfl))
    · by_cases below : before.DirBelow top x
      · exact kept' x (kept x (Or.inr ⟨below, below'⟩))
      · -- a directory that was none before appeared, and its create event recorded it
        have differ : before.kindAt x ≠ after.kindAt x := fun same =>
          below ⟨below'.1, below'.2.1, same.trans below'.2.2⟩
        obtain ⟨event, member, named⟩ := List.mem_map.mp ((creating x).mpr
          ⟨below'.1, below'.2.1, by rw [below'.2.2]; rfl, differ⟩)
        rw [← named]
        exact recorded' event member (named ▸ below'.2.2)

/-- **Starting a hierarchy afresh** among hierarchies apart from it records it with every
directory below it, on a view that fits it and with a facility that never fails. -/
theorem records_start {view : FsView} (fits : view.Fits top)
    (never : ∀ path k, (f.add path k).1 = none)
    (apart : ∀ entry ∈ b₀.hierarchies, Beside top entry.1) (k : κ) :
    Records view top b₀ (start view f [top] b₀ k).2.1 := by
  obtain ⟨info, stated, directory⟩ := fits.top_stat
  obtain ⟨topInfo, topRead, topDir⟩ := FsView.exists_lstat_of_kindAt fits.top_dir
  obtain ⟨k', added⟩ : ∃ k', f.add top k = (none, k') := ⟨_, Facility.add_of_never never top k⟩
  -- no hierarchy apart from `top` is `top` itself
  have fresh : b₀.hierarchies.lookup top = none := by
    rw [← Option.not_isSome_iff_eq_none, List.lookup_isSome_iff]
    rintro ⟨entry, member, same⟩
    exact (apart entry member).2.1 (beq_iff_eq.mp same).symm
  have started : (start view f [top] b₀ k).2.1 =
      { b₀ with hierarchies := putHierarchy top (addBelow view f top [top] k').1 b₀.hierarchies } := by
    unfold start each startOne
    simp [fresh, stated, directory, added]
  rw [started]
  refine ⟨_, Keeps.put (fun entry member _ => apart entry member) _,
    pairwise_addBelow _ (List.pairwise_singleton _ _) _, fun x => ?_⟩
  rw [mem_addBelow fits.tree never fits.top_clean topRead topDir, List.mem_singleton]

end Change

/-! ### Every run -/

/-- The backends and facility states of a hierarchy `top` kept by change events, on a backend
`b₀` whose hierarchies are apart from `top`: started on a view that fits it, then, after each
change of the file system to a view that fits it, handling the remove events of the paths that
vanished below `top` and then the create events of those that appeared, each group in any
order. -/
inductive Maintained (f : Facility κ) (top : String) (b₀ : HierarchyBackend) :
    FsView → HierarchyBackend × κ → Prop
  | started {view : FsView} (k : κ) : view.Fits top →
      (∀ entry ∈ b₀.hierarchies, Beside top entry.1) →
      Maintained f top b₀ view (start view f [top] b₀ k).2
  | changed {before after : FsView} {s : HierarchyBackend × κ}
      (removals creations : List (String × EventOps)) : Maintained f top b₀ before s →
      after.Fits top →
      (∀ path, path ∈ removals.map Prod.fst ↔ FsView.Vanished top before after path) →
      (∀ event ∈ removals, event.2.Removal) →
      (∀ path, path ∈ creations.map Prod.fst ↔ FsView.Appeared top before after path) →
      (∀ event ∈ creations, event.2.create = true) →
      Maintained f top b₀ after (onEvents after f (removals ++ creations) s.1 s.2)

variable {top : String} {b₀ : HierarchyBackend} {view : FsView} {s : HierarchyBackend × κ}

theorem Maintained.fits (run : Maintained f top b₀ view s) : view.Fits top := by
  cases run with
  | started _ fits _ => exact fits
  | changed _ _ _ fits => exact fits

/-- Along every run the backend records the hierarchy on the view of the moment. -/
theorem Maintained.records (never : ∀ path k, (f.add path k).1 = none)
    (run : Maintained f top b₀ view s) : Records view top b₀ s.1 := by
  induction run with
  | started k fits apart => exact records_start fits never apart k
  | changed removals creations before fits removing removal creating creation ih =>
    exact records_after_change before.fits fits never ih removals creations removing removal
      creating creation _

/-- **Change events keep a hierarchy as a fresh walk finds it.** With a facility that never fails,
a hierarchy started on a tree, among hierarchies neither above nor below it, and kept by the
remove events of whatever vanished and then the create events of whatever appeared after each
change, with no link below it leading to a directory, is recorded with exactly the directories
that starting it afresh on the file system as it now is records; the other hierarchies stay as
they were. -/
theorem maintained_dirs_eq_fresh_walk (never : ∀ path k, (f.add path k).1 = none)
    (run : Maintained f top b₀ view s) (k : κ) :
    s.1.hierarchies.lookup top = (start view f [top] {} k).2.1.hierarchies.lookup top ∧
      ∀ root, root ≠ top → s.1.hierarchies.lookup root = b₀.hierarchies.lookup root := by
  have records := run.records never
  refine ⟨records.lookup_eq (records_start run.fits never (fun _ member => by cases member) k),
    fun root other => ?_⟩
  obtain ⟨dirs, keeps, -⟩ := records
  exact keeps.others root other

/-- The hierarchy `/h`, started beside a hierarchy `/o` over a directory `/h/a` and kept through
`/h/a` giving way to `/h/b`, records what starting it afresh records, and `/o` stays as it was. -/
theorem kept_through_replaced_directory :
    let f := Facility.scripted [] []
    let before : MemFs :=
      { nodes := [("/", .directory), ("/h", .directory), ("/h/a", .directory), ("/o", .directory)] }
    let after : MemFs :=
      { nodes := [("/", .directory), ("/h", .directory), ("/h/b", .directory), ("/o", .directory)] }
    let others := (start before.view f ["/o"] {} {}).2
    let started := (start before.view f ["/h"] others.1 others.2).2
    let kept := onEvents after.view f [("/h/a", { remove := true }), ("/h/b", { create := true })]
      started.1 started.2
    (∀ path k, (f.add path k).1 = none) ∧ Maintained f "/h" others.1 after.view kept ∧
      kept.1.hierarchies.lookup "/h" = (start after.view f ["/h"] {} {}).2.1.hierarchies.lookup "/h" ∧
      ∀ root, root ≠ "/h" → kept.1.hierarchies.lookup root = others.1.hierarchies.lookup root := by
  intro f before after others started kept
  have never : ∀ path k, (f.add path k).1 = none := fun _ _ => rfl
  -- `/o` lies neither above nor below `/h`
  have apart : ∀ entry ∈ others.1.hierarchies, Beside "/h" entry.1 := by
    have cleanH : IsCleanAbs "/h" := ⟨by decide, by decide⟩
    have cleanO : IsCleanAbs "/o" := ⟨by decide, by decide⟩
    have held : others.1.hierarchies = [("/o", ["/o"])] := by decide
    intro entry member
    rw [held, List.mem_singleton] at member
    subst member
    exact ⟨cleanO, by decide,
      fun above => absurd ((isAncestor_iff_strictAncestor cleanH cleanO).mpr above) (by decide),
      fun above => absurd ((isAncestor_iff_strictAncestor cleanO cleanH).mpr above) (by decide)⟩
  -- below `/h` only `/h/a` vanished and only `/h/b` appeared
  have vanished : ∀ path, path ∈ [("/h/a", ({ remove := true } : EventOps))].map Prod.fst ↔
      FsView.Vanished "/h" before.view after.view path := by
    intro path
    rw [List.map_singleton, List.mem_singleton]
    constructor
    · rintro rfl
      exact ⟨by decide, .single ⟨by decide, by decide⟩, by decide, by decide⟩
    · rintro ⟨cleanPath, below, found, -⟩
      exact List.mem_singleton.mp (MemFs.mem_of_kindAt_below cleanPath below found (by decide))
  have appeared : ∀ path, path ∈ [("/h/b", ({ create := true } : EventOps))].map Prod.fst ↔
      FsView.Appeared "/h" before.view after.view path := by
    intro path
    rw [List.map_singleton, List.mem_singleton]
    constructor
    · rintro rfl
      exact ⟨by decide, .single ⟨by decide, by decide⟩, by decide, by decide⟩
    · rintro ⟨cleanPath, below, found, -⟩
      exact List.mem_singleton.mp (MemFs.mem_of_kindAt_below cleanPath below found (by decide))
  have fitsBefore : before.view.Fits "/h" := MemFs.Plain.fits (by decide) (by decide) rfl
  have fitsAfter : after.view.Fits "/h" := MemFs.Plain.fits (by decide) (by decide) rfl
  have run : Maintained f "/h" others.1 after.view kept :=
    .changed [("/h/a", { remove := true })] [("/h/b", { create := true })]
      (.started others.2 fitsBefore apart) fitsAfter vanished (by decide) appeared (by decide)
  exact ⟨never, run, maintained_dirs_eq_fresh_walk never run {}⟩

/-- **Out of order, or through a link, events miss what a walk finds.** When a file `/h/a` becomes
a directory, the path vanished and appeared; with its create event handled before its remove
event the directory is dropped, though a fresh start records it. When a link `/h/l` to a directory
appears, its create event reads it through the link and records it, though no walk enters a link
and a fresh start does not record it. -/
theorem out_of_order_or_linked_events_miss_fresh_walk :
    let f := Facility.scripted [] []
    let asFile : MemFs := { nodes := [("/", .directory), ("/h", .directory), ("/h/a", .file [])] }
    let asDirectory : MemFs :=
      { nodes := [("/", .directory), ("/h", .directory), ("/h/a", .directory)] }
    let unlinked : MemFs := { nodes := [("/", .directory), ("/d", .directory), ("/h", .directory)] }
    let linked : MemFs :=
      { nodes := unlinked.nodes ++ [("/h/l", .file [])], links := [("/h/l", "/d")] }
    let overFile := (start asFile.view f ["/h"] {} {}).2
    let overUnlinked := (start unlinked.view f ["/h"] {} {}).2
    (∀ path, FsView.Vanished "/h" asFile.view asDirectory.view path ↔ path = "/h/a") ∧
      (∀ path, FsView.Appeared "/h" asFile.view asDirectory.view path ↔ path = "/h/a") ∧
      (onEvents asDirectory.view f [("/h/a", { create := true }), ("/h/a", { remove := true })]
        overFile.1 overFile.2).1.hierarchies = [("/h", ["/h"])] ∧
      (start asDirectory.view f ["/h"] {} {}).2.1.hierarchies = [("/h", ["/h", "/h/a"])] ∧
      (∀ path, ¬ FsView.Vanished "/h" unlinked.view linked.view path) ∧
      (∀ path, FsView.Appeared "/h" unlinked.view linked.view path ↔ path = "/h/l") ∧
      (onEvents linked.view f [("/h/l", { create := true })] overUnlinked.1
        overUnlinked.2).1.hierarchies = [("/h", ["/h", "/h/l"])] ∧
      (start linked.view f ["/h"] {} {}).2.1.hierarchies = [("/h", ["/h"])] := by
  intro f asFile asDirectory unlinked linked overFile overUnlinked
  refine ⟨fun path => ⟨?_, ?_⟩, fun path => ⟨?_, ?_⟩, by decide, by decide,
    fun path => ?_, fun path => ⟨?_, ?_⟩, by decide, by decide⟩
  · rintro ⟨cleanPath, below, found, -⟩
    exact List.mem_singleton.mp (MemFs.mem_of_kindAt_below cleanPath below found (by decide))
  · rintro rfl
    exact ⟨by decide, .single ⟨by decide, by decide⟩, by decide, by decide⟩
  · rintro ⟨cleanPath, below, found, -⟩
    exact List.mem_singleton.mp (MemFs.mem_of_kindAt_below cleanPath below found (by decide))
  · rintro rfl
    exact ⟨by decide, .single ⟨by decide, by decide⟩, by decide, by decide⟩
  · rintro ⟨cleanPath, below, found, -⟩
    exact List.not_mem_nil (MemFs.mem_of_kindAt_below cleanPath below found (by decide))
  · rintro ⟨cleanPath, below, found, -⟩
    exact List.mem_singleton.mp (MemFs.mem_of_kindAt_below cleanPath below found (by decide))
  · rintro rfl
    exact ⟨by decide, .single ⟨by decide, by decide⟩, by decide, by decide⟩

end HierarchyBackend


end StableWatch
