import StableWatch.Proofs.Backend.Events
import StableWatch.Proofs.Backend.Hierarchies
/-!
# The watches a hierarchy backend holds

A hierarchy backend watches a hierarchy with one watch per directory in it, and records, per
hierarchy, the directories it added watches for. This module proves that the record and the
facility stay in step along every run of the backend: no watch leaks and none is added twice.

A run (`HierarchyBackend.Run`) starts from a new backend and goes on with requests to start
hierarchies, requests to stop them, and change events, each on a file system whose directories
list their entries one level below them (`FsView.ChildrenBelow`). A start request names clean
absolute paths none of which lies below another requested or held one (`HierarchyBackend.Apart`).

* Whatever the facility answers, each recorded hierarchy holds its root and only paths at or
  below it, and no root lies below another (`HierarchyBackend.Run.wellFormed`).
* With a facility that never fails, seen through a log of the calls made to it
  (`Facility.logged`), the watches the log leaves (`WatchCall.live`: the adds no later remove of
  the same path follows) are the recorded directories, each once (`HierarchyBackend.Run.tallies`).
  So the watch count is the number of live watches, and a request to stop a hierarchy succeeds
  and removes the watch of every directory recorded for it (`HierarchyBackend.stop_removes`).

Each kind of step keeps the tally by a lemma of its own: adding watches below a directory
(`tallies_addBelow`), starting one hierarchy (`tallies_startOne`), stopping one
(`tallies_stopOne`), and a change event (`tallies_onEvent`). A request over several hierarchies
keeps what each of its steps keeps (`each_induction`).
-/

namespace StableWatch

open StableWatch.Path

/-! ### The log of facility calls -/

/-- A call a hierarchy backend makes to its facility. -/
inductive WatchCall where
  | add (path : String)
  | remove (path : String)
  deriving DecidableEq, Repr

namespace WatchCall

/-- The watches after one more call: an add watches its path once more, a remove ends every
watch of its path. -/
def apply (live : List String) : WatchCall → List String
  | add path => live ++ [path]
  | remove path => live.filter (· ≠ path)

/-- The watches a log of calls leaves: one for each add that no later remove of its path follows,
in the order of the adds. -/
def live (log : List WatchCall) : List String :=
  log.foldl apply []

theorem live_append_add (log : List WatchCall) (path : String) :
    live (log ++ [add path]) = live log ++ [path] := by
  rw [live, List.foldl_append]
  rfl

theorem live_append_remove (log : List WatchCall) (path : String) :
    live (log ++ [remove path]) = (live log).filter (· ≠ path) := by
  rw [live, List.foldl_append]
  rfl

/-- Removing a list of paths ends the watches of exactly those paths. -/
theorem live_append_removes (log : List WatchCall) :
    ∀ paths : List String, live (log ++ paths.map remove) = (live log).filter (· ∉ paths)
  | [] => by simp
  | path :: rest => by
    rw [List.map_cons, ← List.singleton_append, ← List.append_assoc, live_append_removes _ rest,
      live_append_remove, List.filter_filter]
    congr 1
    funext x
    rw [Bool.and_comm]
    simp

theorem mem_live_append_add {log : List WatchCall} {path x : String} :
    x ∈ live (log ++ [add path]) ↔ x ∈ live log ∨ x = path := by
  rw [live_append_add, List.mem_append, List.mem_singleton]

theorem nodup_live_append_add {log : List WatchCall} {path : String} (nodup : (live log).Nodup)
    (fresh : path ∉ live log) : (live (log ++ [add path])).Nodup := by
  rw [live_append_add, List.nodup_append]
  refine ⟨nodup, List.nodup_singleton path, fun x member y same => ?_⟩
  rw [List.mem_singleton] at same
  rintro rfl
  exact fresh (same ▸ member)

/-- A watch that was live and is no longer was removed by a later call. -/
theorem remove_mem_of_live {x : String} :
    ∀ {log : List WatchCall} (calls : List WatchCall), x ∈ live log → x ∉ live (log ++ calls) →
      remove x ∈ calls
  | log, [], held, gone => absurd (by rwa [List.append_nil]) gone
  | log, call :: rest, held, gone => by
    rw [← List.singleton_append, ← List.append_assoc] at gone
    by_cases removed : call = remove x
    · rw [removed]
      exact List.mem_cons_self
    · refine List.mem_cons_of_mem _ (remove_mem_of_live rest ?_ gone)
      -- any other call keeps the watch of `x`
      cases call with
      | add path =>
        rw [live_append_add]
        exact List.mem_append_left _ held
      | remove path =>
        rw [live_append_remove, List.mem_filter]
        exact ⟨held, decide_eq_true fun same => removed (by rw [same])⟩

end WatchCall

namespace Facility

variable {κ : Type}

/-- The facility together with a log of the calls made to it, in order; it answers as the
facility does. -/
def logged (f : Facility κ) : Facility (κ × List WatchCall) where
  add path s := ((f.add path s.1).1, (f.add path s.1).2, s.2 ++ [.add path])
  remove path s := ((f.remove path s.1).1, (f.remove path s.1).2, s.2 ++ [.remove path])

/-- A facility whose adds and removes never fail; a remove may still answer that there is no such
watch. -/
def NeverFails (f : Facility κ) : Prop :=
  ∀ path k, (f.add path k).1 = none ∧ ∀ reason, (f.remove path k).1 ≠ .failed reason

theorem logged_add_of_never {f : Facility κ} (never : f.NeverFails) (path : String)
    (s : κ × List WatchCall) :
    f.logged.add path s = (none, (f.add path s.1).2, s.2 ++ [.add path]) :=
  Prod.ext (never path s.1).1 rfl

/-- Removing watches one after the other logs a remove for each, in order. -/
theorem foldl_logged_remove (f : Facility κ) :
    ∀ (dirs : List String) (s : κ × List WatchCall),
      (dirs.foldl (fun s dir => (f.logged.remove dir s).2) s).2 = s.2 ++ dirs.map .remove
  | [], s => by simp
  | dir :: rest, s => by
    rw [List.foldl_cons, foldl_logged_remove f rest]
    simp [logged]

end Facility

/-! ### Walks that stay below their start -/

namespace FsView

variable {view : FsView}

/-- Every clean absolute directory lists its entries by clean absolute paths one level below it,
as on a tree. -/
def ChildrenBelow (view : FsView) : Prop :=
  ∀ dir, IsCleanAbs dir → ∀ child ∈ view.children dir, IsCleanAbs child ∧ ParentStep child dir

theorem Tree.childrenBelow (tree : view.Tree) : view.ChildrenBelow :=
  tree.children_below

/-- **A walk from a clean absolute path keeps what every visit at or below it keeps.** -/
theorem ChildrenBelow.walkFold_invariant {σ : Type} {visit : σ → String → NodeInfo → σ × Bool}
    (below : view.ChildrenBelow) {top : String} (cleanTop : IsCleanAbs top) (holds : σ → Prop)
    (keeps : ∀ st path info, IsCleanAbs path → Covers top path → holds st →
      holds (visit st path info).1)
    {st : σ} (held : holds st) : holds (view.walkFold visit st top) := by
  unfold walkFold
  split
  · refine walkFoldFrom_invariant_within (fun path => IsCleanAbs path ∧ Covers top path) ?_ holds
      (fun st path info within => keeps st path info within.1 within.2) _ _ _ _
      ⟨cleanTop, .refl top⟩ held
    -- an entry lies one level below the directory that lists it
    rintro dir ⟨cleanDir, covers⟩ child listed
    obtain ⟨cleanChild, step⟩ := below dir cleanDir child listed
    exact ⟨cleanChild, covers.trans (.of_isAncestor
      ((isAncestor_iff_strictAncestor cleanDir cleanChild).mpr (.single step)))⟩
  · exact held

end FsView

namespace Path

theorem isAbs_of_isAncestor {ancestor path : String} (absolute : isAbs ancestor = true)
    (below : isAncestor ancestor path = true) : isAbs path = true := by
  obtain ⟨rest, glued⟩ := (prefix_withSeparator ancestor).trans (isAncestor_iff.mp below).2
  simp only [isAbs, decide_eq_true_eq] at absolute ⊢
  rw [← glued, List.head?_append, absolute]
  rfl

/-- A clean path covered by a clean absolute one is clean and absolute. -/
theorem isCleanAbs_of_covers {top path : String} (cleanTop : IsCleanAbs top)
    (covers : Covers top path) (cleanPath : clean path = path) : IsCleanAbs path := by
  rcases covers with rfl | below
  · exact cleanTop
  · exact ⟨isAbs_of_isAncestor cleanTop.1 below, cleanPath⟩

end Path

namespace HierarchyBackend

variable {κ : Type}

/-! ### The shape of the record -/

/-- A hierarchy as the backend records it: a clean absolute root among its directories, which
increase and all lie at or below the root. -/
structure Rooted (entry : String × List String) : Prop where
  clean : IsCleanAbs entry.1
  root_mem : entry.1 ∈ entry.2
  increasing : entry.2.Pairwise (· < ·)
  covers : ∀ dir ∈ entry.2, Covers entry.1 dir

theorem rooted_single {root : String} (cleanRoot : IsCleanAbs root) : Rooted (root, [root]) where
  clean := cleanRoot
  root_mem := List.mem_singleton_self root
  increasing := List.pairwise_singleton _ root
  covers dir member := by rw [List.mem_singleton.mp member]

/-- The record of a backend along every run: hierarchies increasing by root, each rooted, and no
root below another. -/
structure WellFormed (b : HierarchyBackend) : Prop where
  increasing : KeysIncrease b.hierarchies
  rooted : ∀ entry ∈ b.hierarchies, Rooted entry
  outermost : ∀ entry ∈ b.hierarchies, ∀ other ∈ b.hierarchies, isAncestor entry.1 other.1 = false

theorem wellFormed_new : ({} : HierarchyBackend).WellFormed where
  increasing := List.Pairwise.nil
  rooted _ member := by cases member
  outermost _ member := by cases member

/-- The directories recorded for all hierarchies, hierarchy by hierarchy. -/
def recorded (b : HierarchyBackend) : List String :=
  b.hierarchies.flatMap (·.2)

/-- A directory recorded for a hierarchy other than `root`. -/
def Elsewhere (b : HierarchyBackend) (root dir : String) : Prop :=
  ∃ entry ∈ b.hierarchies, entry.1 ≠ root ∧ dir ∈ entry.2

/-- The watches a log of calls leaves are the recorded directories, each once. -/
structure Tallies (b : HierarchyBackend) (log : List WatchCall) : Prop where
  nodup : (WatchCall.live log).Nodup
  mem_live : ∀ dir, dir ∈ WatchCall.live log ↔ dir ∈ b.recorded

theorem tallies_new : ({} : HierarchyBackend).Tallies [] where
  nodup := List.nodup_nil
  mem_live dir := by simp [WatchCall.live, recorded]

theorem mem_recorded {b : HierarchyBackend} {dir : String} :
    dir ∈ b.recorded ↔ ∃ entry ∈ b.hierarchies, dir ∈ entry.2 :=
  List.mem_flatMap

theorem watchCount_eq_length_recorded (b : HierarchyBackend) :
    b.watchCount = b.recorded.length := by
  obtain ⟨hierarchies, closed⟩ := b
  unfold watchCount recorded
  dsimp only
  induction hierarchies with
  | nil => rfl
  | cons entry rest ih => simp [List.flatMap_cons, ih]

theorem mem_putHierarchy {root : String} {dirs : List String} {entry : String × List String} :
    ∀ {hs : List (String × List String)}, KeysIncrease hs →
      (entry ∈ putHierarchy root dirs hs ↔ entry = (root, dirs) ∨ entry ∈ hs ∧ entry.1 ≠ root)
  | [], _ => by simp [putHierarchy]
  | (key, known) :: rest, increasing => by
    obtain ⟨below, restIncreasing⟩ := List.pairwise_cons.mp increasing
    unfold putHierarchy
    split_ifs with before same
    · -- the new root comes first, below every root held
      have fresh : ∀ other ∈ (key, known) :: rest, other.1 ≠ root := by
        intro other member
        rcases List.mem_cons.mp member with rfl | later
        · exact ne_of_gt before
        · exact ne_of_gt (before.trans (below other later))
      rw [List.mem_cons]
      exact ⟨fun held => held.imp_right fun old => ⟨old, fresh entry old⟩,
        fun held => held.imp_right And.left⟩
    · -- the root held replaces its entry; later roots lie above it
      subst same
      rw [List.mem_cons, List.mem_cons]
      constructor
      · rintro (new | later)
        · exact Or.inl new
        · exact Or.inr ⟨Or.inr later, ne_of_gt (below entry later)⟩
      · rintro (new | ⟨rfl | later, other⟩)
        · exact Or.inl new
        · exact absurd rfl other
        · exact Or.inr later
    · rw [List.mem_cons, mem_putHierarchy restIncreasing, List.mem_cons]
      constructor
      · rintro (rfl | new | ⟨later, other⟩)
        · exact Or.inr ⟨Or.inl rfl, Ne.symm same⟩
        · exact Or.inl new
        · exact Or.inr ⟨Or.inr later, other⟩
      · rintro (new | ⟨first | later, other⟩)
        · exact Or.inr (Or.inl new)
        · exact Or.inl first
        · exact Or.inr (Or.inr ⟨later, other⟩)

section Record

variable {b : HierarchyBackend}

theorem mem_recorded_put (increasing : KeysIncrease b.hierarchies) {root : String}
    {dirs : List String} {x : String} :
    x ∈ ({ b with hierarchies := putHierarchy root dirs b.hierarchies } : HierarchyBackend).recorded ↔
      x ∈ dirs ∨ b.Elsewhere root x := by
  rw [mem_recorded]
  simp only [mem_putHierarchy increasing]
  constructor
  · rintro ⟨entry, rfl | ⟨held, other⟩, member⟩
    · exact Or.inl member
    · exact Or.inr ⟨entry, held, other, member⟩
  · rintro (member | ⟨entry, held, other, member⟩)
    · exact ⟨_, Or.inl rfl, member⟩
    · exact ⟨entry, Or.inr ⟨held, other⟩, member⟩

theorem mem_recorded_filter {root x : String} :
    x ∈ ({ b with hierarchies := b.hierarchies.filter (·.1 ≠ root) } : HierarchyBackend).recorded ↔
      b.Elsewhere root x := by
  rw [mem_recorded]
  simp only [List.mem_filter, decide_eq_true_eq, Elsewhere, and_assoc]

theorem recorded_iff_of_fresh {root x : String} (fresh : root ∉ b.roots) :
    x ∈ b.recorded ↔ b.Elsewhere root x := by
  rw [mem_recorded]
  constructor
  · rintro ⟨entry, held, member⟩
    exact ⟨entry, held, fun same => fresh (same ▸ List.mem_map_of_mem held), member⟩
  · rintro ⟨entry, held, -, member⟩
    exact ⟨entry, held, member⟩

/-- Setting a hierarchy's directories keeps the tally when the live watches are these and the
directories recorded for the other hierarchies. -/
theorem tallies_put (increasing : KeysIncrease b.hierarchies) {root : String} {dirs : List String}
    {log : List WatchCall} (nodup : (WatchCall.live log).Nodup)
    (live : ∀ x, x ∈ WatchCall.live log ↔ b.Elsewhere root x ∨ x ∈ dirs) :
    ({ b with hierarchies := putHierarchy root dirs b.hierarchies } : HierarchyBackend).Tallies log :=
  ⟨nodup, fun x => by rw [live, mem_recorded_put increasing, or_comm]⟩

/-- Setting a rooted hierarchy apart from every other one held keeps the record's shape. -/
theorem WellFormed.put (wellFormed : b.WellFormed) {root : String} {dirs : List String}
    (rooted : Rooted (root, dirs))
    (apart : ∀ other ∈ b.hierarchies, other.1 ≠ root →
      isAncestor root other.1 = false ∧ isAncestor other.1 root = false) :
    ({ b with hierarchies := putHierarchy root dirs b.hierarchies } : HierarchyBackend).WellFormed where
  increasing := keysIncrease_putHierarchy root dirs wellFormed.increasing
  rooted entry member := by
    rcases (mem_putHierarchy wellFormed.increasing).mp member with rfl | ⟨held, -⟩
    · exact rooted
    · exact wellFormed.rooted entry held
  outermost entry member other member' := by
    rcases (mem_putHierarchy wellFormed.increasing).mp member with rfl | ⟨held, different⟩ <;>
      rcases (mem_putHierarchy wellFormed.increasing).mp member' with rfl | ⟨held', different'⟩
    · exact isAncestor_irrefl _
    · exact (apart _ held' different').1
    · exact (apart _ held different).2
    · exact wellFormed.outermost _ held _ held'

theorem WellFormed.filter (wellFormed : b.WellFormed) (keep : String × List String → Bool) :
    ({ b with hierarchies := b.hierarchies.filter keep } : HierarchyBackend).WellFormed where
  increasing := wellFormed.increasing.sublist List.filter_sublist
  rooted entry member := wellFormed.rooted entry (List.mem_of_mem_filter member)
  outermost entry member other member' :=
    wellFormed.outermost entry (List.mem_of_mem_filter member) other (List.mem_of_mem_filter member')

/-- A held hierarchy lies neither below nor above another one held. -/
theorem WellFormed.apart (wellFormed : b.WellFormed) {entry : String × List String}
    (held : entry ∈ b.hierarchies) :
    ∀ other ∈ b.hierarchies, other.1 ≠ entry.1 →
      isAncestor entry.1 other.1 = false ∧ isAncestor other.1 entry.1 = false :=
  fun _ held' _ => ⟨wellFormed.outermost _ held _ held', wellFormed.outermost _ held' _ held⟩

/-- Of the hierarchies held, one at most is a given path or lies above it. -/
theorem WellFormed.eq_of_covers (wellFormed : b.WellFormed) {entry other : String × List String}
    (held : entry ∈ b.hierarchies) (held' : other ∈ b.hierarchies) {path : String}
    (covers : Covers entry.1 path) (covers' : Covers other.1 path) : entry = other :=
  wellFormed.increasing.eq_of_key_eq held held'
    (Covers.eq_of_apart (wellFormed.rooted _ held).clean (wellFormed.rooted _ held').clean covers
      covers' (wellFormed.outermost _ held _ held') (wellFormed.outermost _ held' _ held))

/-- A directory recorded for another hierarchy lies outside a held one. -/
theorem WellFormed.not_covers_of_elsewhere (wellFormed : b.WellFormed) {root : String}
    {dirs : List String} (held : (root, dirs) ∈ b.hierarchies) {x : String}
    (elsewhere : b.Elsewhere root x) : ¬ Covers root x := by
  obtain ⟨other, held', different, member⟩ := elsewhere
  intro covers
  have same := wellFormed.eq_of_covers held held' covers ((wellFormed.rooted _ held').covers x member)
  exact different (by rw [← same])

theorem WellFormed.recorded_iff (wellFormed : b.WellFormed) {root : String} {dirs : List String}
    (held : (root, dirs) ∈ b.hierarchies) {x : String} :
    x ∈ b.recorded ↔ x ∈ dirs ∨ b.Elsewhere root x := by
  rw [mem_recorded]
  constructor
  · rintro ⟨entry, held', member⟩
    by_cases same : entry.1 = root
    · have found := wellFormed.increasing.eq_of_key_eq held' held same
      rw [found] at member
      exact Or.inl member
    · exact Or.inr ⟨entry, held', same, member⟩
  · rintro (member | ⟨entry, held', -, member⟩)
    · exact ⟨_, held, member⟩
    · exact ⟨entry, held', member⟩

/-- The directories recorded for a hierarchy are recorded for no other. -/
theorem WellFormed.not_mem_of_elsewhere (wellFormed : b.WellFormed) {root : String}
    {dirs : List String} (held : (root, dirs) ∈ b.hierarchies) {x : String}
    (elsewhere : b.Elsewhere root x) : x ∉ dirs :=
  fun member => wellFormed.not_covers_of_elsewhere held elsewhere
    ((wellFormed.rooted _ held).covers x member)

/-- The record holds each directory once. -/
theorem WellFormed.nodup_recorded (wellFormed : b.WellFormed) : b.recorded.Nodup := by
  refine List.nodup_flatMap.mpr ⟨fun entry held => (wellFormed.rooted entry held).increasing.imp
    ne_of_lt, wellFormed.increasing.imp_of_mem fun {entry other} held held' before => ?_⟩
  intro x member member'
  have same := wellFormed.eq_of_covers held held' ((wellFormed.rooted _ held).covers x member)
    ((wellFormed.rooted _ held').covers x member')
  rw [same] at before
  exact lt_irrefl _ before

theorem hierarchyFor_eq_some {path : String} {entry : String × List String}
    (found : b.hierarchyFor path = some entry) : entry ∈ b.hierarchies ∧ Covers entry.1 path := by
  obtain ⟨root, dirs⟩ := entry
  unfold hierarchyFor at found
  have matched := List.find?_some found
  have covering : (decide (path = root) || isAncestor root path) = true := matched
  rw [Bool.or_eq_true, decide_eq_true_iff] at covering
  exact ⟨List.mem_of_find?_eq_some found, covering.imp_left Eq.symm⟩

end Record

/-! ### Adding watches below a directory -/

section Adding

variable {view : FsView} {f : Facility κ}

theorem mem_addBelow_of_mem (below : view.ChildrenBelow) {top : String} (cleanTop : IsCleanAbs top)
    {dirs : List String} (k : κ) {x : String} (member : x ∈ dirs) :
    x ∈ (addBelow view f top dirs k).1 := by
  unfold addBelow
  refine below.walkFold_invariant cleanTop (fun st : List String × κ => x ∈ st.1) ?_ member
  rintro ⟨dirs, k⟩ path info - - held
  dsimp only
  split_ifs
  · exact held
  · exact held
  · split
    · exact held
    · exact PathSet.mem_insert.mpr (Or.inr held)

/-- Watches added below a directory stay within every hierarchy covering it. -/
theorem covers_addBelow (below : view.ChildrenBelow) {root top : String} (cleanTop : IsCleanAbs top)
    (within : Covers root top) {dirs : List String} (covered : ∀ x ∈ dirs, Covers root x) (k : κ) :
    ∀ x ∈ (addBelow view f top dirs k).1, Covers root x := by
  unfold addBelow
  refine below.walkFold_invariant cleanTop (fun st : List String × κ => ∀ x ∈ st.1, Covers root x)
    ?_ covered
  rintro ⟨dirs, k⟩ path info cleanPath inside held
  dsimp only
  split_ifs
  · exact held
  · exact held
  · split
    · exact held
    · intro x member
      rcases PathSet.mem_insert.mp member with rfl | old
      · rw [cleanPath.clean_eq]
        exact within.trans inside
      · exact held x old

/-- Adding watches below a directory of a rooted hierarchy keeps it rooted. -/
theorem rooted_addBelow (below : view.ChildrenBelow) {root top : String} (cleanTop : IsCleanAbs top)
    (within : Covers root top) {dirs : List String} (rooted : Rooted (root, dirs)) (k : κ) :
    Rooted (root, (addBelow view f top dirs k).1) where
  clean := rooted.clean
  root_mem := mem_addBelow_of_mem below cleanTop k rooted.root_mem
  increasing := pairwise_addBelow top rooted.increasing k
  covers := covers_addBelow below cleanTop within rooted.covers k

/-- **Adding watches below a directory keeps the tally**, with a facility that never fails: each
watch it adds is for a directory of the hierarchy not yet recorded, so for none recorded
elsewhere, which all lie outside the hierarchy. -/
theorem tallies_addBelow {g : Facility κ} (never : g.NeverFails) (below : view.ChildrenBelow)
    {root top : String} (cleanTop : IsCleanAbs top) (within : Covers root top)
    {others : String → Prop} (outside : ∀ x, others x → ¬ Covers root x) {dirs : List String}
    (s : κ × List WatchCall) (nodup : (WatchCall.live s.2).Nodup)
    (live : ∀ x, x ∈ WatchCall.live s.2 ↔ others x ∨ x ∈ dirs) :
    (WatchCall.live (addBelow view g.logged top dirs s).2.2).Nodup ∧
      ∀ x, x ∈ WatchCall.live (addBelow view g.logged top dirs s).2.2 ↔
        others x ∨ x ∈ (addBelow view g.logged top dirs s).1 := by
  unfold addBelow
  refine below.walkFold_invariant cleanTop (fun st : List String × κ × List WatchCall =>
    (WatchCall.live st.2.2).Nodup ∧ ∀ x, x ∈ WatchCall.live st.2.2 ↔ others x ∨ x ∈ st.1) ?_
    ⟨nodup, live⟩
  rintro ⟨dirs, s⟩ path info cleanPath inside ⟨nodup, live⟩
  dsimp only
  split_ifs with skipped recorded
  · exact ⟨nodup, live⟩
  · exact ⟨nodup, live⟩
  · rw [Facility.logged_add_of_never never]
    dsimp only
    rw [cleanPath.clean_eq] at recorded ⊢
    -- the new watch is for a directory recorded neither here nor elsewhere
    have fresh : path ∉ WatchCall.live s.2 := by
      rw [live]
      rintro (elsewhere | member)
      · exact outside path elsewhere (within.trans inside)
      · exact recorded (List.contains_iff_mem.mpr member)
    refine ⟨WatchCall.nodup_live_append_add nodup fresh, fun x => ?_⟩
    rw [WatchCall.mem_live_append_add, live, PathSet.mem_insert]
    tauto

/-- **Adding the watch of a directory recorded nowhere, then those below it, keeps the tally**,
with a facility that never fails, when the directory lies in a hierarchy outside all the others. -/
theorem tallies_add_then_below {g : Facility κ} (never : g.NeverFails) (below : view.ChildrenBelow)
    {b : HierarchyBackend} (increasing : KeysIncrease b.hierarchies) {root path : String}
    (cleanPath : IsCleanAbs path) (within : Covers root path)
    (outside : ∀ x, b.Elsewhere root x → ¬ Covers root x) {dirs : List String}
    {s : κ × List WatchCall} (nodup : (WatchCall.live s.2).Nodup) (fresh : path ∉ WatchCall.live s.2)
    (live : ∀ x, x ∈ WatchCall.live s.2 ∨ x = path ↔ b.Elsewhere root x ∨ x ∈ dirs) :
    ({ b with hierarchies := putHierarchy root (addBelow view g.logged path dirs
        ((g.add path s.1).2, s.2 ++ [.add path])).1 b.hierarchies } : HierarchyBackend).Tallies
      (addBelow view g.logged path dirs ((g.add path s.1).2, s.2 ++ [.add path])).2.2 := by
  obtain ⟨nodup', live'⟩ := tallies_addBelow never below cleanPath within outside
    ((g.add path s.1).2, s.2 ++ [.add path]) (WatchCall.nodup_live_append_add nodup fresh)
    fun x => WatchCall.mem_live_append_add.trans (live x)
  exact tallies_put increasing nodup' live'

end Adding

/-! ### Requests over several hierarchies -/

/-- The loop of a request keeps what each of its steps keeps, given the hierarchies done. -/
theorem foldl_each_induction
    {one : HierarchyBackend → κ → String → Option String × HierarchyBackend × κ}
    (holds : List String → HierarchyBackend → κ → Prop) {roots : List String}
    (keeps : ∀ done b k root, root ∈ roots → holds done b k →
      holds (done ++ [root]) (one b k root).2.1 (one b k root).2.2)
    {F : List (String × String) × HierarchyBackend × κ → String →
      List (String × String) × HierarchyBackend × κ}
    (step : ∀ failed b k root, (F (failed, b, k) root).2 = (one b k root).2) :
    ∀ {rs : List String}, (∀ root ∈ rs, root ∈ roots) →
      ∀ {done failed b k run}, rs.foldl F (failed, b, k) = run → holds done b k →
        holds (done ++ rs) run.2.1 run.2.2
  | [], _, done, failed, b, k, run, ran, held => by
    subst ran
    rw [List.append_nil]
    exact held
  | root :: rest, within, done, failed, b, k, run, ran, held => by
    have next : F (failed, b, k) root =
        ((F (failed, b, k) root).1, (one b k root).2.1, (one b k root).2.2) :=
      Prod.ext rfl (step failed b k root)
    rw [List.foldl_cons, next] at ran
    rw [← List.singleton_append, ← List.append_assoc]
    exact foldl_each_induction holds keeps step (fun other member => within other
      (List.mem_cons_of_mem _ member)) ran (keeps done b k root (within root List.mem_cons_self) held)

/-- **A request keeps what each of its steps keeps**, given the hierarchies already done. -/
theorem each_induction {one : HierarchyBackend → κ → String → Option String × HierarchyBackend × κ}
    (holds : List String → HierarchyBackend → κ → Prop) {roots : List String}
    (keeps : ∀ done b k root, root ∈ roots → holds done b k →
      holds (done ++ [root]) (one b k root).2.1 (one b k root).2.2)
    {b : HierarchyBackend} {k : κ} (held : holds [] b k) :
    holds roots (each one roots b k).2.1 (each one roots b k).2.2 := by
  unfold each
  generalize ran : List.foldl _ ([], b, k) roots = run
  have reached := foldl_each_induction holds keeps (fun failed b k root => by
    dsimp only
    split <;> next answer => rw [answer]) (fun _ member => member) ran held
  rw [List.nil_append] at reached
  obtain ⟨failed, b', k'⟩ := run
  cases failed <;> exact reached

theorem foldl_each_quiet
    {one : HierarchyBackend → κ → String → Option String × HierarchyBackend × κ}
    {F : List (String × String) × HierarchyBackend × κ → String →
      List (String × String) × HierarchyBackend × κ}
    (step : ∀ b k root, F ([], b, k) root = ([], (one b k root).2.1, (one b k root).2.2)) :
    ∀ {rs : List String} {b : HierarchyBackend} {k : κ} {run}, rs.foldl F ([], b, k) = run →
      run.1 = []
  | [], b, k, run, ran => by
    subst ran
    rfl
  | root :: rest, b, k, run, ran => by
    rw [List.foldl_cons, step] at ran
    exact foldl_each_quiet step ran

/-- A request whose every step succeeds succeeds. -/
theorem each_of_quiet {one : HierarchyBackend → κ → String → Option String × HierarchyBackend × κ}
    (quiet : ∀ b k root, (one b k root).1 = none) (roots : List String) (b : HierarchyBackend)
    (k : κ) : (each one roots b k).1 = none := by
  unfold each
  generalize ran : List.foldl _ ([], b, k) roots = run
  have quietRun := foldl_each_quiet (fun b k root => by
    dsimp only
    rw [show one b k root = (none, (one b k root).2.1, (one b k root).2.2) from
      Prod.ext (quiet b k root) rfl]) ran
  obtain ⟨failed, b', k'⟩ := run
  cases (quietRun : failed = [])
  rfl

/-! ### Starting a hierarchy -/

section Start

variable {view : FsView} {f : Facility κ} {b : HierarchyBackend}

/-- **Starting one hierarchy** changes nothing, or fails to add its root's watch and changes no
hierarchy, or records a hierarchy not held before with the watches added below its root. -/
theorem startOne_cases (view : FsView) (f : Facility κ) (b : HierarchyBackend) (k : κ)
    (root : String) :
    (startOne view f b k root).2 = (b, k) ∨
      (f.add root k).1 ≠ none ∧ (startOne view f b k root).2.1 = b ∨
      root ∉ b.roots ∧ (f.add root k).1 = none ∧
        (startOne view f b k root).2 =
          ({ b with hierarchies :=
              (putHierarchy root (addBelow view f root [root] (f.add root k).2).1 b.hierarchies) },
            (addBelow view f root [root] (f.add root k).2).2) := by
  unfold startOne
  by_cases held : (b.hierarchies.lookup root).isSome
  · rw [if_pos held]
    exact Or.inl rfl
  · rw [if_neg held]
    split
    · exact Or.inl rfl
    · split_ifs
      · exact Or.inl rfl
      · -- the facility's answer for the root decides
        cases added : f.add root k with
        | mk answer k' =>
          cases answer with
          | some reason => exact Or.inr (Or.inl ⟨by simp, rfl⟩)
          | none => exact Or.inr (Or.inr ⟨fun member => held (lookup_isSome_iff.mpr member), rfl, rfl⟩)

theorem wellFormed_startOne (below : view.ChildrenBelow) (wellFormed : b.WellFormed)
    {root : String} (cleanRoot : IsCleanAbs root)
    (apart : ∀ other ∈ b.roots, isAncestor root other = false ∧ isAncestor other root = false)
    (k : κ) : (startOne view f b k root).2.1.WellFormed := by
  rcases startOne_cases view f b k root with same | ⟨-, same⟩ | ⟨-, -, started⟩
  · rw [same]
    exact wellFormed
  · rw [same]
    exact wellFormed
  · rw [started]
    exact wellFormed.put (rooted_addBelow below cleanRoot (.refl root) (rooted_single cleanRoot) _)
      fun other held _ => apart other.1 (List.mem_map_of_mem held)

/-- Hierarchies a request may start: clean absolute paths none of which lies below another one
requested or held, or above one held. -/
def Apart (b : HierarchyBackend) (roots : List String) : Prop :=
  ∀ root ∈ roots, IsCleanAbs root ∧
    ∀ other ∈ roots ++ b.roots, isAncestor root other = false ∧ isAncestor other root = false

instance (b : HierarchyBackend) (roots : List String) : Decidable (Apart b roots) :=
  inferInstanceAs (Decidable (∀ root ∈ roots, _))

/-- What a start request keeps along its steps: the record's shape, and only hierarchies held
before or requested are held. -/
theorem start_induction (below : view.ChildrenBelow) (holds : HierarchyBackend → κ → Prop)
    {roots : List String} (apart : Apart b roots)
    (keeps : ∀ b' k root, IsCleanAbs root →
      (∀ other ∈ b'.roots, isAncestor root other = false ∧ isAncestor other root = false) →
      b'.WellFormed → holds b' k → holds (startOne view f b' k root).2.1 (startOne view f b' k root).2.2)
    (wellFormed : b.WellFormed) {k : κ} (held : holds b k) :
    (start view f roots b k).2.1.WellFormed ∧
      holds (start view f roots b k).2.1 (start view f roots b k).2.2 := by
  refine (each_induction (fun _ b' k' => (b'.WellFormed ∧ holds b' k') ∧
    ∀ other ∈ b'.roots, other ∈ roots ++ b.roots) ?_ ⟨⟨wellFormed, held⟩,
    fun other member => List.mem_append_right _ member⟩).1
  rintro - b' k' root requested ⟨⟨wellFormed', held'⟩, within⟩
  obtain ⟨cleanRoot, apartRoot⟩ := apart root requested
  have apart' : ∀ other ∈ b'.roots, isAncestor root other = false ∧ isAncestor other root = false :=
    fun other member => apartRoot other (within other member)
  refine ⟨⟨wellFormed_startOne below wellFormed' cleanRoot apart' k', keeps b' k' root cleanRoot apart'
    wellFormed' held'⟩, fun other member => ?_⟩
  -- starting one hierarchy holds at most that one more
  rcases ((startOne_law view f b' k' root wellFormed'.increasing).2 other).mp member with
    ⟨rfl, -⟩ | ⟨-, old⟩
  · exact List.mem_append_left _ requested
  · exact within other old

theorem tallies_startOne {g : Facility κ} (never : g.NeverFails) (below : view.ChildrenBelow)
    (wellFormed : b.WellFormed) {s : κ × List WatchCall} (tallies : b.Tallies s.2) {root : String}
    (cleanRoot : IsCleanAbs root)
    (apart : ∀ other ∈ b.roots, isAncestor root other = false ∧ isAncestor other root = false) :
    (startOne view g.logged b s root).2.1.Tallies (startOne view g.logged b s root).2.2.2 := by
  rcases startOne_cases view g.logged b s root with same | ⟨failed, -⟩ | ⟨fresh, -, started⟩
  · rw [same]
    exact tallies
  · exact absurd (never _ _).1 failed
  · rw [started, Facility.logged_add_of_never never]
    dsimp only
    -- the new hierarchy lies apart from every one held, so outside all they record
    have outside : ∀ x, b.Elsewhere root x → ¬ Covers root x := by
      rintro x ⟨other, held, different, member⟩ covers
      have apartOther := apart other.1 (List.mem_map_of_mem held)
      exact different (Covers.eq_of_apart (wellFormed.rooted _ held).clean cleanRoot
        ((wellFormed.rooted _ held).covers x member) covers apartOther.2 apartOther.1)
    have notLive : root ∉ WatchCall.live s.2 := by
      rw [tallies.mem_live, recorded_iff_of_fresh fresh]
      exact fun elsewhere => outside root elsewhere (.refl root)
    refine tallies_add_then_below never below wellFormed.increasing cleanRoot (.refl root) outside
      tallies.nodup notLive fun x => ?_
    rw [tallies.mem_live, recorded_iff_of_fresh fresh, List.mem_singleton]

theorem wellFormed_start (below : view.ChildrenBelow) (wellFormed : b.WellFormed)
    {roots : List String} (apart : Apart b roots) (k : κ) :
    (start view f roots b k).2.1.WellFormed :=
  (start_induction below (fun _ _ => True) apart (fun _ _ _ _ _ _ _ => trivial) wellFormed
    trivial).1

theorem tallies_start {g : Facility κ} (never : g.NeverFails) (below : view.ChildrenBelow)
    (wellFormed : b.WellFormed) {s : κ × List WatchCall} (tallies : b.Tallies s.2)
    {roots : List String} (apart : Apart b roots) :
    (start view g.logged roots b s).2.1.Tallies (start view g.logged roots b s).2.2.2 :=
  (start_induction below (fun (b' : HierarchyBackend) (s' : κ × List WatchCall) => b'.Tallies s'.2) apart
    (fun _ _ _ cleanRoot apart' wellFormed' tallies' =>
      tallies_startOne never below wellFormed' tallies' cleanRoot apart') wellFormed tallies).2

end Start

/-! ### Stopping hierarchies -/

section Stop

variable {b : HierarchyBackend}

theorem stopOne_of_lookup_none {f : Facility κ} {root : String}
    (missing : b.hierarchies.lookup root = none) (k : κ) : stopOne f b k root = (none, b, k) := by
  unfold stopOne
  rw [missing]

theorem wellFormed_stopOne (f : Facility κ) (wellFormed : b.WellFormed) (k : κ) (root : String) :
    (stopOne f b k root).2.1.WellFormed := by
  unfold stopOne
  split
  · exact wellFormed
  · next dirs found =>
    have held : (root, dirs) ∈ b.hierarchies := wellFormed.increasing.lookup_eq_some_iff.mp found
    generalize List.foldl _ (none, k) dirs.reverse = run
    obtain ⟨rootFailure, k'⟩ := run
    cases rootFailure with
    | some reason =>
      -- the hierarchy stays with its root alone
      exact wellFormed.put (rooted_single (wellFormed.rooted _ held).clean) (wellFormed.apart held)
    | none => exact wellFormed.filter _

theorem wellFormed_stop (f : Facility κ) (wellFormed : b.WellFormed) (roots : List String) (k : κ) :
    (stop f roots b k).2.1.WellFormed :=
  each_induction (fun _ b' _ => b'.WellFormed)
    (fun _ _ k' root _ wellFormed' => wellFormed_stopOne f wellFormed' k' root) wellFormed

/-- The loop that removes a hierarchy's watches, when no remove fails, reports no failure and
logs a remove for each directory, in order. -/
theorem foldl_remove_quiet
    {G : Option String × (κ × List WatchCall) → String → Option String × (κ × List WatchCall)}
    (step : ∀ s dir, G (none, s) dir = (none, (G (none, s) dir).2.1, s.2 ++ [.remove dir])) :
    ∀ {dirs : List String} {s run}, dirs.foldl G (none, s) = run →
      run.1 = none ∧ run.2.2 = s.2 ++ dirs.map .remove
  | [], s, run, ran => by
    subst ran
    simp
  | dir :: rest, s, run, ran => by
    rw [List.foldl_cons, step] at ran
    obtain ⟨quiet, logged⟩ := foldl_remove_quiet step ran
    refine ⟨quiet, ?_⟩
    rw [logged]
    simp

/-- **Stopping a held hierarchy**, with a facility that never fails, succeeds, lets it go, and
removes the watches of its directories from the deepest up. -/
theorem stopOne_logged {g : Facility κ} (never : g.NeverFails) {root : String} {dirs : List String}
    (found : b.hierarchies.lookup root = some dirs) (s : κ × List WatchCall) :
    (stopOne g.logged b s root).1 = none ∧
      (stopOne g.logged b s root).2.1 = { b with hierarchies := b.hierarchies.filter (·.1 ≠ root) } ∧
      (stopOne g.logged b s root).2.2.2 = s.2 ++ dirs.reverse.map .remove := by
  unfold stopOne
  rw [found]
  dsimp only
  generalize ran : List.foldl _ (none, s) dirs.reverse = run
  obtain ⟨quiet, logged⟩ := foldl_remove_quiet (fun s dir => by
    dsimp only [Facility.logged]
    cases answer : (g.remove dir s.1).1 with
    | removed => rfl
    | notWatched => rfl
    | failed reason => exact absurd answer ((never dir s.1).2 reason)) ran
  obtain ⟨rootFailure, s'⟩ := run
  dsimp only at quiet logged
  subst quiet
  exact ⟨rfl, rfl, logged⟩

theorem stopOne_quiet {g : Facility κ} (never : g.NeverFails) (b : HierarchyBackend)
    (s : κ × List WatchCall) (root : String) : (stopOne g.logged b s root).1 = none := by
  cases found : b.hierarchies.lookup root with
  | none => rw [stopOne_of_lookup_none found]
  | some dirs => exact (stopOne_logged never found s).1

theorem tallies_stopOne {g : Facility κ} (never : g.NeverFails) (wellFormed : b.WellFormed)
    {s : κ × List WatchCall} (tallies : b.Tallies s.2) (root : String) :
    (stopOne g.logged b s root).2.1.Tallies (stopOne g.logged b s root).2.2.2 := by
  cases found : b.hierarchies.lookup root with
  | none =>
    rw [stopOne_of_lookup_none found]
    exact tallies
  | some dirs =>
    have held : (root, dirs) ∈ b.hierarchies := wellFormed.increasing.lookup_eq_some_iff.mp found
    obtain ⟨-, stopped, logged⟩ := stopOne_logged never found s
    rw [stopped, logged]
    refine ⟨?_, fun x => ?_⟩
    · rw [WatchCall.live_append_removes]
      exact tallies.nodup.filter _
    · -- what is left are the directories recorded for the other hierarchies
      rw [WatchCall.live_append_removes, List.mem_filter, tallies.mem_live,
        wellFormed.recorded_iff held, mem_recorded_filter, decide_eq_true_iff, List.mem_reverse]
      constructor
      · rintro ⟨member | elsewhere, gone⟩
        · exact absurd member gone
        · exact elsewhere
      · intro elsewhere
        exact ⟨Or.inr elsewhere, wellFormed.not_mem_of_elsewhere held elsewhere⟩

/-- **A request to stop hierarchies**, with a facility that never fails, lets go exactly the
requested hierarchies. -/
theorem roots_stop {g : Facility κ} (never : g.NeverFails) (increasing : KeysIncrease b.hierarchies)
    (roots : List String) (s : κ × List WatchCall) (key : String) :
    key ∈ (stop g.logged roots b s).2.1.roots ↔ key ∉ roots ∧ key ∈ b.roots := by
  refine (each_induction (fun done b' _ => KeysIncrease b'.hierarchies ∧
    ∀ key, key ∈ b'.roots ↔ key ∉ done ∧ key ∈ b.roots) ?_ ⟨increasing, fun key => by simp⟩).2 key
  rintro done b' s' root - ⟨increasing', held⟩
  obtain ⟨increasing'', held'⟩ := stopOne_law g.logged b' s' root increasing'
  refine ⟨increasing'', fun key => ?_⟩
  rw [held', held, stopOne_quiet never]
  simp only [List.mem_append, List.mem_singleton, not_or]
  tauto

/-- A request to stop hierarchies, with a facility that never fails, keeps the record's shape and
tally, holds no hierarchy it did not hold, and only adds calls to the log. -/
theorem stop_keeps {g : Facility κ} (never : g.NeverFails) (wellFormed : b.WellFormed)
    {s : κ × List WatchCall} (tallies : b.Tallies s.2) (roots : List String) :
    (stop g.logged roots b s).2.1.WellFormed ∧
      (stop g.logged roots b s).2.1.Tallies (stop g.logged roots b s).2.2.2 ∧
      (∀ entry ∈ (stop g.logged roots b s).2.1.hierarchies, entry ∈ b.hierarchies) ∧
      ∃ calls, (stop g.logged roots b s).2.2.2 = s.2 ++ calls := by
  refine each_induction (fun _ (b' : HierarchyBackend) (s' : κ × List WatchCall) =>
    b'.WellFormed ∧ b'.Tallies s'.2 ∧
    (∀ entry ∈ b'.hierarchies, entry ∈ b.hierarchies) ∧ ∃ calls, s'.2 = s.2 ++ calls) ?_
    ⟨wellFormed, tallies, fun _ member => member, [], (List.append_nil _).symm⟩
  rintro - b' s' root - ⟨wellFormed', tallies', within, calls, logged⟩
  refine ⟨wellFormed_stopOne _ wellFormed' s' root, tallies_stopOne never wellFormed' tallies' root,
    ?_⟩
  cases found : b'.hierarchies.lookup root with
  | none =>
    rw [stopOne_of_lookup_none found]
    exact ⟨within, calls, logged⟩
  | some dirs =>
    obtain ⟨-, stopped, logged'⟩ := stopOne_logged never found s'
    rw [stopped, logged', logged, List.append_assoc]
    exact ⟨fun entry member => within entry (List.mem_of_mem_filter member), _, rfl⟩

/-- **Stopping a held hierarchy removes every watch recorded for it**, with a facility that never
fails: the request succeeds and lets the hierarchy go, and its calls remove each directory
recorded for it, whose watch is then gone. -/
theorem stop_removes {g : Facility κ} (never : g.NeverFails) (wellFormed : b.WellFormed)
    {s : κ × List WatchCall} (tallies : b.Tallies s.2) {roots : List String}
    {entry : String × List String} (held : entry ∈ b.hierarchies) (requested : entry.1 ∈ roots) :
    (stop g.logged roots b s).1 = none ∧ entry.1 ∉ (stop g.logged roots b s).2.1.roots ∧
      ∃ calls, (stop g.logged roots b s).2.2.2 = s.2 ++ calls ∧
        ∀ dir ∈ entry.2, WatchCall.remove dir ∈ calls ∧
          dir ∉ WatchCall.live (stop g.logged roots b s).2.2.2 := by
  have gone : entry.1 ∉ (stop g.logged roots b s).2.1.roots := fun member =>
    ((roots_stop never wellFormed.increasing roots s entry.1).mp member).1 requested
  obtain ⟨-, tallies', within, calls, logged⟩ := stop_keeps never wellFormed tallies roots
  refine ⟨each_of_quiet (stopOne_quiet never) roots b s, gone, calls, logged, fun dir member => ?_⟩
  -- the directory is recorded for no hierarchy left, so no watch of it is live
  have notLive : dir ∉ WatchCall.live (stop g.logged roots b s).2.2.2 := by
    rw [tallies'.mem_live, mem_recorded]
    rintro ⟨other, held', member'⟩
    have same := wellFormed.eq_of_covers held (within other held')
      ((wellFormed.rooted _ held).covers dir member)
      ((wellFormed.rooted _ (within other held')).covers dir member')
    rw [same] at gone
    exact gone (List.mem_map_of_mem held')
  refine ⟨WatchCall.remove_mem_of_live calls ?_ (logged ▸ notLive), notLive⟩
  exact (tallies.mem_live dir).mpr (mem_recorded.mpr ⟨entry, held, member⟩)

end Stop

/-! ### Change events -/

section Event

variable {view : FsView} {f : Facility κ} {b : HierarchyBackend}

/-- **A change event** changes nothing, or fails to add the watch of a created directory and
changes no hierarchy, or records a created directory with the watches added below it, or drops
from its hierarchy the directories at or below a removed path. -/
theorem onEvent_cases (view : FsView) (f : Facility κ) (name : String) (ops : EventOps)
    (b : HierarchyBackend) (k : κ) :
    (b.onEvent view f name ops k).2 = (b, k) ∨
      (b.onEvent view f name ops k).2.1 = b ∧ (f.add (clean name) k).1 ≠ none ∨
      (∃ root dirs, b.hierarchyFor (clean name) = some (root, dirs) ∧ clean name ∉ dirs ∧
        (f.add (clean name) k).1 = none ∧
        (b.onEvent view f name ops k).2 =
          ({ b with hierarchies := (putHierarchy root (addBelow view f (clean name)
              (PathSet.insert (clean name) dirs) (f.add (clean name) k).2).1 b.hierarchies) },
            (addBelow view f (clean name) (PathSet.insert (clean name) dirs)
              (f.add (clean name) k).2).2)) ∨
      ∃ root dirs, b.hierarchyFor (clean name) = some (root, dirs) ∧ clean name ≠ root ∧
        (b.onEvent view f name ops k).2 =
          ({ b with hierarchies := (putHierarchy root (dirs.filter fun dir =>
              !(decide (dir = clean name) || (clean name ++ "/").toList.isPrefixOf dir.toList))
              b.hierarchies) },
            (dirs.filter fun dir =>
              decide (dir = clean name) || (clean name ++ "/").toList.isPrefixOf dir.toList).foldl
              (fun k dir => (f.remove dir k).2) k) := by
  unfold onEvent
  dsimp only
  cases found : b.hierarchyFor (clean name) with
  | none => exact Or.inl rfl
  | some entry =>
    obtain ⟨root, dirs⟩ := entry
    dsimp only
    split_ifs with creating removing
    · split
      · split_ifs with fresh
        · -- the facility's answer for the created directory decides
          cases added : f.add (clean name) k with
          | mk answer k' =>
            cases answer with
            | some reason => exact Or.inr (Or.inl ⟨rfl, by simp⟩)
            | none =>
              refine Or.inr (Or.inr (Or.inl ⟨root, dirs, rfl, ?_, rfl, rfl⟩))
              simpa using fresh.2
        · exact Or.inl rfl
      · exact Or.inl rfl
    · refine Or.inr (Or.inr (Or.inr ⟨root, dirs, rfl, ?_, ?_⟩))
      · simp only [Bool.and_eq_true, decide_eq_true_eq] at removing
        exact removing.2
      · rw [List.partition_eq_filter_filter]
        rfl
    · exact Or.inl rfl

/-- A path removed below a hierarchy's root does not take the root with it. -/
theorem keeps_root {root path : String} (covers : Covers root path) (notRoot : path ≠ root) :
    (decide (root = path) || (path ++ "/").toList.isPrefixOf root.toList) = false := by
  rw [Bool.or_eq_false_iff, decide_eq_false_iff_not, Bool.eq_false_iff]
  refine ⟨Ne.symm notRoot, fun prefixed => ?_⟩
  -- the removed path and a slash are longer than the root
  have longer := (List.isPrefixOf_iff_prefix.mp prefixed).length_le
  simp only [String.toList_append, List.length_append, String.length_toList] at longer
  have shorter := covers.length_le
  have slash : "/".length = 1 := rfl
  omega

theorem Rooted.insert {root : String} {dirs : List String} (rooted : Rooted (root, dirs))
    {path : String} (covers : Covers root path) : Rooted (root, PathSet.insert path dirs) where
  clean := rooted.clean
  root_mem := PathSet.mem_insert.mpr (Or.inr rooted.root_mem)
  increasing := PathSet.pairwise_insert path rooted.increasing
  covers x member := by
    rcases PathSet.mem_insert.mp member with rfl | old
    · exact covers
    · exact rooted.covers x old

theorem Rooted.kept {root : String} {dirs : List String} (rooted : Rooted (root, dirs))
    {path : String} (covers : Covers root path) (notRoot : path ≠ root) :
    Rooted (root, dirs.filter fun dir =>
      !(decide (dir = path) || (path ++ "/").toList.isPrefixOf dir.toList)) where
  clean := rooted.clean
  root_mem := List.mem_filter.mpr ⟨rooted.root_mem, by rw [keeps_root covers notRoot]; rfl⟩
  increasing := rooted.increasing.sublist List.filter_sublist
  covers x member := rooted.covers x (List.mem_of_mem_filter member)

theorem wellFormed_onEvent (below : view.ChildrenBelow) (wellFormed : b.WellFormed) (name : String)
    (ops : EventOps) (k : κ) : (b.onEvent view f name ops k).2.1.WellFormed := by
  rcases onEvent_cases view f name ops b k with same | ⟨same, -⟩ |
    ⟨root, dirs, found, -, -, created⟩ | ⟨root, dirs, found, notRoot, removed⟩
  · rw [same]
    exact wellFormed
  · rw [same]
    exact wellFormed
  · obtain ⟨held, covers⟩ := hierarchyFor_eq_some found
    have rooted := wellFormed.rooted _ held
    rw [created]
    exact wellFormed.put (rooted_addBelow below (isCleanAbs_of_covers rooted.clean covers
      (clean_clean name)) covers (rooted.insert covers) _) (wellFormed.apart held)
  · obtain ⟨held, covers⟩ := hierarchyFor_eq_some found
    rw [removed]
    exact wellFormed.put ((wellFormed.rooted _ held).kept covers notRoot) (wellFormed.apart held)

/-- **A change event keeps the tally**, with a facility that never fails: a created directory
was recorded nowhere, so its watch and those added below it are new; a removed path takes the
watches of exactly the directories it drops. -/
theorem tallies_onEvent {g : Facility κ} (never : g.NeverFails) (below : view.ChildrenBelow)
    (wellFormed : b.WellFormed) {s : κ × List WatchCall} (tallies : b.Tallies s.2) (name : String)
    (ops : EventOps) :
    (b.onEvent view g.logged name ops s).2.1.Tallies (b.onEvent view g.logged name ops s).2.2.2 := by
  rcases onEvent_cases view g.logged name ops b s with same | ⟨-, failed⟩ |
    ⟨root, dirs, found, fresh, -, created⟩ | ⟨root, dirs, found, notRoot, removed⟩
  · rw [same]
    exact tallies
  · exact absurd (never _ _).1 failed
  · obtain ⟨held, covers⟩ := hierarchyFor_eq_some found
    have rooted := wellFormed.rooted _ held
    have outside : ∀ x, b.Elsewhere root x → ¬ Covers root x :=
      fun _ elsewhere => wellFormed.not_covers_of_elsewhere held elsewhere
    rw [created, Facility.logged_add_of_never never]
    dsimp only
    have notLive : clean name ∉ WatchCall.live s.2 := by
      rw [tallies.mem_live, wellFormed.recorded_iff held]
      rintro (member | elsewhere)
      · exact fresh member
      · exact outside _ elsewhere covers
    refine tallies_add_then_below never below wellFormed.increasing
      (isCleanAbs_of_covers rooted.clean covers (clean_clean name)) covers outside tallies.nodup
      notLive fun x => ?_
    rw [tallies.mem_live, wellFormed.recorded_iff held, PathSet.mem_insert]
    tauto
  · obtain ⟨held, -⟩ := hierarchyFor_eq_some found
    rw [removed, Facility.foldl_logged_remove]
    refine tallies_put wellFormed.increasing ?_ fun x => ?_
    · rw [WatchCall.live_append_removes]
      exact tallies.nodup.filter _
    · rw [WatchCall.live_append_removes, List.mem_filter, tallies.mem_live,
        wellFormed.recorded_iff held, decide_eq_true_iff]
      -- a directory recorded elsewhere is none of this hierarchy's
      by_cases member : x ∈ dirs
      · have notElsewhere : ¬ b.Elsewhere root x :=
          fun elsewhere => wellFormed.not_mem_of_elsewhere held elsewhere member
        simp [member, notElsewhere, ← Bool.not_eq_true, List.isPrefixOf_iff_prefix]
      · simp [member]

end Event

/-! ### Runs -/

/-- **Runs of a hierarchy backend** from a new one: requests to start hierarchies apart from each
other and from those held, requests to stop hierarchies, and change events, each on a file system
whose directories list their entries one level below them. -/
inductive Run (f : Facility κ) (k₀ : κ) : HierarchyBackend → κ → Prop
  | new : Run f k₀ {} k₀
  | start {b : HierarchyBackend} {k : κ} (view : FsView) (roots : List String) :
      Run f k₀ b k → view.ChildrenBelow → Apart b roots →
      Run f k₀ (HierarchyBackend.start view f roots b k).2.1
        (HierarchyBackend.start view f roots b k).2.2
  | stop {b : HierarchyBackend} {k : κ} (roots : List String) :
      Run f k₀ b k →
      Run f k₀ (HierarchyBackend.stop f roots b k).2.1 (HierarchyBackend.stop f roots b k).2.2
  | event {b : HierarchyBackend} {k : κ} (view : FsView) (name : String) (ops : EventOps) :
      Run f k₀ b k → view.ChildrenBelow →
      Run f k₀ (b.onEvent view f name ops k).2.1 (b.onEvent view f name ops k).2.2

section Runs

variable {f : Facility κ} {k₀ : κ}

/-- **Along every run the record keeps its shape**, whatever the facility answers. -/
theorem Run.wellFormed {b : HierarchyBackend} {k : κ} (run : Run f k₀ b k) : b.WellFormed := by
  induction run with
  | new => exact wellFormed_new
  | start view roots _ below apart ih => exact wellFormed_start below ih apart _
  | stop roots _ ih => exact wellFormed_stop f ih roots _
  | event view name ops _ below ih => exact wellFormed_onEvent below ih name ops _

/-- **Along every run the live watches are the recorded directories, each once**, with a facility
that never fails. -/
theorem Run.tallies {g : Facility κ} (never : g.NeverFails) {b : HierarchyBackend}
    {s : κ × List WatchCall} (run : Run g.logged (k₀, []) b s) : b.Tallies s.2 := by
  induction run with
  | new => exact tallies_new
  | start view roots run below apart ih =>
    exact tallies_start never below run.wellFormed ih apart
  | stop roots run ih => exact (stop_keeps never run.wellFormed ih roots).2.1
  | event view name ops run below ih =>
    exact tallies_onEvent never below run.wellFormed ih name ops

end Runs

/-- **The watches of a hierarchy backend match its record.** Along every run from a new backend,
whatever the facility answers, each recorded hierarchy holds its root and only paths at or below
it. With a facility that never fails, the watches its log of calls leaves are the recorded
directories, each once, so the watch count is the number of live watches; and a request to stop
held hierarchies succeeds, lets them go, and removes the watch of every directory recorded for
them. -/
theorem backend_watches_match_record :
    (∀ {κ : Type} (f : Facility κ) (k₀ : κ) (b : HierarchyBackend) (k : κ), Run f k₀ b k →
      ∀ entry ∈ b.hierarchies, entry.1 ∈ entry.2 ∧ ∀ dir ∈ entry.2, Covers entry.1 dir) ∧
    ∀ {κ : Type} (g : Facility κ), g.NeverFails → ∀ (k₀ : κ) (b : HierarchyBackend)
      (s : κ × List WatchCall), Run g.logged (k₀, []) b s →
        (WatchCall.live s.2).Perm b.recorded ∧ b.recorded.Nodup ∧
          b.watchCount = (WatchCall.live s.2).length ∧
          ∀ (roots : List String), ∀ entry ∈ b.hierarchies, entry.1 ∈ roots →
            (stop g.logged roots b s).1 = none ∧ entry.1 ∉ (stop g.logged roots b s).2.1.roots ∧
              ∃ calls, (stop g.logged roots b s).2.2.2 = s.2 ++ calls ∧
                ∀ dir ∈ entry.2, WatchCall.remove dir ∈ calls ∧
                  dir ∉ WatchCall.live (stop g.logged roots b s).2.2.2 := by
  refine ⟨fun f k₀ b k run entry held => ?_, fun g never k₀ b s run => ?_⟩
  · have rooted := run.wellFormed.rooted entry held
    exact ⟨rooted.root_mem, rooted.covers⟩
  · have wellFormed := run.wellFormed
    have tallies := run.tallies never
    -- two lists without repeats that hold the same paths are permutations of each other
    have perm : (WatchCall.live s.2).Perm b.recorded :=
      (List.perm_ext_iff_of_nodup tallies.nodup wellFormed.nodup_recorded).mpr tallies.mem_live
    refine ⟨perm, wellFormed.nodup_recorded, ?_, fun roots entry held requested =>
      stop_removes never wellFormed tallies held requested⟩
    rw [watchCount_eq_length_recorded, perm.length_eq]

/-- Starting `/h` over a directory `/h/a`, with a facility that never fails, watches both
directories, once each; stopping `/h` then succeeds. -/
theorem start_and_stop_tallied :
    let g := Facility.scripted [] []
    let fs : MemFs := { nodes := [("/", .directory), ("/h", .directory), ("/h/a", .directory)] }
    let started := start fs.view g.logged ["/h"] {} (({} : Calls), [])
    g.NeverFails ∧ Run g.logged (({} : Calls), []) started.2.1 started.2.2 ∧
      started.2.1.hierarchies = [("/h", ["/h", "/h/a"])] ∧
      started.2.1.watchCount = (WatchCall.live started.2.2.2).length ∧
      (stop g.logged ["/h"] started.2.1 started.2.2).1 = none := by
  intro g fs started
  have never : g.NeverFails := fun path k => ⟨rfl, fun reason => by simp [g, Facility.scripted]⟩
  have tree : fs.view.Tree := MemFs.Plain.tree (by decide)
  have run : Run g.logged (({} : Calls), []) started.2.1 started.2.2 :=
    .start fs.view ["/h"] .new tree.childrenBelow (by decide)
  have recorded : started.2.1.hierarchies = [("/h", ["/h", "/h/a"])] := by decide
  have matched := backend_watches_match_record.2 g never _ _ _ run
  have held : ("/h", ["/h", "/h/a"]) ∈ started.2.1.hierarchies := by
    rw [recorded]
    exact List.mem_singleton_self _
  exact ⟨never, run, recorded, matched.2.2.1,
    (matched.2.2.2 ["/h"] _ held (List.mem_singleton_self _)).1⟩

end HierarchyBackend

end StableWatch
