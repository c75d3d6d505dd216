import StableWatch.Backend.Hierarchy
import StableWatch.Proofs.ParentWalk
import StableWatch.Proofs.PathSet
/-!
# What a directory walk reaches

`FsView.walk` visits the start and, through directories only, every entry below it, as deep as
the view's bound allows. On a view of a tree (`FsView.Tree`) every directory lists the entries
whose parent it is by clean absolute paths, the parent of every entry is a directory that lists
it, and no path nests as deep as the bound. There the walk from a directory lists the directory
and exactly the clean paths strictly below it that hold something (`mem_walk_iff`): it lists
nothing else (`mem_walkFrom_sound`), and it reaches every entry by going down its chain of
parents (`mem_walkFrom_complete`).

A walk with a state (`walkFoldFrom`) whose visitor always enters ends with what its visits added
along the nodes the walk lists (`mem_walkFoldFrom`). Adding watches below a directory with a
facility that never fails is such a walk, and adds exactly the directories strictly below it
(`HierarchyBackend.mem_addBelow`).
-/

namespace StableWatch

open StableWatch.Path

namespace FsView

variable {view : FsView}

/-- The kind of node at a path, a final link seen as a link; none when nothing is there. -/
def kindAt (view : FsView) (path : String) : Option NodeKind :=
  match view.lstat path with
  | .ok info => some info.kind
  | .error _ => none

theorem kindAt_of_lstat {path : String} {info : NodeInfo} (read : view.lstat path = .ok info) :
    view.kindAt path = some info.kind := by
  rw [kindAt, read]

theorem exists_lstat_of_kindAt {path : String} {kind : NodeKind}
    (found : view.kindAt path = some kind) :
    ∃ info, view.lstat path = .ok info ∧ info.kind = kind := by
  unfold kindAt at found
  split at found
  · next info read => exact ⟨info, read, Option.some.inj found⟩
  · cases found

/-- A directory strictly below `top`, named by its clean absolute path. -/
def DirBelow (view : FsView) (top path : String) : Prop :=
  IsCleanAbs path ∧ StrictAncestor top path ∧ view.kindAt path = some .directory

theorem DirBelow.trans {top middle path : String} (middleBelow : view.DirBelow top middle)
    (below : view.DirBelow middle path) : view.DirBelow top path :=
  ⟨below.1, middleBelow.2.1.trans below.2.1, below.2.2⟩

/-- A view of a tree of clean absolute paths: a directory lists the entries whose parent it is,
every entry's parent is a directory that lists it, and no path nests as deep as the bound. -/
structure Tree (view : FsView) : Prop where
  children_below : ∀ dir, IsCleanAbs dir → ∀ child ∈ view.children dir,
    IsCleanAbs child ∧ ParentStep child dir
  listed : ∀ path parent info, IsCleanAbs path → view.lstat path = .ok info →
    ParentStep path parent → view.kindAt parent = some .directory ∧ path ∈ view.children parent
  shallow : ∀ path info, IsCleanAbs path → view.lstat path = .ok info → depth path < view.depthBound

/-- Every strict ancestor of an entry is a directory. -/
theorem Tree.kindAt_of_strictAncestor (tree : view.Tree) {path ancestor : String}
    {info : NodeInfo} (cleanPath : IsCleanAbs path) (read : view.lstat path = .ok info)
    (above : StrictAncestor ancestor path) : view.kindAt ancestor = some .directory := by
  induction above with
  | single step => exact (tree.listed _ _ _ cleanPath read step).1
  | @tail middle _ toMiddle step ih =>
    -- the middle ancestor is a directory, so an entry of the next one up
    obtain ⟨middleInfo, middleRead, -⟩ := exists_lstat_of_kindAt ih
    exact (tree.listed _ _ _ (StrictAncestor.isCleanAbs cleanPath toMiddle) middleRead step).1

/-! ### The walk -/

theorem walkFrom_head (n : Nat) (path : String) (info : NodeInfo) :
    (path, info) ∈ view.walkFrom n path info := by
  cases n with
  | zero => exact List.mem_singleton_self _
  | succ n =>
    unfold walkFrom
    split
    · exact List.mem_cons_self
    · exact List.mem_singleton_self _

/-- The walk lists its start, and otherwise only clean entries strictly below it, with what
`lstat` tells of them. -/
theorem mem_walkFrom_sound (tree : view.Tree) :
    ∀ (n : Nat) {top : String} {itop : NodeInfo} {path : String} {info : NodeInfo},
      IsCleanAbs top → (path, info) ∈ view.walkFrom n top itop →
        (path = top ∧ info = itop) ∨
          (IsCleanAbs path ∧ StrictAncestor top path ∧ view.lstat path = .ok info)
  | 0, top, itop, path, info, _, listed => by
    rw [walkFrom, List.mem_singleton, Prod.mk.injEq] at listed
    exact Or.inl listed
  | n + 1, top, itop, path, info, cleanTop, listed => by
    unfold walkFrom at listed
    split at listed
    · rcases List.mem_cons.mp listed with head | below
      · exact Or.inl (Prod.mk.inj head)
      · obtain ⟨child, member, reached⟩ := List.mem_flatMap.mp below
        obtain ⟨cleanChild, step⟩ := tree.children_below top cleanTop child member
        split at reached
        · next childInfo read =>
          rcases mem_walkFrom_sound tree n cleanChild reached with
            ⟨rfl, rfl⟩ | ⟨clean, above, read'⟩
          · exact Or.inr ⟨cleanChild, Relation.TransGen.single step, read⟩
          · exact Or.inr ⟨clean, Relation.TransGen.tail above step, read'⟩
        · cases reached
    · rw [List.mem_singleton, Prod.mk.injEq] at listed
      exact Or.inl listed

/-- **The walk reaches every entry below a directory** that lies within `n` levels of it. -/
theorem mem_walkFrom_complete (tree : view.Tree) :
    ∀ (n : Nat) {top : String} {itop : NodeInfo} {path : String} {info : NodeInfo},
      IsCleanAbs path → itop.kind = .directory → StrictAncestor top path →
        view.lstat path = .ok info → depth path ≤ depth top + n →
          (path, info) ∈ view.walkFrom n top itop
  | 0, top, itop, path, info, cleanPath, _, above, _, shallow => by
    have deeper := above.depth_lt cleanPath.2
    omega
  | n + 1, top, itop, path, info, cleanPath, topDir, above, read, shallow => by
    -- the entry of `top` on the way down to `path`
    obtain ⟨child, toChild, step⟩ := Relation.TransGen.tail'_iff.mp above
    rcases Relation.reflTransGen_iff_eq_or_transGen.mp toChild with same | below
    · subst same
      have member := (tree.listed _ _ _ cleanPath read step).2
      unfold walkFrom
      rw [if_pos topDir]
      refine List.mem_cons_of_mem _ (List.mem_flatMap.mpr ⟨_, member, ?_⟩)
      rw [read]
      exact walkFrom_head n _ info
    · have cleanChild : IsCleanAbs child := StrictAncestor.isCleanAbs cleanPath below
      obtain ⟨childInfo, childRead, childDir⟩ :=
        exists_lstat_of_kindAt (tree.kindAt_of_strictAncestor cleanPath read below)
      have member := (tree.listed _ _ _ cleanChild childRead step).2
      -- the entry lies one level below `top`
      have deeperChild : depth child = depth top + 1 := by
        have parent := depth_dir cleanChild.2
        have lower := step.depth_lt cleanChild.2
        rw [step.1] at parent
        omega
      unfold walkFrom
      rw [if_pos topDir]
      refine List.mem_cons_of_mem _ (List.mem_flatMap.mpr ⟨child, member, ?_⟩)
      rw [childRead]
      exact mem_walkFrom_complete tree n cleanPath childDir below read (by omega)

/-- **What a walk from a directory lists**: the directory, and every clean path strictly below it
that holds something, with what `lstat` tells of it. -/
theorem mem_walk_iff (tree : view.Tree) {top : String} {itop : NodeInfo} (cleanTop : IsCleanAbs top)
    (topRead : view.lstat top = .ok itop) (topDir : itop.kind = .directory) {path : String}
    {info : NodeInfo} :
    (path, info) ∈ view.walkFrom view.depthBound top itop ↔
      (path = top ∧ info = itop) ∨
        (IsCleanAbs path ∧ StrictAncestor top path ∧ view.lstat path = .ok info) := by
  refine ⟨mem_walkFrom_sound tree _ cleanTop, ?_⟩
  rintro (⟨rfl, rfl⟩ | ⟨cleanPath, above, read⟩)
  · exact walkFrom_head _ _ _
  · have bounded := tree.shallow path info cleanPath read
    exact mem_walkFrom_complete tree _ cleanPath topDir above read (by omega)

/-! ### Walks with a state -/

section Fold

variable {σ : Type} {visit : σ → String → NodeInfo → σ × Bool}

/-- A walk with a state keeps what every visit keeps at the paths it can reach: those of a set
that holds the start and every entry its directories list. -/
theorem walkFoldFrom_invariant_within (allowed : String → Prop)
    (closed : ∀ dir, allowed dir → ∀ child ∈ view.children dir, allowed child) (holds : σ → Prop)
    (keeps : ∀ st path info, allowed path → holds st → holds (visit st path info).1) :
    ∀ (n : Nat) (st : σ) (path : String) (info : NodeInfo), allowed path → holds st →
      holds (view.walkFoldFrom visit n st path info)
  | 0, st, path, info, within, held => keeps st path info within held
  | n + 1, st, path, info, within, held => by
    unfold walkFoldFrom
    dsimp only
    split_ifs
    · -- every entry is walked from the state the earlier ones left
      have visited := keeps st path info within held
      have listed := closed path within
      generalize (visit st path info).1 = start at visited ⊢
      generalize view.children path = children at listed ⊢
      induction children generalizing start with
      | nil => exact visited
      | cons child rest ih =>
        rw [List.foldl_cons]
        refine ih _ ?_ fun other member => listed other (List.mem_cons_of_mem _ member)
        split
        · exact walkFoldFrom_invariant_within allowed closed holds keeps n _ _ _
            (listed child List.mem_cons_self) visited
        · exact visited
    · exact keeps st path info within held

/-- A walk with a state keeps what every visit keeps. -/
theorem walkFoldFrom_invariant (holds : σ → Prop)
    (keeps : ∀ st path info, holds st → holds (visit st path info).1) (n : Nat) (st : σ)
    (path : String) (info : NodeInfo) (held : holds st) :
    holds (view.walkFoldFrom visit n st path info) :=
  walkFoldFrom_invariant_within (fun _ => True) (fun _ _ _ _ => trivial) holds
    (fun st path info _ => keeps st path info) n st path info trivial held

/-- **A walk whose visitor always enters ends with what its visits added** along the nodes the
walk lists: each visit adds to a set of the state the key of a node it chooses. -/
theorem mem_walkFoldFrom (chosen : String → NodeInfo → Prop) (key : String → String)
    {set : σ → List String} (enters : ∀ st path info, (visit st path info).2 = true)
    (adds : ∀ st path info x,
      x ∈ set (visit st path info).1 ↔ x ∈ set st ∨ (chosen path info ∧ x = key path)) :
    ∀ (n : Nat) (st : σ) (path : String) (info : NodeInfo) (x : String),
      x ∈ set (view.walkFoldFrom visit n st path info) ↔
        x ∈ set st ∨ ∃ node ∈ view.walkFrom n path info, chosen node.1 node.2 ∧ x = key node.1
  | 0, st, path, info, x => by
    rw [walkFoldFrom, walkFrom, adds]
    simp
  | n + 1, st, path, info, x => by
    obtain ⟨visited, entered⟩ : ∃ visited, visit st path info = (visited, true) :=
      ⟨_, Prod.ext rfl (enters st path info)⟩
    have added := adds st path info x
    rw [entered] at added
    dsimp only at added
    unfold walkFoldFrom walkFrom
    rw [entered]
    dsimp only
    by_cases directory : info.kind = .directory
    · rw [if_pos ⟨directory, rfl⟩, if_pos directory]
      simp only [List.mem_cons, or_and_right, exists_or, exists_eq_left]
      rw [← or_assoc, ← added]
      clear added entered
      -- the entries are walked in turn, each from the state the earlier ones left
      generalize view.children path = children
      induction children generalizing visited with
      | nil => simp
      | cons child rest ih =>
        rw [List.foldl_cons, List.flatMap_cons]
        refine (ih _).trans ?_
        simp only [List.mem_append, or_and_right, exists_or]
        cases read : view.lstat child with
        | ok childInfo =>
          dsimp only
          rw [mem_walkFoldFrom chosen key enters adds n, or_assoc]
        | error e =>
          dsimp only
          simp
    · rw [if_neg fun entering => directory entering.1, if_neg directory]
      simp only [List.mem_singleton, exists_eq_left]
      exact added

end Fold

end FsView

/-- A facility that never fails answers every add with no reason, and its next state. -/
theorem Facility.add_of_never {κ : Type} {f : Facility κ}
    (never : ∀ path k, (f.add path k).1 = none) (path : String) (k : κ) :
    f.add path k = (none, (f.add path k).2) :=
  Prod.ext (never path k) rfl

namespace HierarchyBackend

variable {κ : Type} {view : FsView} {f : Facility κ}

/-- Adding watches below a directory keeps the set of directories increasing. -/
theorem pairwise_addBelow (top : String) {dirs : List String} (increasing : dirs.Pairwise (· < ·))
    (k : κ) : (addBelow view f top dirs k).1.Pairwise (· < ·) := by
  unfold addBelow FsView.walkFold
  split
  · refine FsView.walkFoldFrom_invariant (fun st : List String × κ => st.1.Pairwise (· < ·)) ?_
      _ _ _ _ increasing
    rintro ⟨dirs, k⟩ path info held
    dsimp only
    split_ifs
    · exact held
    · exact held
    · split
      · exact held
      · exact PathSet.pairwise_insert _ held
  · exact increasing

/-- **Adding watches below a directory adds every directory strictly below it**, on a view of a
tree and with a facility that never fails. -/
theorem mem_addBelow (tree : view.Tree) (never : ∀ path k, (f.add path k).1 = none)
    {top : String} {itop : NodeInfo} (cleanTop : IsCleanAbs top)
    (topRead : view.lstat top = .ok itop)
    (topDir : itop.kind = .directory) (dirs : List String) (k : κ) (x : String) :
    x ∈ (addBelow view f top dirs k).1 ↔ x ∈ dirs ∨ view.DirBelow top x := by
  unfold addBelow FsView.walkFold
  rw [topRead]
  dsimp only
  rw [FsView.mem_walkFoldFrom (fun path info => info.kind = .directory ∧ path ≠ top) Path.clean
    ?enters ?adds]
  · refine or_congr Iff.rfl ⟨?_, ?_⟩
    · rintro ⟨⟨path, info⟩, listed, ⟨directory, other⟩, rfl⟩
      rcases (FsView.mem_walk_iff tree cleanTop topRead topDir).mp listed with
        ⟨same, -⟩ | ⟨cleanPath, above, read⟩
      · exact absurd same other
      · rw [cleanPath.2]
        exact ⟨cleanPath, above, by rw [FsView.kindAt_of_lstat read, directory]⟩
    · rintro ⟨cleanPath, above, directory⟩
      obtain ⟨info, read, kind⟩ := FsView.exists_lstat_of_kindAt directory
      refine ⟨(x, info), (FsView.mem_walk_iff tree cleanTop topRead topDir).mpr
        (Or.inr ⟨cleanPath, above, read⟩), ⟨kind, ?_⟩, cleanPath.2.symm⟩
      rintro rfl
      exact strictAncestor_irrefl cleanPath.2 above
  case enters =>
    rintro ⟨dirs, k⟩ path info
    dsimp only
    split_ifs
    · rfl
    · rfl
    · rw [Facility.add_of_never never path k]
  case adds =>
    rintro ⟨dirs, k⟩ path info x
    dsimp only
    split_ifs with skipped contained
    · constructor
      · exact Or.inl
      · rintro (held | ⟨⟨directory, other⟩, -⟩)
        · exact held
        · rcases skipped with notDirectory | same
          · exact absurd directory notDirectory
          · exact absurd same other
    · constructor
      · exact Or.inl
      · rintro (held | ⟨-, rfl⟩)
        · exact held
        · exact List.contains_iff_mem.mp contained
    · push Not at skipped
      rw [Facility.add_of_never never path k]
      dsimp only
      rw [PathSet.mem_insert]
      constructor
      · rintro (same | held)
        · exact Or.inr ⟨skipped, same⟩
        · exact Or.inl held
      · rintro (held | ⟨-, same⟩)
        · exact Or.inr held
        · exact Or.inl same

end HierarchyBackend

end StableWatch
