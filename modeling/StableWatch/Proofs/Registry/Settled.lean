import Mathlib
import StableWatch.Backend.DryRun
import StableWatch.Proofs.Registry.Basic
/-!
# What a successful call leaves watched

A required directory is watched through the root of the build in progress that contains it, else
through the shortest earlier root that contains it, else by itself (`WatchedThrough`). The
registry computes exactly that hierarchy (`watchedThrough_substitute`), and there is only one
(`WatchedThrough.functional`): the roots of a build never lie inside one another, and the roots
containing a directory form a chain (`Path.Covers.total`).

After every call that reports no error, whatever the watcher did before, the watched hierarchies
are the outermost of those through which the required directories are watched (`Settled`).
Declaring roots and reporting changes update the registry they leave, so their case is
`update_watched_of_ok`. Ending a build updates first and then forgets the earlier roots that are
not watched: `reduce_substituted_pruned` shows that forgetting them never changes what the
substitution reduces to, because a watched root is kept and every other root lies inside a
watched hierarchy. The same holds for any earlier roots between the watched and the merged ones
(`reduce_substituted_between`), which is what makes a repeated build come back to where it was.

Against a watcher that never fails, a call either succeeds or refuses a path and changes nothing,
so every registry that such a watcher's calls lead to from the empty one is settled
(`Settled.runAll`).
-/

namespace StableWatch

open StableWatch.Path

namespace Registry

variable {σ : Type}

/-! ### The hierarchy that watches a directory -/

/-- The hierarchy through which a required directory is watched: the root of the build in progress
that contains it, else the shortest earlier root that contains it, else the directory itself. -/
inductive WatchedThrough (reg : Registry) (dir : String) : String → Prop
  | current {root : Root} (member : root ∈ reg.current.roots) (contains : root.contains dir = true) :
      WatchedThrough reg dir root.path
  | previous {root : Root} (noCurrent : ∀ other ∈ reg.current.roots, other.contains dir = false)
      (member : root ∈ reg.previous.roots) (contains : root.contains dir = true)
      (shortest : ∀ other ∈ reg.previous.roots, other.contains dir = true →
        root.path.length ≤ other.path.length) :
      WatchedThrough reg dir root.path
  | direct (noCurrent : ∀ other ∈ reg.current.roots, other.contains dir = false)
      (noPrevious : ∀ other ∈ reg.previous.roots, other.contains dir = false) :
      WatchedThrough reg dir dir

theorem watchedThrough_substitute {reg : Registry} (wellFormed : reg.WellFormed) (dir : String) :
    reg.WatchedThrough dir (reg.substitute dir) := by
  cases current : reg.current.find? dir with
  | some root =>
    rw [substitute_of_current current]
    obtain ⟨member, contains⟩ := RootSet.find?_spec current
    exact .current member contains
  | none =>
    have noCurrent := RootSet.find?_eq_none_iff.mp current
    cases previous : reg.previous.find? dir with
    | some root =>
      rw [substitute_of_previous current previous]
      obtain ⟨member, contains⟩ := RootSet.find?_spec previous
      -- the root found first covers every earlier root containing the directory
      refine .previous noCurrent member contains fun other otherMember otherContains => ?_
      exact (RootSet.covers_of_find? wellFormed.previous previous otherMember otherContains).length_le
    | none =>
      rw [substitute_of_none current previous]
      exact .direct noCurrent (RootSet.find?_eq_none_iff.mp previous)

/-- **A directory is watched through one hierarchy only.** -/
theorem WatchedThrough.functional {reg : Registry} (wellFormed : reg.WellFormed)
    {dir first second : String} (through : reg.WatchedThrough dir first)
    (through' : reg.WatchedThrough dir second) : first = second := by
  cases through with
  | current member contains =>
    cases through' with
    | current member' contains' =>
      -- two roots of the build contain the directory, and neither lies inside the other
      exact Covers.eq_of_apart (wellFormed.current.clean _ member)
        (wellFormed.current.clean _ member') (Root.covers_of_contains contains)
        (Root.covers_of_contains contains') (wellFormed.current_outermost _ member _ member')
        (wellFormed.current_outermost _ member' _ member)
    | previous noCurrent => simp [noCurrent _ member] at contains
    | direct noCurrent => simp [noCurrent _ member] at contains
  | previous noCurrent member contains shortest =>
    cases through' with
    | current member' contains' => simp [noCurrent _ member'] at contains'
    | previous _ member' contains' shortest' =>
      -- the shorter of two comparable roots covers the other, and both are the shortest
      rcases (Root.covers_of_contains contains).total (wellFormed.previous.clean _ member)
          (wellFormed.previous.clean _ member') (Root.covers_of_contains contains') with
        covers | covers
      · exact covers.eq_of_length_le (shortest' _ member contains)
      · exact (covers.eq_of_length_le (shortest _ member' contains')).symm
    | direct _ noPrevious => simp [noPrevious _ member] at contains
  | direct noCurrent noPrevious =>
    cases through' with
    | current member' contains' => simp [noCurrent _ member'] at contains'
    | previous _ member' contains' => simp [noPrevious _ member'] at contains'
    | direct => rfl

/-- A directory is watched through itself or through a root that contains it. -/
theorem WatchedThrough.eq_or_root {reg : Registry} {dir top : String}
    (through : reg.WatchedThrough dir top) :
    top = dir ∨ ∃ root ∈ reg.current.roots ++ reg.previous.roots,
      root.path = top ∧ root.contains dir = true := by
  cases through with
  | current member contains => exact Or.inr ⟨_, List.mem_append_left _ member, rfl, contains⟩
  | previous _ member contains => exact Or.inr ⟨_, List.mem_append_right _ member, rfl, contains⟩
  | direct => exact Or.inl rfl

theorem forall₂_watchedThrough_substitute {reg : Registry} (wellFormed : reg.WellFormed)
    (dirs : List String) : List.Forall₂ reg.WatchedThrough dirs (dirs.map reg.substitute) := by
  rw [List.forall₂_map_right_iff, List.forall₂_same]
  intro dir _
  exact watchedThrough_substitute wellFormed dir

/-- The hierarchies through which a list of directories is watched are their substitutes. -/
theorem eq_map_substitute_of_forall₂ {reg : Registry} (wellFormed : reg.WellFormed)
    {dirs subs : List String} (related : List.Forall₂ reg.WatchedThrough dirs subs) :
    subs = dirs.map reg.substitute := by
  induction related with
  | nil => rfl
  | @cons dir sub dirs subs through _ ih =>
    rw [List.map_cons, ← ih, (watchedThrough_substitute wellFormed dir).functional wellFormed through]

/-! ### Settled registries -/

/-- The watched hierarchies a successful call leaves: the outermost of the hierarchies through
which the required directories are watched. Every required directory is then watched, no watched
hierarchy lies inside another, and each is a required directory or a root that contains one. -/
structure Settled (reg : Registry) : Prop where
  watched_eq : ∀ subs, List.Forall₂ reg.WatchedThrough reg.required subs →
    reg.watched = Roots.reduce subs
  covered : ∀ dir ∈ reg.required, ∃ top ∈ reg.watched, Covers top dir
  outermost : ∀ top ∈ reg.watched, ∀ path ∈ reg.watched, isAncestor top path = false
  justified : ∀ top ∈ reg.watched, top ∈ reg.required ∨
    ∃ root ∈ reg.current.roots ++ reg.previous.roots, root.path = top ∧
      ∃ dir ∈ reg.required, root.contains dir = true

/-- A well-formed registry watching the reduction of its substituted directories is settled. -/
theorem Settled.of_watched_eq {reg : Registry} (wellFormed : reg.WellFormed)
    (watchedEq : reg.watched = Roots.reduce (reg.required.map reg.substitute)) : reg.Settled where
  watched_eq subs related := by
    rw [eq_map_substitute_of_forall₂ wellFormed related]
    exact watchedEq
  covered dir required := by
    obtain ⟨top, kept, covers⟩ := Roots.exists_mem_reduce_covers wellFormed.substituted_clean
      (reg.substitute dir) (List.mem_map_of_mem required)
    rw [← watchedEq] at kept
    exact ⟨top, kept, covers.trans (covers_substitute reg dir)⟩
  outermost top member path member' := by
    rw [watchedEq] at member member'
    exact Roots.reduce_antichain wellFormed.substituted_clean member member'
  justified top member := by
    rw [watchedEq] at member
    obtain ⟨dir, required, rfl⟩ :=
      List.mem_map.mp (Roots.mem_of_mem_reduce wellFormed.substituted_clean member)
    rcases (watchedThrough_substitute wellFormed dir).eq_or_root with
      same | ⟨root, inRoots, path, contains⟩
    · rw [same]
      exact Or.inl required
    · exact Or.inr ⟨root, inRoots, path, dir, required, contains⟩

theorem settled_empty : Registry.empty.Settled :=
  Settled.of_watched_eq wellFormed_empty rfl

/-- An update that succeeds watches the reduction of the substituted directories. -/
theorem update_watched_eq_reduce {reg : Registry} (wellFormed : reg.WellFormed) (w : Watcher σ)
    (svc : σ) (ok : (update w reg svc).error = none) :
    (update w reg svc).registry.watched =
      Roots.reduce ((update w reg svc).registry.required.map
        (update w reg svc).registry.substitute) := by
  rw [update_watched_of_ok w svc wellFormed.watched_increasing ok, update_required,
    update_substitute, desired, Roots.reduce_ofList]

theorem Settled.update {reg : Registry} (wellFormed : reg.WellFormed) (w : Watcher σ) (svc : σ)
    (ok : (update w reg svc).error = none) : (update w reg svc).registry.Settled :=
  Settled.of_watched_eq (wellFormed.update w svc) (update_watched_eq_reduce wellFormed w svc ok)

/-! ### Earlier roots between the kept and the merged ones -/

section Between

variable {reg other : Registry} (wellFormed : reg.WellFormed) (noCurrent : reg.current.roots = [])

include noCurrent in
theorem find?_current_eq_none (dir : String) : reg.current.find? dir = none := by
  rw [RootSet.find?_eq_none_iff, noCurrent]
  simp

include wellFormed noCurrent in
/-- A registry whose roots all lie among the earlier roots of `reg` watches every directory
through something that `reg` watches it through or inside: the root `reg` finds first covers every
root containing the directory. -/
theorem covers_substitute_of_within (wellFormed' : other.WellFormed)
    (within : ∀ root ∈ other.current.roots ++ other.previous.roots, root ∈ reg.previous.roots)
    (dir : String) : Covers (reg.substitute dir) (other.substitute dir) := by
  have current := find?_current_eq_none noCurrent dir
  rcases (watchedThrough_substitute wellFormed' dir).eq_or_root with
    same | ⟨root, member, path, contains⟩
  · rw [same]
    exact covers_substitute reg dir
  · have earlier := within root member
    cases previous : reg.previous.find? dir with
    | some outer =>
      rw [substitute_of_previous current previous, ← path]
      exact RootSet.covers_of_find? wellFormed.previous previous earlier contains
    | none => exact absurd previous (RootSet.find?_ne_none earlier contains)

include noCurrent in
/-- A registry without roots of a build in progress, whose earlier roots lie among those of `reg`
and include the watched ones, watches a directory that `reg` watches through a watched hierarchy
through one covering it: the watched root stays, and the root found first covers it. -/
theorem covers_substitute_of_kept (wellFormed' : other.WellFormed)
    (noCurrent' : other.current.roots = [])
    (within : ∀ root ∈ other.previous.roots, root ∈ reg.previous.roots)
    (kept : ∀ root ∈ reg.previous.roots, root.path ∈ reg.watched → root ∈ other.previous.roots)
    {dir : String} (watched : reg.substitute dir ∈ reg.watched) :
    Covers (other.substitute dir) (reg.substitute dir) := by
  have current := find?_current_eq_none noCurrent dir
  have current' := find?_current_eq_none noCurrent' dir
  cases previous : reg.previous.find? dir with
  | some root =>
    rw [substitute_of_previous current previous] at watched ⊢
    obtain ⟨member, contains⟩ := RootSet.find?_spec previous
    have stays := kept root member watched
    cases found : other.previous.find? dir with
    | some outer =>
      rw [substitute_of_previous current' found]
      exact RootSet.covers_of_find? wellFormed'.previous found stays contains
    | none => exact absurd found (RootSet.find?_ne_none stays contains)
  | none =>
    have found : other.previous.find? dir = none := by
      rw [RootSet.find?_eq_none_iff]
      intro root member
      exact RootSet.find?_eq_none_iff.mp previous root (within root member)
    rw [substitute_of_none current previous, substitute_of_none current' found]

include wellFormed noCurrent in
/-- **Earlier roots between the watched and the merged ones change nothing watched.** For a
registry without roots of a build in progress that watches the reduction of its substituted
directories, substituting through any earlier roots that lie among its own and include the watched
ones leaves that reduction as it is. -/
theorem reduce_substituted_between (wellFormed' : other.WellFormed)
    (noCurrent' : other.current.roots = [])
    (within : ∀ root ∈ other.previous.roots, root ∈ reg.previous.roots)
    (kept : ∀ root ∈ reg.previous.roots, root.path ∈ reg.watched → root ∈ other.previous.roots)
    (watchedEq : reg.watched = Roots.reduce (reg.required.map reg.substitute)) :
    Roots.reduce (reg.required.map other.substitute) = reg.watched := by
  have clean := wellFormed.substituted_clean
  have clean' : ∀ path ∈ reg.required.map other.substitute, IsCleanAbs path := by
    intro path member
    obtain ⟨dir, required, rfl⟩ := List.mem_map.mp member
    exact wellFormed'.substitute_clean (wellFormed.required_clean dir required)
  have within' : ∀ root ∈ other.current.roots ++ other.previous.roots,
      root ∈ reg.previous.roots := by
    intro root member
    rw [noCurrent', List.nil_append] at member
    exact within root member
  rw [watchedEq]
  refine (Roots.reduce_eq_of_covers clean clean' ?_ ?_).symm
  · -- a substituted directory lies in a watched hierarchy, which stays covered
    intro path member
    obtain ⟨top, watched, covers⟩ := Roots.exists_mem_reduce_covers clean path member
    obtain ⟨dir, required, rfl⟩ := List.mem_map.mp (Roots.mem_of_mem_reduce clean watched)
    rw [← watchedEq] at watched
    exact ⟨other.substitute dir, List.mem_map_of_mem required,
      (covers_substitute_of_kept noCurrent wellFormed' noCurrent' within kept watched).trans
        covers⟩
  · intro path member
    obtain ⟨dir, required, rfl⟩ := List.mem_map.mp member
    exact ⟨reg.substitute dir, List.mem_map_of_mem required,
      covers_substitute_of_within wellFormed noCurrent wellFormed' within' dir⟩

include wellFormed noCurrent in
/-- **Forgetting unwatched earlier roots changes nothing watched.** -/
theorem reduce_substituted_pruned
    (watchedEq : reg.watched = Roots.reduce (reg.required.map reg.substitute)) :
    Roots.reduce (reg.required.map reg.pruned.substitute) = reg.watched :=
  reduce_substituted_between wellFormed noCurrent wellFormed.pruned noCurrent
    (fun _ member => (mem_pruned_previous.mp member).1)
    (fun _ member watched => mem_pruned_previous.mpr ⟨member, watched⟩) watchedEq

end Between

theorem Settled.finishBuild {reg : Registry} (wellFormed : reg.WellFormed) (w : Watcher σ)
    (svc : σ) (ok : (reg.finishBuild w svc).error = none) :
    (reg.finishBuild w svc).registry.Settled := by
  rw [finishBuild_eq] at ok ⊢
  have updated := wellFormed.retired.update w svc
  have noCurrent : (Registry.update w reg.retired svc).registry.current.roots = [] := by
    rw [update_current]
    rfl
  have watchedEq := update_watched_eq_reduce wellFormed.retired w svc ok
  exact Settled.of_watched_eq updated.pruned
    (reduce_substituted_pruned updated noCurrent watchedEq).symm

/-! ### Every call -/

/-- **Every call that succeeds leaves its registry settled**, from any well-formed registry and
whatever the watcher did before. -/
theorem Settled.run {reg : Registry} (wellFormed : reg.WellFormed) (w : Watcher σ) (call : Call)
    (svc : σ) (ok : (call.run w reg svc).error = none) : (call.run w reg svc).registry.Settled := by
  cases call with
  | declareRoots dirs =>
    rcases declareRoots_cases w dirs reg svc with ⟨e, refused⟩ | ⟨clean, checked, ran⟩
    · simp [Call.run, refused] at ok
    · simp only [Call.run, ran] at ok ⊢
      exact Settled.update (wellFormed.declared checked) w svc ok
  | changed removed added =>
    rcases changed_cases w removed added reg svc with
      ⟨e, refused⟩ | ⟨gone, fresh, -, checked, ran⟩
    · simp [Call.run, refused] at ok
    · simp only [Call.run, ran] at ok ⊢
      exact Settled.update (wellFormed.rescanned gone checked) w svc ok
  | finishBuild => exact Settled.finishBuild wellFormed w svc ok

/-- Against a watcher that never fails, every call keeps a settled registry settled: it succeeds,
or it refuses a path and changes nothing. -/
theorem Settled.run_of_neverFails {reg : Registry} (settled : reg.Settled)
    (wellFormed : reg.WellFormed) {w : Watcher σ} (never : w.NeverFails) (call : Call) (svc : σ) :
    (call.run w reg svc).registry.Settled := by
  rcases Call.run_of_neverFails never call reg svc with ok | unchanged
  · exact Settled.run wellFormed w call svc ok
  · rw [unchanged]
    exact settled

/-- **Against a watcher that never fails, every run keeps a reachable registry settled.** -/
theorem Settled.runAll {w : Watcher σ} (never : w.NeverFails) (calls : List Call) :
    ∀ {reg : Registry} (svc : σ), reg.Reachable → reg.Settled →
      (Call.runAll w calls reg svc).1.Settled := by
  induction calls with
  | nil => exact fun _ _ settled => settled
  | cons call rest ih =>
    intro reg svc reachable settled
    simp only [Call.runAll]
    exact ih _ (Reachable.step w svc call reachable)
      (settled.run_of_neverFails reachable.wellFormed never call svc)

/-- Right after a build ends, every earlier root is itself watched. -/
theorem previous_watched_finishBuild (w : Watcher σ) (reg : Registry) (svc : σ) :
    ∀ root ∈ (reg.finishBuild w svc).registry.previous.roots,
      root.path ∈ (reg.finishBuild w svc).registry.watched := by
  intro root member
  rw [finishBuild_eq] at member ⊢
  exact (mem_pruned_previous.mp member).2

/-- **The watched set is the reduction of the substituted required directories.** A call from a
reachable registry that reports no error leaves it settled, whatever the watcher did before;
against a watcher that never fails, every registry its calls lead to from the empty one is
settled; and right after a build ends, every earlier root is itself watched. -/
theorem watched_eq_reduce_watchedThrough :
    (∀ {σ : Type} (w : Watcher σ) (call : Call) {reg : Registry} (svc : σ), reg.Reachable →
      (call.run w reg svc).error = none → (call.run w reg svc).registry.Settled) ∧
    (∀ {σ : Type} (w : Watcher σ), w.NeverFails → ∀ (calls : List Call) (svc : σ),
      (Call.runAll w calls Registry.empty svc).1.Settled) ∧
    (∀ {σ : Type} (w : Watcher σ) (reg : Registry) (svc : σ),
      ∀ root ∈ (reg.finishBuild w svc).registry.previous.roots,
        root.path ∈ (reg.finishBuild w svc).registry.watched) :=
  ⟨fun w call _ svc reachable ok => Settled.run reachable.wellFormed w call svc ok,
    fun _ never calls svc => Settled.runAll never calls svc Reachable.empty settled_empty,
    previous_watched_finishBuild⟩

/-- Declaring a root against the dry-run watcher succeeds and leaves the registry settled, and so
does ending the build after it. -/
theorem settled_declaring_then_finishing :
    (Call.run DryRun.watcher (.declareRoots ["/proj"]) Registry.empty {}).error = none ∧
    (Call.run DryRun.watcher (.declareRoots ["/proj"]) Registry.empty {}).registry.Settled ∧
    (Call.runAll DryRun.watcher [.declareRoots ["/proj"], .finishBuild] Registry.empty {}).1.Settled :=
  have ok : (Call.run DryRun.watcher (.declareRoots ["/proj"]) Registry.empty {}).error = none :=
    rfl
  ⟨ok, watched_eq_reduce_watchedThrough.1 DryRun.watcher _ {} Reachable.empty ok,
    watched_eq_reduce_watchedThrough.2.1 DryRun.watcher (fun _ _ => ⟨rfl, rfl⟩) _ {}⟩

end Registry

end StableWatch
