import Mathlib
import StableWatch.Backend.DryRun
import StableWatch.Watch.Scripted
import StableWatch.Proofs.Registry.Settled
/-!
# Repeating a build

A build declares its roots, reports what a rescan changed, and ends (`Registry.Call.build`).
Against a watcher that never fails, repeating a build that has ended, with the same roots and no
change, brings the registry back to exactly where the first run left it
(`repeated_build_keeps_registry`). The roots of the build join the earlier roots and are forgotten
again as before, and the watched hierarchies come back, since the earlier roots of the repeated
run lie between the watched and the merged ones of the first (`finishBuild_returns`, from
`reduce_substituted_between`).

Whether the repetition asks the watcher anything depends on the earlier roots. While a build is in
progress a directory is watched through the root of the build containing it; once it has ended,
through the outermost root containing it. When a root kept from an earlier build lies strictly
outside a root of the build, the two differ, and the repetition stops the outer root, starts the
inner one, and at its end does the opposite (`repeated_build_restarts_inner_root`). When no kept
root lies strictly outside a root of the build, declaring the roots again changes nothing watched
(`desired_declared_eq`), and the repetition asks nothing.
-/

namespace StableWatch

open StableWatch.Path

/-- Passes a request on to `answer` and records it after the earlier ones. -/
def Watcher.record {σ : Type} (answer : List String → σ → Option WatchFailure × σ)
    (request : List String → Scripted.Request) (paths : List String)
    (state : σ × List Scripted.Request) : Option WatchFailure × (σ × List Scripted.Request) :=
  ((answer paths state.1).1, ((answer paths state.1).2, state.2 ++ [request paths]))

/-- `w` with every request it is given recorded, oldest first. -/
def Watcher.recording {σ : Type} (w : Watcher σ) : Watcher (σ × List Scripted.Request) where
  start := Watcher.record w.start .start
  stop := Watcher.record w.stop .stop

theorem Watcher.NeverFails.recording {σ : Type} {w : Watcher σ} (never : w.NeverFails) :
    w.recording.NeverFails :=
  fun paths state => never paths state.1

namespace Registry

attribute [ext] Registry

variable {σ : Type}

/-- The calls of one build: declaring its roots, reporting what a rescan changed, and ending it. -/
def Call.build (roots : List String) (removed added : List Snapshot) : List Call :=
  [.declareRoots roots, .changed removed added, .finishBuild]

/-- An update asks nothing and changes nothing when the watched hierarchies are the desired
ones. -/
theorem update_of_desired_eq {w : Watcher σ} {reg : Registry} (svc : σ)
    (same : reg.desired = reg.watched) : update w reg svc = ⟨reg, svc, none⟩ := by
  have nothingLeft : PathSet.diff reg.watched reg.watched = [] := by
    unfold PathSet.diff
    exact List.filter_eq_nil_iff.mpr fun path member => by simp [member]
  have nothingToStop : reg.toStop = [] := by
    unfold toStop
    rw [same, nothingLeft]
  have nothingToStart : reg.toStart = [] := by
    unfold toStart
    rw [same, nothingLeft]
  rw [update_of_ok (Or.inl ⟨nothingToStop, rfl⟩) (Or.inl ⟨nothingToStart, rfl⟩), nothingToStop,
    nothingToStart]
  simp [PathSet.union, PathSet.diff]

/-- Reporting no change is an update and nothing else. -/
theorem changed_nil (w : Watcher σ) (reg : Registry) (svc : σ) :
    reg.changed w [] [] svc = update w reg svc :=
  rfl

theorem changed_current (w : Watcher σ) (removed added : List Snapshot) (reg : Registry)
    (svc : σ) : (reg.changed w removed added svc).registry.current = reg.current := by
  rcases changed_cases w removed added reg svc with ⟨_, refused⟩ | ⟨_, _, -, -, ran⟩
  · rw [refused]
  · rw [ran, update_current]
    rfl

/-- Roots that pass the check are declared, and the registry updated. -/
theorem declareRoots_of_checked (w : Watcher σ) (reg : Registry) (svc : σ)
    {dirs clean : List String} (checked : dirs.mapM checkPath = .ok clean) :
    reg.declareRoots w dirs svc = update w (reg.declared clean) svc := by
  unfold declareRoots
  rw [checked]
  rfl

/-- **How a build ends** against a watcher that never fails: in a registry `U`, pruned, that has no
roots of a build in progress and watches the reduction of its substituted directories; when the
build's roots pass the check, the roots it declared are among the earlier roots of `U`. -/
theorem build_ends {w : Watcher σ} (never : w.NeverFails) {reg : Registry}
    (wellFormed : reg.WellFormed) (roots : List String) (removed added : List Snapshot) (svc : σ) :
    ∃ (U : Registry) (svc' : σ), U.WellFormed ∧ U.current = RootSet.empty ∧
      U.watched = Roots.reduce (U.required.map U.substitute) ∧
      (∀ clean, roots.mapM checkPath = .ok clean →
        ∀ root ∈ (RootSet.declare clean).roots, root ∈ U.previous.roots) ∧
      Call.runAll w (Call.build roots removed added) reg svc = (U.pruned, svc') := by
  -- the call reporting the rescan leaves the registry whose roots the build's end retires
  obtain ⟨ending, endingEq⟩ : ∃ ending, ending = (reg.declareRoots w roots svc).registry.changed w
      removed added (reg.declareRoots w roots svc).watcher := ⟨_, rfl⟩
  have endingWellFormed : ending.registry.WellFormed := by
    rw [endingEq]
    exact (wellFormed.declareRoots w roots svc).changed w removed added _
  have ok := update_error_of_neverFails never ending.registry.retired ending.watcher
  have ran : Call.runAll w (Call.build roots removed added) reg svc =
      ((update w ending.registry.retired ending.watcher).registry.pruned,
        (update w ending.registry.retired ending.watcher).watcher) := by
    rw [endingEq]
    rfl
  refine ⟨(update w ending.registry.retired ending.watcher).registry, _,
    endingWellFormed.retired.update w _, by rw [update_current]; rfl,
    update_watched_eq_reduce endingWellFormed.retired w _ ok, fun clean checked root member => ?_,
    ran⟩
  -- the declared roots are the build's, retired among the earlier ones at its end
  have current : ending.registry.current = RootSet.declare clean := by
    rw [endingEq, changed_current, declareRoots_of_checked w reg svc checked, update_current]
    rfl
  rw [update_previous]
  refine ((endingWellFormed.previous.addAll endingWellFormed.current).2 root).mpr (Or.inr ?_)
  rw [current]
  exact member

/-! ### Ending a repeated build -/

section Returning

variable {U : Registry} (wellFormed : U.WellFormed) (noCurrent : U.current = RootSet.empty)
  (watchedEq : U.watched = Roots.reduce (U.required.map U.substitute))

include wellFormed noCurrent watchedEq in
/-- **A build that changed nothing comes back.** Let `U` have no roots of a build in progress and
watch the reduction of its substituted directories. Ending a build in a registry that tracks what
`U` tracks, whose roots lie among the earlier roots of `U` and include those `U` keeps watched,
returns to `U` pruned; it asks nothing when the registry watches what `U` watches. -/
theorem finishBuild_returns {reg : Registry} (wellFormed' : reg.WellFormed)
    (sameTracked : reg.tracked = U.tracked)
    (within : ∀ root, root ∈ reg.previous.roots ∨ root ∈ reg.current.roots →
      root ∈ U.previous.roots)
    (kept : ∀ root ∈ U.pruned.previous.roots, root ∈ reg.previous.roots ∨ root ∈ reg.current.roots)
    {w : Watcher σ} (never : w.NeverFails) (svc : σ) :
    (reg.finishBuild w svc).registry = U.pruned ∧
      (reg.watched = U.watched → reg.finishBuild w svc = ⟨U.pruned, svc, none⟩) := by
  have retiredWellFormed := wellFormed'.retired
  have merged : ∀ root, root ∈ reg.retired.previous.roots ↔
      root ∈ reg.previous.roots ∨ root ∈ reg.current.roots :=
    (wellFormed'.previous.addAll wellFormed'.current).2
  have sameRequired : reg.retired.required = U.required := by
    unfold required
    rw [show reg.retired.tracked = U.tracked from sameTracked]
  -- the retired roots lie between the ones `U` keeps and its own, so the same is desired
  have desiredEq : reg.retired.desired = U.watched := by
    unfold desired
    rw [Roots.reduce_ofList, sameRequired]
    exact reduce_substituted_between wellFormed (by rw [noCurrent]; rfl) retiredWellFormed rfl
      (fun root member => within root ((merged root).mp member))
      (fun root member watched =>
        (merged root).mpr (kept root (mem_pruned_previous.mpr ⟨member, watched⟩)))
      watchedEq
  -- and pruned by what `U` watches, they are the roots `U` keeps
  have returns : ∀ retired : Registry, retired.tracked = U.tracked → retired.watched = U.watched →
      retired.current = RootSet.empty → retired.previous = reg.retired.previous →
      retired.pruned = U.pruned := by
    intro retired tracked watched current previous
    apply Registry.ext
    · exact tracked
    · exact watched
    · exact current.trans noCurrent.symm
    · have prunedWellFormed : retired.pruned.previous.WellFormed :=
        (previous ▸ retiredWellFormed.previous).keep _
      apply RootSet.WellFormed.ext prunedWellFormed wellFormed.pruned.previous
      intro root
      rw [mem_pruned_previous, mem_pruned_previous, previous, watched]
      constructor
      · rintro ⟨member, isWatched⟩
        exact ⟨within root ((merged root).mp member), isWatched⟩
      · rintro ⟨member, isWatched⟩
        exact ⟨(merged root).mpr (kept root (mem_pruned_previous.mpr ⟨member, isWatched⟩)),
          isWatched⟩
  refine ⟨?_, fun same => ?_⟩
  · rw [finishBuild_eq]
    have ok := update_error_of_neverFails never reg.retired svc
    apply returns
    · rw [update_tracked]
      exact sameTracked
    · rw [update_watched_of_ok w svc retiredWellFormed.watched_increasing ok, desiredEq]
    · rw [update_current]
      rfl
    · rw [update_previous]
  · rw [finishBuild_eq, update_of_desired_eq svc (desiredEq.trans same.symm)]
    show (⟨reg.retired.pruned, svc, none⟩ : Outcome σ) = ⟨U.pruned, svc, none⟩
    rw [returns reg.retired sameTracked same rfl rfl]

include wellFormed noCurrent watchedEq in
/-- A registry at the end of a build watches what it wants watched. -/
theorem pruned_desired_eq : U.pruned.desired = U.pruned.watched := by
  unfold desired
  rw [Roots.reduce_ofList]
  exact reduce_substituted_pruned wellFormed (by rw [noCurrent]; rfl) watchedEq

include wellFormed noCurrent watchedEq in
/-- **Repeating a build whose roots are refused** changes nothing and asks nothing. -/
theorem repeat_of_refused {w : Watcher σ} (never : w.NeverFails) {roots : List String}
    {e : RegistryError} (refused : roots.mapM checkPath = .error e) (svc : σ) :
    Call.runAll w (Call.build roots [] []) U.pruned svc = (U.pruned, svc) := by
  have declareRefused : U.pruned.declareRoots w roots svc = ⟨U.pruned, svc, some e⟩ := by
    unfold declareRoots
    rw [refused]
  have settled := pruned_desired_eq wellFormed noCurrent watchedEq
  have ended := (finishBuild_returns wellFormed noCurrent watchedEq wellFormed.pruned rfl
    (fun root member => by
      rcases member with previous | current
      · exact (mem_pruned_previous.mp previous).1
      · rw [show U.pruned.current = RootSet.empty from noCurrent] at current
        cases current)
    (fun root member => Or.inl member) never svc).2 rfl
  simp only [Call.build, Call.runAll, Call.run]
  rw [declareRefused]
  dsimp only
  rw [changed_nil, update_of_desired_eq svc settled]
  dsimp only
  rw [ended]

include wellFormed in
/-- Declaring roots in `U` pruned: the roots are then the declared ones and the kept ones not
declared again, all among the earlier roots of `U` when the declared ones are. -/
theorem declared_roots {clean : List String} (cleanRoots : ∀ path ∈ clean, IsCleanAbs path)
    (within : ∀ root ∈ (RootSet.declare clean).roots, root ∈ U.previous.roots) :
    (∀ root, root ∈ (U.pruned.declared clean).previous.roots ∨
      root ∈ (U.pruned.declared clean).current.roots → root ∈ U.previous.roots) ∧
    ∀ root ∈ U.pruned.previous.roots, root ∈ (U.pruned.declared clean).previous.roots ∨
      root ∈ (U.pruned.declared clean).current.roots := by
  have removeAll : ∀ root, root ∈ (U.pruned.declared clean).previous.roots ↔
      root ∈ U.pruned.previous.roots ∧ root ∉ (RootSet.declare clean).roots := fun _ =>
    RootSet.mem_removeAll wellFormed.pruned.previous (RootSet.WellFormed.declare cleanRoots).1
  refine ⟨?_, fun root member => ?_⟩
  · rintro root (earlier | declared)
    · exact (mem_pruned_previous.mp ((removeAll root).mp earlier).1).1
    · exact within root declared
  · by_cases declared : root ∈ (RootSet.declare clean).roots
    · exact Or.inr declared
    · exact Or.inl ((removeAll root).mpr ⟨member, declared⟩)

include wellFormed noCurrent in
/-- Declaring roots none of which lies strictly inside an earlier root kept watched, a directory
watched through a watched hierarchy is watched through one covering it: through the declared root
containing it, which the kept root cannot lie strictly outside, or through the kept root itself. -/
theorem covers_declared_substitute {roots clean : List String}
    (checked : roots.mapM checkPath = .ok clean)
    (notInside : ∀ kept ∈ U.pruned.previous.roots, ∀ root ∈ clean, isAncestor kept.path root = false)
    {dir : String} (watched : U.substitute dir ∈ U.watched) :
    Covers ((U.pruned.declared clean).substitute dir) (U.substitute dir) := by
  have declaredWellFormed := wellFormed.pruned.declared checked
  have declaredRoots := RootSet.WellFormed.declare (clean_of_checked checked)
  have current : U.current.find? dir = none := find?_current_eq_none (by rw [noCurrent]; rfl) dir
  cases previous : U.previous.find? dir with
  | none =>
    rw [substitute_of_none current previous]
    exact covers_substitute _ dir
  | some outer =>
    rw [substitute_of_previous current previous] at watched ⊢
    obtain ⟨member, contains⟩ := RootSet.find?_spec previous
    have keptOuter : outer ∈ U.pruned.previous.roots := mem_pruned_previous.mpr ⟨member, watched⟩
    cases declaredFound : (RootSet.declare clean).find? dir with
    | some root =>
      have found : (U.pruned.declared clean).current.find? dir = some root := declaredFound
      rw [substitute_of_current found]
      obtain ⟨rootMember, rootContains⟩ := RootSet.find?_spec declaredFound
      have rootDeclared : root.path ∈ clean :=
        Roots.mem_of_mem_reduce (clean_of_checked checked) ((declaredRoots.2 root).mp rootMember)
      rcases (Root.covers_of_contains rootContains).total (declaredRoots.1.clean root rootMember)
          (wellFormed.previous.clean outer member) (Root.covers_of_contains contains) with
        covers | covers
      · exact covers
      · -- the kept root covers the declared one without lying strictly outside it: they are one
        rw [covers.eq_of_isAncestor_eq_false (notInside outer keptOuter root.path rootDeclared)]
    | none =>
      have found : (U.pruned.declared clean).current.find? dir = none := declaredFound
      have notDeclared : outer ∉ (RootSet.declare clean).roots := fun declared =>
        RootSet.find?_ne_none declared contains declaredFound
      have stays : outer ∈ (U.pruned.declared clean).previous.roots :=
        (RootSet.mem_removeAll wellFormed.pruned.previous declaredRoots.1).mpr
          ⟨keptOuter, notDeclared⟩
      cases earlier : (U.pruned.declared clean).previous.find? dir with
      | some inner =>
        rw [substitute_of_previous found earlier]
        exact RootSet.covers_of_find? declaredWellFormed.previous earlier stays contains
      | none => exact absurd earlier (RootSet.find?_ne_none stays contains)

include wellFormed noCurrent watchedEq in
/-- **Declaring the roots again changes nothing watched** when they all lie among the earlier roots
and none lies strictly inside an earlier root kept watched. -/
theorem desired_declared_eq {roots clean : List String} (checked : roots.mapM checkPath = .ok clean)
    (within : ∀ root ∈ (RootSet.declare clean).roots, root ∈ U.previous.roots)
    (notInside : ∀ kept ∈ U.pruned.previous.roots, ∀ root ∈ clean, isAncestor kept.path root = false) :
    (U.pruned.declared clean).desired = U.watched := by
  have declaredWellFormed := wellFormed.pruned.declared checked
  have cleanU := wellFormed.substituted_clean
  have cleanDeclared : ∀ path ∈ U.required.map (U.pruned.declared clean).substitute,
      IsCleanAbs path :=
    declaredWellFormed.substituted_clean
  have within' : ∀ root ∈ (U.pruned.declared clean).current.roots ++
      (U.pruned.declared clean).previous.roots, root ∈ U.previous.roots := fun root member =>
    (declared_roots wellFormed (clean_of_checked checked) within).1 root
      (List.mem_append.mp member).symm
  unfold desired
  rw [Roots.reduce_ofList]
  show Roots.reduce (U.required.map (U.pruned.declared clean).substitute) = U.watched
  rw [watchedEq]
  apply Roots.reduce_eq_of_covers cleanDeclared cleanU
  · intro path member
    obtain ⟨dir, required, rfl⟩ := List.mem_map.mp member
    exact ⟨U.substitute dir, List.mem_map_of_mem required,
      covers_substitute_of_within wellFormed (by rw [noCurrent]; rfl) declaredWellFormed within' dir⟩
  · -- a substituted directory lies in a watched hierarchy, which the declared roots keep covered
    intro path member
    obtain ⟨top, watched, covers⟩ := Roots.exists_mem_reduce_covers cleanU path member
    obtain ⟨dir, required, rfl⟩ := List.mem_map.mp (Roots.mem_of_mem_reduce cleanU watched)
    rw [← watchedEq] at watched
    exact ⟨_, List.mem_map_of_mem required,
      (covers_declared_substitute wellFormed noCurrent checked notInside watched).trans covers⟩

include wellFormed noCurrent watchedEq in
/-- **Repeating a build whose roots pass the check** returns to where the build ended, when the
declared roots lie among the earlier roots; it asks nothing when none of the declared paths lies
strictly inside a root kept watched. -/
theorem repeat_of_checked {w : Watcher σ} (never : w.NeverFails) {roots clean : List String}
    (checked : roots.mapM checkPath = .ok clean)
    (within : ∀ root ∈ (RootSet.declare clean).roots, root ∈ U.previous.roots) (svc : σ) :
    (Call.runAll w (Call.build roots [] []) U.pruned svc).1 = U.pruned ∧
      ((∀ kept ∈ U.pruned.previous.roots, ∀ root ∈ clean, isAncestor kept.path root = false) →
        Call.runAll w (Call.build roots [] []) U.pruned svc = (U.pruned, svc)) := by
  have declaredWellFormed := wellFormed.pruned.declared checked
  obtain ⟨withinDeclared, keptDeclared⟩ := declared_roots wellFormed (clean_of_checked checked) within
  have ok := update_error_of_neverFails never (U.pruned.declared clean) svc
  have settled : (update w (U.pruned.declared clean) svc).registry.desired =
      (update w (U.pruned.declared clean) svc).registry.watched := by
    rw [update_desired, update_watched_of_ok w svc declaredWellFormed.watched_increasing ok]
  simp only [Call.build, Call.runAll, Call.run]
  rw [declareRoots_of_checked w _ svc checked]
  refine ⟨?_, fun notInside => ?_⟩
  · rw [changed_nil, update_of_desired_eq _ settled]
    dsimp only
    refine (finishBuild_returns wellFormed noCurrent watchedEq (declaredWellFormed.update w svc)
      ?_ ?_ ?_ never _).1
    · rw [update_tracked]
      rfl
    · intro root member
      rw [update_previous, update_current] at member
      exact withinDeclared root member
    · intro root member
      rw [update_previous, update_current]
      exact keptDeclared root member
  · -- nothing desired changes, so no request is made
    have quiet : (U.pruned.declared clean).desired = (U.pruned.declared clean).watched :=
      desired_declared_eq wellFormed noCurrent watchedEq checked within notInside
    rw [update_of_desired_eq svc quiet]
    dsimp only
    rw [changed_nil, update_of_desired_eq svc quiet]
    dsimp only
    rw [(finishBuild_returns wellFormed noCurrent watchedEq declaredWellFormed rfl withinDeclared
      keptDeclared never svc).2 rfl]

end Returning

/-- **Repeating a build keeps the registry.** Against a watcher that never fails, from any
reachable registry, a build followed by the same build with no change leaves the registry as the
first left it. The repetition asks the watcher nothing when no earlier root the first build
kept lies strictly outside one of its roots. -/
theorem repeated_build_keeps_registry {w : Watcher σ} (never : w.NeverFails) {reg : Registry}
    (reachable : reg.Reachable) (roots : List String) (removed added : List Snapshot) (svc : σ)
    (requests : List Scripted.Request) :
    let first := Call.runAll w.recording (Call.build roots removed added) reg (svc, requests)
    let second := Call.runAll w.recording (Call.build roots [] []) first.1 first.2
    second.1 = first.1 ∧
      ((∀ kept ∈ first.1.previous.roots, ∀ root ∈ roots,
        isAncestor kept.path (Path.clean root) = false) → second = first) := by
  obtain ⟨U, state, wellFormed, noCurrent, watchedEq, within, ran⟩ :=
    build_ends never.recording reachable.wellFormed roots removed added (svc, requests)
  dsimp only
  rw [ran]
  dsimp only
  cases checked : roots.mapM checkPath with
  | error e =>
    rw [repeat_of_refused wellFormed noCurrent watchedEq never.recording checked state]
    exact ⟨rfl, fun _ => rfl⟩
  | ok clean =>
    have repeated := repeat_of_checked wellFormed noCurrent watchedEq never.recording checked
      (within clean checked) state
    refine ⟨repeated.1, fun notInside => repeated.2 ?_⟩
    -- the declared paths are the given roots cleaned
    intro kept member root declared
    obtain ⟨input, given, passed⟩ := exists_of_mapM_eq_ok checked root declared
    rw [(checkPath_eq_ok.mp passed).2]
    exact notInside kept member input given

/-- A build can be asked to repeat itself and be asked for calls. After a build declaring `/proj`
that records a snapshot requiring `/proj/sub/x`, a build declaring `/proj/sub` ends watching
`/proj` again. Repeating it ends there too, but on the way it moves the watch to the declared
root and back. -/
theorem repeated_build_restarts_inner_root :
    let earlier := Call.runAll DryRun.watcher.recording
      (Call.build ["/proj"] [] [{ path := "/proj/sub/x", kind := .directory }]) Registry.empty
      ({}, [])
    let first := Call.runAll DryRun.watcher.recording (Call.build ["/proj/sub"] [] []) earlier.1
      earlier.2
    let second := Call.runAll DryRun.watcher.recording (Call.build ["/proj/sub"] [] []) first.1
      first.2
    second.1 = first.1 ∧
      second.2.2 = first.2.2 ++
        [.stop ["/proj"], .start ["/proj/sub"], .stop ["/proj/sub"], .start ["/proj"]] := by
  decide +kernel

/-- Repeating the build declaring `/proj` that records a snapshot requiring `/proj/sub/x` asks
the dry-run watcher nothing. -/
theorem repeated_outer_build_asks_nothing :
    let first := Call.runAll DryRun.watcher.recording
      (Call.build ["/proj"] [] [{ path := "/proj/sub/x", kind := .directory }]) Registry.empty
      ({}, [])
    Call.runAll DryRun.watcher.recording (Call.build ["/proj"] [] []) first.1 first.2 = first := by
  have never : DryRun.watcher.NeverFails := fun _ _ => ⟨rfl, rfl⟩
  exact (repeated_build_keeps_registry never Reachable.empty ["/proj"] []
    [{ path := "/proj/sub/x", kind := .directory }] {} []).2 (by decide +kernel)

/-! ### Declaring the same roots again -/

/-- A registry updated after declaring roots already holds what declaring them again leads to. -/
theorem declared_update_declared (w : Watcher σ) (reg : Registry) (clean : List String)
    (svc : σ) :
    (update w (reg.declared clean) svc).registry.declared clean =
      (update w (reg.declared clean) svc).registry := by
  apply Registry.ext
  · rfl
  · rfl
  · rw [update_current]
    rfl
  · simp only [declared, update_previous, RootSet.removeAll_removeAll]

/-- **Declaring the same roots again asks nothing.** From any reachable registry, once declaring
roots has succeeded against some watcher, declaring the same roots again succeeds against any
watcher in any state without asking it anything: the watcher's state comes back as it was, which
for a watcher that records its requests means no request, and the registry (what it tracks, both
generations of roots, and the watched hierarchies) stays as it is. -/
theorem redeclaring_roots_changes_nothing {reg : Registry} (reachable : reg.Reachable)
    (w : Watcher σ) (dirs : List String) (svc : σ)
    (succeeded : (reg.declareRoots w dirs svc).error = none) {τ : Type} (w' : Watcher τ)
    (svc' : τ) :
    (reg.declareRoots w dirs svc).registry.declareRoots w' dirs svc' =
      ⟨(reg.declareRoots w dirs svc).registry, svc', none⟩ := by
  rcases declareRoots_cases w dirs reg svc with ⟨path, refused⟩ | ⟨clean, checked, ran⟩
  · rw [refused] at succeeded
    cases succeeded
  rw [ran] at succeeded ⊢
  -- the first declaration succeeded, so it watches what the declared registry wants watched
  have settled := update_watched_of_ok w svc
    (reachable.wellFormed.declared checked).watched_increasing succeeded
  rw [declareRoots_of_checked w' _ svc' checked, declared_update_declared]
  exact update_of_desired_eq svc' (by rw [update_desired, settled])

/-- A registry tracking `/proj/a/x` that declares `/proj` moves the watch to `/proj`; declaring
`/proj` again asks a recording watcher nothing. -/
theorem redeclared_project_root_asks_nothing :
    let reg := (Registry.empty.changed DryRun.watcher []
      [{ path := "/proj/a/x", kind := .directory }] {}).registry
    reg.Reachable ∧ (reg.declareRoots DryRun.watcher ["/proj"] {}).error = none ∧
      (reg.declareRoots DryRun.watcher ["/proj"] {}).registry.declareRoots
          DryRun.watcher.recording ["/proj"] ({}, []) =
        ⟨(reg.declareRoots DryRun.watcher ["/proj"] {}).registry, ({}, []), none⟩ := by
  intro reg
  have reachable : reg.Reachable :=
    Reachable.step DryRun.watcher {} (.changed [] [{ path := "/proj/a/x", kind := .directory }])
      Reachable.empty
  have succeeded : (reg.declareRoots DryRun.watcher ["/proj"] {}).error = none := by
    decide +kernel
  exact ⟨reachable, succeeded,
    redeclaring_roots_changes_nothing reachable DryRun.watcher ["/proj"] {} succeeded _ _⟩

end Registry

end StableWatch
