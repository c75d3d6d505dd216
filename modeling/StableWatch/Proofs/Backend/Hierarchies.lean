import StableWatch.Backend.Hierarchy
import StableWatch.Proofs.Registry.Contract
import StableWatch.Proofs.Tracker.Entries
/-!
# A hierarchy backend driven by the registry

A hierarchy backend keeps, for each hierarchy it watches, the directories it added watches for.
Driven by the registry, it must hold exactly the hierarchies the registry records as watched:
otherwise the registry would ask it to start what it holds or to stop what it does not.

A request runs over the requested hierarchies one at a time (`HierarchyBackend.each`). Starting
one either fails and changes no hierarchy, or watches it; stopping one either fails and keeps it
(with its root alone), or lets it go; a hierarchy already held starts at once, one not held stops
at once (`StepLaw`). So a request leaves the backend holding what it held, with the requested
hierarchies that succeeded added or let go, and its failure names exactly those that did not
(`answers_roots`): the backend changes what it holds the way the watcher contract says
(`Contract.succeeded`). A change event changes the directories of a hierarchy, never the
hierarchies held (`onEvent_roots`).

Whatever the facility answers and whatever the file system shows at each step, the backend holds
the registry's watched hierarchies, in order, after every call and every event
(`hierarchy_roots_eq_watched`). These are clean absolute paths none of which lies inside another,
so the hierarchy a path belongs to is the only one that is the path or lies above it.
-/

namespace StableWatch

open StableWatch.Path

namespace HierarchyBackend

variable {κ : Type}

/-! ### The hierarchies held -/

theorem lookup_isSome_iff {b : HierarchyBackend} {root : String} :
    (b.hierarchies.lookup root).isSome ↔ root ∈ b.roots := by
  rw [List.lookup_isSome_iff, roots, List.mem_map]
  constructor
  · rintro ⟨entry, member, same⟩
    exact ⟨entry, member, (beq_iff_eq.mp same).symm⟩
  · rintro ⟨entry, member, rfl⟩
    exact ⟨entry, member, beq_self_eq_true _⟩

theorem mem_map_putHierarchy {root key : String} {dirs : List String} :
    ∀ {hs : List (String × List String)},
      key ∈ (putHierarchy root dirs hs).map (·.1) ↔ key = root ∨ key ∈ hs.map (·.1)
  | [] => by simp [putHierarchy]
  | (top, known) :: rest => by
    unfold putHierarchy
    split_ifs with before same
    · simp
    · subst same
      simp
    · simp only [List.map_cons, List.mem_cons, mem_map_putHierarchy]
      tauto

theorem keysIncrease_putHierarchy (root : String) (dirs : List String) :
    ∀ {hs : List (String × List String)}, KeysIncrease hs → KeysIncrease (putHierarchy root dirs hs)
  | [], _ => List.pairwise_singleton _ _
  | (key, known) :: rest, increasing => by
    obtain ⟨below, restIncreasing⟩ := List.pairwise_cons.mp increasing
    unfold putHierarchy
    split_ifs with before same
    · refine List.Pairwise.cons (fun item member => ?_) increasing
      rcases List.mem_cons.mp member with rfl | later
      · exact before
      · exact before.trans (below item later)
    · subst same
      exact List.Pairwise.cons below restIncreasing
    · -- the hierarchy goes further down, past a smaller root
      have after : key < root := lt_of_le_of_ne (not_lt.mp before) (Ne.symm same)
      refine List.Pairwise.cons (fun item member => ?_)
        (keysIncrease_putHierarchy root dirs restIncreasing)
      have held : item.1 ∈ (putHierarchy root dirs rest).map (·.1) := List.mem_map_of_mem member
      rcases mem_map_putHierarchy.mp held with same' | old
      · rw [same']
        exact after
      · obtain ⟨other, otherMember, sameKey⟩ := List.mem_map.mp old
        rw [← sameKey]
        exact below other otherMember

theorem roots_increasing {b : HierarchyBackend} (increasing : KeysIncrease b.hierarchies) :
    b.roots.Pairwise (· < ·) :=
  List.pairwise_map.mpr increasing

/-- Setting the directories of a hierarchy already held leaves the hierarchies as they are. -/
theorem map_putHierarchy_of_mem {root : String} {dirs : List String} :
    ∀ {hs : List (String × List String)}, KeysIncrease hs → root ∈ hs.map (·.1) →
      (putHierarchy root dirs hs).map (·.1) = hs.map (·.1)
  | [], _, held => by simp at held
  | (key, known) :: rest, increasing, held => by
    obtain ⟨below, restIncreasing⟩ := List.pairwise_cons.mp increasing
    simp only [List.map_cons, List.mem_cons] at held
    unfold putHierarchy
    split_ifs with before same
    · -- a held root smaller than the first would be smaller than every root
      exfalso
      rcases held with first | later
      · exact absurd first (ne_of_lt before)
      · obtain ⟨other, otherMember, rfl⟩ := List.mem_map.mp later
        exact lt_asymm before (below other otherMember)
    · subst same
      rfl
    · have later : root ∈ rest.map (·.1) := held.resolve_left same
      simp only [List.map_cons, map_putHierarchy_of_mem restIncreasing later]

/-! ### One hierarchy at a time -/

/-- What a request may do for one hierarchy: keep the keys increasing, and change only whether
that hierarchy is held, and only when it succeeds; then it is held afterwards exactly when the
request `adds`. -/
def StepLaw (adds : Bool)
    (one : HierarchyBackend → κ → String → Option String × HierarchyBackend × κ) : Prop :=
  ∀ b k root, KeysIncrease b.hierarchies →
    KeysIncrease (one b k root).2.1.hierarchies ∧
      ∀ key, key ∈ (one b k root).2.1.roots ↔
        key = root ∧ (one b k root).1 = none ∧ adds = true ∨
          (key = root → (one b k root).1 ≠ none) ∧ key ∈ b.roots

/-- **Starting one hierarchy** watches it unless it fails, and nothing else. -/
theorem startOne_law (view : FsView) (f : Facility κ) : StepLaw true (startOne view f) := by
  intro b k root increasing
  unfold startOne
  by_cases held : (b.hierarchies.lookup root).isSome
  · -- a hierarchy already held counts as started
    have member : root ∈ b.roots := lookup_isSome_iff.mp held
    rw [if_pos held]
    refine ⟨increasing, fun key => ?_⟩
    by_cases same : key = root
    · subst same
      simp [member]
    · simp [same]
  · rw [if_neg held]
    split
    · exact ⟨increasing, fun key => by simp⟩
    · split_ifs with notDirectory
      · exact ⟨increasing, fun key => by simp⟩
      · split
        · exact ⟨increasing, fun key => by simp⟩
        · next added _ =>
          cases addBelow view f root [root] added with
          | mk dirs k' =>
            refine ⟨keysIncrease_putHierarchy root dirs increasing, fun key => ?_⟩
            simp only [roots, mem_map_putHierarchy]
            by_cases same : key = root <;> simp [same]

/-- **Stopping one hierarchy** lets it go unless removing its root's watch fails, and then keeps
it; nothing else changes. -/
theorem stopOne_law (f : Facility κ) : StepLaw false (stopOne f) := by
  intro b k root increasing
  unfold stopOne
  split
  · next missing =>
    -- a hierarchy not held counts as stopped
    have notHeld : root ∉ b.roots := by
      rw [← lookup_isSome_iff, missing]
      simp
    refine ⟨increasing, fun key => ?_⟩
    by_cases same : key = root
    · subst same
      simp [notHeld]
    · simp [same]
  · next dirs found =>
    have member : root ∈ b.roots := by
      rw [← lookup_isSome_iff, found]
      rfl
    generalize List.foldl _ (none, k) dirs.reverse = run
    obtain ⟨rootFailure, k'⟩ := run
    cases rootFailure with
    | some reason =>
      -- the hierarchy stays with its root alone
      refine ⟨keysIncrease_putHierarchy root [root] increasing, fun key => ?_⟩
      simp only [roots, map_putHierarchy_of_mem increasing member]
      simp
    | none =>
      refine ⟨increasing.sublist List.filter_sublist, fun key => ?_⟩
      simp only [roots, List.mem_map, List.mem_filter]
      by_cases same : key = root
      · subst same
        simp
      · simp [same]

/-! ### A request over several hierarchies -/

/-- **The loop of a request**: run over distinct hierarchies from failures `failed`, it adds the
hierarchies that fail, in order, and each other requested hierarchy is held afterwards exactly when
the request adds. -/
theorem foldl_each {adds : Bool}
    {one : HierarchyBackend → κ → String → Option String × HierarchyBackend × κ}
    (law : StepLaw adds one)
    {F : List (String × String) × HierarchyBackend × κ → String →
      List (String × String) × HierarchyBackend × κ}
    (step : ∀ failed b k root, F (failed, b, k) root =
      (failed ++ ((one b k root).1.map fun reason => (root, reason)).toList, (one b k root).2)) :
    ∀ {roots : List String}, roots.Nodup → ∀ failed (b : HierarchyBackend) (k : κ),
      KeysIncrease b.hierarchies → ∀ run, roots.foldl F (failed, b, k) = run →
      ∃ more : List (String × String), run.1 = failed ++ more ∧ (more.map (·.1)).Sublist roots ∧
        KeysIncrease run.2.1.hierarchies ∧
        ∀ key, key ∈ run.2.1.roots ↔
          key ∈ roots ∧ key ∉ more.map (·.1) ∧ adds = true ∨
            (key ∈ roots → key ∈ more.map (·.1)) ∧ key ∈ b.roots
  | [], _, failed, b, k, increasing, run, ran => by
    subst ran
    exact ⟨[], by simp, by simp, increasing, fun key => by simp⟩
  | root :: rest, distinct, failed, b, k, increasing, run, ran => by
    obtain ⟨fresh, restDistinct⟩ := List.nodup_cons.mp distinct
    obtain ⟨increasing₁, held₁⟩ := law b k root increasing
    rw [List.foldl_cons, step] at ran
    obtain ⟨more, failedEq, sub, increasing', held'⟩ :=
      foldl_each law step restDistinct _ _ _ increasing₁ run ran
    -- the first hierarchy's failure, if any, comes before the rest's
    let first := ((one b k root).1.map fun reason => (root, reason)).toList
    have firstKeys : ∀ key, key ∈ first.map (·.1) ↔ key = root ∧ (one b k root).1 ≠ none := by
      intro key
      cases answer : (one b k root).1 <;> simp [first, answer, eq_comm]
    refine ⟨first ++ more, by rw [failedEq, List.append_assoc], ?_, increasing', fun key => ?_⟩
    · rw [List.map_append]
      cases answer : (one b k root).1 <;> simp [first, answer, List.cons_sublist_cons, sub]
    · have laterKeys : key ∈ more.map (·.1) → key ∈ rest := fun member => sub.subset member
      rw [held', held₁, List.map_append, List.mem_append, firstKeys, List.mem_cons]
      by_cases same : key = root
      · -- the first hierarchy is requested once, so only its own step decides it
        subst same
        have notMore : key ∉ more.map (·.1) := fun member => fresh (laterKeys member)
        simp only [fresh, notMore, false_and, false_or, true_and, or_false, forall_const, not_not,
          imp_false]
        tauto
      · simp only [same, false_and, false_or, false_imp_iff, true_and]

/-- **A request over distinct hierarchies** fails exactly when some of them fail, and then names
those, in request order; every other requested hierarchy is held afterwards exactly when the
request adds. -/
theorem each_spec {adds : Bool}
    {one : HierarchyBackend → κ → String → Option String × HierarchyBackend × κ}
    (law : StepLaw adds one) {roots : List String} (distinct : roots.Nodup) {b : HierarchyBackend}
    (increasing : KeysIncrease b.hierarchies) (k : κ) :
    ∃ failed : List String, failed.Sublist roots ∧
      ((each one roots b k).1 = none ∧ failed = [] ∨
        failed ≠ [] ∧ ∃ reason, (each one roots b k).1 = some (.naming failed reason)) ∧
      KeysIncrease (each one roots b k).2.1.hierarchies ∧
      ∀ key, key ∈ (each one roots b k).2.1.roots ↔
        key ∈ roots ∧ key ∉ failed ∧ adds = true ∨ (key ∈ roots → key ∈ failed) ∧ key ∈ b.roots := by
  unfold each
  generalize ran : List.foldl _ ([], b, k) roots = run
  obtain ⟨more, failedEq, sub, increasing', held⟩ := foldl_each law (fun failed b k root => by
    dsimp only
    split <;> next answer => simp [answer]) distinct [] b k increasing run ran
  obtain ⟨failed, b', k'⟩ := run
  dsimp only at failedEq increasing' held ⊢
  rw [List.nil_append] at failedEq
  subst failedEq
  cases failed with
  | nil => exact ⟨[], sub, Or.inl ⟨rfl, rfl⟩, increasing', held⟩
  | cons first rest => exact ⟨_, sub, Or.inr ⟨by simp, _, rfl⟩, increasing', held⟩

/-! ### Requests from the registry -/

/-- The backend as a watcher, over a facility, on the file system as `view` shows it. -/
def watcher (view : FsView) (f : Facility κ) : Watcher (HierarchyBackend × κ) where
  start roots s := HierarchyBackend.start view f roots s.1 s.2
  stop roots s := HierarchyBackend.stop f roots s.1 s.2

/-- A failure naming some of the requested hierarchies, all clean, counts exactly those as
failed. -/
theorem mem_succeeded_naming {named requested : List String} (reason : String)
    (sub : named ⊆ requested) (nonempty : named ≠ []) (clean : ∀ path ∈ requested, IsCleanAbs path)
    {path : String} :
    path ∈ Contract.succeeded requested (some (.naming named reason)) ↔
      path ∈ requested ∧ path ∉ named := by
  have cleanNamed : named.map Path.clean = named :=
    Roots.map_clean_eq_self fun named' member => clean named' (sub member)
  obtain ⟨first, rest, rfl⟩ := List.exists_cons_of_ne_nil nonempty
  have someNamed : requested.any (first :: rest).contains = true :=
    List.any_eq_true.mpr ⟨first, sub List.mem_cons_self, by simp⟩
  simp [Contract.succeeded, WatchFailure.fails, cleanNamed, someNamed]

/-- **A request keeps the watcher contract.** When the registry asks for increasing clean
hierarchies, or asks nothing, the backend holds afterwards what it held, with the requested
hierarchies that succeeded under its answer held exactly when the request adds. -/
theorem answers_roots {adds : Bool}
    {one : HierarchyBackend → κ → String → Option String × HierarchyBackend × κ}
    (law : StepLaw adds one) {paths : List String} (increasingPaths : paths.Pairwise (· < ·))
    (clean : ∀ path ∈ paths, IsCleanAbs path) {s : HierarchyBackend × κ}
    (increasing : KeysIncrease s.1.hierarchies) {answer : Option WatchFailure × HierarchyBackend × κ}
    (answered : Registry.Answers (fun paths s => each one paths s.1 s.2) paths s answer) :
    KeysIncrease answer.2.1.hierarchies ∧
      ∀ key, key ∈ answer.2.1.roots ↔
        key ∈ Contract.succeeded paths answer.1 ∧ adds = true ∨
          key ∉ Contract.succeeded paths answer.1 ∧ key ∈ s.1.roots := by
  rcases answered with ⟨rfl, rfl⟩ | ⟨-, rfl⟩
  · exact ⟨increasing, fun key => by simp [Contract.succeeded]⟩
  · obtain ⟨failed, sub, outcome, increasing', held⟩ :=
      each_spec law (increasingPaths.imp ne_of_lt) increasing s.2
    refine ⟨increasing', fun key => ?_⟩
    rw [held]
    rcases outcome with ⟨answer, rfl⟩ | ⟨nonempty, reason, answer⟩
    · rw [answer]
      simp only [Contract.succeeded, List.not_mem_nil, not_false_eq_true, true_and]
    · rw [answer, mem_succeeded_naming reason sub.subset nonempty clean]
      tauto

theorem start_answers {view : FsView} {f : Facility κ} {paths : List String}
    (increasingPaths : paths.Pairwise (· < ·)) (clean : ∀ path ∈ paths, IsCleanAbs path)
    {s : HierarchyBackend × κ} (increasing : KeysIncrease s.1.hierarchies)
    {answer : Option WatchFailure × HierarchyBackend × κ}
    (answered : Registry.Answers (watcher view f).start paths s answer) :
    KeysIncrease answer.2.1.hierarchies ∧
      ∀ key, key ∈ answer.2.1.roots ↔ key ∈ s.1.roots ∨ key ∈ Contract.succeeded paths answer.1 := by
  obtain ⟨increasing', held⟩ :=
    answers_roots (startOne_law view f) increasingPaths clean increasing answered
  refine ⟨increasing', fun key => ?_⟩
  rw [held]
  by_cases succeeded : key ∈ Contract.succeeded paths answer.1 <;> simp [succeeded]

theorem stop_answers {view : FsView} {f : Facility κ} {paths : List String}
    (increasingPaths : paths.Pairwise (· < ·)) (clean : ∀ path ∈ paths, IsCleanAbs path)
    {s : HierarchyBackend × κ} (increasing : KeysIncrease s.1.hierarchies)
    {answer : Option WatchFailure × HierarchyBackend × κ}
    (answered : Registry.Answers (watcher view f).stop paths s answer) :
    KeysIncrease answer.2.1.hierarchies ∧
      ∀ key, key ∈ answer.2.1.roots ↔ key ∈ s.1.roots ∧ key ∉ Contract.succeeded paths answer.1 := by
  obtain ⟨increasing', held⟩ := answers_roots (stopOne_law f) increasingPaths clean increasing answered
  refine ⟨increasing', fun key => ?_⟩
  rw [held]
  simp only [Bool.false_eq_true, and_false, false_or]
  tauto

/-! ### Change events -/

/-- **A change event keeps the hierarchies**: it only changes the directories of the hierarchy
the path belongs to. -/
theorem onEvent_roots (view : FsView) (f : Facility κ) (name : String) (ops : EventOps)
    {b : HierarchyBackend} (increasing : KeysIncrease b.hierarchies) (k : κ) :
    (b.onEvent view f name ops k).2.1.roots = b.roots := by
  unfold onEvent
  dsimp only
  cases found : b.hierarchyFor (Path.clean name) with
  | none => rfl
  | some entry =>
    obtain ⟨root, dirs⟩ := entry
    have held : root ∈ b.roots := List.mem_map_of_mem (List.mem_of_find?_eq_some found)
    dsimp only
    split_ifs
    · -- a directory created inside the hierarchy joins it
      split
      · split_ifs
        · split
          · rfl
          · exact map_putHierarchy_of_mem increasing held
        · rfl
      · rfl
    · -- a path below the root that is removed or renamed leaves it
      exact map_putHierarchy_of_mem increasing held
    · rfl

end HierarchyBackend

/-- The desired hierarchies are clean absolute paths. -/
theorem Registry.WellFormed.desired_clean {reg : Registry} (wellFormed : reg.WellFormed) :
    ∀ path ∈ reg.desired, IsCleanAbs path := by
  have clean : ∀ path ∈ PathSet.ofList (reg.required.map reg.substitute), IsCleanAbs path :=
    fun path member => wellFormed.substituted_clean path (PathSet.mem_ofList.mp member)
  intro path member
  exact clean path (Roots.mem_of_mem_reduce clean member)

namespace HierarchyBackend

variable {κ : Type}

/-! ### Following the registry -/

/-- The backend holds the hierarchies the registry records as watched, in the same order; these
are clean absolute paths and none lies inside another. -/
structure Follows (reg : Registry) (b : HierarchyBackend) : Prop where
  roots_eq : b.roots = reg.watched
  clean : ∀ top ∈ reg.watched, IsCleanAbs top
  outermost : ∀ top ∈ reg.watched, ∀ path ∈ reg.watched, isAncestor top path = false

namespace Follows

variable {reg : Registry} {b : HierarchyBackend}

theorem keysIncrease (follows : Follows reg b) (wellFormed : reg.WellFormed) :
    KeysIncrease b.hierarchies := by
  have increasing := wellFormed.watched_increasing
  rw [← follows.roots_eq] at increasing
  exact List.pairwise_map.mp increasing

theorem of_watched_eq {reg' : Registry} (follows : Follows reg b)
    (same : reg'.watched = reg.watched) : Follows reg' b where
  roots_eq := follows.roots_eq.trans same.symm
  clean := by
    rw [same]
    exact follows.clean
  outermost := by
    rw [same]
    exact follows.outermost

theorem of_roots_eq {b' : HierarchyBackend} (follows : Follows reg b) (same : b'.roots = b.roots) :
    Follows reg b' :=
  ⟨same.trans follows.roots_eq, follows.clean, follows.outermost⟩

variable {view : FsView} {f : Facility κ} {k : κ}

/-- **A failed stop.** The backend keeps what the contract counts as not stopped, as the registry
does, and nothing is started. -/
theorem update_of_stop_failed (wellFormed : reg.WellFormed) (follows : Follows reg b)
    {failure : WatchFailure} {s₁ : HierarchyBackend × κ}
    (stopped : Registry.Answers (watcher view f).stop reg.toStop (b, k) (some failure, s₁)) :
    Follows (Registry.update (watcher view f) reg (b, k)).registry
      (Registry.update (watcher view f) reg (b, k)).watcher.1 := by
  obtain ⟨increasing₁, held₁⟩ := stop_answers (PathSet.pairwise_diff _ wellFormed.watched_increasing)
    (fun path member => follows.clean path (Registry.mem_toStop.mp member).1)
    (follows.keysIncrease wellFormed) stopped
  rw [Registry.update_of_stop_failed stopped]
  dsimp only
  rw [Contract.filter_stop_failed]
  have kept : ∀ path ∈ PathSet.diff reg.watched (Contract.succeeded reg.toStop (some failure)),
      path ∈ reg.watched :=
    fun path member => (PathSet.mem_diff.mp member).1
  refine ⟨PathSet.eq_of_mem_iff (roots_increasing increasing₁)
      (PathSet.pairwise_diff _ wellFormed.watched_increasing) fun path => ?_,
    fun top member => follows.clean top (kept top member),
    fun top member path member' => follows.outermost top (kept top member) path (kept path member')⟩
  rw [held₁, PathSet.mem_diff, follows.roots_eq]
  exact Iff.rfl

/-- **A stop that went through**, whatever the answer to the start. The backend lets go of the
stopped hierarchies and holds the started ones the contract counts as succeeded, as the registry
records; everything both then hold is desired. -/
theorem update_of_stop_ok (wellFormed : reg.WellFormed) (follows : Follows reg b)
    {answer : Option WatchFailure} {s₁ s' : HierarchyBackend × κ}
    (stopped : Registry.Answers (watcher view f).stop reg.toStop (b, k) (none, s₁))
    (started : Registry.Answers (watcher view f).start reg.toStart s₁ (answer, s')) :
    Follows (Registry.update (watcher view f) reg (b, k)).registry
      (Registry.update (watcher view f) reg (b, k)).watcher.1 := by
  obtain ⟨increasing₁, held₁⟩ := stop_answers (PathSet.pairwise_diff _ wellFormed.watched_increasing)
    (fun path member => follows.clean path (Registry.mem_toStop.mp member).1)
    (follows.keysIncrease wellFormed) stopped
  obtain ⟨increasing', held'⟩ := start_answers (PathSet.pairwise_diff _ (Registry.pairwise_desired reg))
    (fun path member => wellFormed.desired_clean path (Registry.mem_toStart.mp member).1)
    increasing₁ started
  rw [Contract.update_of_stop_ok stopped started]
  dsimp only
  have desired : ∀ path ∈ PathSet.union (PathSet.diff reg.watched reg.toStop)
      (Contract.succeeded reg.toStart answer), path ∈ reg.desired := by
    intro path member
    rcases PathSet.mem_union.mp member with kept | added
    · obtain ⟨watched, notStopped⟩ := PathSet.mem_diff.mp kept
      by_contra undesired
      exact notStopped (Registry.mem_toStop.mpr ⟨watched, undesired⟩)
    · exact (Registry.mem_toStart.mp (Contract.mem_of_mem_succeeded added)).1
  refine ⟨PathSet.eq_of_mem_iff (roots_increasing increasing')
      (PathSet.pairwise_union _ (PathSet.pairwise_diff _ wellFormed.watched_increasing))
      fun path => ?_,
    fun top member => wellFormed.desired_clean top (desired top member),
    fun top member path member' =>
      wellFormed.desired_outermost top (desired top member) path (desired path member')⟩
  rw [held', held₁, follows.roots_eq, PathSet.mem_union, PathSet.mem_diff]
  exact Iff.rfl

/-- **Every update keeps the backend following the registry.** -/
theorem update (wellFormed : reg.WellFormed) (follows : Follows reg b) (view : FsView)
    (f : Facility κ) (k : κ) :
    Follows (Registry.update (watcher view f) reg (b, k)).registry
      (Registry.update (watcher view f) reg (b, k)).watcher.1 := by
  rcases Registry.update_trichotomy (watcher view f) reg (b, k) with ⟨_, _, stopped⟩ |
      ⟨_, _, _, stopped, started⟩ | ⟨_, _, stopped, started⟩
  · exact follows.update_of_stop_failed wellFormed stopped
  · exact follows.update_of_stop_ok wellFormed stopped started
  · exact follows.update_of_stop_ok wellFormed stopped started

/-- **Every registry call keeps the backend following the registry**: a refused call changes
neither; every other call is one update, followed at a build's end by a pruning that leaves the
watched hierarchies alone. -/
theorem run (wellFormed : reg.WellFormed) (follows : Follows reg b) (view : FsView)
    (f : Facility κ) (call : Registry.Call) (k : κ) :
    Follows (call.run (watcher view f) reg (b, k)).registry
      (call.run (watcher view f) reg (b, k)).watcher.1 := by
  cases call with
  | declareRoots dirs =>
    rcases Registry.declareRoots_cases (watcher view f) dirs reg (b, k) with ⟨_, refused⟩ |
      ⟨clean, checked, ran⟩
    · simp only [Registry.Call.run, refused]
      exact follows
    · have declared : Follows (reg.declared clean) b := follows.of_watched_eq rfl
      simp only [Registry.Call.run, ran]
      exact declared.update (wellFormed.declared checked) view f k
  | changed removed added =>
    rcases Registry.changed_cases (watcher view f) removed added reg (b, k) with ⟨_, refused⟩ |
      ⟨gone, fresh, -, checked, ran⟩
    · simp only [Registry.Call.run, refused]
      exact follows
    · have rescanned : Follows (reg.rescanned gone fresh) b := follows.of_watched_eq rfl
      simp only [Registry.Call.run, ran]
      exact rescanned.update (wellFormed.rescanned gone checked) view f k
  | finishBuild =>
    have retired : Follows reg.retired b := follows.of_watched_eq rfl
    simp only [Registry.Call.run]
    rw [Registry.finishBuild_eq]
    exact (retired.update wellFormed.retired view f k).of_watched_eq rfl

/-- Of the hierarchies a following backend holds, one at most is a given path or lies above it. -/
theorem eq_of_covers (follows : Follows reg b) (wellFormed : reg.WellFormed) {path : String}
    {entry other : String × List String} (member : entry ∈ b.hierarchies)
    (member' : other ∈ b.hierarchies) (covers : Covers entry.1 path) (covers' : Covers other.1 path) :
    entry = other := by
  have watched : entry.1 ∈ reg.watched := follows.roots_eq ▸ List.mem_map_of_mem member
  have watched' : other.1 ∈ reg.watched := follows.roots_eq ▸ List.mem_map_of_mem member'
  -- both hierarchies cover the path, and neither lies below the other
  have sameRoot : entry.1 = other.1 :=
    Covers.eq_of_apart (follows.clean _ watched) (follows.clean _ watched') covers covers'
      (follows.outermost _ watched _ watched') (follows.outermost _ watched' _ watched)
  exact (follows.keysIncrease wellFormed).eq_of_key_eq member member' sameRoot

/-- The hierarchy a path belongs to is the one held that is the path or lies above it. -/
theorem hierarchyFor_eq_some_iff (follows : Follows reg b) (wellFormed : reg.WellFormed)
    {path : String} {entry : String × List String} :
    b.hierarchyFor path = some entry ↔ entry ∈ b.hierarchies ∧ Covers entry.1 path := by
  have covering : ∀ {root : String}, (decide (path = root) || isAncestor root path) = true ↔
      Covers root path := by
    intro root
    rw [Bool.or_eq_true, decide_eq_true_iff]
    exact or_congr eq_comm Iff.rfl
  obtain ⟨root, dirs⟩ := entry
  constructor
  · intro found
    unfold hierarchyFor at found
    have matched := List.find?_some found
    exact ⟨List.mem_of_find?_eq_some found, covering.mp matched⟩
  · rintro ⟨member, covers⟩
    cases found : b.hierarchyFor path with
    | none =>
      unfold hierarchyFor at found
      exact absurd (covering.mpr covers) (List.find?_eq_none.mp found _ member)
    | some other =>
      obtain ⟨root', dirs'⟩ := other
      unfold hierarchyFor at found
      have matched := List.find?_some found
      exact congrArg some (follows.eq_of_covers wellFormed (List.mem_of_find?_eq_some found) member
        (covering.mp matched) covers)

end Follows

/-! ### Every run -/

/-- The registries, backends and facility states of a registry driving a hierarchy backend: from
the empty registry and a backend holding nothing, registry calls against the backend, and change
events handled by the backend in between. Each step may find any file system, and a facility that
fails in any way. -/
inductive Driven : Registry → HierarchyBackend → κ → Prop
  | empty (k : κ) : Driven Registry.empty {} k
  | call {reg : Registry} {b : HierarchyBackend} {k : κ} (view : FsView) (f : Facility κ)
      (call : Registry.Call) : Driven reg b k →
      Driven (call.run (watcher view f) reg (b, k)).registry
        (call.run (watcher view f) reg (b, k)).watcher.1
        (call.run (watcher view f) reg (b, k)).watcher.2
  | event {reg : Registry} {b : HierarchyBackend} {k : κ} (view : FsView) (f : Facility κ)
      (name : String) (ops : EventOps) : Driven reg b k →
      Driven reg (b.onEvent view f name ops k).2.1 (b.onEvent view f name ops k).2.2

theorem Driven.follows {reg : Registry} {b : HierarchyBackend} {k : κ} (driven : Driven reg b k) :
    Follows reg b ∧ reg.Reachable := by
  induction driven with
  | empty k => exact ⟨⟨rfl, by simp [Registry.empty], by simp [Registry.empty]⟩, .empty⟩
  | call view f call _ ih =>
    exact ⟨ih.1.run ih.2.wellFormed view f call _, .step _ _ call ih.2⟩
  | event view f name ops _ ih =>
    exact ⟨ih.1.of_roots_eq (onEvent_roots view f name ops (ih.1.keysIncrease ih.2.wellFormed) _),
      ih.2⟩

/-- **The backend holds what the registry watches.** However a registry drives a hierarchy
backend, whatever the facility answers and the file system shows at each call and each event, the
backend holds the registry's watched hierarchies, in the same order. No hierarchy it holds is
another or lies above another, so the hierarchy a path belongs to is the one held that is the path
or lies above it. -/
theorem hierarchy_roots_eq_watched {reg : Registry} {b : HierarchyBackend} {k : κ}
    (driven : Driven reg b k) :
    b.roots = reg.watched ∧
      (∀ entry ∈ b.hierarchies, ∀ other ∈ b.hierarchies, Covers entry.1 other.1 → entry = other) ∧
      ∀ path entry, b.hierarchyFor path = some entry ↔
        entry ∈ b.hierarchies ∧ Covers entry.1 path := by
  obtain ⟨follows, reachable⟩ := driven.follows
  refine ⟨follows.roots_eq, fun entry member other member' covers => ?_, fun path entry =>
    follows.hierarchyFor_eq_some_iff reachable.wellFormed⟩
  exact follows.eq_of_covers reachable.wellFormed member member' covers (Covers.refl other.1)

/-- A registry reporting a file in `/proj` to a backend whose facility refuses `/proj`, followed by
the backend seeing `/proj/sub` created. -/
theorem hierarchies_follow_refusing_facility :
    let f := Facility.scripted [("/proj", "denied")] []
    let view := HostFs.view { nodes := [("/", ⟨.directory, 0, 493, 0⟩)] }
    let reported := (Registry.Call.changed [] [{ path := "/proj/a", kind := .file }]).run
      (watcher view f) Registry.empty ({}, {})
    let seen := reported.watcher.1.onEvent view f "/proj/sub" { create := true } reported.watcher.2
    Driven reported.registry seen.2.1 seen.2.2 ∧
      seen.2.1.roots = reported.registry.watched ∧
      (∀ entry ∈ seen.2.1.hierarchies, ∀ other ∈ seen.2.1.hierarchies,
        Covers entry.1 other.1 → entry = other) ∧
      ∀ path entry, seen.2.1.hierarchyFor path = some entry ↔
        entry ∈ seen.2.1.hierarchies ∧ Covers entry.1 path :=
  by
    intro f view reported seen
    have driven : Driven reported.registry seen.2.1 seen.2.2 :=
      .event view f "/proj/sub" { create := true } (.call view f _ (.empty ({} : Calls)))
    exact ⟨driven, hierarchy_roots_eq_watched driven⟩

end HierarchyBackend

end StableWatch
