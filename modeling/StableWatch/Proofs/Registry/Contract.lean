import Mathlib
import StableWatch.Proofs.Registry.Basic
/-!
# Driving a watcher that keeps its contract

The watcher contract says how a failure is read: a failure naming some of the requested
hierarchies, after cleaning, fails exactly those; any other failure fails them all; the others
succeed (`WatchFailure.fails`). The registry reads failures the same way
(`WatchFailure.failed_eq_filter_fails`).

`Contract.watcher respond` really watches a set of hierarchies and changes it by the contract,
answering each request however `respond` decides from a state of its own, so it stands for every
failure pattern the contract allows. It logs every request with the hierarchies it watched just
before and its answer.

Driven by any sequence of calls, the registry records as watched exactly what the watcher watches,
and no hierarchy it watches lies inside another (`Contract.Mirrors`). Within one call the registry
stops only hierarchies the watcher watches, starts only hierarchies it does not watch and that stay
outermost together with what it watches, starts nothing after a failed stop, and reports as failed
exactly the requested hierarchies the contract counts as failed, in increasing order
(`Contract.Obeys`).
-/

namespace StableWatch

open StableWatch.Path

namespace WatchFailure

/-- Whether the contract counts a requested hierarchy as failed: a failure naming some of the
requested hierarchies, after cleaning, fails exactly those; any other failure fails them all. -/
def fails (failure : WatchFailure) (requested : List String) (path : String) : Bool :=
  match failure with
  | .general _ => true
  | .naming paths _ =>
    let named := paths.map Path.clean
    !requested.any named.contains || named.contains path

/-- **The registry reads a failure as the contract does.** -/
theorem failed_eq_filter_fails (failure : WatchFailure) (requested : List String) :
    failure.failed requested = requested.filter (failure.fails requested) := by
  cases failure with
  | general message =>
    show requested = requested.filter fun _ => true
    rw [List.filter_true]
  | naming paths reason =>
    unfold failed fails
    simp only
    cases named : requested.filter (paths.map Path.clean).contains with
    | nil =>
      -- no requested hierarchy is named, so the contract fails them all
      have unnamed : requested.any (paths.map Path.clean).contains = false := by
        rw [List.any_eq_false]
        intro path member
        simpa using List.filter_eq_nil_iff.mp named path member
      simp [unnamed]
    | cons first rest =>
      have someNamed : requested.any (paths.map Path.clean).contains = true := by
        have member : first ∈ requested.filter (paths.map Path.clean).contains := by
          rw [named]
          exact List.mem_cons_self
        obtain ⟨inRequested, isNamed⟩ := List.mem_filter.mp member
        exact List.any_eq_true.mpr ⟨first, inRequested, isNamed⟩
      show first :: rest = _
      rw [← named]
      apply List.filter_congr
      intro path _
      simp [someNamed]

end WatchFailure

namespace Contract

open StableWatch.Registry

/-- The two requests a watcher answers. -/
inductive Request where
  | start
  | stop
  deriving DecidableEq, Repr

/-- One request as the watcher saw it: what was asked for which hierarchies, the hierarchies it
watched just before, and its answer. -/
structure Record where
  request : Request
  paths : List String
  before : List String
  failure : Option WatchFailure

/-- A contract watcher's state: the hierarchies it really watches, the state its answers are
drawn from, and the requests so far, oldest first. -/
structure State (τ : Type) where
  watching : List String
  oracle : τ
  log : List Record

variable {τ : Type}

/-- The requested hierarchies that succeed under an answer. -/
def succeeded (requested : List String) : Option WatchFailure → List String
  | none => requested
  | some failure => requested.filter fun path => !failure.fails requested path

/-- Answers a request as `respond` decides, changes the watched hierarchies by `apply` with those
that succeed, and logs the request. -/
def serve (respond : Request → List String → τ → Option WatchFailure × τ) (request : Request)
    (apply : List String → List String → List String) (paths : List String) (s : State τ) :
    Option WatchFailure × State τ :=
  ((respond request paths s.oracle).1,
    { watching := apply s.watching (succeeded paths (respond request paths s.oracle).1)
      oracle := (respond request paths s.oracle).2
      log := s.log ++ [⟨request, paths, s.watching, (respond request paths s.oracle).1⟩] })

/-- The watcher that keeps the contract and answers as `respond` decides: a start adds the
hierarchies that succeed, a stop removes them. -/
def watcher (respond : Request → List String → τ → Option WatchFailure × τ) : Watcher (State τ) where
  start := serve respond .start PathSet.union
  stop := serve respond .stop PathSet.diff

section Reading

variable {respond : Request → List String → τ → Option WatchFailure × τ}

/-- The registry's reading of a failed request leaves as started exactly what the contract counts
as succeeded. -/
theorem diff_failed_eq_succeeded (requested : List String) (failure : WatchFailure) :
    PathSet.diff requested (failure.failed requested) = succeeded requested (some failure) := by
  unfold PathSet.diff succeeded
  rw [failure.failed_eq_filter_fails]
  apply List.filter_congr
  intro path member
  simp [member]

/-- The registry's reading of a failed stop keeps watched exactly what the contract counts as
not stopped. -/
theorem filter_stop_failed (watched requested : List String) (failure : WatchFailure) :
    watched.filter (fun path => !requested.contains path || (failure.failed requested).contains path) =
      PathSet.diff watched (succeeded requested (some failure)) := by
  unfold PathSet.diff succeeded
  rw [failure.failed_eq_filter_fails]
  apply List.filter_congr
  intro path _
  by_cases requestedPath : path ∈ requested <;> simp [requestedPath]

/-- What a contract watcher's answer to one of the registry's requests does: the watched
hierarchies change by those that succeed, and the request is logged unless it was not made. -/
theorem answers_serve {request : Request} {apply : List String → List String → List String}
    (unchanged : ∀ watching, apply watching [] = watching) {paths : List String} {s : State τ}
    {answer : Option WatchFailure × State τ}
    (answered : Answers (serve respond request apply) paths s answer) :
    answer.2.watching = apply s.watching (succeeded paths answer.1) ∧
    ∃ records, answer.2.log = s.log ++ records ∧
      (∀ record ∈ records, record = ⟨request, paths, s.watching, answer.1⟩) ∧
      (answer.1 ≠ none → ⟨request, paths, s.watching, answer.1⟩ ∈ records) := by
  rcases answered with ⟨rfl, rfl⟩ | ⟨-, rfl⟩
  · refine ⟨(unchanged _).symm, [], by simp, by simp, fun failed => absurd rfl failed⟩
  · exact ⟨rfl, [⟨request, paths, s.watching, (serve respond request apply paths s).1⟩], rfl,
      by simp, fun _ => List.mem_singleton_self _⟩

theorem diff_nil (watching : List String) : PathSet.diff watching [] = watching := by
  simp [PathSet.diff]

/-- The update when the stop went through, whatever the answer to the start: what was not stopped
stays watched, and the requested hierarchies the contract counts as succeeded are added. -/
theorem update_of_stop_ok {σ : Type} {w : Watcher σ} {reg : Registry} {svc svc₁ svc' : σ}
    {answer : Option WatchFailure} (stopped : Answers w.stop reg.toStop svc (none, svc₁))
    (started : Answers w.start reg.toStart svc₁ (answer, svc')) :
    update w reg svc =
      ⟨{ reg with
          watched := PathSet.union (PathSet.diff reg.watched reg.toStop)
            (succeeded reg.toStart answer) },
        svc', answer.map fun failure => .startFailed (failure.failed reg.toStart) failure⟩ := by
  cases answer with
  | none => exact update_of_ok stopped started
  | some failure =>
    rw [update_of_start_failed stopped started, diff_failed_eq_succeeded]
    rfl

theorem mem_of_mem_succeeded {requested : List String} {answer : Option WatchFailure}
    {path : String} (member : path ∈ succeeded requested answer) : path ∈ requested := by
  cases answer with
  | none => exact member
  | some failure => exact (List.mem_filter.mp member).1

/-- The hierarchies a failure of a request for increasing hierarchies is read to name are, in
increasing order, the requested ones the contract counts as failed. -/
theorem failed_reported {requested : List String} (increasing : requested.Pairwise (· < ·))
    (failure : WatchFailure) :
    failure.failed requested = requested.filter (failure.fails requested) ∧
      (failure.failed requested).Pairwise (· < ·) := by
  rw [failure.failed_eq_filter_fails]
  exact ⟨rfl, increasing.filter _⟩

end Reading

/-! ### The registry and the watcher agree -/

/-- The registry agrees with the watcher: it records as watched exactly what the watcher watches,
and no hierarchy the watcher watches lies inside another. -/
structure Mirrors (reg : Registry) (s : State τ) : Prop where
  watched_eq : reg.watched = s.watching
  outermost : ∀ top ∈ s.watching, ∀ path ∈ s.watching, isAncestor top path = false

theorem Mirrors.of_watched_eq {reg reg' : Registry} {s : State τ} (mirrors : Mirrors reg s)
    (same : reg'.watched = reg.watched) : Mirrors reg' s :=
  ⟨same.trans mirrors.watched_eq, mirrors.outermost⟩

/-- What the registry asks of the watcher during one call, and what it reports: it stops only
hierarchies the watcher watches; it starts only hierarchies the watcher does not watch and that
stay outermost together with those it watches; it starts nothing after a failed stop; and an
error names, in increasing order, exactly the requested hierarchies the contract counts as
failed. -/
structure Obeys (records : List Record) (error : Option RegistryError) : Prop where
  stop_watched : ∀ record ∈ records, record.request = .stop →
    ∀ path ∈ record.paths, path ∈ record.before
  start_unwatched : ∀ record ∈ records, record.request = .start →
    ∀ path ∈ record.paths, path ∉ record.before
  start_outermost : ∀ record ∈ records, record.request = .start →
    ∀ top ∈ record.before ++ record.paths, ∀ path ∈ record.before ++ record.paths,
      isAncestor top path = false
  no_start_after_failed_stop : records.Pairwise fun first later =>
    first.request = .stop → first.failure ≠ none → later.request ≠ .start
  stop_error : ∀ paths failure, error = some (.stopFailed paths failure) →
    ∃ record ∈ records, record.request = .stop ∧ record.failure = some failure ∧
      paths = record.paths.filter (failure.fails record.paths) ∧ paths.Pairwise (· < ·)
  start_error : ∀ paths failure, error = some (.startFailed paths failure) →
    ∃ record ∈ records, record.request = .start ∧ record.failure = some failure ∧
      paths = record.paths.filter (failure.fails record.paths) ∧ paths.Pairwise (· < ·)

/-- A call that refuses a path asks nothing. -/
theorem obeys_invalidPath (path : String) : Obeys [] (some (.invalidPath path)) where
  stop_watched := by simp
  start_unwatched := by simp
  start_outermost := by simp
  no_start_after_failed_stop := List.Pairwise.nil
  stop_error := by simp
  start_error := by simp

/-- A call's outcome, from watcher state `s`, is faithful to the watcher: the registry agrees
with it afterwards, and the requests the call logged obey the contract. -/
def Faithful (s : State τ) (out : Outcome (State τ)) : Prop :=
  Mirrors out.registry out.watcher ∧
    ∃ records, out.watcher.log = s.log ++ records ∧ Obeys records out.error

/-! ### One update -/

section Update

variable {respond : Request → List String → τ → Option WatchFailure × τ}

/-- **A failed stop.** The watcher keeps watching what the contract counts as not stopped, which
is what the registry keeps, and nothing is started. -/
theorem update_faithful_of_stop_failed {reg : Registry} {s s₁ : State τ} {failure : WatchFailure}
    (wellFormed : reg.WellFormed) (mirrors : Mirrors reg s)
    (stopped : Answers (watcher respond).stop reg.toStop s (some failure, s₁)) :
    Faithful s (update (watcher respond) reg s) := by
  obtain ⟨watching, records, logged, only, stopLogged⟩ := answers_serve diff_nil stopped
  dsimp only at watching logged only stopLogged
  have stopRecord := stopLogged (by simp)
  rw [update_of_stop_failed stopped]
  refine ⟨⟨?_, ?_⟩, records, logged, ⟨?_, ?_, ?_, ?_, ?_, ?_⟩⟩
  · show reg.watched.filter _ = s₁.watching
    rw [watching, mirrors.watched_eq]
    exact filter_stop_failed s.watching reg.toStop failure
  · -- the watcher watches part of what it watched
    intro top member path member'
    rw [watching] at member member'
    exact mirrors.outermost top (List.mem_filter.mp member).1 path (List.mem_filter.mp member').1
  · intro record member _ path inPaths
    obtain rfl := only record member
    rw [← mirrors.watched_eq]
    exact (mem_toStop.mp inPaths).1
  · intro record member isStart
    obtain rfl := only record member
    cases isStart
  · intro record member isStart
    obtain rfl := only record member
    cases isStart
  · refine List.pairwise_of_forall_mem_list fun _ _ later laterMember _ _ isStart => ?_
    obtain rfl := only later laterMember
    cases isStart
  · intro paths failure' reported
    simp only [Option.some.injEq, RegistryError.stopFailed.injEq] at reported
    obtain ⟨rfl, rfl⟩ := reported
    exact ⟨_, stopRecord, rfl, rfl,
      failed_reported (PathSet.pairwise_diff _ wellFormed.watched_increasing) failure⟩
  · intro paths failure' reported
    cases reported

/-- **A stop that went through**, whatever the answer to the start. After the stop the watcher
watches what is watched and still desired; it is asked to start the desired hierarchies it does
not watch, so everything it watches afterwards is desired, and the registry adds what the
contract counts as started. -/
theorem update_faithful_of_stop_ok {reg : Registry} {s s₁ s' : State τ}
    {answer : Option WatchFailure} (wellFormed : reg.WellFormed) (mirrors : Mirrors reg s)
    (stopped : Answers (watcher respond).stop reg.toStop s (none, s₁))
    (started : Answers (watcher respond).start reg.toStart s₁ (answer, s')) :
    Faithful s (update (watcher respond) reg s) := by
  obtain ⟨stopWatching, stopRecords, stopLogged, onlyStop, -⟩ := answers_serve diff_nil stopped
  obtain ⟨startWatching, startRecords, startLogged, onlyStart, startFailedLogged⟩ :=
    answers_serve (fun _ => rfl) started
  dsimp only at stopWatching stopLogged onlyStop
  dsimp only at startWatching startLogged onlyStart startFailedLogged
  have between : s₁.watching = PathSet.diff reg.watched reg.toStop := by
    rw [stopWatching, mirrors.watched_eq]
    rfl
  have desiredBetween : ∀ path ∈ s₁.watching, path ∈ reg.desired := by
    intro path member
    rw [between] at member
    obtain ⟨watched, notStopped⟩ := PathSet.mem_diff.mp member
    by_contra undesired
    exact notStopped (mem_toStop.mpr ⟨watched, undesired⟩)
  have desiredAfter : ∀ path ∈ s₁.watching ++ reg.toStart, path ∈ reg.desired := by
    intro path member
    rcases List.mem_append.mp member with kept | started
    · exact desiredBetween path kept
    · exact (mem_toStart.mp started).1
  -- no stop the registry logs in this call failed
  have stopsSucceeded : ∀ record ∈ stopRecords ++ startRecords, record.request = .stop →
      record.failure = none := by
    intro record member isStop
    rcases List.mem_append.mp member with inStop | inStart
    · rw [onlyStop record inStop]
    · rw [onlyStart record inStart] at isStop
      cases isStop
  rw [update_of_stop_ok stopped started]
  refine ⟨⟨?_, ?_⟩, stopRecords ++ startRecords, by rw [startLogged, stopLogged,
    List.append_assoc], ⟨?_, ?_, ?_, ?_, ?_, ?_⟩⟩
  · show PathSet.union (PathSet.diff reg.watched reg.toStop) (succeeded reg.toStart answer) =
      s'.watching
    rw [startWatching, between]
  · intro top member path member'
    rw [startWatching, PathSet.mem_union] at member member'
    have toDesired : ∀ {other : String}, other ∈ s₁.watching ∨ other ∈ succeeded reg.toStart answer →
        other ∈ reg.desired := by
      rintro other (kept | added)
      · exact desiredBetween other kept
      · exact (mem_toStart.mp (mem_of_mem_succeeded added)).1
    exact wellFormed.desired_outermost top (toDesired member) path (toDesired member')
  · intro record member isStop path inPaths
    rcases List.mem_append.mp member with inStop | inStart
    · obtain rfl := onlyStop record inStop
      rw [← mirrors.watched_eq]
      exact (mem_toStop.mp inPaths).1
    · obtain rfl := onlyStart record inStart
      cases isStop
  · intro record member isStart path inPaths
    rcases List.mem_append.mp member with inStop | inStart
    · obtain rfl := onlyStop record inStop
      cases isStart
    · obtain rfl := onlyStart record inStart
      -- the watcher watches part of what the registry watched, and the start asks for none of it
      intro watching
      rw [between] at watching
      exact (mem_toStart.mp inPaths).2 (PathSet.mem_diff.mp watching).1
  · intro record member isStart top topMember path pathMember
    rcases List.mem_append.mp member with inStop | inStart
    · obtain rfl := onlyStop record inStop
      cases isStart
    · obtain rfl := onlyStart record inStart
      exact wellFormed.desired_outermost top (desiredAfter top topMember) path
        (desiredAfter path pathMember)
  · refine List.pairwise_of_forall_mem_list fun first firstMember _ _ isStop failed => ?_
    exact absurd (stopsSucceeded first firstMember isStop) failed
  · intro paths failure reported
    cases answer <;> simp at reported
  · intro paths failure reported
    cases answer with
    | none => simp at reported
    | some failure' =>
      simp only [Option.map_some, Option.some.injEq, RegistryError.startFailed.injEq] at reported
      obtain ⟨rfl, rfl⟩ := reported
      exact ⟨_, List.mem_append_right _ (startFailedLogged (by simp)), rfl, rfl,
        failed_reported (PathSet.pairwise_diff _ (pairwise_desired reg)) failure'⟩

/-- **Every update is faithful** to a contract watcher the registry agrees with. -/
theorem update_faithful {reg : Registry} {s : State τ} (wellFormed : reg.WellFormed)
    (mirrors : Mirrors reg s) : Faithful s (update (watcher respond) reg s) := by
  rcases update_trichotomy (watcher respond) reg s with ⟨_, _, stopped⟩ |
      ⟨_, _, _, stopped, started⟩ | ⟨_, _, stopped, started⟩
  · exact update_faithful_of_stop_failed wellFormed mirrors stopped
  · exact update_faithful_of_stop_ok wellFormed mirrors stopped started
  · exact update_faithful_of_stop_ok wellFormed mirrors stopped started

end Update

/-! ### Every call -/

section Run

variable {respond : Request → List String → τ → Option WatchFailure × τ}

/-- Pruning earlier roots leaves a faithful outcome faithful: it changes no watched hierarchy. -/
theorem Faithful.pruned {s : State τ} {out : Outcome (State τ)} (faithful : Faithful s out) :
    Faithful s { out with registry := out.registry.pruned } :=
  ⟨faithful.1.of_watched_eq rfl, faithful.2⟩

/-- **Every call is faithful** to a contract watcher the registry agrees with: a refused call
asks nothing and changes nothing; every other call is one update, followed at a build's end by a
pruning that leaves the watched hierarchies alone. -/
theorem run_faithful {reg : Registry} {s : State τ} (wellFormed : reg.WellFormed)
    (mirrors : Mirrors reg s) (call : Call) : Faithful s (call.run (watcher respond) reg s) := by
  cases call with
  | declareRoots dirs =>
    rcases declareRoots_cases (watcher respond) dirs reg s with ⟨path, refused⟩ |
      ⟨clean, checked, ran⟩
    · simp only [Call.run, refused]
      exact ⟨mirrors, [], by simp, obeys_invalidPath path⟩
    · simp only [Call.run, ran]
      exact update_faithful (wellFormed.declared checked) (mirrors.of_watched_eq rfl)
  | changed removed added =>
    rcases changed_cases (watcher respond) removed added reg s with ⟨path, refused⟩ |
      ⟨gone, fresh, -, checked, ran⟩
    · simp only [Call.run, refused]
      exact ⟨mirrors, [], by simp, obeys_invalidPath path⟩
    · simp only [Call.run, ran]
      exact update_faithful (wellFormed.rescanned gone checked) (mirrors.of_watched_eq rfl)
  | finishBuild =>
    simp only [Call.run]
    rw [finishBuild_eq]
    exact (update_faithful wellFormed.retired (mirrors.of_watched_eq rfl)).pruned

end Run

/-- The registries and watcher states that calls against one contract watcher lead to, from the
empty registry and a watcher that watches nothing and has been asked nothing. -/
inductive Drives (respond : Request → List String → τ → Option WatchFailure × τ) :
    Registry → State τ → Prop
  | empty (oracle : τ) : Drives respond Registry.empty ⟨[], oracle, []⟩
  | step {reg : Registry} {s : State τ} (call : Call) : Drives respond reg s →
      Drives respond (call.run (watcher respond) reg s).registry
        (call.run (watcher respond) reg s).watcher

/-- Along every run the registry agrees with the watcher, and it is reachable. -/
theorem Drives.mirrors {respond : Request → List String → τ → Option WatchFailure × τ}
    {reg : Registry} {s : State τ} (driven : Drives respond reg s) :
    Mirrors reg s ∧ reg.Reachable := by
  induction driven with
  | empty oracle => exact ⟨⟨rfl, by simp⟩, Reachable.empty⟩
  | step call _ ih =>
    exact ⟨(run_faithful ih.2.wellFormed ih.1 call).1, Reachable.step _ _ call ih.2⟩

/-- **The registry keeps the watcher contract.** Along every run against a watcher that fails in
any way the contract allows, the registry records as watched exactly what the watcher watches and
no watched hierarchy lies inside another, before and after every call; and every call stops only
watched hierarchies, starts only unwatched ones that stay outermost with the watched ones, starts
nothing after a failed stop, and reports failures as the contract reads them. -/
theorem registry_keeps_watcher_contract
    {respond : Request → List String → τ → Option WatchFailure × τ} {reg : Registry}
    {s : State τ} (driven : Drives respond reg s) (call : Call) :
    Mirrors reg s ∧ Faithful s (call.run (watcher respond) reg s) :=
  ⟨driven.mirrors.1, run_faithful driven.mirrors.2.wellFormed driven.mirrors.1 call⟩

/-- Against a watcher that refuses every request, reporting a file tracked under a new directory
keeps the contract. -/
theorem contract_kept_by_refusing_watcher :
    Drives (fun _ _ (u : Unit) => (some (.general "denied"), u)) Registry.empty ⟨[], (), []⟩ ∧
    (Mirrors Registry.empty ⟨[], (), []⟩ ∧
      Faithful ⟨[], (), []⟩ (Call.run (watcher fun _ _ (u : Unit) => (some (.general "denied"), u))
        (.changed [] [{ path := "/proj/a", kind := .file }]) Registry.empty ⟨[], (), []⟩)) :=
  ⟨Drives.empty (), registry_keeps_watcher_contract (Drives.empty ()) _⟩

end Contract

end StableWatch
