import StableWatch.Fs.View
import StableWatch.Watch.Watcher
import StableWatch.Path.Set
/-!
# Watching hierarchies with single-directory watches

Some watch facilities watch one directory at a time. To watch a hierarchy, the backend adds a
watch for its root and for every directory below it, and keeps, per hierarchy, the set of
directories it added. Events keep the sets current: a directory created inside a hierarchy is
added together with what is below it, and a removed or renamed path takes its directories with
it.

* Starting a hierarchy that is already watched does nothing. Its root must lead to a directory
  (through links); a subdirectory whose watch cannot be added is skipped with everything below it,
  and links are not entered.
* Stopping a hierarchy removes its watches from the deepest path up. A watch the facility no
  longer knows counts as removed; if removing the root's watch fails, the hierarchy stays with its
  root alone and the failure is reported.
* Every hierarchy that fails is named in one failure, whose reason joins the single reasons with
  line breaks, in request order.

The facility is given by its answers to adding and removing a watch, over a state of its own
(`Facility`): a scripted facility records which of its calls succeeded (`Calls`), a model of the
kernel's facility keeps the watches it holds.
-/

namespace StableWatch

/-- How a facility answers a request to remove a watch. -/
inductive RemoveAnswer where
  | removed
  /-- The facility has no such watch. -/
  | notWatched
  | failed (reason : String)
  deriving DecidableEq, Repr

/-- A single-directory watch facility with state `κ`: adding a watch gives a failure reason or
none, removing one gives an answer, and either may change the facility's state. -/
structure Facility (κ : Type) where
  add : String → κ → Option String × κ
  remove : String → κ → RemoveAnswer × κ

/-- The facility calls that succeeded, in order. -/
structure Calls where
  added : List String := []
  removed : List String := []
  deriving DecidableEq, Repr

/-- A facility that fails the listed paths with the listed reasons, and records the calls that
succeeded; removing with the reason `nonexistent` answers that there is no such watch. -/
def Facility.scripted (addFail removeFail : List (String × String)) : Facility Calls where
  add path calls :=
    match addFail.lookup path with
    | some reason => (some reason, calls)
    | none => (none, { calls with added := calls.added ++ [path] })
  remove path calls :=
    match removeFail.lookup path with
    | none => (.removed, { calls with removed := calls.removed ++ [path] })
    | some "nonexistent" => (.notWatched, calls)
    | some reason => (.failed reason, calls)

/-- The backend's state: the directories watched for each hierarchy (increasing by root, each set
increasing), and whether it was closed. -/
structure HierarchyBackend where
  hierarchies : List (String × List String) := []
  closed : Bool := false
  deriving DecidableEq, Repr

/-- What a change event says happened at its path. -/
structure EventOps where
  create : Bool := false
  write : Bool := false
  remove : Bool := false
  rename : Bool := false
  chmod : Bool := false
  deriving DecidableEq, Repr

namespace HierarchyBackend

/-- The number of directory watches held. -/
def watchCount (b : HierarchyBackend) : Nat :=
  (b.hierarchies.map (·.2.length)).foldr (· + ·) 0

/-- The watched hierarchies, increasing. -/
def roots (b : HierarchyBackend) : List String :=
  b.hierarchies.map (·.1)

/-- Sets the directories of a hierarchy, keeping the roots increasing. -/
def putHierarchy (root : String) (dirs : List String) :
    List (String × List String) → List (String × List String)
  | [] => [(root, dirs)]
  | (key, known) :: rest =>
    if root < key then (root, dirs) :: (key, known) :: rest
    else if root = key then (root, dirs) :: rest
    else (key, known) :: putHierarchy root dirs rest

/-- Adds watches for the directories below `top`, in walk order, skipping those already in the
set; a directory whose watch fails is not entered. -/
def addBelow {κ : Type} (view : FsView) (f : Facility κ) (top : String) (dirs : List String)
    (k : κ) : List String × κ :=
  view.walkFold (fun (dirs, k) path info =>
    if info.kind ≠ .directory ∨ path = top then ((dirs, k), true)
    else
      let key := Path.clean path
      if dirs.contains key then ((dirs, k), true)
      else
        match f.add path k with
        | (some _, k) => ((dirs, k), false)
        | (none, k) => ((PathSet.insert key dirs, k), true)) (dirs, k) top

/-- Starts one hierarchy. -/
def startOne {κ : Type} (view : FsView) (f : Facility κ) (b : HierarchyBackend) (k : κ)
    (root : String) : Option String × HierarchyBackend × κ :=
  if (b.hierarchies.lookup root).isSome then (none, b, k)
  else
    match view.stat root with
    | .error e => (some e.message, b, k)
    | .ok info =>
      if info.kind ≠ .directory then (some ("watch " ++ root ++ ": not a directory"), b, k)
      else
        match f.add root k with
        | (some reason, k) => (some reason, b, k)
        | (none, k) =>
          let (dirs, k) := addBelow view f root [root] k
          (none, { b with hierarchies := putHierarchy root dirs b.hierarchies }, k)

/-- Stops one hierarchy: removes its watches from the deepest path up. -/
def stopOne {κ : Type} (f : Facility κ) (b : HierarchyBackend) (k : κ) (root : String) :
    Option String × HierarchyBackend × κ :=
  match b.hierarchies.lookup root with
  | none => (none, b, k)
  | some dirs =>
    let (rootFailure, k) := dirs.reverse.foldl (fun (failure, k) dir =>
      match f.remove dir k with
      | (.failed reason, k) => (if dir = root then some reason else failure, k)
      | (_, k) => (failure, k)) (none, k)
    match rootFailure with
    | some reason =>
      (some reason, { b with hierarchies := putHierarchy root [root] b.hierarchies }, k)
    | none => (none, { b with hierarchies := b.hierarchies.filter (·.1 ≠ root) }, k)

/-- Runs one request over every hierarchy in order and gathers the failures into one that names
the failed hierarchies. -/
def each {κ : Type} (one : HierarchyBackend → κ → String → Option String × HierarchyBackend × κ)
    (roots : List String) (b : HierarchyBackend) (k : κ) :
    Option WatchFailure × HierarchyBackend × κ :=
  let (failed, b, k) := roots.foldl (fun (failed, b, k) root =>
    match one b k root with
    | (some reason, b, k) => (failed ++ [(root, reason)], b, k)
    | (none, b, k) => (failed, b, k)) ([], b, k)
  match failed with
  | [] => (none, b, k)
  | _ => (some (.naming (failed.map (·.1)) ("\n".intercalate (failed.map (·.2)))), b, k)

/-- Starts watching hierarchies. -/
def start {κ : Type} (view : FsView) (f : Facility κ) (roots : List String) (b : HierarchyBackend)
    (k : κ) : Option WatchFailure × HierarchyBackend × κ :=
  each (startOne view f) roots b k

/-- Stops watching hierarchies. -/
def stop {κ : Type} (f : Facility κ) (roots : List String) (b : HierarchyBackend) (k : κ) :
    Option WatchFailure × HierarchyBackend × κ :=
  each (stopOne f) roots b k

/-- Closes the backend: it lets go of every hierarchy. Closing again changes nothing. -/
def close (b : HierarchyBackend) : HierarchyBackend :=
  if b.closed then b else { hierarchies := [], closed := true }

/-- The hierarchy a path belongs to: the first, by root, that is the path or lies above it. -/
def hierarchyFor (b : HierarchyBackend) (path : String) : Option (String × List String) :=
  b.hierarchies.find? fun (root, _) => path = root || Path.isAncestor root path

/-- Handles a change event: a created directory inside a hierarchy is watched with what is below
it; a removed or renamed path other than a root loses its watches and those below it. The event's
path, cleaned, is passed on. -/
def onEvent {κ : Type} (view : FsView) (f : Facility κ) (name : String) (ops : EventOps)
    (b : HierarchyBackend) (k : κ) : String × HierarchyBackend × κ :=
  let path := Path.clean name
  match b.hierarchyFor path with
  | none => (path, b, k)
  | some (root, dirs) =>
    if ops.create then
      match view.stat path with
      | .ok info =>
        if info.kind = .directory ∧ !dirs.contains path then
          match f.add path k with
          | (some _, k) => (path, b, k)
          | (none, k) =>
            let (dirs, k) := addBelow view f path (PathSet.insert path dirs) k
            (path, { b with hierarchies := putHierarchy root dirs b.hierarchies }, k)
        else (path, b, k)
      | .error _ => (path, b, k)
    else if (ops.remove || ops.rename) && path ≠ root then
      let (gone, kept) := dirs.partition fun dir =>
        dir = path || (path ++ "/").toList.isPrefixOf dir.toList
      let k := gone.foldl (fun k dir => (f.remove dir k).2) k
      (path, { b with hierarchies := putHierarchy root kept b.hierarchies }, k)
    else (path, b, k)

end HierarchyBackend

end StableWatch
