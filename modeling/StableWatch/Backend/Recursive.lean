import StableWatch.Watch.Watcher
import StableWatch.Fs.Host
/-!
# Watching hierarchies recursively

A recursive watch covers a directory and everything below it, by physical path. Starting one
first finds the canonical path of its root: every prefix of the path is read without following
it, the first one that cannot be read fails the start with its reason, and a link found on the
way is replaced by its target (read from the link's directory, or from the root) before the
prefixes are read again. The canonical root must be a directory.

A watch reports nodes created, removed or written at or below its root, by physical path; a
change of attributes is not reported. Once its root is removed, a watch reports nothing more.

The backend keeps one watch per hierarchy, by the path it was started with, and counts them.
Starting a hierarchy that is watched does nothing; stopping one that is not watched does
nothing and never fails. Once closed, every start fails for all the hierarchies it names.
-/

namespace StableWatch

/-- One recursive watch: its canonical root and whether the root still stands. -/
structure RecursiveWatch where
  root : String
  live : Bool := true
  deriving DecidableEq, Repr

/-- The recursive backend: the watches by the hierarchy they were started for, and whether it
was closed. -/
structure RecursiveWatcher where
  watches : List (String × RecursiveWatch) := []
  closed : Bool := false
  deriving DecidableEq, Repr

namespace RecursiveWatcher

/-- Finds the canonical path below the physical prefix `done`, reading the components still to
walk one by one. -/
def canonicalFrom (fs : HostFs) : Nat → String → List String → Except FsError String
  | 0, done, _ => .error (Errno.loop.toError "lstat" done)
  | _ + 1, done, [] => .ok done
  | fuel + 1, done, part :: rest =>
    if part = "" ∨ part = "." then canonicalFrom fs fuel done rest
    else if part = ".." then canonicalFrom fs fuel (HostFs.parentKey done) rest
    else
      let next := HostFs.childKey done part
      match fs.find "lstat" false next with
      | .error e => .error e
      | .ok (_, n) =>
        match n.content with
        | .link target =>
          canonicalFrom fs fuel (if Path.isAbs target then "/" else done) (target.splitOn "/" ++ rest)
        | _ => canonicalFrom fs fuel next rest

/-- The canonical path of a path. -/
def canonical (fs : HostFs) (path : String) : Except FsError String :=
  canonicalFrom fs (path.length + 2 + 129 * (fs.longestTarget + 2)) "/" (path.splitOn "/")

/-- Starts one hierarchy, giving the failure's reason. -/
def startOne (fs : HostFs) (w : RecursiveWatcher) (root : String) :
    Option String × RecursiveWatcher :=
  if (w.watches.lookup root).isSome then (none, w)
  else
    match canonical fs root with
    | .error e => (some e.message, w)
    | .ok key =>
      match fs.node? key with
      | some ⟨.directory, _, _, _⟩ => (none, { w with watches := w.watches ++ [(root, { root := key })] })
      | _ => (some (Errno.notDirectory.toError "open" key).message, w)

/-- Starts watching hierarchies; every one that fails is named in one failure whose reason joins
the single reasons with line breaks. -/
def start (fs : HostFs) (roots : List String) (w : RecursiveWatcher) :
    Option WatchFailure × RecursiveWatcher :=
  if w.closed then (some (.naming roots "backend is closed"), w)
  else
    let (failed, w) := roots.foldl (fun (failed, w) root =>
      match startOne fs w root with
      | (some reason, w) => (failed ++ [(root, reason)], w)
      | (none, w) => (failed, w)) ([], w)
    match failed with
    | [] => (none, w)
    | _ => (some (.naming (failed.map (·.1)) ("\n".intercalate (failed.map (·.2)))), w)

/-- Stops watching hierarchies. -/
def stop (roots : List String) (w : RecursiveWatcher) : RecursiveWatcher :=
  { w with watches := w.watches.filter fun entry => !roots.contains entry.1 }

/-- Stops every watch; later starts fail. -/
def close (_ : RecursiveWatcher) : RecursiveWatcher :=
  { watches := [], closed := true }

/-- The number of recursive watches. -/
def watchCount (w : RecursiveWatcher) : Nat :=
  w.watches.length

/-- Whether a watch reports a notice. -/
def covers (watch : RecursiveWatch) (n : Notice) : Bool :=
  watch.live && n.kind ≠ .attributes &&
    (n.path = watch.root || Path.isAncestor watch.root n.path)

/-- Reacts to the notices of a change of the host's file system; gives the paths reported, in
order. -/
def react (notices : List Notice) (w : RecursiveWatcher) : List String × RecursiveWatcher :=
  notices.foldl (fun (out, w) n =>
    let out := if w.watches.any (covers ·.2 n) then out ++ [n.path] else out
    let watches := w.watches.map fun (root, watch) =>
      (root, if n.kind = .removed ∧ n.path = watch.root then { watch with live := false } else watch)
    (out, { w with watches })) ([], w)

end RecursiveWatcher

end StableWatch
