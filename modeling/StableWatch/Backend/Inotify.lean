import StableWatch.Backend.Hierarchy
import StableWatch.Fs.Host
/-!
# Watching hierarchies with the kernel's directory watches

The kernel watches one directory at a time. A watch is added under a name, a path that is
resolved through links to the directory it watches; adding a directory that is already watched
under another name renames the watch. Removing a watch by a name it does not hold answers that
there is no such watch; once the facility is closed, adding fails and removing does nothing.

A change at a node is reported to the watch of the directory holding it, as the watch's name
followed by the node's name, and a change of the node's own attributes or its removal also to
the node's own watch, under that watch's name. A removed directory loses its watch.

`DirectoryWatcher` is the hierarchy backend over this facility. It reacts to the changes of the
host's file system after they happened: each notice gives the events the kernel reports, the
backend updates its directories for each of them in order, and every event's path is passed on.
-/

namespace StableWatch

/-- The kernel's directory watches: each by the name it was added under, with the physical path
of the directory it watches; and whether the facility was closed. -/
structure Inotify where
  watches : List (String × String) := []
  closed : Bool := false
  deriving DecidableEq, Repr

namespace Inotify

/-- The text of a closed facility's refusal. -/
def closedText : String := "fsnotify: watcher already closed"

/-- The facility on a host file system. -/
def facility (fs : HostFs) : Facility Inotify where
  add name k :=
    if k.closed then (some closedText, k)
    else
      let name := Path.clean name
      match fs.find "inotify_add_watch" true name with
      | .error e => (some e.reason, k)
      | .ok (key, _) =>
        (none, { k with watches := (name, key) :: k.watches.filter fun w => w.1 ≠ name ∧ w.2 ≠ key })
  remove name k :=
    if k.closed then (.removed, k)
    else
      match k.watches.lookup (Path.clean name) with
      | none => (.notWatched, k)
      | some key => (.removed, { k with watches := k.watches.filter (·.2 ≠ key) })

/-- What a notice says happened, as the kernel reports it. -/
def opsOf : NoticeKind → EventOps
  | .created => { create := true }
  | .removed => { remove := true }
  | .written => { write := true }
  | .attributes => { chmod := true }

/-- The events a notice gives, by the name they are reported under, and the watches after it. -/
def report (k : Inotify) (n : Notice) : List (String × EventOps) × Inotify :=
  let ops := opsOf n.kind
  let inParent := (k.watches.find? (·.2 = HostFs.parentKey n.path)).map fun w =>
    (w.1 ++ "/" ++ HostFs.lastPart n.path, ops)
  let onSelf :=
    if n.kind = .attributes ∨ n.kind = .removed then
      (k.watches.find? (·.2 = n.path)).map fun w => (w.1, ops)
    else none
  let k := if n.kind = .removed then { k with watches := k.watches.filter (·.2 ≠ n.path) } else k
  (inParent.toList ++ onSelf.toList, k)

end Inotify

/-- A hierarchy backend over the kernel's directory watches. -/
structure DirectoryWatcher where
  backend : HierarchyBackend := {}
  kernel : Inotify := {}
  deriving DecidableEq, Repr

namespace DirectoryWatcher

/-- Starts watching hierarchies. -/
def start (fs : HostFs) (roots : List String) (w : DirectoryWatcher) :
    Option WatchFailure × DirectoryWatcher :=
  let (failure, backend, kernel) := w.backend.start fs.view (Inotify.facility fs) roots w.kernel
  (failure, { backend, kernel })

/-- Stops watching hierarchies. -/
def stop (fs : HostFs) (roots : List String) (w : DirectoryWatcher) :
    Option WatchFailure × DirectoryWatcher :=
  let (failure, backend, kernel) := HierarchyBackend.stop (Inotify.facility fs) roots w.backend w.kernel
  (failure, { backend, kernel })

/-- Closes the backend and the facility. -/
def close (w : DirectoryWatcher) : DirectoryWatcher :=
  { backend := w.backend.close, kernel := { watches := [], closed := true } }

/-- The number of directory watches held for hierarchies. -/
def watchCount (w : DirectoryWatcher) : Nat :=
  w.backend.watchCount

/-- Reacts to the notices of a change of the host's file system, which `fs` shows after it;
gives the paths passed on, in order. -/
def react (fs : HostFs) (notices : List Notice) (w : DirectoryWatcher) :
    List String × DirectoryWatcher :=
  notices.foldl (fun (out, w) n =>
    let (events, kernel) := w.kernel.report n
    let (out, backend, kernel) := events.foldl (fun (out, b, k) event =>
      let (path, b, k) := b.onEvent fs.view (Inotify.facility fs) event.1 event.2 k
      (out ++ [path], b, k)) (out, w.backend, kernel)
    (out, { backend, kernel })) ([], w)

end DirectoryWatcher

end StableWatch
