import StableWatch.Backend.DryRun
import StableWatch.Backend.Inotify
import StableWatch.Backend.Recursive
import StableWatch.Text.Quoted
/-!
# Native watch backends

A native backend is one of three kinds, chosen by name: `fsnotify` (also the empty name) watches
each directory of a hierarchy with the kernel's directory watches, `notify` keeps one recursive
watch per hierarchy, and `dryrun` only records what it was asked to watch. Any other name is
refused.

On the host's file system a backend starts and stops hierarchies, reacts to the notices of each
change by the paths it reports, and can be closed. The dry run reports nothing. The two real
kinds count their watches; the dry run has no count.
-/

namespace StableWatch

/-- A native watch backend. -/
inductive Backend where
  | dryRun (d : DryRun)
  | directories (w : DirectoryWatcher)
  | recursive (w : RecursiveWatcher)
  deriving DecidableEq, Repr

namespace Backend

/-- The fresh backend of a kind, or why the kind is refused. -/
def ofKind (kind : String) : Except String Backend :=
  if kind = "" ∨ kind = "fsnotify" then .ok (.directories {})
  else if kind = "notify" then .ok (.recursive {})
  else if kind = "dryrun" then .ok (.dryRun {})
  else .error ("unknown watch backend: " ++ Text.quote kind)

/-- Starts watching hierarchies. -/
def start (fs : HostFs) (roots : List String) : Backend → Option WatchFailure × Backend
  | .dryRun d => (none, .dryRun (d.start roots))
  | .directories w => let (e, w) := w.start fs roots; (e, .directories w)
  | .recursive w => let (e, w) := w.start fs roots; (e, .recursive w)

/-- Stops watching hierarchies. -/
def stop (fs : HostFs) (roots : List String) : Backend → Option WatchFailure × Backend
  | .dryRun d => (none, .dryRun (d.stop roots))
  | .directories w => let (e, w) := w.stop fs roots; (e, .directories w)
  | .recursive w => (none, .recursive (w.stop roots))

/-- The backend as a watcher on the host's file system. -/
def watcher (fs : HostFs) : Watcher Backend where
  start roots b := b.start fs roots
  stop roots b := b.stop fs roots

/-- Closes the backend. -/
def close : Backend → Backend
  | .dryRun d => .dryRun d.close
  | .directories w => .directories w.close
  | .recursive w => .recursive w.close

/-- The number of watches a real backend holds. -/
def watchCount : Backend → Option Nat
  | .dryRun _ => none
  | .directories w => some w.watchCount
  | .recursive w => some w.watchCount

/-- Reacts to the notices of a change of the host's file system, which `fs` shows after it;
gives the paths reported, in order. -/
def react (fs : HostFs) (notices : List Notice) : Backend → List String × Backend
  | .dryRun d => ([], .dryRun d)
  | .directories w => let (out, w) := w.react fs notices; (out, .directories w)
  | .recursive w => let (out, w) := w.react notices; (out, .recursive w)

end Backend

end StableWatch
