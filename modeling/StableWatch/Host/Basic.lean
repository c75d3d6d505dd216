import StableWatch.Daemon.Basic
import StableWatch.Backend.Native
import StableWatch.Fs.HostEdit
import StableWatch.Fs.Store
/-!
# The host

The host is the machine the program runs on: its file system, the environment the program
sees, the daemon when one runs on it, and a wall clock. The wall clock stands still, so a build
that just ran started now; the file system keeps its own clock for the times of its nodes. A running daemon is a `Service`: the daemon itself,
the socket it answers at, the file its build history is kept in (none when it keeps it in
memory only), and whether a rescan is due.

Every change of the host's file system, whoever makes it, reaches the running daemon's backend
as notices. When the backend reports a path, a rescan becomes due; it runs once the daemon's
waiting time has passed without a further report (time passes only when someone waits), and
reads the locations again. A rescan due for a watcher that has stopped is dropped.

`Host.store` is the host as a store of files: reading goes to the file system, and making
directories and writing files are changes the daemon sees.
-/

namespace StableWatch

/-- A daemon running on the host. -/
structure Service where
  daemon : Daemon Backend
  /-- The socket the daemon answers at. -/
  socket : String
  /-- The file the history is kept in; none when it is kept in memory only. -/
  historyFile : Option String := none
  /-- While a rescan is due: the number of the watcher it is due for, and the milliseconds
  waited since the backend last reported a path. -/
  settling : Option (Nat × Nat) := none
  deriving DecidableEq, Repr

/-- The machine: its file system, the environment, the daemon running on it, and the wall clock,
which stands still: requests take no time. -/
structure Host where
  fs : HostFs
  env : Environment
  service : Option Service := none
  clock : Timestamp := { seconds := HostFs.epoch }
  deriving DecidableEq, Repr

namespace Host

/-- What a daemon on the host works with. -/
def kit (h : Host) : Kit Backend where
  make := Backend.ofKind
  watcher := Backend.watcher h.fs
  view := h.fs.view
  now := h.clock

/-- Hands the notices of a change to the running daemon's backend; a path it reports makes a
rescan due for the current watcher and restarts the wait. -/
def observe (notices : List Notice) (h : Host) : Host :=
  match h.service with
  | none => h
  | some svc =>
    match svc.daemon.watcher, svc.daemon.backend with
    | some w, some backend =>
      let (reported, backend) := backend.react h.fs notices
      let daemon := { svc.daemon with backend := some backend }
      let settling := if reported.isEmpty then svc.settling else some (w, 0)
      { h with service := some { svc with daemon, settling } }
    | _, _ => h

/-- Applies a change of the file system; the daemon sees it. -/
def change (step : HostFs → Except FsError (HostFs × List Notice)) (h : Host) :
    Except FsError Host :=
  (step h.fs).map fun (fs, notices) => observe notices { h with fs }

/-- Applies an edit on the clock; the daemon sees it. -/
def edit (entry : FsEntry) (h : Host) : Host :=
  let (fs, notices) := h.fs.edit entry
  observe notices { h with fs }

/-- Whether something stands at a path, read through links; only a missing entry says no. -/
def present (h : Host) (path : String) : Except FsError Bool :=
  match h.fs.stat path with
  | .ok _ => .ok true
  | .error e => if e.missing then .ok false else .error e

/-- The host as a store of files. -/
def store : FileStore Host where
  read h path := h.fs.fileContent path
  present h path := h.present path
  makeDirs h path := h.change (·.makeDirs path)
  write h path content := h.change (·.writeFile path content)

/-- Lets time pass: a due rescan runs once the daemon's waiting time has passed, and is dropped
when the watcher it is due for has stopped. A daemon that stops on a part that is not set ends
the service. -/
def wait (ms : Nat) (h : Host) : Host :=
  match h.service with
  | none => h
  | some svc =>
    match svc.settling with
    | none => h
    | some (w, waited) =>
      let waited := waited + ms
      if svc.daemon.watcher ≠ some w then
        { h with service := some { svc with settling := none } }
      else if (waited : Int) * Duration.millisecond ≥ svc.daemon.config.daemon.debounce.ns then
        match svc.daemon.handleChanges h.kit w with
        | some daemon => { h with service := some { svc with daemon, settling := none } }
        | none => { h with service := none }
      else { h with service := some { svc with settling := some (w, waited) } }

end Host

end StableWatch
