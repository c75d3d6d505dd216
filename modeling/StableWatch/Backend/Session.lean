import StableWatch.Backend.Native
import StableWatch.Fs.HostEdit
import StableWatch.Path.Set
/-!
# A backend at work on the host

A backend session drives one native backend on the host's file system: hierarchies are started
and stopped, the file system is edited, and the paths the backend reports wait in a queue of at
most 100 until they are collected; a path reported while the queue is full is dropped.
Collecting gives the waiting paths as a set, increasing, and empties the queue.
-/

namespace StableWatch

/-- A native backend on the host's file system, with the reported paths not yet collected. -/
structure BackendSession where
  fs : HostFs
  backend : Backend
  queue : List String := []
  deriving DecidableEq, Repr

namespace BackendSession

/-- How many reported paths wait at most. -/
def queueSize : Nat := 100

/-- Starts watching hierarchies. -/
def start (s : BackendSession) (roots : List String) : Option WatchFailure × BackendSession :=
  let (failure, backend) := s.backend.start s.fs roots
  (failure, { s with backend })

/-- Stops watching hierarchies. -/
def stop (s : BackendSession) (roots : List String) : Option WatchFailure × BackendSession :=
  let (failure, backend) := s.backend.stop s.fs roots
  (failure, { s with backend })

/-- Closes the backend. -/
def close (s : BackendSession) : BackendSession :=
  { s with backend := s.backend.close }

/-- Edits the file system; the backend reacts to the change. -/
def edit (s : BackendSession) (entry : FsEntry) : BackendSession :=
  let (fs, notices) := s.fs.edit entry
  let (reported, backend) := s.backend.react fs notices
  { fs, backend, queue := (s.queue ++ reported).take queueSize }

/-- The waiting paths as an increasing set, and the session with an empty queue. -/
def collect (s : BackendSession) : List String × BackendSession :=
  (PathSet.ofList s.queue, { s with queue := [] })

end BackendSession

end StableWatch
