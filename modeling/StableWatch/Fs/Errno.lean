import StableWatch.Fs.View
/-!
# Why a call on the host's file system fails

The host's file system reports a failed call by one of a few reasons, each with the text the
system's error tables give it. A failure names the operation and the path it was given, so its
message reads `op path: reason`; only a missing entry counts as "does not exist".
-/

namespace StableWatch

/-- Why a call on the host's file system failed. -/
inductive Errno where
  /-- A component of the path, or the last one, is missing. -/
  | noEntry
  /-- A component in the middle of the path is not a directory. -/
  | notDirectory
  /-- A directory was opened as a file. -/
  | isDirectory
  /-- Something stands where a new node was to be made. -/
  | alreadyExists
  /-- Resolving the path met too many symbolic links. -/
  | loop
  /-- A directory to be removed still has entries. -/
  | notEmpty
  /-- The node is not of the kind the call needs. -/
  | invalid
  /-- A socket was opened as a file. -/
  | noDevice
  deriving DecidableEq, Repr

namespace Errno

/-- The text of a reason. -/
def text : Errno → String
  | .noEntry => "no such file or directory"
  | .notDirectory => "not a directory"
  | .isDirectory => "is a directory"
  | .alreadyExists => "file exists"
  | .loop => "too many levels of symbolic links"
  | .notEmpty => "directory not empty"
  | .invalid => "invalid argument"
  | .noDevice => "no such device or address"

/-- The failure of an operation on a path for this reason. -/
def toError (e : Errno) (op path : String) : FsError :=
  { op, path, reason := e.text, missing := e = .noEntry }

end Errno

end StableWatch
