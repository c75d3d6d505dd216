/-!
# File system edits

An edit names a path and what to do there: make a directory (with its parents), write a file,
make a symbolic link, remove a tree, or only touch the modification time or the permissions. An
edit may also fix the modification time of its path.
-/

namespace StableWatch

/-- What an edit does at its path. -/
inductive FsAction where
  | mkdir
  | write (content : String)
  | symlink (target : String)
  | remove
  | touch
  | chmod (mode : Nat)
  deriving DecidableEq, Repr

/-- One edit of a file system. -/
structure FsEntry where
  action : FsAction
  path : String
  mtime : Option Int := none
  deriving DecidableEq, Repr

end StableWatch
