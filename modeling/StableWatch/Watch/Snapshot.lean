import StableWatch.Path.Basic
/-!
# Snapshots and the directories they need watched

A snapshot records what one tracked path is: its kind and, for a symbolic link, the path the
link resolves to and that target's kind. To notice every change of a snapshot, the directory
holding it must be watched (or the path itself, if it is a directory), and likewise for the
link target. `Snapshot.directories` lists those, the path's first.
-/

namespace StableWatch

/-- What a path is on disk. Kinds are numbered: missing 0, file 1, directory 2; any other
number is kept as an unnamed kind. -/
inductive EntryKind where
  | missing
  | file
  | directory
  | other (code : Int)
  deriving DecidableEq, Repr

namespace EntryKind

/-- The kind with the given number. -/
def ofCode (code : Int) : EntryKind :=
  if code = 0 then .missing
  else if code = 1 then .file
  else if code = 2 then .directory
  else .other code

/-- The name of a kind: `missing`, `file`, `directory`, or `FileType(n)` for an unnamed kind. -/
def name : EntryKind → String
  | .missing => "missing"
  | .file => "file"
  | .directory => "directory"
  | .other code => "FileType(" ++ toString code ++ ")"

end EntryKind

/-- The recorded state of one tracked path. `resolvedPath` is empty unless the path is a
symbolic link. -/
structure Snapshot where
  path : String
  kind : EntryKind := .missing
  resolvedPath : String := ""
  resolvedKind : EntryKind := .missing
  deriving DecidableEq, Repr

namespace Snapshot

/-- The directory to watch for changes of a path of the given kind: a directory itself, and the
parent of anything else. -/
def requiredDirectory (path : String) (kind : EntryKind) : String :=
  if kind = .directory then path else Path.dir path

/-- The directories to watch for a snapshot: the one for its path, then the one for its link
target when it has a target other than the path and that directory is a different one. -/
def directories (s : Snapshot) : List String :=
  let first := requiredDirectory s.path s.kind
  if s.resolvedPath ≠ "" ∧ s.resolvedPath ≠ s.path then
    let target := requiredDirectory s.resolvedPath s.resolvedKind
    if target ≠ first then [first, target] else [first]
  else [first]

end Snapshot

end StableWatch
