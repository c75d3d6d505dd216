import StableWatch.Path.Basic
/-!
# Reading a file system

The tracker and the watch backends read a file system only through a `FsView`: the node at a
path without following a final symbolic link (`lstat`), the node a path leads to through links
(`stat`), a link's target text (`readlink`), and the entries of a directory in increasing order
(`children`). The in-memory tree and the model of the operating system's file system both offer
one.

`FsView.walk` visits a tree the way a directory walk does: the start, then each entry of a
directory in increasing order, descending into directories but never through a symbolic link.
-/

namespace StableWatch

/-- What a node is, seen without following it. -/
inductive NodeKind where
  | directory
  | file
  | link
  deriving DecidableEq, Repr

/-- What reading a node tells: its kind, size in bytes, modification time (Unix seconds) and
change stamp. The stamp moves whenever the node itself changes, its time included; a file system
that keeps no such stamp reports zero. -/
structure NodeInfo where
  kind : NodeKind
  size : Nat
  mtime : Int
  stamp : Nat := 0
  deriving DecidableEq, Repr

/-- A failed file system operation: the operation, the path, and the reason, which tells whether
the path does not exist. The message reads `op path: reason`. -/
structure FsError where
  op : String
  path : String
  reason : String
  missing : Bool := false
  deriving DecidableEq, Repr

/-- The message of a file system error. -/
def FsError.message (e : FsError) : String :=
  e.op ++ " " ++ e.path ++ ": " ++ e.reason

/-- A read-only view of a file system. -/
structure FsView where
  lstat : String → Except FsError NodeInfo
  stat : String → Except FsError NodeInfo
  readlink : String → Except FsError String
  /-- The paths of the entries of a directory, increasing. -/
  children : String → List String
  /-- A bound on how deep directories nest. -/
  depthBound : Nat

namespace FsView

/-- The walk below a path whose node is known, at most `depth` levels deep: the path itself, then
the walks below each entry, in order. Only directories are entered. -/
def walkFrom (view : FsView) : Nat → String → NodeInfo → List (String × NodeInfo)
  | 0, path, info => [(path, info)]
  | depth + 1, path, info =>
    if info.kind = .directory then
      (path, info) :: (view.children path).flatMap fun child =>
        match view.lstat child with
        | .ok childInfo => view.walkFrom depth child childInfo
        | .error _ => []
    else [(path, info)]

/-- A walk that carries a state: at every node the visitor updates the state and says whether to
enter it, which matters for directories only. At most `depth` levels are entered. -/
def walkFoldFrom {σ : Type} (view : FsView) (visit : σ → String → NodeInfo → σ × Bool) :
    Nat → σ → String → NodeInfo → σ
  | 0, st, path, info => (visit st path info).1
  | depth + 1, st, path, info =>
    let (st, enter) := visit st path info
    if info.kind = .directory ∧ enter then
      (view.children path).foldl (fun st child =>
        match view.lstat child with
        | .ok childInfo => view.walkFoldFrom visit depth st child childInfo
        | .error _ => st) st
    else st

/-- The walk with a state from a path, as `walkFoldFrom`; a path that cannot be read is not
visited. -/
def walkFold {σ : Type} (view : FsView) (visit : σ → String → NodeInfo → σ × Bool) (st : σ)
    (path : String) : σ :=
  match view.lstat path with
  | .ok info => view.walkFoldFrom visit view.depthBound st path info
  | .error _ => st

/-- Every node at or below a path, in walk order, with what `lstat` says about it. -/
def walk (view : FsView) (path : String) : List (String × NodeInfo) :=
  match view.lstat path with
  | .ok info => view.walkFrom view.depthBound path info
  | .error _ => []

end FsView

end StableWatch
