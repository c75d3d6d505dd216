import StableWatch.Fs.Store
import StableWatch.Fs.Entry
import StableWatch.Path.Set
/-!
# An in-memory file system with symbolic links

Nodes are kept by clean path, links separately by path with their target text as written, and
modification times separately too: a node's time is the one remembered for its path, or
`defaultMtime`. So times never depend on a clock.

The rules follow an in-memory store in which every node knows only its own path:

* making a node makes the missing directories above it, and turns the nearest existing one into
  a directory if it was a file;
* making a directory where a file stands keeps the file;
* removing a path removes it and everything whose path starts with it and a slash.

A symbolic link is an empty file at its path plus the recorded target. Reading through links
(`stat`) follows the last component only, resolving a relative target against the link's
directory, for at most 40 links.
-/

namespace StableWatch

/-- A node of the in-memory tree. -/
inductive MemNode where
  | directory
  | file (content : List UInt8)
  deriving DecidableEq, Repr

/-- The in-memory file system. `nodes` increases by path and always starts out with the root. -/
structure MemFs where
  nodes : List (String × MemNode) := [("/", .directory)]
  links : List (String × String) := []
  mtimes : List (String × Int) := []
  deriving DecidableEq, Repr

namespace MemFs

/-- The modification time of every node whose path has none remembered. -/
def defaultMtime : Int := 1700000000

/-- The size every directory reports. -/
def directorySize : Nat := 42

/-- How many links `stat` follows at most. -/
def maxLinks : Nat := 40

/-- The key of a path: cleaned, with `.` and `..` standing for the root. -/
def key (path : String) : String :=
  let clean := Path.clean path
  if clean = "." ∨ clean = ".." then "/" else clean

/-- The key of the directory holding a path. -/
def parentKey (path : String) : String :=
  key (Path.dir path)

/-- `path` is `top` or lies below it, textually. -/
def atOrBelow (top path : String) : Bool :=
  path = top || (top ++ "/").toList.isPrefixOf path.toList

/-- Sets the node at a path, keeping the nodes in increasing order. -/
def putNode (path : String) (node : MemNode) :
    List (String × MemNode) → List (String × MemNode)
  | [] => [(path, node)]
  | (key, known) :: rest =>
    if path < key then (path, node) :: (key, known) :: rest
    else if path = key then (path, node) :: rest
    else (key, known) :: putNode path node rest

/-- The node at a key. -/
def node? (fs : MemFs) (path : String) : Option MemNode :=
  fs.nodes.lookup path

/-- The modification time of a path. -/
def mtimeOf (fs : MemFs) (path : String) : Int :=
  (fs.mtimes.lookup path).getD defaultMtime

/-- Links its parent directories to a new node at `path`, within `fuel` levels: a missing parent
is made a directory and linked in turn; the first existing one becomes a directory. -/
def attach : Nat → MemFs → String → MemFs
  | 0, fs, _ => fs
  | fuel + 1, fs, path =>
    let parent := parentKey path
    if parent = path then fs
    else
      match fs.node? parent with
      | some .directory => fs
      | some (.file _) => { fs with nodes := putNode parent .directory fs.nodes }
      | none => attach fuel { fs with nodes := putNode parent .directory fs.nodes } parent

/-- Creates a node at a key that has none, linking it to its parents. -/
def create (fs : MemFs) (path : String) (node : MemNode) : MemFs :=
  attach (path.length + 1) { fs with nodes := putNode path node fs.nodes } path

/-- Makes a directory and its parents; an existing node of any kind stays as it is. -/
def mkdirAll (fs : MemFs) (path : String) : MemFs :=
  match fs.node? path with
  | some _ => fs
  | none => fs.create path .directory

/-- Writes a file's content, making its parent directories first. Writing over a directory
leaves it a directory. -/
def writeFile (fs : MemFs) (path : String) (content : List UInt8) : MemFs :=
  let fs := fs.mkdirAll (parentKey path)
  match fs.node? path with
  | some .directory => fs
  | some (.file _) => { fs with nodes := putNode path (.file content) fs.nodes }
  | none => fs.create path (.file content)

/-- The bytes of the file at a path; a directory reads as empty, and a missing node as none. -/
def fileBytes (fs : MemFs) (path : String) : Option (List UInt8) :=
  match fs.node? (key path) with
  | some (.file content) => some content
  | some .directory => some []
  | none => none

/-- Removes a path and everything below it, with their links and remembered times. -/
def removeAll (fs : MemFs) (path : String) : MemFs :=
  { nodes := fs.nodes.filter (fun entry => !atOrBelow path entry.1)
    links := fs.links.filter (fun entry => !atOrBelow path entry.1)
    mtimes := fs.mtimes.filter (fun entry => !atOrBelow path entry.1) }

/-- Forgets a link, keeping its node. -/
def dropLink (fs : MemFs) (path : String) : MemFs :=
  { fs with links := fs.links.filter (·.1 ≠ path) }

/-- Applies one edit. Its path is a key; a link at the path of `mkdir` is removed first, and one
at the path of `write` becomes the written file. -/
def apply (fs : MemFs) (entry : FsEntry) : MemFs :=
  let path := key entry.path
  let fs := match entry.action with
    | .mkdir =>
      let fs := if (fs.links.lookup path).isSome then (fs.dropLink path).removeAll path else fs
      fs.mkdirAll path
    | .write content => (fs.dropLink path).writeFile path content.toUTF8.toList
    | .symlink target =>
      let fs := fs.removeAll path
      let fs := fs.writeFile path []
      { fs with links := (path, target) :: fs.links }
    | .remove => fs.removeAll path
    | .touch => fs
    | .chmod _ => fs
  match entry.mtime with
  | some time => { fs with mtimes := (path, time) :: fs.mtimes.filter (·.1 ≠ path) }
  | none => fs

/-- Applies edits in order. -/
def applyAll (fs : MemFs) (entries : List FsEntry) : MemFs :=
  entries.foldl apply fs

/-- A missing node, as the store reports it. -/
def missing (path : String) : FsError :=
  { op := "open", path, reason := "file does not exist", missing := true }

/-- What reading the node at a key tells, without links. -/
def nodeInfo (fs : MemFs) (path : String) : Except FsError NodeInfo :=
  match fs.node? path with
  | some .directory => .ok ⟨.directory, directorySize, fs.mtimeOf path, 0⟩
  | some (.file content) => .ok ⟨.file, content.length, fs.mtimeOf path, 0⟩
  | none => .error (missing path)

/-- The node at a path, a link reported as a link. -/
def lstat (fs : MemFs) (path : String) : Except FsError NodeInfo :=
  let path := key path
  match fs.links.lookup path with
  | some target => .ok ⟨.link, target.utf8ByteSize, fs.mtimeOf path, 0⟩
  | none => fs.nodeInfo path

/-- Where a link's target text leads from the link. -/
def resolveTarget (link target : String) : String :=
  if Path.isAbs target then Path.clean target else Path.join [Path.dir link, target]

/-- Follows the links of the last component, at most `hops` more of them. -/
def follow (fs : MemFs) (name : String) : Nat → String → Except FsError String
  | hops, path =>
    match fs.links.lookup path with
    | none => .ok path
    | some target =>
      match hops with
      | 0 => .error { op := "stat", path := name, reason := "too many levels of symbolic links" }
      | hops + 1 => fs.follow name hops (key (resolveTarget path target))

/-- The node a path leads to through its final links. -/
def stat (fs : MemFs) (path : String) : Except FsError NodeInfo := do
  let found ← fs.follow path maxLinks (key path)
  fs.nodeInfo found

/-- The target text of a link. -/
def readlink (fs : MemFs) (path : String) : Except FsError String :=
  match fs.links.lookup (key path) with
  | some target => .ok target
  | none => .error { op := "readlink", path, reason := "invalid argument" }

/-- The entries of a directory, increasing by path. -/
def children (fs : MemFs) (dir : String) : List String :=
  let dir := key dir
  (fs.nodes.filter fun entry => entry.1 ≠ dir && parentKey entry.1 = dir).map (·.1)

/-- The content of the file at a path, or the store's failure for a missing node. -/
def fileContent (fs : MemFs) (path : String) : Except FsError (List UInt8) :=
  match fs.fileBytes path with
  | some content => .ok content
  | none => .error (missing path)

/-- The in-memory tree as a store of files: anything at a path counts as present, and making
directories and writing files never fail. -/
def store : FileStore MemFs where
  read := fileContent
  present fs path := .ok (fs.node? (key path)).isSome
  makeDirs fs path := .ok (fs.mkdirAll (key path))
  write fs path content := .ok (fs.writeFile (key path) content)

/-- The file system as the tracker and the backends read it. -/
def view (fs : MemFs) : FsView where
  lstat := fs.lstat
  stat := fs.stat
  readlink := fs.readlink
  children := fs.children
  depthBound := fs.nodes.length + 1

end MemFs

end StableWatch
