import StableWatch.Fs.Errno
import StableWatch.Path.Basic
/-!
# The host's file system

A model of the file system of the machine the program runs on, as far as the program can see
it: directories, files, symbolic links and sockets, each with a modification time, permission
bits and a change stamp.

Nodes are kept by their physical path, the path from the root that crosses no symbolic link. A
path given to an operation is resolved component by component from the root (a relative path
too), the way the kernel does it:

* empty components and `.` stay where they are, `..` goes to the physical parent;
* a link in the middle of the path is always followed, its target read from the link's
  directory or, when it starts with a slash, from the root; a link at the end is followed or not
  as the operation says, and at most 40 links are followed in one resolution;
* a missing component fails with `noEntry` unless it is the last one, and a component that is
  neither a directory nor a link fails with `notDirectory` unless it is the last one; trailing
  slashes make the component before them not the last one.

Every change is numbered (`changes`); it stamps the nodes it touches and the directory an entry
is made in or removed from, sets their time to the clock (`now`), and is reported as notices:
a node created, removed or written, or its attributes changed. Watch facilities turn notices
into events.

The operations follow the calls the program makes: `mkdir`, the recursive `makeDirs` (which
checks the path and then its parents the way the standard library does), writing a whole file,
`remove`, the recursive `removeAll`, setting a time or a mode, and making a link or a socket.
-/

namespace StableWatch

/-- What a node of the host's file system holds. -/
inductive HostContent where
  | directory
  | file (content : List UInt8)
  | link (target : String)
  | socket
  deriving DecidableEq, Repr

/-- A node: what it holds, its modification time (Unix seconds), its permission bits and the
number of the last change that touched it. -/
structure HostNode where
  content : HostContent
  mtime : Int
  mode : Nat
  stamp : Nat
  deriving DecidableEq, Repr

/-- What happened to a node. -/
inductive NoticeKind where
  | created
  | removed
  | written
  | attributes
  deriving DecidableEq, Repr

/-- A notice of one change at a node, named by its physical path. -/
structure Notice where
  path : String
  kind : NoticeKind
  /-- The node is, or was, a directory. -/
  directory : Bool := false
  deriving DecidableEq, Repr

/-- The time of a fresh file system, in Unix seconds. -/
def HostFs.epoch : Int := 1700000000

/-- The host's file system. -/
structure HostFs where
  /-- The nodes by physical path, increasing; the root is always there. -/
  nodes : List (String × HostNode) := [("/", ⟨.directory, HostFs.epoch, 0o755, 0⟩)]
  /-- The clock: the time, in Unix seconds, that changes made now get. -/
  now : Int := HostFs.epoch
  /-- How many changes were made. -/
  changes : Nat := 0
  deriving DecidableEq, Repr

namespace HostFs

/-- How many links one resolution follows at most. -/
def maxLinks : Nat := 40

/-- The size every directory reports. -/
def directorySize : Nat := 4096

/-- The node at a physical path. -/
def node? (fs : HostFs) (key : String) : Option HostNode :=
  fs.nodes.lookup key

/-- The physical path of an entry of a directory. -/
def childKey (dir name : String) : String :=
  if dir = "/" then "/" ++ name else dir ++ "/" ++ name

/-- The physical path of the directory holding a node; the root holds itself. -/
def parentKey (key : String) : String :=
  Path.dir key

/-- The last component of a physical path. -/
def lastPart (key : String) : String :=
  String.ofList (key.toList.reverse.takeWhile (· ≠ '/')).reverse

/-- The length of the longest link target, which bounds how far a resolution grows. -/
def longestTarget (fs : HostFs) : Nat :=
  fs.nodes.foldl (fun longest entry =>
    match entry.2.content with
    | .link target => max longest target.length
    | _ => longest) 0

/-- Resolves the components still to walk from the physical directory `cur`, with `links` more
links allowed; `follow` says whether a link at the end is followed. -/
def walk (fs : HostFs) (follow : Bool) : Nat → Nat → String → List String → Except Errno String
  | 0, _, _, _ => .error .loop
  | _ + 1, _, cur, [] => .ok cur
  | fuel + 1, links, cur, part :: rest =>
    if part = "" ∨ part = "." then fs.walk follow fuel links cur rest
    else if part = ".." then fs.walk follow fuel links (parentKey cur) rest
    else
      let next := childKey cur part
      match fs.node? next with
      | none => if rest.all (· = "") then .ok next else .error .noEntry
      | some node =>
        match node.content with
        | .directory => fs.walk follow fuel links next rest
        | .link target =>
          if rest.isEmpty ∧ !follow then .ok next
          else if target = "" then .error .noEntry
          else
            match links with
            | 0 => .error .loop
            | links + 1 =>
              fs.walk follow fuel links (if Path.isAbs target then "/" else cur)
                (target.splitOn "/" ++ rest)
        | _ => if rest.isEmpty then .ok next else .error .notDirectory

/-- The physical path a path leads to; the node there may be missing when it is the last
component. The empty path leads nowhere. -/
def locate (fs : HostFs) (follow : Bool) (path : String) : Except Errno String :=
  if path.isEmpty then .error .noEntry
  else
    fs.walk follow (path.length + 2 + (maxLinks + 1) * (fs.longestTarget + 2)) maxLinks "/"
      (path.splitOn "/")

/-- What reading a node tells. A socket reads as an empty file. -/
def infoOf (n : HostNode) : NodeInfo :=
  match n.content with
  | .directory => ⟨.directory, directorySize, n.mtime, n.stamp⟩
  | .file content => ⟨.file, content.length, n.mtime, n.stamp⟩
  | .link target => ⟨.link, target.utf8ByteSize, n.mtime, n.stamp⟩
  | .socket => ⟨.file, 0, n.mtime, n.stamp⟩

/-- The node a path leads to, with its physical path; a failure names the operation. -/
def find (fs : HostFs) (op : String) (follow : Bool) (path : String) :
    Except FsError (String × HostNode) :=
  match fs.locate follow path with
  | .error e => .error (e.toError op path)
  | .ok key =>
    match fs.node? key with
    | some n => .ok (key, n)
    | none => .error (Errno.noEntry.toError op path)

/-- The node at a path, a final link reported as a link. -/
def lstat (fs : HostFs) (path : String) : Except FsError NodeInfo :=
  (fs.find "lstat" false path).map (infoOf ·.2)

/-- The node a path leads to through links. -/
def stat (fs : HostFs) (path : String) : Except FsError NodeInfo :=
  (fs.find "stat" true path).map (infoOf ·.2)

/-- The target text of a link. -/
def readlink (fs : HostFs) (path : String) : Except FsError String :=
  match fs.find "readlink" false path with
  | .error e => .error e
  | .ok (_, n) =>
    match n.content with
    | .link target => .ok target
    | _ => .error (Errno.invalid.toError "readlink" path)

/-- The names of the entries of the directory at a physical path, increasing. -/
def entryNames (fs : HostFs) (key : String) : List String :=
  fs.nodes.filterMap fun entry =>
    if entry.1 ≠ key ∧ parentKey entry.1 = key then some (lastPart entry.1) else none

/-- The paths of the entries of a directory, each joined to the path it was reached by,
increasing. -/
def children (fs : HostFs) (dir : String) : List String :=
  match fs.locate true dir with
  | .ok key => (fs.entryNames key).map fun name => Path.join [dir, name]
  | .error _ => []

/-- The file system as the tracker and the backends read it. -/
def view (fs : HostFs) : FsView where
  lstat := fs.lstat
  stat := fs.stat
  readlink := fs.readlink
  children := fs.children
  depthBound := fs.nodes.length + 1

/-- The content of the file a path leads to. A directory fails when it is read, a socket when it
is opened. -/
def fileContent (fs : HostFs) (path : String) : Except FsError (List UInt8) :=
  match fs.find "open" true path with
  | .error e => .error e
  | .ok (_, n) =>
    match n.content with
    | .file content => .ok content
    | .directory => .error (Errno.isDirectory.toError "read" path)
    | _ => .error (Errno.noDevice.toError "open" path)

/-- Sets the node at a physical path, keeping the nodes increasing. -/
def putNode (key : String) (node : HostNode) :
    List (String × HostNode) → List (String × HostNode)
  | [] => [(key, node)]
  | (k, known) :: rest =>
    if key < k then (key, node) :: (k, known) :: rest
    else if key = k then (key, node) :: rest
    else (k, known) :: putNode key node rest

/-- Sets a node. -/
def setNode (fs : HostFs) (key : String) (node : HostNode) : HostFs :=
  { fs with nodes := putNode key node fs.nodes }

/-- Drops the node at a physical path. -/
def dropNode (fs : HostFs) (key : String) : HostFs :=
  { fs with nodes := fs.nodes.filter (·.1 ≠ key) }

/-- Numbers a new change. -/
def begin (fs : HostFs) : HostFs :=
  { fs with changes := fs.changes + 1 }

/-- Marks the directory at a physical path as changed by the current change. -/
def touchDir (fs : HostFs) (key : String) : HostFs :=
  match fs.node? key with
  | some n => fs.setNode key { n with mtime := fs.now, stamp := fs.changes }
  | none => fs

/-- Makes a node at a physical path whose directory exists. -/
def create (fs : HostFs) (key : String) (content : HostContent) (mode : Nat) :
    HostFs × List Notice :=
  let fs := fs.begin
  let fs := fs.setNode key ⟨content, fs.now, mode, fs.changes⟩
  (fs.touchDir (parentKey key), [⟨key, .created, content = .directory⟩])

/-- Makes one directory; something standing at the path, a link too, fails. -/
def mkdir (fs : HostFs) (path : String) : Except FsError (HostFs × List Notice) :=
  match fs.locate false path with
  | .error e => .error (e.toError "mkdir" path)
  | .ok key =>
    if (fs.node? key).isSome then .error (Errno.alreadyExists.toError "mkdir" path)
    else .ok (fs.create key .directory 0o755)

/-- The text before a path's last component: trailing slashes dropped, then the last component
and the slash before it. -/
def parentText (path : String) : String :=
  let rest := (path.toList.reverse.dropWhile (· = '/')).dropWhile (· ≠ '/')
  String.ofList (rest.drop 1).reverse

/-- Makes a directory and its missing parents, within `fuel` levels. A path that leads to a
directory is done; one that leads to something else fails. Otherwise the parent text is made
first, when there is one, and then the directory; a failure to make it is forgiven when a
directory stands there after all. -/
def makeDirsWithin (fs : HostFs) : Nat → String → Except FsError (HostFs × List Notice)
  | 0, _ => .ok (fs, [])
  | fuel + 1, path =>
    match fs.stat path with
    | .ok info =>
      if info.kind = .directory then .ok (fs, [])
      else .error (Errno.notDirectory.toError "mkdir" path)
    | .error _ =>
      let parent := parentText path
      let above := if parent.isEmpty then .ok (fs, []) else fs.makeDirsWithin fuel parent
      match above with
      | .error e => .error e
      | .ok (fs, notices) =>
        match fs.mkdir path with
        | .ok (fs, more) => .ok (fs, notices ++ more)
        | .error e =>
          match fs.lstat path with
          | .ok info => if info.kind = .directory then .ok (fs, notices) else .error e
          | .error _ => .error e

/-- Makes a directory and its missing parents. -/
def makeDirs (fs : HostFs) (path : String) : Except FsError (HostFs × List Notice) :=
  fs.makeDirsWithin (path.length + 1) path

/-- Writes a whole file through links, making it when it is missing. -/
def writeFile (fs : HostFs) (path : String) (content : List UInt8) :
    Except FsError (HostFs × List Notice) :=
  match fs.locate true path with
  | .error e => .error (e.toError "open" path)
  | .ok key =>
    match fs.node? key with
    | none =>
      let (fs, notices) := fs.create key (.file content) 0o644
      .ok (fs, notices ++ if content.isEmpty then [] else [⟨key, .written, false⟩])
    | some n =>
      match n.content with
      | .file _ =>
        let fs := fs.begin
        .ok (fs.setNode key { n with content := .file content, mtime := fs.now, stamp := fs.changes },
          [⟨key, .written, false⟩])
      | .directory => .error (Errno.isDirectory.toError "open" path)
      | _ => .error (Errno.noDevice.toError "open" path)

/-- Removes a node without following a final link; a directory must be empty. -/
def remove (fs : HostFs) (path : String) : Except FsError (HostFs × List Notice) :=
  match fs.find "remove" false path with
  | .error e => .error e
  | .ok (key, n) =>
    if n.content = .directory ∧ !(fs.entryNames key).isEmpty then
      .error (Errno.notEmpty.toError "remove" path)
    else
      let fs := (fs.begin).dropNode key
      .ok (fs.touchDir (parentKey key), [⟨key, .removed, n.content = .directory⟩])

/-- The nodes at or below a physical path, the deepest first. -/
def subtree (fs : HostFs) (key : String) : List (String × HostNode) :=
  (fs.nodes.filter fun entry => entry.1 = key ∨ (key ++ "/").toList.isPrefixOf entry.1.toList).reverse

/-- Removes a node and everything below it, without following a final link; a path that leads
nowhere is left alone. -/
def removeAll (fs : HostFs) (path : String) : HostFs × List Notice :=
  match fs.find "lstat" false path with
  | .error _ => (fs, [])
  | .ok (key, _) =>
    (fs.subtree key).foldl (fun (fs, notices) entry =>
      let fs := (fs.begin).dropNode entry.1
      (fs.touchDir (parentKey entry.1),
        notices ++ [⟨entry.1, .removed, entry.2.content = .directory⟩])) (fs, [])

/-- Sets the modification time of the node a path leads to. -/
def setTime (fs : HostFs) (path : String) (time : Int) : Except FsError (HostFs × List Notice) :=
  match fs.find "chtimes" true path with
  | .error e => .error e
  | .ok (key, n) =>
    let fs := fs.begin
    .ok (fs.setNode key { n with mtime := time, stamp := fs.changes },
      [⟨key, .attributes, n.content = .directory⟩])

/-- Sets the permission bits of the node a path leads to. -/
def setMode (fs : HostFs) (path : String) (mode : Nat) : Except FsError (HostFs × List Notice) :=
  match fs.find "chmod" true path with
  | .error e => .error e
  | .ok (key, n) =>
    let fs := fs.begin
    .ok (fs.setNode key { n with mode, stamp := fs.changes },
      [⟨key, .attributes, n.content = .directory⟩])

/-- Makes a symbolic link holding `target` at a path where nothing stands. -/
def symlink (fs : HostFs) (target path : String) : Except FsError (HostFs × List Notice) :=
  match fs.locate false path with
  | .error e => .error (e.toError ("symlink " ++ target) path)
  | .ok key =>
    if (fs.node? key).isSome then .error (Errno.alreadyExists.toError ("symlink " ++ target) path)
    else .ok (fs.create key (.link target) 0o777)

/-- Makes a socket at a path where nothing stands. -/
def makeSocket (fs : HostFs) (path : String) : Except FsError (HostFs × List Notice) :=
  match fs.locate false path with
  | .error e => .error (e.toError "listen unix" path)
  | .ok key =>
    if (fs.node? key).isSome then .error (Errno.alreadyExists.toError "listen unix" path)
    else .ok (fs.create key .socket 0o755)

end HostFs

end StableWatch
