import StableWatch.Fs.Host
import StableWatch.Fs.Entry
/-!
# Edits of the host's file system on a logical clock

Edits (`FsEntry`) are applied to the host's file system the way a test sets it up, and the times
they leave behind come from a logical clock instead of the wall clock: every edit moves the
clock one second on, and the nodes it touched get the clock's time.

What an edit does at its path:

* `mkdir` replaces anything that is not a directory, then makes the directory with its parents;
* `write` replaces a link standing at the path, makes the parent directories and writes the file;
* `symlink` makes the parent directories, removes what stands at the path and makes the link;
* `remove` removes the path with everything below it;
* `touch` only sets the time, and `chmod` sets the permission bits.

The clock's time then goes to every directory the edit made, to the deepest directory that stood
already when something was made below it, to the parent of a link or of something removed, and
to the path itself unless it is a link; an edit's own time replaces the clock's for its path. A
step that fails is left out.
-/

namespace StableWatch

namespace HostFs

/-- Runs a step of an edit; a failed step changes nothing. -/
def attempt (step : HostFs → Except FsError (HostFs × List Notice)) :
    HostFs × List Notice → HostFs × List Notice
  | (fs, notices) =>
    match step fs with
    | .ok (fs, more) => (fs, notices ++ more)
    | .error _ => (fs, notices)

/-- Removes a path unless it leads nowhere. -/
def clear (path : String) : HostFs × List Notice → HostFs × List Notice
  | (fs, notices) => let (fs, more) := fs.removeAll path; (fs, notices ++ more)

/-- Whether a path is a link, read without following it. -/
def isLink (fs : HostFs) (path : String) : Bool :=
  match fs.lstat path with
  | .ok info => info.kind = .link
  | .error _ => false

/-- The change an edit makes, before the clock's times. -/
def change (entry : FsEntry) (fs : HostFs) : HostFs × List Notice :=
  let path := entry.path
  match entry.action with
  | .mkdir =>
    let start := match fs.lstat path with
      | .ok info => if info.kind = .directory then (fs, []) else clear path (fs, [])
      | .error _ => (fs, [])
    attempt (·.makeDirs path) start
  | .write content =>
    let start := if fs.isLink path then clear path (fs, []) else (fs, [])
    attempt (·.writeFile path content.toUTF8.toList) (attempt (·.makeDirs (Path.dir path)) start)
  | .symlink target =>
    attempt (·.symlink target path) (clear path (attempt (·.makeDirs (Path.dir path)) (fs, [])))
  | .remove => clear path (fs, [])
  | .touch => (fs, [])
  | .chmod mode => attempt (·.setMode path mode) (fs, [])

/-- The paths that get the clock's time after an edit, given the notices of its change and
whether its path stood before. -/
def clocked (entry : FsEntry) (existed : Bool) (notices : List Notice) : List String :=
  let created := notices.filter (·.kind = .created)
  let dirs := (created.filter (·.directory)).map (·.path)
  let deepest := (created.head?.map fun n => parentKey n.path).toList
  let parent := match entry.action with
    | .symlink _ => [Path.dir entry.path]
    | .remove => if existed then [Path.dir entry.path] else []
    | _ => []
  dirs ++ deepest ++ parent

/-- Applies an edit with the clock moved one second on; gives the notices of everything it did. -/
def edit (fs : HostFs) (entry : FsEntry) : HostFs × List Notice :=
  let fs := { fs with now := fs.now + 1 }
  let existed := (fs.lstat entry.path).toOption.isSome
  let (fs, notices) := change entry fs
  let stamped := (clocked entry existed notices).foldl (fun acc path =>
    attempt (·.setTime path acc.1.now) acc) (fs, notices)
  if stamped.1.isLink entry.path then stamped
  else attempt (·.setTime entry.path (entry.mtime.getD stamped.1.now)) stamped

end HostFs

end StableWatch
