import StableWatch.Fs.View
import StableWatch.Glob.Match
import StableWatch.Watch.Snapshot
import StableWatch.Text.Quoted
/-!
# Tracking the state of locations

A tracker holds a list of locations (absolute paths and glob patterns) and the entries it found
at its last scan. An entry is a snapshot of one path together with its size, modification time
and change stamp, so that a rewritten file shows up as changed.

A plain location gives one entry, for a missing path too. A pattern gives an entry for its base
and, when the base is a directory, one for every path below it that matches; links are listed but
not entered. An entry for a symbolic link records where the link resolves, and the kind, size,
time and stamp of what it leads to (missing, when it leads nowhere). When two locations give the
same path, the later one's entry stands.

`Tracker.scan` reads all locations again and reports, in increasing order of path, the old
snapshots of the paths that disappeared or changed (`removed`) and the new snapshots of the paths
that appeared or changed (`added`).
-/

namespace StableWatch

/-- Why a list of locations was refused. -/
inductive LocationError where
  | notAbsolute (location : String)
  | invalidPattern (location : String)
  deriving DecidableEq, Repr

/-- The messages name the location between double quotes. -/
def LocationError.message : LocationError → String
  | .notAbsolute location => "location must be absolute: " ++ Text.quote location
  | .invalidPattern location => "invalid glob pattern: " ++ Text.quote location

/-- What the tracker records for one path. -/
structure TrackedEntry where
  snapshot : Snapshot
  size : Nat := 0
  /-- The modification time; none when nothing could be read. -/
  mtime : Option Int := none
  /-- The change stamp of what was read. -/
  stamp : Nat := 0
  deriving DecidableEq, Repr

/-- The tracker: its locations, cleaned, and the entries of the last scan, increasing by path. -/
structure Tracker where
  locations : List String := []
  entries : List (String × TrackedEntry) := []
  deriving DecidableEq, Repr

namespace Tracker

/-- Checks and cleans locations: each must be absolute, and a pattern must be valid. -/
def checkLocations (locations : List String) : Except LocationError (List String) :=
  locations.mapM fun location =>
    if !Path.isAbs location then .error (.notAbsolute location)
    else if Glob.isPattern location && !Glob.isValid location then .error (.invalidPattern location)
    else .ok (Path.clean location)

/-- A tracker for the given locations, with nothing scanned yet. -/
def create (locations : List String) : Except LocationError Tracker :=
  (checkLocations locations).map fun locations => { locations }

/-- Replaces the locations; on a refusal the tracker keeps the ones it had. -/
def setLocations (t : Tracker) (locations : List String) : Except LocationError Tracker :=
  (checkLocations locations).map fun locations => { t with locations }

/-- The kind of a node reached through links. -/
def kindOf (info : NodeInfo) : EntryKind :=
  if info.kind = .directory then .directory else .file

/-- The entry of a symbolic link: where it resolves, and what it leads to. -/
def linkEntry (view : FsView) (path : String) : TrackedEntry :=
  match view.readlink path with
  | .error _ => { snapshot := { path } }
  | .ok target =>
    let target := if Path.isAbs target then target else Path.join [Path.dir path, target]
    let resolvedPath := Path.clean target
    match view.stat path with
    | .error _ => { snapshot := { path, resolvedPath } }
    | .ok info =>
      let kind := kindOf info
      { snapshot := { path, kind, resolvedPath, resolvedKind := kind },
        size := info.size, mtime := some info.mtime, stamp := info.stamp }

/-- The entry of a path whose node is known. -/
def entryFor (view : FsView) (path : String) (info : NodeInfo) : TrackedEntry :=
  if info.kind = .link then linkEntry view path
  else
    { snapshot := { path, kind := kindOf info }, size := info.size, mtime := some info.mtime,
      stamp := info.stamp }

/-- The entry of a path; a path that cannot be read is missing. -/
def entryAt (view : FsView) (path : String) : TrackedEntry :=
  match view.lstat path with
  | .ok info => entryFor view path info
  | .error _ => { snapshot := { path } }

/-- The entries of the walk's paths that match a pattern, in walk order. A malformed pattern
stops the walk where it is noticed. -/
def matching (view : FsView) (pattern : String) :
    List (String × NodeInfo) → List (String × TrackedEntry)
  | [] => []
  | (path, info) :: rest =>
    match Glob.pathMatches pattern path with
    | some true => (path, entryFor view path info) :: matching view pattern rest
    | some false => matching view pattern rest
    | none => []

/-- The entries of one location. -/
def read (view : FsView) (location : String) : List (String × TrackedEntry) :=
  if Glob.isPattern location then
    let base := Glob.base location
    let baseEntry := entryAt view base
    if baseEntry.snapshot.kind = .directory then
      (base, baseEntry) :: matching view location ((view.walk base).drop 1)
    else [(base, baseEntry)]
  else [(location, entryAt view location)]

/-- Sets the entry of a path in a list increasing by path. -/
def putEntry (path : String) (entry : TrackedEntry) :
    List (String × TrackedEntry) → List (String × TrackedEntry)
  | [] => [(path, entry)]
  | (key, known) :: rest =>
    if path < key then (path, entry) :: (key, known) :: rest
    else if path = key then (path, entry) :: rest
    else (key, known) :: putEntry path entry rest

/-- The entries of all locations, increasing by path; a later entry for a path replaces an
earlier one. -/
def readAll (view : FsView) (locations : List String) : List (String × TrackedEntry) :=
  (locations.flatMap (read view)).foldl (fun acc entry => putEntry entry.1 entry.2 acc) []

/-- What a scan reports. -/
structure Changes where
  removed : List Snapshot
  added : List Snapshot
  deriving DecidableEq, Repr

/-- The snapshots of the entries of `first` whose path is missing from `second` or whose entry
differs there, in the order of `first`. -/
def differing (first second : List (String × TrackedEntry)) : List Snapshot :=
  first.filterMap fun (path, entry) =>
    if second.lookup path = some entry then none else some entry.snapshot

/-- Reads every location again, reports what changed and keeps the new entries. -/
def scan (view : FsView) (t : Tracker) : Changes × Tracker :=
  let current := readAll view t.locations
  ({ removed := differing t.entries current, added := differing current t.entries },
   { t with entries := current })

/-- The snapshots of the last scan, increasing by path. -/
def snapshots (t : Tracker) : List Snapshot :=
  t.entries.map (·.2.snapshot)

/-- The number of entries of the last scan. -/
def size (t : Tracker) : Nat :=
  t.entries.length

end Tracker

end StableWatch
