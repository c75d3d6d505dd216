import StableWatch.Host.Basic
/-!
# Running the daemon on the host

Starting the daemon loads its configuration, then its build history, starts watching, runs the
first build and opens its socket:

* a configuration that cannot be loaded stops it at once;
* the history comes from the per-user history file; a file that does not exist yet gives an
  empty history kept there, one that is not a history gives an empty history kept there too, and
  one that cannot be read, or a home that is unknown, gives an empty history kept in memory only;
* a refused backend kind or refused locations stop it before any build, and so would a first
  build that read a part of the daemon that is not set;
* the socket goes to the per-user socket path: its directory is made, a node left there by an
  earlier daemon is removed, and the socket is made. When that fails, the daemon stops watching
  and stops, its first build already recorded.

Every build the daemon records is saved to the history file, when it has one: the directory is
made and the file written, and a failure is ignored.

While it runs, clients reach it at its socket as long as the socket stands where their
environment says: they ask for its status, for a build, to enable it or to disable it. Stopping
the daemon ends its session and removes its socket.
-/

namespace StableWatch

/-- Why the daemon stopped at its start. -/
inductive RunError where
  /-- The configuration could not be loaded. -/
  | config (e : ConfigError)
  /-- Watching could not start. -/
  | watching (e : BuildFailure)
  /-- The per-user socket path is unknown. -/
  | place (e : PlaceError)
  /-- The socket could not be made. -/
  | server (e : FsError)
  /-- The first build read a part of the daemon that was not set. -/
  | halted
  deriving DecidableEq, Repr

/-- The messages name the step that failed, then its cause. -/
def RunError.message : RunError → String
  | .config e => "failed to load config: " ++ e.message
  | .watching e => "failed to start watching: " ++ e.message
  | .place e => "failed to create IPC server: " ++ e.message
  | .server e => "failed to create IPC server: " ++ e.message
  | .halted => "runtime error: invalid memory address or nil pointer dereference"

namespace Host

/-- The build history the daemon starts with, and the file it keeps it in. -/
def loadHistory (h : Host) : History × Option String :=
  match Places.statePath h.env with
  | .error _ => ({}, none)
  | .ok path =>
    match h.fs.fileContent path with
    | .ok bytes => (History.ofText (Text.ofBytes bytes), some path)
    | .error e => if e.missing then ({}, some path) else ({}, none)

/-- The history the per-user history file holds, when it holds one. -/
def storedHistory (h : Host) : Option History :=
  match Places.statePath h.env with
  | .error _ => none
  | .ok path =>
    match h.fs.fileContent path with
    | .ok bytes => (JsonValue.parse? (Text.ofBytes bytes)).bind History.ofJson
    | .error _ => none

/-- Saves the running daemon's history to its file; a failure is ignored. -/
def saveHistory (h : Host) : Host :=
  match h.service with
  | some { daemon, historyFile := some path, .. } =>
    match h.change (·.makeDirs (Path.dir path)) with
    | .error _ => h
    | .ok h => (h.change (·.writeFile path daemon.history.fileText.toUTF8.toList)).toOption.getD h
  | _ => h

/-- Sets the running daemon; a build it recorded is saved. -/
def putDaemon (d : Daemon Backend) (h : Host) : Host :=
  match h.service with
  | none => h
  | some svc =>
    let h := { h with service := some { svc with daemon := d } }
    if d.history = svc.daemon.history then h else h.saveHistory

/-- Opens the running daemon's socket. -/
def listen (h : Host) : Except RunError Host := do
  let path ← (Places.socketPath h.env).mapError .place
  let h ← (h.change (·.makeDirs (Path.dir path))).mapError .server
  let h ← match h.fs.lstat path with
    | .ok _ => (h.change (·.remove path)).mapError .server
    | .error _ => pure h
  let h ← (h.change (·.makeSocket path)).mapError .server
  return { h with service := h.service.map ({ · with socket := path }) }

/-- Starts the daemon with the configuration at a path; gives why it stopped at once, if it
did. -/
def startDaemon (configPath : String) (h : Host) : Host × Option RunError :=
  match Config.load h.env store h configPath with
  | .error e => (h, some (.config e))
  | .ok config =>
    let (history, historyFile) := h.loadHistory
    let d : Daemon Backend := { configPath, config, history }
    match d.startWatching h.kit with
    | .error e => (h, some (.watching e))
    | .ok d =>
      match d.runBuild h.kit with
      | none => (h, some .halted)
      | some (d, _) =>
        let h := ({ h with service := some { daemon := d, socket := "", historyFile } }).saveHistory
        match h.listen with
        | .error e => ({ h with service := none }, some e)
        | .ok h => (h, none)

/-- Stops the running daemon and removes its socket. -/
def stopDaemon (h : Host) : Host :=
  match h.service with
  | none => h
  | some svc =>
    let h := { h with service := none }
    (h.change (·.remove svc.socket)).toOption.getD h

/-- Whether a client with the host's environment reaches the running daemon: the socket path
the environment names leads to a socket while a daemon runs. -/
def reachable (h : Host) : Bool :=
  match h.service, Places.socketPath h.env with
  | some _, .ok path =>
    match h.fs.find "dial" true path with
    | .ok (_, n) => n.content = .socket
    | .error _ => false
  | _, _ => false

/-- The running daemon's status. -/
def daemonStatus (h : Host) : Option DaemonStatus :=
  h.service.map (·.daemon.status)

/-- Sets the running daemon a request left; a request that read a part of the daemon that was
not set ends the service. -/
def answer (d : Option (Daemon Backend)) (h : Host) : Host :=
  match d with
  | some d => h.putDaemon d
  | none => { h with service := none }

/-- Asks the running daemon for a build with its configuration loaded afresh; gives its answer,
none when no daemon answered. -/
def requestBuild (h : Host) : Host × Option (BuildStatus × Option DaemonError) :=
  match h.service with
  | none => (h, none)
  | some svc =>
    let loaded := Config.load h.env store h svc.daemon.configPath
    let built := svc.daemon.build h.kit loaded
    (h.answer (built.map (·.1)), built.map (·.2))

/-- Asks the running daemon to enable itself. -/
def requestEnable (h : Host) : Host :=
  match h.service with
  | none => h
  | some svc => h.answer (svc.daemon.enable h.kit)

/-- Asks the running daemon to disable itself. -/
def requestDisable (h : Host) : Host :=
  match h.service with
  | none => h
  | some svc => h.answer svc.daemon.disable

end Host

end StableWatch
