import StableWatch.Cli.Parse
import StableWatch.Cli.Complete
import StableWatch.Cli.Status
import StableWatch.Host.Service
/-!
# Running the command line on the host

`Cli.run` runs one command line on the host and gives what it printed and the error it ended
with.

* A completion request is answered as `Cli.complete` says.
* A line that cannot be read fails with the reader's error. `--help` prints the command's help;
  on the program itself `--version` prints the version, and nothing else given prints the help.
  `help` prints the help of the command its words name, and nothing when they name none.
* `plan` finds the configuration file (the one `--config` names, its tilde expanded, or else the
  per-user one, which is created from the example when missing), loads it, and prints either
  that it names nothing or the report of a build from scratch, started now.
* `status`, `build`, `enable` and `disable` talk to the running daemon and print nothing, with
  no error, when none is reachable or it stops before it answers. A failed request ends with the
  daemon's error and a hint to look at the status.
* `daemon` finds the configuration file as `plan` does and starts the daemon.
-/

namespace StableWatch

namespace Cli

/-- Why a command line failed. -/
inductive CliError where
  /-- The line could not be read. -/
  | usage (message : String)
  /-- The configuration file could not be put in place. -/
  | ensure (e : EnsureError)
  /-- The configuration could not be loaded. -/
  | config (e : ConfigError)
  /-- The configured locations were refused. -/
  | locations (e : LocationError)
  /-- The daemon answered with an error. -/
  | remote (message : String)
  /-- A printed build had failed. -/
  | failedBuild (message : String)
  /-- The daemon stopped at its start. -/
  | run (e : RunError)
  deriving DecidableEq, Repr

/-- The message of a command line's error. -/
def CliError.message : CliError → String
  | .usage m | .remote m | .failedBuild m => m
  | .ensure e => e.message
  | .config e => "failed to load config: " ++ e.message
  | .locations e => e.refusal
  | .run e => e.message

/-- What a command line printed, and the error it ended with. -/
structure Outcome where
  stdout : String := ""
  error : Option CliError := none
  deriving DecidableEq, Repr

/-- The configuration file a command uses: the one `--config` names, or the per-user one, put in
place from the example when missing. -/
def configFile (i : Invocation) (h : Host) : Except CliError (String × Host) :=
  match i.value? "config" with
  | some path => .ok (Places.expandTilde h.env path, h)
  | none =>
    let path := (Places.defaultConfigPath h.env).toOption.getD ""
    (Config.ensure h.env Host.store h path).mapError .ensure

/-- `plan`: the report of a build from scratch on the configured locations. -/
def plan (i : Invocation) (h : Host) : Host × Outcome :=
  match configFile i h with
  | .error e => (h, { error := some e })
  | .ok (path, h) =>
    match Config.load h.env Host.store h path with
    | .error e => (h, { error := some (.config e) })
    | .ok config =>
      if config.isEmpty then (h, { stdout := "No roots or locations found in config: " ++ path ++ "\n" })
      else
        match Build.plan h.fs.view config.roots config.locations with
        | .error e => (h, { error := some (.locations e) })
        | .ok report =>
          (h, { stdout := ({ report with startedAt := h.clock } : BuildReport).render (i.switch "verbose") })

/-- The hint added to a failed request. -/
def statusHint : String :=
  " (run " ++ programName ++ " status for the watched hierarchies)"

/-- Whether the file at a path holds the example configuration. -/
def holdsExample (h : Host) (path : String) : Bool :=
  match h.fs.fileContent path with
  | .ok bytes => bytes = Config.exampleText.toUTF8.toList
  | .error _ => false

/-- `status`: the status screen of the running daemon. -/
def status (h : Host) : Host × Outcome :=
  match h.daemonStatus with
  | none => (h, {})
  | some s => (h, { stdout := statusText s (holdsExample h s.configPath) h.clock })

/-- `build`: a build of the running daemon, reported. -/
def build (h : Host) : Host × Outcome :=
  match h.requestBuild with
  | (h, none) => (h, {})
  | (h, some (_, some e)) => (h, { error := some (.remote (e.message ++ statusHint)) })
  | (h, some (b, none)) =>
    let record : BuildRecord :=
      { number := b.number, startedAt := b.startedAt, duration := b.duration,
        roots := some b.roots, hierarchies := some b.hierarchies, error := b.error }
    let (text, failure) := printBuild record
    (h, { stdout := text, error := failure.map .failedBuild })

/-- `enable`: enables the running daemon and tells how much it watches. -/
def enable (h : Host) : Host × Outcome :=
  let h := h.requestEnable
  match h.daemonStatus with
  | none => (h, {})
  | some s => (h, { stdout := "Watching " ++ countText s.watchCount "hierarchy" "hierarchies" ++ "\n" })

/-- `disable`: disables the running daemon. -/
def disable (h : Host) : Host × Outcome :=
  let h := h.requestDisable
  match h.service with
  | none => (h, {})
  | some _ => (h, { stdout := "Released all watches\n" })

/-- `daemon`: starts the daemon with the configuration file the line names. -/
def daemon (i : Invocation) (h : Host) : Host × Outcome :=
  match configFile i h with
  | .error e => (h, { error := some e })
  | .ok (path, h) =>
    let (h, e) := h.startDaemon path
    (h, { error := e.map .run })

/-- `help`: the help of the command the words name. -/
def helpFor (words : List String) (h : Host) : Host × Outcome :=
  match findCommand h.env words with
  | .ok (c, _) => (h, { stdout := help h.env c })
  | .error _ => (h, {})

/-- Runs a command that talks to the daemon, when one is reachable. -/
def remote (action : Host → Host × Outcome) (h : Host) : Host × Outcome :=
  if h.reachable then action h else (h, {})

/-- Runs a command line that is not a completion request. -/
def runCommand (line : List String) (h : Host) : Host × Outcome :=
  match parse h.env line with
  | .error m => (h, { error := some (.usage m) })
  | .ok i =>
    if i.switch "help" then (h, { stdout := help h.env i.command })
    else
      match i.command with
      | none =>
        if i.switch "version" then (h, { stdout := versionText })
        else (h, { stdout := help h.env none })
      | some c =>
        if c.name = "help" then helpFor i.args h
        else if c.name = "plan" then plan i h
        else if c.name = "status" then remote status h
        else if c.name = "build" then remote build h
        else if c.name = "enable" then remote enable h
        else if c.name = "disable" then remote disable h
        else daemon i h

/-- Runs a command line. A completion request (`__complete` or `__completeNoDesc` as the first
plain word) takes the rest of the line as it stands, and needs at least one word. -/
def run (line : List String) (h : Host) : Host × Outcome :=
  let flags := allFlags h.env none
  match words flags line with
  | request :: _ =>
    if request = "__complete" || request = "__completeNoDesc" then
      match withoutWord flags request line with
      | [] => (h, { error := some (.usage "requires at least 1 arg(s), only received 0") })
      | args => (h, { stdout := complete h.env (showsDescriptions h.env request) args })
    else runCommand line h
  | [] => runCommand line h

/-- Starts the daemon as `hierwatch daemon` with the given words would. -/
def startDaemon (words : List String) (h : Host) : Host × Option CliError :=
  let (h, outcome) := run ("daemon" :: words) h
  (h, outcome.error)

end Cli

end StableWatch
