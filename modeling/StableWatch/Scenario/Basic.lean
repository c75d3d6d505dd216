import StableWatch.Host.Service
import StableWatch.Template.Render
/-!
# Scenarios

A scenario checks which hierarchies the daemon watches as files come and go. It runs in a
directory of its own on a fresh host:

1. it puts files and directories in place (`before`), making the missing parents of each;
2. it renders its configuration, a template with `.TmpDir` (the scenario's directory) and the
   function `join` (paths joined and cleaned), writes it to `config.yaml` there, loads it, and
   starts a daemon on it that keeps its history in memory: watching starts and the first build
   runs;
3. when it names the hierarchies expected after the first build (`initial`), it waits for them;
4. it puts more files and directories in place (`trigger`), which the daemon sees;
5. it waits for the hierarchies it expects in the end.

Waiting looks at the watched hierarchies every 20 milliseconds until they are the expected ones
or the waiting time is over (two seconds when none is given); time passing lets the daemon
rescan. Since the hierarchies change at most once while a scenario waits, looking at once and at
the last look before the time is over tells the same. Hierarchies are named relative to the
scenario's directory.

A step that fails stops the scenario with a message; a wait that ends with other hierarchies
notes `expected hierarchies [A B], got [C]` and the scenario goes on. A scenario passes when it
notes nothing.
-/

namespace StableWatch

/-- A file or directory a scenario puts in place: its path relative to the scenario's directory,
slash-separated, and a file's content. -/
structure Placement where
  path : String
  directory : Bool := false
  content : String := ""
  deriving DecidableEq, Repr

/-- A scenario: its name, the template of its configuration, what it puts in place before the
daemon starts, the hierarchies expected after the first build (if it checks them), what it puts
in place while the daemon runs, the hierarchies it expects in the end, and how long each wait
lasts in milliseconds (zero for the default). -/
structure Scenario where
  name : String
  config : String
  before : List Placement := []
  initial : Option (List String) := none
  trigger : List Placement := []
  expect : List String := []
  timeoutMs : Nat := 0
  deriving DecidableEq, Repr

namespace Scenario

/-- How long a wait lasts when a scenario gives no time: two seconds. -/
def defaultTimeoutMs : Nat := 2000

/-- How often a wait looks at the watched hierarchies, in milliseconds. -/
def pollIntervalMs : Nat := 20

/-- When a wait of `span` milliseconds last looks: the last multiple of the interval before the
span ends. -/
def lastLook (span : Nat) : Nat :=
  pollIntervalMs * ((span - 1) / pollIntervalMs)

/-- The function `join` of configuration templates: its texts joined with slashes and cleaned. -/
def joinFunction : Template.Function where
  fixed := []
  variadic := some .text
  apply args := .ok (.string (Path.joinBytes (args.map Template.Value.bytes)))

/-- A list as the formatter prints it: its items between brackets, separated by spaces. -/
def listText (items : List String) : String :=
  "[" ++ " ".intercalate items ++ "]"

/-- Puts files and directories in place under a directory; stops at the first that fails. -/
def place (root : String) (entries : List Placement) (h : Host) : Except String Host :=
  entries.foldlM (fun h e =>
    let path := Path.join [root, e.path]
    if e.directory then
      (h.change (·.makeDirs path)).mapError fun err =>
        "failed to create directory " ++ e.path ++ ": " ++ err.message
    else do
      let h ← (h.change (·.makeDirs (Path.dir path))).mapError fun err =>
        "failed to create parent directory for " ++ e.path ++ ": " ++ err.message
      (h.change (·.writeFile path e.content.toUTF8.toList)).mapError fun err =>
        "failed to create file " ++ e.path ++ ": " ++ err.message) h

/-- Renders the configuration, writes it to `config.yaml` in the directory, loads it and starts
a daemon on it. -/
def startDaemon (root : String) (template : String) (h : Host) : Except String Host := do
  let doc ← (Template.Document.parse "config" ["join"] template).mapError
    ("failed to parse config template: " ++ ·)
  let text ← (doc.render [("join", joinFunction)] (.map [("TmpDir", root)])).mapError
    ("failed to execute config template: " ++ ·)
  let configPath := Path.join [root, "config.yaml"]
  let h ← (h.change (·.writeFile configPath text)).mapError
    ("failed to write config file: " ++ ·.message)
  let config ← (Config.load h.env Host.store h configPath).mapError
    ("failed to load config: " ++ ·.message)
  let d : Daemon Backend := { configPath, config }
  let d ← (d.startWatching h.kit).mapError ("daemon failed to start: " ++ ·.message)
  let some (d, _) := d.runBuild h.kit
    | throw ("daemon failed to start: " ++ RunError.halted.message)
  pure { h with service := some { daemon := d, socket := "" } }

/-- The hierarchies the daemon watches. -/
def watched (h : Host) : List String :=
  (h.service.map (·.daemon.status.hierarchies)).getD []

/-- Waits for the expected hierarchies: gives the host after the wait and what it notes. -/
def waitFor (root : String) (expected : List String) (timeoutMs : Nat) (h : Host) :
    Host × List String :=
  let wanted := expected.map fun p => Path.join [root, p]
  let settled (h : Host) : Bool := "\n".intercalate (watched h) = "\n".intercalate wanted
  if settled h then (h, [])
  else
    let h := h.wait (lastLook (if timeoutMs = 0 then defaultTimeoutMs else timeoutMs))
    if settled h then (h, [])
    else (h, ["expected hierarchies " ++ listText wanted ++ ", got " ++ listText (watched h)])

/-- Runs a scenario in a directory of a host; gives what it notes. -/
def run (s : Scenario) (root : String) (h : Host) : List String :=
  match place root s.before h >>= startDaemon root s.config with
  | .error message => [message]
  | .ok h =>
    let (h, first) := match s.initial with
      | some initial => waitFor root initial s.timeoutMs h
      | none => (h, [])
    match place root s.trigger h with
    | .error message => first ++ [message]
    | .ok h => first ++ (waitFor root s.expect s.timeoutMs h).2

/-- A fresh host with an empty directory for a scenario. -/
def freshHost (root : String) (env : Environment) : Host :=
  let fs : HostFs := {}
  let fs := match fs.makeDirs root with
    | .ok (fs, _) => fs
    | .error _ => fs
  { fs, env }

/-- Runs scenarios each on a fresh host in the same directory; gives whether all passed and what
they noted. -/
def runAll (scenarios : List Scenario) (root : String) (env : Environment) : Bool × List String :=
  let log := scenarios.flatMap fun s => s.run root (freshHost root env)
  (log.isEmpty, log)

end Scenario

end StableWatch
