import StableWatch.Text.Quoted
import StableWatch.Path.Home
/-!
# The commands of the command line

The program `hierwatch` has a command for each thing it does (`build`, `disable`, `enable`,
`plan`, `status`, the hidden `daemon`, and `help`), flags that every command takes (`--config`
and `--log-level`), and flags of single commands: `--help` on every command, `--version` on the
program itself, `--verbose` on `plan`.

Help for a command starts with its long description, or its short one, and goes on with its
usage:

* the usage line: `hierwatch` and the command's use, with ` [flags]`; the program itself, which
  does nothing alone, shows `hierwatch [command]` instead;
* for the program, the commands that are not hidden, in the order of their names, each name
  padded to eleven columns;
* the command's own flags and then the flags every command takes, each list in the order of the
  flags' names: the flag's spellings and value type, then its usage and a default that is not
  empty, the usages lined up two columns after the longest spelling;
* for the program, how to get help on a command.

The flag `--config` defaults to the configuration file in the per-user directory.
-/

namespace StableWatch

namespace Cli

/-- A flag: its name, its one-letter spelling, whether it takes a text (a switch does not), its
usage and its default as help shows it (none when empty). -/
structure Flag where
  name : String
  short : Option Char := none
  takesText : Bool := false
  usage : String
  default : String := ""
  deriving DecidableEq, Repr

/-- A command: its name, its use (the name and what follows it), its descriptions, whether it
is hidden from the list of commands, its own flags besides `--help`, its other names, and
whether it reads flags. -/
structure Command where
  name : String
  use : String
  short : String
  long : String := ""
  hidden : Bool := false
  flags : List Flag := []
  /-- Other names the command answers to. -/
  aliases : List String := []
  /-- Whether the command reads its words as flags; one that does not takes them as they stand. -/
  readsFlags : Bool := true
  deriving DecidableEq, Repr

/-- The name of the program. -/
def programName : String := "hierwatch"

/-- The version the program reports. -/
def version : String := "dev"

/-- The program's own description. -/
def programShort : String :=
  "hierwatch - Keep a minimal, stable set of directory hierarchies watched across builds"

/-- The help flag of a command. -/
def helpFlag (name : String) : Flag :=
  { name := "help", short := some 'h', usage := "help for " ++ name }

/-- The version flag of the program. -/
def versionFlag : Flag :=
  { name := "version", short := some 'v', usage := "version for " ++ programName }

/-- The flags every command takes; the configuration file defaults to the per-user one. -/
def globalFlags (env : Environment) : List Flag :=
  [{ name := "config", short := some 'c', takesText := true, usage := "path to config file",
     default := (Places.defaultConfigPath env).toOption.getD "" },
   { name := "log-level", takesText := true,
     usage := "log level for the CLI (debug, info, warn, error)", default := "warn" }]

/-- The commands, in the order of their names. -/
def commands : List Command :=
  [{ name := "build", use := "build",
     short := "Reload the configuration and run a new build in the daemon" },
   { name := "daemon", use := "daemon", hidden := true,
     short := "Watch the hierarchies needed to track configured locations",
     long := String.intercalate "\n" [
       "Run builds and keep the directory hierarchies the tracked locations need",
       "watched, until SIGINT or SIGTERM.",
       "",
       "The daemon runs a build on startup and whenever \"hierwatch build\" is called.",
       "Between builds, change events are debounced and rescan the tracked locations."] },
   { name := "disable", use := "disable",
     short := "Release every native watch until enabled again",
     long := String.intercalate "\n" [
       "Release every native watch held by the daemon. Watched directories can",
       "then be deleted, including on Windows. Roots and tracked state are rebuilt by",
       "\"hierwatch enable\"."] },
   { name := "enable", use := "enable",
     short := "Re-acquire watches and run a build after disable" },
   { name := "help", use := "help [command]", short := "Help about any command",
     long := "Help provides help for any command in the application.\n" ++
       "Simply type " ++ programName ++ " help [path to command] for full details." },
   { name := "plan", use := "plan",
     short := "Show which directory hierarchies a build would watch, without watching anything",
     flags := [{ name := "verbose", short := some 'v',
                 usage := "show the directories each hierarchy covers" }] },
   { name := "status", use := "status",
     short := "Print status information (running, watched hierarchies, last build)" }]

/-- Whether a command answers to a name: its own or one of its aliases. -/
def Command.answersTo (c : Command) (name : String) : Bool :=
  c.name = name || c.aliases.contains name

/-- The command of a name. -/
def command? (name : String) : Option Command :=
  commands.find? (·.answersTo name)

/-- The flags a command takes: its own with `--help` (the program's with `--version` and the
global ones), and the global ones it inherits. -/
def ownFlags (env : Environment) : Option Command → List Flag
  | none => globalFlags env ++ [helpFlag programName, versionFlag]
  | some c => c.flags ++ [helpFlag c.name]

/-- The flags a command inherits. -/
def inheritedFlags (env : Environment) : Option Command → List Flag
  | none => []
  | some _ => globalFlags env

/-- All the flags a command takes. -/
def allFlags (env : Environment) (c : Option Command) : List Flag :=
  ownFlags env c ++ inheritedFlags env c

/-- Inserts a flag into a list ordered by name. -/
def insertFlag (f : Flag) : List Flag → List Flag
  | [] => [f]
  | g :: rest => if f.name ≤ g.name then f :: g :: rest else g :: insertFlag f rest

/-- A flag's spellings and value type, as help lists it. -/
def Flag.spelling (f : Flag) : String :=
  (match f.short with
    | some c => "  -" ++ c.toString ++ ", --" ++ f.name
    | none => "      --" ++ f.name) ++ (if f.takesText then " string" else "")

/-- A flag's usage with its default, as help lists it. -/
def Flag.explanation (f : Flag) : String :=
  f.usage ++ (if f.default.isEmpty then "" else " (default " ++ Text.quote f.default ++ ")")

/-- The lines of a list of flags, in the order of their names. -/
def flagLines (flags : List Flag) : String :=
  let sorted := flags.foldr insertFlag []
  let widest := (sorted.map fun f => f.spelling.length + 1).foldl max 0
  "\n".intercalate (sorted.map fun f =>
    f.spelling ++ " " ++ String.ofList (List.replicate (widest - f.spelling.length) ' ') ++ " " ++
      f.explanation)

/-- A text padded with spaces on the right to `n` characters. -/
def padRight (n : Nat) (text : String) : String :=
  text ++ String.ofList (List.replicate (n - text.length) ' ')

/-- The usage part of a command's help. -/
def usage (env : Environment) : Option Command → String
  | none =>
    let listed := commands.filter (!·.hidden)
    let padding := (commands.map (·.name.length)).foldl max 11
    "Usage:\n  " ++ programName ++ " [command]\n\nAvailable Commands:" ++
      String.join (listed.map fun c => "\n  " ++ padRight padding c.name ++ " " ++ c.short) ++
      "\n\nFlags:\n" ++ flagLines (ownFlags env none) ++
      "\n\nUse \"" ++ programName ++ " [command] --help\" for more information about a command.\n"
  | some c =>
    "Usage:\n  " ++ programName ++ " " ++ c.use ++ " [flags]\n\nFlags:\n" ++
      flagLines (ownFlags env (some c)) ++ "\n\nGlobal Flags:\n" ++
      flagLines (inheritedFlags env (some c)) ++ "\n"

/-- The help of a command, or of the program itself for none. -/
def help (env : Environment) (c : Option Command) : String :=
  let description := match c with
    | none => programShort
    | some c => if c.long.isEmpty then c.short else c.long
  description ++ "\n\n" ++ usage env c

/-- What `--version` prints. -/
def versionText : String :=
  programName ++ " version " ++ version ++ "\n"

end Cli

end StableWatch
