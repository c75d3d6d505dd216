import StableWatch.Time.Duration
import StableWatch.Text.Quoted
import StableWatch.Yaml.Token
import StableWatch.Fs.View
/-!
# Configuration

The configuration names the build's root directories, the locations whose state is tracked,
and how the daemon runs: how long it waits for changes to settle, which native watch facility
it uses, and how much it logs.

A configuration file leaves out what it does not set: the daemon then waits 500ms on the
`fsnotify` facility and logs warnings. A configuration is valid when its facility is one of
`fsnotify`, `notify` and `dryrun`, and its waiting time is not negative.

Loading a configuration fails for one of the causes of `ConfigError`; each has its message.
-/

namespace StableWatch

/-- How the daemon runs. The facility is named by bytes: a binary scalar can name it with bytes
that are not UTF-8 text. -/
structure DaemonSettings where
  debounce : Duration := Duration.ofMillis 500
  backend : List UInt8 := "fsnotify".toUTF8.toList
  deriving DecidableEq, Repr

/-- How much the program logs. -/
structure LoggingSettings where
  level : String := "warn"
  deriving DecidableEq, Repr

/-- A configuration. -/
structure Config where
  roots : List String := []
  locations : List String := []
  daemon : DaemonSettings := {}
  logging : LoggingSettings := {}
  deriving DecidableEq, Repr

/-- Why a configuration could not be loaded. -/
inductive ConfigError where
  /-- The file could not be read. -/
  | unreadable (e : FsError)
  /-- The text is not well-formed YAML. -/
  | malformed (e : Yaml.SyntaxError)
  /-- Decoding stopped: an alias contains itself, a tag disagrees with its scalar, or a merge
  names no mapping. -/
  | decoding (problem : String)
  /-- Values of the wrong type, one line each; decoding went on past them. -/
  | types (lines : List String)
  /-- A configured path is not absolute once its tilde is expanded. -/
  | relativePath (path : String)
  /-- The file names a watch facility that does not exist. -/
  | unknownBackend (file : String) (backend : List UInt8)
  /-- The file sets a negative waiting time. -/
  | negativeDebounce (file : String) (debounce : Duration)
  /-- Decoding crashed: a map or a sequence was looked up in a set of keys. -/
  | panicked (message : String)
  deriving DecidableEq, Repr

namespace ConfigError

/-- The message of a configuration error. -/
def message : ConfigError → String
  | .unreadable e => e.message
  | .malformed e => e.message
  | .decoding problem => "yaml: " ++ problem
  | .types lines => "yaml: unmarshal errors:\n  " ++ "\n  ".intercalate lines
  | .relativePath path => "path must be absolute: " ++ path
  | .unknownBackend file backend =>
    file ++ ": unknown daemon backend " ++ Text.quoteBytes (backend.map (·.toNat)) ++
      " (want fsnotify, notify or dryrun)"
  | .negativeDebounce file debounce =>
    file ++ ": daemon debounce must not be negative, got " ++ debounce.text
  | .panicked message => message

end ConfigError

namespace Config

/-- The configuration watches nothing: it has neither roots nor locations. -/
def isEmpty (c : Config) : Bool :=
  c.roots.isEmpty && c.locations.isEmpty

/-- The watch facilities a configuration may name. -/
def backends : List String := ["fsnotify", "notify", "dryrun"]

/-- Checks a configuration read from `file`. -/
def validate (file : String) (c : Config) : Except ConfigError Config :=
  if !backends.any (·.toUTF8.toList = c.daemon.backend) then .error (.unknownBackend file c.daemon.backend)
  else if c.daemon.debounce.ns < 0 then .error (.negativeDebounce file c.daemon.debounce)
  else .ok c

end Config

end StableWatch
