import StableWatch.Path.Basic
/-!
# Per-user places

The program keeps its configuration and build history in a directory named after it below
`~/.config`, and its control socket in a directory of the same name in the runtime directory,
or else in the cache directory. All of these come from environment variables; an unset variable reads as empty,
and an empty `HOME` means the home directory is unknown.

`expandTilde` replaces a leading `~` (alone, or followed by a slash) by the home directory; any
other text, `~user` included, is left alone, and so is everything when the home is unknown.
-/

namespace StableWatch

/-- Environment variables; a name that is not listed is unset. The first entry for a name
counts. -/
structure Environment where
  vars : List (String × String) := []
  deriving DecidableEq, Repr

namespace Environment

/-- The value of a variable, empty when it is unset. -/
def get (env : Environment) (name : String) : String :=
  (env.vars.lookup name).getD ""

/-- Sets a variable, replacing an earlier value. -/
def set (env : Environment) (name value : String) : Environment :=
  ⟨(name, value) :: env.vars.filter (·.1 ≠ name)⟩

/-- Unsets a variable. -/
def unset (env : Environment) (name : String) : Environment :=
  ⟨env.vars.filter (·.1 ≠ name)⟩

end Environment

/-- Why a per-user place could not be found. -/
inductive PlaceError where
  /-- `HOME` is empty. -/
  | homeUnknown
  /-- The per-user directory needs the home directory, which is unknown. -/
  | appDirUnknown
  /-- Neither `XDG_CACHE_HOME` nor `HOME` is set. -/
  | cacheUnknown
  /-- `XDG_CACHE_HOME` holds a relative path. -/
  | cacheRelative
  deriving DecidableEq, Repr

/-- The messages of the place errors. -/
def PlaceError.message : PlaceError → String
  | .homeUnknown => "$HOME is not defined"
  | .appDirUnknown => "cannot determine home directory: $HOME is not defined"
  | .cacheUnknown => "neither $XDG_CACHE_HOME nor $HOME are defined"
  | .cacheRelative => "path in $XDG_CACHE_HOME is relative"

namespace Places

/-- The name of the program's own directories and socket. -/
def appName : String := "hierwatch"

/-- The home directory, unknown when `HOME` is empty. -/
def home (env : Environment) : Except PlaceError String :=
  match env.get "HOME" with
  | "" => .error .homeUnknown
  | dir => .ok dir

/-- The text starts with a tilde that stands for the home directory. -/
def hasTildePrefix (path : String) : Bool :=
  match path.toList with
  | ['~'] => true
  | '~' :: '/' :: _ => true
  | _ => false

/-- A leading tilde replaced by the home directory, the result cleaned; other text and every
text under an unknown home stay as they are. -/
def expandTilde (env : Environment) (path : String) : String :=
  if hasTildePrefix path then
    match home env with
    | .ok dir => Path.join [dir, String.ofList (path.toList.drop 1)]
    | .error _ => path
  else path

/-- The per-user directory of the configuration and the build history. -/
def appDir (env : Environment) : Except PlaceError String :=
  match home env with
  | .ok dir => .ok (Path.join [dir, ".config", appName])
  | .error _ => .error .appDirUnknown

/-- The configuration file used when none is named. -/
def defaultConfigPath (env : Environment) : Except PlaceError String :=
  (appDir env).map fun dir => Path.join [dir, "config.yaml"]

/-- The file of the build history. -/
def statePath (env : Environment) : Except PlaceError String :=
  (appDir env).map fun dir => Path.join [dir, "state.json"]

/-- The message of a missing default configuration path, where a value is required. -/
def defaultConfigPanic (e : PlaceError) : String :=
  "failed to determine default config path: " ++ e.message

/-- The user's cache directory: `XDG_CACHE_HOME` if set (it must be absolute), else `.cache`
below the home directory. -/
def cacheDir (env : Environment) : Except PlaceError String :=
  match env.get "XDG_CACHE_HOME" with
  | "" =>
    match env.get "HOME" with
    | "" => .error .cacheUnknown
    | dir => .ok (dir ++ "/.cache")
  | dir => if Path.isAbs dir then .ok dir else .error .cacheRelative

/-- The control socket: in the runtime directory if `XDG_RUNTIME_DIR` is set, else in the cache
directory. -/
def socketPath (env : Environment) : Except PlaceError String := do
  let dir ← match env.get "XDG_RUNTIME_DIR" with
    | "" => cacheDir env
    | dir => pure dir
  return Path.join [dir, appName, appName ++ ".sock"]

end Places

end StableWatch
