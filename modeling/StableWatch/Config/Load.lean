import StableWatch.Config.Decode
import StableWatch.Fs.Store
/-!
# Loading and creating the configuration file

Both work on any `FileStore`.

`Config.load` reads the file at a path (its tilde expanded), decodes it over the defaults and
validates it against the expanded path. A file that cannot be read is an error; an empty one, or
one holding only comments, gives the defaults.

`Config.ensure` writes the commented example configuration where nothing stands yet, making
its directory first, and leaves an existing file alone. Each of the three steps (checking the
path, making the directory, writing the file) names itself when it fails. The example sets the
defaults and watches nothing, so loading it gives the defaults.
-/

namespace StableWatch

namespace Config

/-- The commented example configuration written by `ensure`. -/
def exampleText : String :=
  String.join ([
    "# hierwatch configuration",
    "#",
    "# roots are the root project directories of your build. They are watched as",
    "# whole hierarchies in place of the directories inside them.",
    "#",
    "# locations are the files, directories and globs whose state is tracked.",
    "# Globs use doublestar syntax (** matches any number of directories).",
    "#",
    "# Example:",
    "#",
    "# roots:",
    "#   - ~/src/app",
    "#",
    "# locations:",
    "#   - ~/src/app/go.mod",
    "#   - ~/src/app/**/*.go",
    "",
    "roots: []",
    "locations: []",
    "",
    "daemon:",
    "  debounce: 500ms",
    "  backend: fsnotify  # fsnotify, notify or dryrun",
    "",
    "logging:",
    "  level: warn"
  ].map (· ++ "\n"))

/-- Loads the configuration file at a path. -/
def load {σ : Type} (env : Environment) (store : FileStore σ) (fs : σ) (path : String) :
    Except ConfigError Config :=
  let expanded := Places.expandTilde env path
  match store.read fs expanded with
  | .error e => .error (.unreadable e)
  | .ok bytes => (ofBytes env bytes).bind (validate expanded)

end Config

/-- Why the example configuration could not be put in place. -/
inductive EnsureError where
  /-- Telling whether something stands at the path failed. -/
  | check (path : String) (e : FsError)
  /-- Making the directory of the file failed. -/
  | directory (dir : String) (e : FsError)
  /-- Writing the file failed. -/
  | create (path : String) (e : FsError)
  deriving DecidableEq, Repr

namespace EnsureError

/-- The failure of the file system behind the error. -/
def cause : EnsureError → FsError
  | .check _ e | .directory _ e | .create _ e => e

/-- The message names the step and the path, then the file system's failure. -/
def message : EnsureError → String
  | .check path e => "failed to check config " ++ path ++ ": " ++ e.message
  | .directory dir e => "failed to create config directory " ++ dir ++ ": " ++ e.message
  | .create path e => "failed to create default config " ++ path ++ ": " ++ e.message

end EnsureError

namespace Config

/-- Writes the example configuration at a path unless something stands there; gives the expanded
path and the file system after. -/
def ensure {σ : Type} (env : Environment) (store : FileStore σ) (fs : σ) (path : String) :
    Except EnsureError (String × σ) := do
  let expanded := Places.expandTilde env path
  let present ← (store.present fs expanded).mapError (.check expanded)
  if present then return (expanded, fs)
  let dir := Path.dir expanded
  let fs ← (store.makeDirs fs dir).mapError (.directory dir)
  let fs ← (store.write fs expanded exampleText.toUTF8.toList).mapError (.create expanded)
  return (expanded, fs)

end Config

end StableWatch
