import StableWatch.Path.Basic
/-!
# Watchers and their failures

A watcher is the facility that really watches hierarchies. It is asked to start or stop watching
a list of hierarchies and either succeeds or fails. A failure may name the hierarchies that
failed; one that names none of the requested hierarchies, or names no paths at all, counts as a
failure of all of them (`WatchFailure.failed`).

A watcher is given as two functions on its own state, so that a registry can be run against any
behaviour: the dry run that always succeeds, a scripted one, or a model of a native facility.
-/

namespace StableWatch

/-- Why a watcher could not do all it was asked. -/
inductive WatchFailure where
  /-- A failure that names no paths. -/
  | general (message : String)
  /-- A failure of the named paths, with the reason. -/
  | naming (paths : List String) (reason : String)
  deriving DecidableEq, Repr

namespace WatchFailure

/-- A general failure is its message; a failure naming paths lists them, then the reason. -/
def message : WatchFailure → String
  | .general message => message
  | .naming paths reason => ", ".intercalate paths ++ ": " ++ reason

/-- The requested hierarchies that a failure reports as failed. The named paths count after
cleaning; a failure naming none of the requested ones fails them all. -/
def failed (failure : WatchFailure) (requested : List String) : List String :=
  match failure with
  | .general _ => requested
  | .naming paths _ =>
    let reported := paths.map Path.clean
    match requested.filter reported.contains with
    | [] => requested
    | named => named

end WatchFailure

/-- A watcher with state `σ`: how it answers a request to start, and to stop, watching a list of
hierarchies. `none` is success. -/
structure Watcher (σ : Type) where
  start : List String → σ → Option WatchFailure × σ
  stop : List String → σ → Option WatchFailure × σ

end StableWatch
