import StableWatch.Cli.Text
import StableWatch.Daemon.Basic
import StableWatch.Text.Block
/-!
# The status screen

`statusText` writes what `hierwatch status` prints about a running daemon:

* when the configuration file still holds the example configuration, a welcome box: the
  welcome's lines padded to the widest, four spaces on each side, inside a rounded frame;
* five lines, each label padded to twelve columns: whether the daemon runs, the configuration
  file, the backend, the last build (its number, start, how long ago and how long it took, and
  its error on a line of its own after a warning sign) and what is watched (the hierarchies and
  tracked locations, or `none` while disabled or watching nothing);
* while something is watched, the report of the last build: its number, the current and
  previous roots and the watched hierarchies.
-/

namespace StableWatch

namespace Cli

/-- Lines in a rounded frame, each padded to the widest and by `padding` spaces on each side. -/
def frame (padding : Nat) (lines : List String) : String :=
  let widest := (lines.map Text.width).foldl max 0
  let inner := widest + 2 * padding
  let side := String.ofList (List.replicate padding ' ')
  let rule := String.join (List.replicate inner "─")
  "\n".intercalate (["╭" ++ rule ++ "╮"] ++
    lines.map (fun line => "│" ++ side ++ Text.padLine widest line ++ side ++ "│") ++
    ["╰" ++ rule ++ "╯"])

/-- A character beyond the basic plane, by its code point. -/
def symbol (code : Nat) : String :=
  (Char.ofNat code).toString

/-- The welcome shown while the example configuration is in place. -/
def welcome : String :=
  frame 4 [symbol 0x1F44B ++ " Welcome to hierwatch", "",
    "1. Get started by adding roots and locations to the config file at the path below.",
    "2. Run a build with hierwatch build after making changes."]

/-- A status line: the label padded to twelve columns, then the value. -/
def statusLine (label value : String) : String :=
  Text.padLine 12 label ++ value ++ "\n"

/-- What the status screen says about the last build, seen at `now`. -/
def lastBuildText (now : Timestamp) : Option BuildStatus → String
  | none => "none"
  | some b =>
    "#" ++ toString b.number ++ " (" ++ b.startedAt.civil.stamp ++ ", " ++
      timeAgo (now.seconds - b.startedAt.seconds) ++ ", took " ++ durationText b.duration ++ ")" ++
      (if b.error.isEmpty then "" else "\n  \u26A0\uFE0F " ++ b.error)

/-- The status screen of a daemon, seen at `now`; `fresh` tells whether the configuration
file holds the example configuration. -/
def statusText (s : DaemonStatus) (fresh : Bool) (now : Timestamp) : String :=
  let watching := s.enabled ∧ s.watchCount > 0
  let running := if s.enabled then symbol 0x1F7E2 ++ " running"
    else symbol 0x1F534 ++ " disabled (run hierwatch enable to resume)"
  let watched := if watching then
      countText s.watchCount "hierarchy" "hierarchies" ++ " (" ++
        countText s.trackedCount "tracked location" "tracked locations" ++ ")"
    else "none"
  let report : BuildReport :=
    { number := (s.lastBuild.map (·.number)).getD 0, roots := s.currentRoots,
      previousRoots := s.previousRoots, hierarchies := s.hierarchies }
  (if fresh then welcome ++ "\n" else "") ++
    statusLine "status" running ++ statusLine "config" s.configPath ++
    statusLine "backend" s.backend ++ statusLine "last build" (lastBuildText now s.lastBuild) ++
    statusLine "watching" watched ++ (if watching then report.render false else "")

end Cli

end StableWatch
