import StableWatch.History.Record
import StableWatch.Text.Fixed
/-!
# Texts of the command line

* `durationText`: below a millisecond in whole microseconds, below a second in whole
  milliseconds (both cut toward zero), below a minute in seconds with one decimal, else in
  minutes with one decimal. The decimals come from the seconds or minutes as a binary64 number,
  computed as whole units plus the rest divided by the unit.
* `timeAgo`: how long ago something happened, from the seconds since then: `just now` below a
  minute, then whole minutes, hours or days, in the singular for one.
* `countText`: a count and a noun, in the singular for one.
* `printBuild`: a build's report, not verbose, and the error that a failed build gives.
-/

namespace StableWatch

namespace Cli

/-- A duration for people. -/
def durationText (d : Duration) : String :=
  if d.ns < Duration.millisecond then toString (d.ns.tdiv Duration.microsecond) ++ "µs"
  else if d.ns < Duration.second then toString (d.ns.tdiv Duration.millisecond) ++ "ms"
  else if d.ns < Duration.minute then
    let seconds := Float.ofNat (d.ns / Duration.second).toNat +
      Float.ofNat (d.ns % Duration.second).toNat / Float.ofNat Duration.second
    Text.fixed 1 seconds ++ "s"
  else
    let minutes := Float.ofNat (d.ns / Duration.minute).toNat +
      Float.ofNat (d.ns % Duration.minute).toNat / Float.ofNat Duration.minute
    Text.fixed 1 minutes ++ "m"

/-- How long ago something happened, `seconds` ago. -/
def timeAgo (seconds : Int) : String :=
  if seconds < 60 then "just now"
  else if seconds < 3600 then
    if seconds / 60 = 1 then "1 min ago" else toString (seconds / 60) ++ " mins ago"
  else if seconds < 86400 then
    if seconds / 3600 = 1 then "1 hour ago" else toString (seconds / 3600) ++ " hours ago"
  else if seconds / 86400 = 1 then "1 day ago" else toString (seconds / 86400) ++ " days ago"

/-- A count with its noun. -/
def countText (n : Int) (singular plural : String) : String :=
  if n = 1 then "1 " ++ singular else toString n ++ " " ++ plural

/-- The message of a failed build. -/
def buildFailure (number : Int) (error : String) : String :=
  "build " ++ toString number ++ " failed: " ++ error

/-- A build's report, and the message of its failure if it failed. -/
def printBuild (r : BuildRecord) : String × Option String :=
  (r.report.render false, if r.error = "" then none else some (buildFailure r.number r.error))

end Cli

end StableWatch
