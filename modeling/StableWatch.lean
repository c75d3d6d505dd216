import StableWatch.Backend.DryRun
import StableWatch.Backend.Hierarchy
import StableWatch.Backend.Inotify
import StableWatch.Backend.Native
import StableWatch.Backend.Recursive
import StableWatch.Backend.Session
import StableWatch.Build.Basic
import StableWatch.Build.Plan
import StableWatch.Cli.Command
import StableWatch.Cli.Complete
import StableWatch.Cli.Parse
import StableWatch.Cli.Run
import StableWatch.Cli.Status
import StableWatch.Cli.Text
import StableWatch.Config.Basic
import StableWatch.Config.Decode
import StableWatch.Config.Dynamic
import StableWatch.Config.Load
import StableWatch.Daemon.Basic
import StableWatch.Daemon.Debounce
import StableWatch.Fs.Entry
import StableWatch.Fs.Errno
import StableWatch.Fs.Host
import StableWatch.Fs.HostEdit
import StableWatch.Fs.Memory
import StableWatch.Fs.Store
import StableWatch.Fs.View
import StableWatch.Glob.Match
import StableWatch.Glob.Pattern
import StableWatch.History.Record
import StableWatch.History.Store
import StableWatch.Host.Basic
import StableWatch.Host.Service
import StableWatch.Json.Parse
import StableWatch.Json.Print
import StableWatch.Json.Value
import StableWatch.Number.Binary64
import StableWatch.Number.Decimal
import StableWatch.Number.Format
import StableWatch.Path.Absolute
import StableWatch.Path.Basic
import StableWatch.Path.Home
import StableWatch.Path.Set
import StableWatch.Report.Build
import StableWatch.Scenario.Basic
import StableWatch.Template.Format
import StableWatch.Template.Function
import StableWatch.Template.Literal
import StableWatch.Template.Parse
import StableWatch.Template.Render
import StableWatch.Template.Syntax
import StableWatch.Template.Token
import StableWatch.Template.Value
import StableWatch.Text.Alphanumeric
import StableWatch.Text.Base64
import StableWatch.Text.Block
import StableWatch.Text.Escape
import StableWatch.Text.Fixed
import StableWatch.Text.Grapheme
import StableWatch.Text.Printable
import StableWatch.Text.Quoted
import StableWatch.Text.Tree
import StableWatch.Text.Utf8
import StableWatch.Text.Width
import StableWatch.Time.Calendar
import StableWatch.Time.Duration
import StableWatch.Time.Rfc3339
import StableWatch.Tracker.Basic
import StableWatch.Watch.Registry
import StableWatch.Watch.RootSet
import StableWatch.Watch.Roots
import StableWatch.Watch.Scripted
import StableWatch.Watch.Snapshot
import StableWatch.Watch.Watcher
import StableWatch.Yaml.Input
import StableWatch.Yaml.Node
import StableWatch.Yaml.Resolve
import StableWatch.Yaml.Scanner
import StableWatch.Yaml.Token
import StableWatch.Proofs.PathSet
import StableWatch.Proofs.CleanPath
import StableWatch.Proofs.Reduce
import StableWatch.Proofs.ParentWalk
import StableWatch.Proofs.Outermost
import StableWatch.Proofs.RootSet
import StableWatch.Proofs.Below
import StableWatch.Proofs.RootSearch
import StableWatch.Proofs.Registry.Basic
import StableWatch.Proofs.Registry.Settled
import StableWatch.Proofs.Registry.Contract
import StableWatch.Proofs.Registry.Stability
import StableWatch.Proofs.Tracker.Entries
import StableWatch.Proofs.Registry.Sync
import StableWatch.Proofs.Tracker.Scan
import StableWatch.Proofs.Backend.Hierarchies
import StableWatch.Proofs.Backend.Walk
import StableWatch.Proofs.Backend.Events
import StableWatch.Proofs.Backend.Watches
import StableWatch.Proofs.Build.Run
import StableWatch.Proofs.Build.Plan
import StableWatch.Proofs.ValidPaths
import StableWatch.Proofs.Registry.Validation
import StableWatch.Proofs.Registry.Unordered
import StableWatch.Proofs.Daemon.Requests
import StableWatch.Proofs.Daemon.Lifecycle
import StableWatch.Proofs.Daemon.Session
import StableWatch.Proofs.Daemon.Refusal
import StableWatch.Proofs.HistoryNumbers
