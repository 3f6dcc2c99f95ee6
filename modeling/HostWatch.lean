import HostWatch.Bus.Basic
import HostWatch.Bus.Disposition
import HostWatch.Bus.Error
import HostWatch.Bus.Message
import HostWatch.Bus.Queue
import HostWatch.Bus.Redelivery
import HostWatch.Bus.Rehearsal
import HostWatch.Bus.Timeline
import HostWatch.CommandLine.Arguments
import HostWatch.CommandLine.Manage
import HostWatch.CommandLine.Outcome
import HostWatch.CommandLine.Watch
import HostWatch.Config.Access
import HostWatch.Config.Client
import HostWatch.Config.Error
import HostWatch.Config.Forbidden
import HostWatch.Config.Service
import HostWatch.Config.Store
import HostWatch.Config.Writing
import HostWatch.Counter.Access
import HostWatch.Counter.Error
import HostWatch.Counter.Store
import HostWatch.Decision.Basic
import HostWatch.Decision.Engine
import HostWatch.Decision.Error
import HostWatch.Decision.Handler
import HostWatch.Decision.Locks
import HostWatch.Decision.Pipeline
import HostWatch.Decision.Rehearsal
import HostWatch.Decision.Stage
import HostWatch.Decision.Update
import HostWatch.Http.Message
import HostWatch.Http.Network
import HostWatch.Http.RequestTarget
import HostWatch.Http.Status
import HostWatch.Idna
import HostWatch.Json.Basic
import HostWatch.Json.Printer
import HostWatch.Json.Reader
import HostWatch.Json.Scan
import HostWatch.Keyed
import HostWatch.Main
import HostWatch.Metrics
import HostWatch.Net.SocketAddress
import HostWatch.Probe
import HostWatch.Prober
import HostWatch.Proofs.Config.ForbiddenList
import HostWatch.Proofs.Counter.Steady
import HostWatch.Proofs.Decision.Alone
import HostWatch.Proofs.Decision.Counts
import HostWatch.Proofs.Decision.Discipline
import HostWatch.Proofs.Decision.Distinct
import HostWatch.Proofs.Decision.Exclusion
import HostWatch.Proofs.Decision.History
import HostWatch.Proofs.Decision.Moves
import HostWatch.Proofs.Decision.Promotion
import HostWatch.Proofs.Decision.Scene
import HostWatch.Proofs.Decision.Sequential
import HostWatch.Proofs.Decision.Shared
import HostWatch.Proofs.Decision.Threshold
import HostWatch.Proofs.Decision.Undisturbed
import HostWatch.Proofs.Json.RoundTrip
import HostWatch.Proofs.Text.Utf8
import HostWatch.Punycode
import HostWatch.Report
import HostWatch.Report.Lines
import HostWatch.Settings.Basic
import HostWatch.Settings.Check
import HostWatch.Settings.Printer
import HostWatch.Settings.Reader
import HostWatch.Startup
import HostWatch.Storage.FileFault
import HostWatch.Storage.Replacement
import HostWatch.Storage.SnapshotFile
import HostWatch.Target
import HostWatch.Text.Ascii
import HostWatch.Text.Blank
import HostWatch.Text.Decimal
import HostWatch.Text.ShortestDecimal
import HostWatch.Text.Utf8
import HostWatch.Toml.Basic
import HostWatch.Toml.Node
import HostWatch.Toml.Numeral
import HostWatch.Toml.Quoted
import HostWatch.Toml.Reader
import HostWatch.Unicode.BidiClass
import HostWatch.Unicode.CombiningClass
import HostWatch.Unicode.Composition
import HostWatch.Unicode.Decomposition
import HostWatch.Unicode.JoiningType
import HostWatch.Unicode.Mapping
import HostWatch.Unicode.Mark
import HostWatch.Unicode.Normal
import HostWatch.Unicode.Table
import HostWatch.Url.Address
import HostWatch.Url.Basic
import HostWatch.Url.Parser
import HostWatch.Url.Path
import HostWatch.Url.Percent
import HostWatch.Proofs.Bus.Life
import HostWatch.Proofs.Bus.Custody
import HostWatch.Proofs.Bus.Course
import HostWatch.Proofs.Bus.Balance
import HostWatch.Proofs.Decision.Service
import HostWatch.Proofs.Decision.Redelivery
import HostWatch.Proofs.Bus.Concurrency
import HostWatch.Proofs.Decision.AppendsOnce
import HostWatch.Proofs.Decision.Together
import HostWatch.Proofs.Decision.OneHostname
import HostWatch.Proofs.Decision.ListFirst
import HostWatch.Proofs.Json.Numerals
import HostWatch.Proofs.Json.Objects
import HostWatch.Proofs.Config.StoreFile
import HostWatch.Proofs.Config.Mirror
import HostWatch.Proofs.Storage.Replaceable
import HostWatch.Proofs.Config.RequestHistory
import HostWatch.Proofs.Config.OverHttp
import HostWatch.Proofs.Storage.Contents
import HostWatch.Proofs.Bus.FanOut
import HostWatch.Proofs.Bus.Isolation
import HostWatch.Proofs.Counter.StoreFile
import HostWatch.Proofs.Counter.Saved
import HostWatch.Proofs.Counter.Restart
import HostWatch.Proofs.Report.Ingestion
import HostWatch.Proofs.Report.Published
import HostWatch.Proofs.Bus.Silence
import HostWatch.Proofs.Bus.Publication
import HostWatch.Proofs.Decision.Overtaking
import HostWatch.Proofs.Config.Seeding
import HostWatch.Proofs.Target.Origin
import HostWatch.Proofs.Target.LetterCase
import HostWatch.Proofs.Counter.Namespaces
import HostWatch.Proofs.Config.KeyUrl
import HostWatch.Proofs.CommandLine.Manage
import HostWatch.Proofs.Startup
import HostWatch.Proofs.Storage.AllOrNothing
import HostWatch.Proofs.Report.BareLine
import HostWatch.Proofs.Bus.Backoff
import HostWatch.Proofs.Settings.Printed
import HostWatch.Proofs.Decision.LockTable
import HostWatch.Proofs.Decision.Measurements
