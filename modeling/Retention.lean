import Retention.Calendar.Cutoff
import Retention.Calendar.Date
import Retention.Calendar.Iso
import Retention.Calendar.Moment
import Retention.Calendar.Months
import Retention.Clock
import Retention.Database.Attempt
import Retention.Database.Connection
import Retention.Database.ConnectionText
import Retention.Database.ConnectionUri
import Retention.Database.Dialect
import Retention.Database.Engine
import Retention.Database.FilePath
import Retention.Database.FileUri
import Retention.Database.HostList
import Retention.Database.Installation
import Retention.Database.Locator
import Retention.Database.Script
import Retention.Database.ServerAddress
import Retention.Database.ServerCheck
import Retention.Database.ServerLink
import Retention.Database.ServerOption
import Retention.Database.Statement
import Retention.Database.Store
import Retention.Database.StoreFile
import Retention.Database.StoreLink
import Retention.Database.Surroundings
import Retention.Database.Trial
import Retention.Database.Url
import Retention.Fault
import Retention.Log.Key
import Retention.Log.Layout
import Retention.Log.Library
import Retention.Log.Level
import Retention.Log.Loggers
import Retention.Log.Record
import Retention.Log.Redaction
import Retention.Log.Setup
import Retention.Main
import Retention.Number.Binary64
import Retention.Number.Decimal
import Retention.Number.DecimalSum
import Retention.Number.Nearest
import Retention.Number.Quantity
import Retention.Number.RealText
import Retention.Number.Rounded
import Retention.Number.Shortest
import Retention.Process
import Retention.Proofs.Calendar.CutoffOrder
import Retention.Proofs.Calendar.Elapsed
import Retention.Proofs.Calendar.Landing
import Retention.Proofs.Calendar.MonthIndex
import Retention.Proofs.Calendar.StoredOrder
import Retention.Proofs.Database.Chronology
import Retention.Proofs.Database.History
import Retention.Proofs.Database.Purge
import Retention.Proofs.Database.References
import Retention.Proofs.Database.Renewal
import Retention.Proofs.Database.Url
import Retention.Proofs.Gate
import Retention.Proofs.Log.Call
import Retention.Proofs.Log.Event
import Retention.Proofs.Log.Exposure
import Retention.Proofs.Log.Loggers
import Retention.Proofs.Log.Login
import Retention.Proofs.Log.Redaction
import Retention.Proofs.Log.StandIn
import Retention.Proofs.Number.Spelling
import Retention.Proofs.Number.Truncation
import Retention.Proofs.Past
import Retention.Proofs.Process
import Retention.Proofs.Run.Bookkeeping
import Retention.Proofs.Run.Bound
import Retention.Proofs.Run.Calm
import Retention.Proofs.Run.Course
import Retention.Proofs.Run.Deeds
import Retention.Proofs.Run.Delivery
import Retention.Proofs.Run.DryRun
import Retention.Proofs.Run.Entries
import Retention.Proofs.Run.Escape
import Retention.Proofs.Run.Forecast
import Retention.Proofs.Run.Interleaving
import Retention.Proofs.Run.Lifecycle
import Retention.Proofs.Run.Observation
import Retention.Proofs.Run.Overflow
import Retention.Proofs.Run.Pairs
import Retention.Proofs.Run.Passes
import Retention.Proofs.Run.Reading
import Retention.Proofs.Run.Recovery
import Retention.Proofs.Run.Retained
import Retention.Proofs.Run.Sequence
import Retention.Proofs.Run.Stages
import Retention.Proofs.Run.Statements
import Retention.Proofs.Run.Trail
import Retention.Proofs.Run.Triple
import Retention.Proofs.Run.Window
import Retention.Proofs.Run.Work
import Retention.Proofs.Run.WriteOnly
import Retention.Proofs.Secrecy
import Retention.Proofs.Settings.Agreement
import Retention.Proofs.Settings.Cache
import Retention.Proofs.Settings.Entries
import Retention.Proofs.Settings.Readback
import Retention.Proofs.Settings.Target
import Retention.Proofs.Status
import Retention.Proofs.Text.Cut
import Retention.Proofs.Text.Loose
import Retention.Proofs.Text.Lower
import Retention.Proofs.Text.Numeral
import Retention.Proofs.Text.Percent
import Retention.Run.Expiry
import Retention.Run.Journal
import Retention.Run.Maintenance
import Retention.Run.Opening
import Retention.Run.Report
import Retention.Run.Session
import Retention.Run.TableStat
import Retention.Settings.Argument
import Retention.Settings.Basic
import Retention.Settings.Cache
import Retention.Settings.Environment
import Retention.Settings.Integer
import Retention.Settings.Lookup
import Retention.Settings.Option
import Retention.Settings.Problem
import Retention.Settings.Reading
import Retention.Settings.Source
import Retention.Settings.Target
import Retention.Text.Blank
import Retention.Text.Bounds
import Retention.Text.Cased
import Retention.Text.Digit
import Retention.Text.Front
import Retention.Text.Hex
import Retention.Text.JsonText
import Retention.Text.Loose
import Retention.Text.Lower
import Retention.Text.Numeral
import Retention.Text.Percent
import Retention.Text.Printable
import Retention.Text.Quoted
import Retention.Text.Utf8
import Retention.Text.Word
import Retention.Value.Basic
import Retention.Value.Json
import Retention.Value.Literal
import Retention.Value.Whole
