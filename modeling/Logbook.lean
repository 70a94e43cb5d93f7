import Logbook.Base64
import Logbook.Bytes
import Logbook.Collector
import Logbook.Collector.Command
import Logbook.Collector.Concurrent
import Logbook.Collector.Reader
import Logbook.Collector.Run
import Logbook.CommandLine
import Logbook.Crew
import Logbook.Crew.Callers
import Logbook.Cursor
import Logbook.Diagnostics.Directive
import Logbook.Diagnostics.Install
import Logbook.Diagnostics.Pattern
import Logbook.Diagnostics.Pattern.Piece
import Logbook.Diagnostics.Pattern.Set
import Logbook.Disk
import Logbook.Entry
import Logbook.Error
import Logbook.Event
import Logbook.EventId
import Logbook.EventId.Generator
import Logbook.Inbox
import Logbook.Json
import Logbook.Json.Reading
import Logbook.Json.Record
import Logbook.Json.Token
import Logbook.Line
import Logbook.LogName
import Logbook.Main
import Logbook.Page
import Logbook.Path
import Logbook.Positional
import Logbook.Proofs.Account
import Logbook.Proofs.Base64
import Logbook.Proofs.Calendar
import Logbook.Proofs.Callers
import Logbook.Proofs.Canonical
import Logbook.Proofs.CommitOrder
import Logbook.Proofs.Conveying
import Logbook.Proofs.Crew
import Logbook.Proofs.Cursor
import Logbook.Proofs.Decimal
import Logbook.Proofs.Disk
import Logbook.Proofs.Document
import Logbook.Proofs.Elements
import Logbook.Proofs.Entry
import Logbook.Proofs.Enumeration
import Logbook.Proofs.EventId
import Logbook.Proofs.Evicting
import Logbook.Proofs.Eviction
import Logbook.Proofs.Field
import Logbook.Proofs.Filter
import Logbook.Proofs.Framing
import Logbook.Proofs.Generator
import Logbook.Proofs.Grammar
import Logbook.Proofs.History
import Logbook.Proofs.Inbox
import Logbook.Proofs.Instant
import Logbook.Proofs.Keys
import Logbook.Proofs.Ledger
import Logbook.Proofs.Lifecycle
import Logbook.Proofs.Line
import Logbook.Proofs.Listener
import Logbook.Proofs.LowerCase
import Logbook.Proofs.LooseStamp
import Logbook.Proofs.Minting
import Logbook.Proofs.Names
import Logbook.Proofs.Numerals
import Logbook.Proofs.Observing
import Logbook.Proofs.Overtaking
import Logbook.Proofs.Packet
import Logbook.Proofs.Page
import Logbook.Proofs.Path
import Logbook.Proofs.Pieces
import Logbook.Proofs.Query
import Logbook.Proofs.Reader
import Logbook.Proofs.Readers
import Logbook.Proofs.Records
import Logbook.Proofs.Reference
import Logbook.Proofs.Refusal
import Logbook.Proofs.Registry
import Logbook.Proofs.Request
import Logbook.Proofs.Retention
import Logbook.Proofs.Roster
import Logbook.Proofs.Routing
import Logbook.Proofs.Saving
import Logbook.Proofs.Running
import Logbook.Proofs.Scan
import Logbook.Proofs.Scanning
import Logbook.Proofs.Serving
import Logbook.Proofs.Sharing
import Logbook.Proofs.Sibling
import Logbook.Proofs.SortedMap
import Logbook.Proofs.Stamp
import Logbook.Proofs.StampGrammar
import Logbook.Proofs.StateFile
import Logbook.Proofs.Store
import Logbook.Proofs.Surviving
import Logbook.Proofs.Table
import Logbook.Proofs.Tailing
import Logbook.Proofs.Token
import Logbook.Proofs.Turning
import Logbook.Proofs.Utf8
import Logbook.Proofs.Value
import Logbook.Proofs.Walk
import Logbook.Proofs.Worker
import Logbook.Proofs.Writing
import Logbook.Retention
import Logbook.Roster
import Logbook.Settings.Address
import Logbook.Settings.Collector
import Logbook.Settings.Diagnostics
import Logbook.Settings.Store
import Logbook.Settings.Syslog
import Logbook.SortedMap
import Logbook.StateFile
import Logbook.Store
import Logbook.Store.Handle
import Logbook.Store.Observing
import Logbook.Store.Sharing
import Logbook.Store.Tailing
import Logbook.Syslog.Listener
import Logbook.Syslog.Message
import Logbook.Syslog.Reading
import Logbook.Syslog.Routing
import Logbook.Syslog.Scanning
import Logbook.Table
import Logbook.Text.Decimal
import Logbook.Text.Hexadecimal
import Logbook.Text.LowerCase
import Logbook.Text.Quoted
import Logbook.Text.Search
import Logbook.Text.Utf8
import Logbook.Time.Calendar
import Logbook.Time.Instant
import Logbook.Time.Reading
import Logbook.Time.Writing
import Logbook.Unicode.Alphabetic
import Logbook.Unicode.Alphanumeric
import Logbook.Unicode.Blank
import Logbook.Unicode.CaseIgnorable
import Logbook.Unicode.Cased
import Logbook.Unicode.GraphemeExtend
import Logbook.Unicode.LowerMapping
import Logbook.Unicode.Ranges
import Logbook.Unicode.Unprintable
import Logbook.Worker
import Logbook.Worker.Shift
