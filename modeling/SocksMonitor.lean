import SocksMonitor.Agent.Lifecycle
import SocksMonitor.Agent.Records
import SocksMonitor.Agent.Snapshot
import SocksMonitor.Agent.Store
import SocksMonitor.CommandLine.Command
import SocksMonitor.CommandLine.Options
import SocksMonitor.CommandLine.Outcome
import SocksMonitor.CommandLine.StatusQuery
import SocksMonitor.Control.Bodies
import SocksMonitor.Control.Daemon
import SocksMonitor.Control.Exchange
import SocksMonitor.Control.Routes
import SocksMonitor.Dashboard.Canvas
import SocksMonitor.Dashboard.Frame
import SocksMonitor.Json.Binary64
import SocksMonitor.Json.Layout
import SocksMonitor.Json.Literal
import SocksMonitor.Json.Printer
import SocksMonitor.Json.Reader
import SocksMonitor.Json.Value
import SocksMonitor.Main
import SocksMonitor.Net.Endpoint
import SocksMonitor.Net.Ipv4
import SocksMonitor.Net.Ipv6
import SocksMonitor.Probing.Dialogue
import SocksMonitor.Probing.Engine
import SocksMonitor.Probing.Failure
import SocksMonitor.Probing.Guard
import SocksMonitor.Probing.Latencies
import SocksMonitor.Probing.Plan
import SocksMonitor.Probing.Summary
import SocksMonitor.Settings.Basic
import SocksMonitor.Settings.Document
import SocksMonitor.Socks.Address
import SocksMonitor.Socks.Cursor
import SocksMonitor.Socks.Fault
import SocksMonitor.Socks.Message
import SocksMonitor.Socks.Reply
import SocksMonitor.Text.Blank
import SocksMonitor.Text.Numeral
import SocksMonitor.Text.Quoted
import SocksMonitor.Text.Shown
import SocksMonitor.Text.Split
import SocksMonitor.Text.Utf8
import SocksMonitor.Time.Calendar
import SocksMonitor.Time.Rfc3339
import SocksMonitor.Time.Timestamp
import SocksMonitor.Toml.Document
import SocksMonitor.Toml.Record
import SocksMonitor.Toml.Token
import SocksMonitor.Toml.Value
import SocksMonitor.Proofs.Course
import SocksMonitor.Proofs.ReplyGrammar
import SocksMonitor.Proofs.SentMessages
import SocksMonitor.Proofs.Consistency
import SocksMonitor.Proofs.Finality
import SocksMonitor.Proofs.StartTime
import SocksMonitor.Proofs.StoreContents
import SocksMonitor.Proofs.RouterStore
import SocksMonitor.Proofs.Secrecy
import SocksMonitor.Proofs.Cuts
import SocksMonitor.Proofs.Blame
import SocksMonitor.Proofs.Cancellation
import SocksMonitor.Proofs.JsonLiterals
import SocksMonitor.Proofs.JsonRoundTrip
import SocksMonitor.Proofs.TimeText
import SocksMonitor.Proofs.RecordParts
import SocksMonitor.Proofs.RecordText
import SocksMonitor.Proofs.FailureShape
import SocksMonitor.Proofs.Literals
import SocksMonitor.Proofs.AddressGrammar
import SocksMonitor.Proofs.Framing
import SocksMonitor.Proofs.AddressText
import SocksMonitor.Proofs.GivenOptions
import SocksMonitor.Proofs.TomlText
import SocksMonitor.Proofs.Choice
import SocksMonitor.Proofs.FrontEnds
import SocksMonitor.Proofs.Resumption
import SocksMonitor.Proofs.CredentialsMessage
import SocksMonitor.Proofs.ProbeStatus
import SocksMonitor.Proofs.Guard
