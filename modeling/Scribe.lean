import Scribe.Audio.Convert
import Scribe.Audio.Program
import Scribe.Audio.Scratch
import Scribe.Audio.Wave
import Scribe.Broker.Error
import Scribe.Broker.Memory
import Scribe.Broker.Message
import Scribe.Config.Environment
import Scribe.Config.Settings
import Scribe.Decimal.Layout
import Scribe.Decimal.Reading
import Scribe.Decimal.Shortest
import Scribe.Dedup.Window
import Scribe.Delivery.Dispatch
import Scribe.Delivery.Disposition
import Scribe.Delivery.Flow
import Scribe.Delivery.Limits
import Scribe.Delivery.Pool
import Scribe.Delivery.Rehearsal
import Scribe.Delivery.Watermark
import Scribe.Dialogue
import Scribe.Engine.Kind
import Scribe.Engine.Language
import Scribe.Engine.Remote
import Scribe.Engine.Selector
import Scribe.Engine.Transcript
import Scribe.Failure.Basic
import Scribe.Failure.Chain
import Scribe.Failure.Code
import Scribe.Failure.System
import Scribe.Files
import Scribe.Hash.Sip
import Scribe.Health.Page
import Scribe.Health.Readiness
import Scribe.Http.Download
import Scribe.Http.Reply
import Scribe.Http.Request
import Scribe.Http.Server
import Scribe.Job.Basic
import Scribe.Job.Result
import Scribe.Json.Access
import Scribe.Json.Basic
import Scribe.Json.Decode
import Scribe.Json.Document
import Scribe.Json.Fault
import Scribe.Json.Printer
import Scribe.Json.Reader
import Scribe.Main
import Scribe.Metrics.Mark
import Scribe.Metrics.Registry
import Scribe.Proofs.Audio.Scratch
import Scribe.Proofs.Broker.Headers
import Scribe.Proofs.Broker.Queue
import Scribe.Proofs.Config.Settings
import Scribe.Proofs.Dedup.Recall
import Scribe.Proofs.Dedup.Window
import Scribe.Proofs.Delivery.Backlog
import Scribe.Proofs.Delivery.Conservation
import Scribe.Proofs.Delivery.Custody
import Scribe.Proofs.Delivery.History
import Scribe.Proofs.Delivery.Ledger
import Scribe.Proofs.Delivery.Moves
import Scribe.Proofs.Delivery.Passage
import Scribe.Proofs.Delivery.Phases
import Scribe.Proofs.Delivery.Prefixes
import Scribe.Proofs.Delivery.Releases
import Scribe.Proofs.Delivery.Retained
import Scribe.Proofs.Delivery.Retention
import Scribe.Proofs.Delivery.Rounds
import Scribe.Proofs.Delivery.Shutdown
import Scribe.Proofs.Delivery.Stages
import Scribe.Proofs.Delivery.Watermark
import Scribe.Proofs.Dialogue.Course
import Scribe.Proofs.Engine.Language
import Scribe.Proofs.Engine.Selection
import Scribe.Proofs.Engine.Transcript
import Scribe.Proofs.Failure.Inward
import Scribe.Proofs.Http.Download
import Scribe.Proofs.Json.Written
import Scribe.Proofs.Retry.Backoff
import Scribe.Proofs.Retry.Chain
import Scribe.Proofs.Schema.DeadLetter
import Scribe.Proofs.Schema.Job
import Scribe.Proofs.Service.Evidence
import Scribe.Proofs.Service.Honesty
import Scribe.Proofs.Service.NoLoss
import Scribe.Proofs.Service.World
import Scribe.Proofs.Stream.Claiming
import Scribe.Proofs.Stream.Fields
import Scribe.Proofs.Stream.Lending
import Scribe.Proofs.Stream.Order
import Scribe.Proofs.Stream.Pending
import Scribe.Proofs.Stream.Recovery
import Scribe.Proofs.Stream.Replay
import Scribe.Proofs.Stream.Takeover
import Scribe.Proofs.Stream.Wire
import Scribe.Proofs.Text.Numeral
import Scribe.Proofs.Time.Stamp
import Scribe.Proofs.Work.Completion
import Scribe.Proofs.Work.Disk
import Scribe.Proofs.Work.Effects
import Scribe.Proofs.Work.Handling
import Scribe.Proofs.Work.Languages
import Scribe.Proofs.Work.Pipeline
import Scribe.Proofs.Work.Routes
import Scribe.Proofs.Work.Series
import Scribe.Proofs.Work.Stations
import Scribe.Proofs.Worker.Engines
import Scribe.Proofs.Worker.Ranges
import Scribe.Retry.Backoff
import Scribe.Retry.DeadLetter
import Scribe.Retry.Policy
import Scribe.Sample
import Scribe.Stream.Address
import Scribe.Stream.Command
import Scribe.Stream.Connect
import Scribe.Stream.Consumer
import Scribe.Stream.Entry
import Scribe.Stream.Producer
import Scribe.Stream.Reply
import Scribe.Stream.Script
import Scribe.Text.Blank
import Scribe.Text.Bytes
import Scribe.Text.Numeral
import Scribe.Text.Printable
import Scribe.Text.Quoted
import Scribe.Text.Utf8
import Scribe.Time.Calendar
import Scribe.Time.Seconds
import Scribe.Time.Span
import Scribe.Time.Stamp
import Scribe.Url.Basic
import Scribe.Url.Direction
import Scribe.Url.Encode
import Scribe.Url.Host
import Scribe.Url.Label
import Scribe.Url.Name
import Scribe.Url.NameTable
import Scribe.View.Http
import Scribe.View.Message
import Scribe.View.Settings
import Scribe.View.Stream
import Scribe.View.Value
import Scribe.Walkthrough.Delivery
import Scribe.Walkthrough.Memory
import Scribe.Walkthrough.Steps
import Scribe.Walkthrough.Stream
import Scribe.Work.Processor
import Scribe.Work.Request
import Scribe.Work.Script
import Scribe.Work.Site
import Scribe.Worker.Outside
import Scribe.Worker.Startup
