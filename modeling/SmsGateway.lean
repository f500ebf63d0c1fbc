import SmsGateway.Config.Basic
import SmsGateway.Config.Environment
import SmsGateway.Config.File
import SmsGateway.Config.Reading
import SmsGateway.Config.Setting
import SmsGateway.Config.Validation
import SmsGateway.Crypto.Hmac
import SmsGateway.Crypto.Sha256
import SmsGateway.Delivery.Attempt
import SmsGateway.Delivery.Queue
import SmsGateway.Delivery.Concurrent
import SmsGateway.Delivery.RetryPolicy
import SmsGateway.Delivery.Task
import SmsGateway.Dispatch.Concurrent
import SmsGateway.Dispatch.Dispatcher
import SmsGateway.Dispatch.Outcome
import SmsGateway.Dispatch.Registry
import SmsGateway.Dispatch.Stage
import SmsGateway.Dispatch.World
import SmsGateway.Event.Envelope
import SmsGateway.Event.Flaw
import SmsGateway.Event.Kind
import SmsGateway.Event.Signature
import SmsGateway.Event.Wire
import SmsGateway.EventLog.Basic
import SmsGateway.EventLog.Directory
import SmsGateway.EventLog.Shared
import SmsGateway.Failure
import SmsGateway.Http.Exchange
import SmsGateway.Http.Head
import SmsGateway.Http.Status
import SmsGateway.Json.Basic
import SmsGateway.Json.Document
import SmsGateway.Json.Flaw
import SmsGateway.Json.Numeral
import SmsGateway.Json.Reading
import SmsGateway.Json.Record
import SmsGateway.Json.Writer
import SmsGateway.Main
import SmsGateway.Message.Basic
import SmsGateway.Message.Codec
import SmsGateway.Message.Lifecycle
import SmsGateway.NameTable
import SmsGateway.Notice
import SmsGateway.Number.Binary
import SmsGateway.Number.Shortest
import SmsGateway.Number.Single
import SmsGateway.Proofs.Dispatch.Deeds
import SmsGateway.Proofs.EventLog.Rows
import SmsGateway.Server.Basic
import SmsGateway.Server.ErrorReport
import SmsGateway.Server.Route
import SmsGateway.Startup.Address
import SmsGateway.Startup.Basic
import SmsGateway.Startup.Variables
import SmsGateway.Text.Blank
import SmsGateway.Text.Combining
import SmsGateway.Text.Hex
import SmsGateway.Text.Invisible
import SmsGateway.Text.Percent
import SmsGateway.Text.Quoted
import SmsGateway.Text.Ranges
import SmsGateway.Text.Utf8
import SmsGateway.Time.Date
import SmsGateway.Time.Instant
import SmsGateway.Time.Span
import SmsGateway.Time.Text
import SmsGateway.Toml.Basic
import SmsGateway.Toml.Document
import SmsGateway.Toml.Reading
import SmsGateway.Toml.Scalar
import SmsGateway.Url.Basic
import SmsGateway.Url.Domain
import SmsGateway.Url.Host
import SmsGateway.Url.Punycode
import SmsGateway.Uuid
import SmsGateway.Yaml.Cursor
import SmsGateway.Yaml.Node
import SmsGateway.Yaml.Reading
import SmsGateway.Yaml.Scalar
import SmsGateway.Yaml.Token
import SmsGateway.Proofs.Dispatch.Progress
import SmsGateway.Proofs.Dispatch.Moments
import SmsGateway.Proofs.Dispatch.Overlap
import SmsGateway.Proofs.Dispatch.Alone
import SmsGateway.Proofs.Server.Delivery
import SmsGateway.Proofs.Server.Acknowledgement
import SmsGateway.Proofs.NameTable
import SmsGateway.Proofs.Json.Strings
import SmsGateway.Proofs.Json.Numerals
import SmsGateway.Proofs.Json.Reading
import SmsGateway.Proofs.Json.Bounds
import SmsGateway.Proofs.Time.Digits
import SmsGateway.Proofs.Time.RoundTrip
import SmsGateway.Proofs.Json.Records
import SmsGateway.Proofs.Event.WireForm
import SmsGateway.Proofs.Event.Lossless
import SmsGateway.Proofs.Dispatch.Ending
import SmsGateway.Proofs.Dispatch.Healthy
import SmsGateway.Proofs.Http.HeaderText
import SmsGateway.Proofs.Event.Signature
import SmsGateway.Proofs.Server.EndToEnd
import SmsGateway.Proofs.Server.Isolation
import SmsGateway.Proofs.Time.Order
import SmsGateway.Proofs.Message.Convergence
import SmsGateway.Proofs.Dispatch.Account
import SmsGateway.Proofs.Dispatch.Undisturbed
import SmsGateway.Proofs.Dispatch.Unheard
import SmsGateway.Proofs.Dispatch.InTurn
import SmsGateway.Proofs.Dispatch.Held
import SmsGateway.Proofs.EventLog.Opening
import SmsGateway.Proofs.EventLog.Reference
import SmsGateway.Proofs.Message.Ordering
import SmsGateway.Proofs.Message.ReadBack
import SmsGateway.Proofs.Server.Strangers
import SmsGateway.Proofs.Text.Percent
import SmsGateway.Proofs.Server.Lookup
import SmsGateway.Proofs.Delivery.Task
import SmsGateway.Proofs.Delivery.Attempts
import SmsGateway.Proofs.Delivery.Alone
import SmsGateway.Proofs.Delivery.Ledger
import SmsGateway.Proofs.Delivery.NoneLost
import SmsGateway.Proofs.Json.Depth
import SmsGateway.Proofs.Dispatch.ReadBack
import SmsGateway.Proofs.Event.Snapshots
import SmsGateway.Proofs.Event.Reports
import SmsGateway.Proofs.Delivery.Budget
import SmsGateway.Proofs.Time.Elapsed
import SmsGateway.Proofs.Message.SendDuration
import SmsGateway.Proofs.Message.Bookkeeping
import SmsGateway.Proofs.Message.RetryBudget
import SmsGateway.Proofs.Time.LeapSeconds
import SmsGateway.Proofs.Message.DurationOrder
import SmsGateway.Proofs.Dispatch.FanOut
import SmsGateway.Proofs.Server.SharedKey
import SmsGateway.Proofs.Dispatch.HandOver
import SmsGateway.Proofs.Number.Packing
import SmsGateway.Proofs.Number.Value
import SmsGateway.Proofs.Number.Arithmetic
import SmsGateway.Proofs.Json.Reals
import SmsGateway.Proofs.Config.Soundness
import SmsGateway.Proofs.Config.Variables
import SmsGateway.Proofs.Config.Agreement
