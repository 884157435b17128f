import LedgerCapture.Artifact.Basic
import LedgerCapture.Artifact.Store
import LedgerCapture.CommandLine.Execution
import LedgerCapture.CommandLine.Invocation
import LedgerCapture.CommandLine.Options
import LedgerCapture.Config.Block
import LedgerCapture.Config.Document
import LedgerCapture.Config.Environment
import LedgerCapture.Config.Error
import LedgerCapture.Config.Load
import LedgerCapture.Config.Reader
import LedgerCapture.Config.Settings
import LedgerCapture.Contract
import LedgerCapture.Decimal.Binary64
import LedgerCapture.Decimal.Integer
import LedgerCapture.Decimal.Shortest
import LedgerCapture.Deployment
import LedgerCapture.Engine.Assembly
import LedgerCapture.Engine.Basic
import LedgerCapture.Engine.Error
import LedgerCapture.Files.Error
import LedgerCapture.Files.Path
import LedgerCapture.Files.Tree
import LedgerCapture.Gateway.Basic
import LedgerCapture.Gateway.Command
import LedgerCapture.Gateway.Host
import LedgerCapture.Gateway.Implementation
import LedgerCapture.Gateway.Pattern
import LedgerCapture.Gateway.Program
import LedgerCapture.Gateway.Rpc
import LedgerCapture.Gateway.Url
import LedgerCapture.Json.Basic
import LedgerCapture.Json.Decode
import LedgerCapture.Json.Draft
import LedgerCapture.Json.Printer
import LedgerCapture.Json.Token
import LedgerCapture.Keccak
import LedgerCapture.Ledger.Address
import LedgerCapture.Ledger.Hex
import LedgerCapture.Ledger.Receipt
import LedgerCapture.Ledger.Shard
import LedgerCapture.Legacy.Block
import LedgerCapture.Legacy.State
import LedgerCapture.Main
import LedgerCapture.Node
import LedgerCapture.Output
import LedgerCapture.Proofs.Artifact.Collect
import LedgerCapture.Proofs.Artifact.History
import LedgerCapture.Proofs.Artifact.Key
import LedgerCapture.Proofs.Artifact.Store
import LedgerCapture.Proofs.CommandLine.Rejection
import LedgerCapture.Proofs.Config.Acceptance
import LedgerCapture.Proofs.Config.Block
import LedgerCapture.Proofs.Config.Environment
import LedgerCapture.Proofs.Decimal.Integer
import LedgerCapture.Proofs.Deployment
import LedgerCapture.Proofs.Deployment.Atomic
import LedgerCapture.Proofs.Deployment.Course
import LedgerCapture.Proofs.Engine.Assembly
import LedgerCapture.Proofs.Engine.Capture
import LedgerCapture.Proofs.Engine.Category
import LedgerCapture.Proofs.Engine.Failure
import LedgerCapture.Proofs.Engine.Fault
import LedgerCapture.Proofs.Engine.MissingBlock
import LedgerCapture.Proofs.Engine.Modes
import LedgerCapture.Proofs.Engine.Plan
import LedgerCapture.Proofs.Engine.Replay
import LedgerCapture.Proofs.Engine.Supervision
import LedgerCapture.Proofs.Engine.Work
import LedgerCapture.Proofs.Failure
import LedgerCapture.Proofs.Files.Growth
import LedgerCapture.Proofs.Gateway.Agreement
import LedgerCapture.Proofs.Gateway.Document
import LedgerCapture.Proofs.Gateway.Failure
import LedgerCapture.Proofs.Gateway.Marker
import LedgerCapture.Proofs.Journal
import LedgerCapture.Proofs.Json.Draft
import LedgerCapture.Proofs.Json.Grammar
import LedgerCapture.Proofs.Json.Members
import LedgerCapture.Proofs.Json.Null
import LedgerCapture.Proofs.Json.Ordered
import LedgerCapture.Proofs.Json.Printer
import LedgerCapture.Proofs.Json.Record
import LedgerCapture.Proofs.Json.Scalar
import LedgerCapture.Proofs.Json.Token
import LedgerCapture.Proofs.Ledger.Identifier
import LedgerCapture.Proofs.Ledger.Receipt
import LedgerCapture.Proofs.Ledger.ReceiptText
import LedgerCapture.Proofs.Ledger.Search
import LedgerCapture.Proofs.Node
import LedgerCapture.Proofs.Registry.History
import LedgerCapture.Proofs.Registry.InPlace
import LedgerCapture.Proofs.Registry.Lifecycle
import LedgerCapture.Proofs.Registry.Progress
import LedgerCapture.Proofs.Registry.Sound
import LedgerCapture.Proofs.Rehearsal.Ledger
import LedgerCapture.Proofs.Result
import LedgerCapture.Proofs.Schema
import LedgerCapture.Proofs.Schema.Fault
import LedgerCapture.Proofs.Schema.Place
import LedgerCapture.Proofs.Schema.Report
import LedgerCapture.Proofs.Session
import LedgerCapture.Proofs.Submission.Account
import LedgerCapture.Proofs.Submission.Failure
import LedgerCapture.Proofs.Submission.Replay
import LedgerCapture.Proofs.Submission.Step
import LedgerCapture.Proofs.Text.Utf8
import LedgerCapture.Registry
import LedgerCapture.Rehearsal.Compiler
import LedgerCapture.Rehearsal.Description
import LedgerCapture.Rehearsal.Ledger
import LedgerCapture.Rehearsal.Outside
import LedgerCapture.Rehearsal.Process
import LedgerCapture.Resolution
import LedgerCapture.Schema
import LedgerCapture.Session
import LedgerCapture.Submission
import LedgerCapture.Text.Blank
import LedgerCapture.Text.Punycode
import LedgerCapture.Text.Quoted
import LedgerCapture.Text.Utf8
import LedgerCapture.Text.Visible
import LedgerCapture.Toml.Basic
import LedgerCapture.Toml.Decode
import LedgerCapture.Toml.Document
import LedgerCapture.Toml.Scalar
import LedgerCapture.Width
import LedgerCapture.World.Basic
import LedgerCapture.Proofs.Gateway.Fault
import LedgerCapture.Proofs.Files.Path
import LedgerCapture.Proofs.Files.Standing
import LedgerCapture.Proofs.Gateway.Growth
import LedgerCapture.Proofs.Engine.History
import LedgerCapture.Proofs.Engine.Scope
import LedgerCapture.Proofs.Json.Cells
import LedgerCapture.Proofs.Legacy.Message
import LedgerCapture.Proofs.Legacy.Block
import LedgerCapture.Proofs.Json.Digits
import LedgerCapture.Proofs.Json.Exchange
import LedgerCapture.Proofs.Legacy.Amount
import LedgerCapture.Proofs.Files.Content
import LedgerCapture.Proofs.Engine.LegacyFiles
import LedgerCapture.Proofs.Gateway.Table
import LedgerCapture.Proofs.Node.Attempts
import LedgerCapture.Proofs.Config.Rules
import LedgerCapture.Proofs.Engine.Outputs
import LedgerCapture.Proofs.Ledger.Address
import LedgerCapture.Proofs.Ledger.Reported
import LedgerCapture.Proofs.Gateway.Pattern
import LedgerCapture.Proofs.Gateway.Program
import LedgerCapture.Proofs.Toml.Lines
import LedgerCapture.Proofs.Toml.Strings
import LedgerCapture.Proofs.Toml.Tree
import LedgerCapture.Proofs.Toml.Extent
import LedgerCapture.Proofs.Toml.Fields
import LedgerCapture.Proofs.Config.Builtin
