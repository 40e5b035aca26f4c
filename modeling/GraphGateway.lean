import GraphGateway.Address
import GraphGateway.Backend.Exchange
import GraphGateway.Backend.Forwarding
import GraphGateway.Command.Arguments
import GraphGateway.Command.Basic
import GraphGateway.Command.Program
import GraphGateway.Command.Report
import GraphGateway.Command.Start
import GraphGateway.CommandLine.Help
import GraphGateway.CommandLine.Layout
import GraphGateway.CommandLine.Reading
import GraphGateway.Config.Basic
import GraphGateway.Config.Document
import GraphGateway.Config.File
import GraphGateway.Config.Settings
import GraphGateway.Error
import GraphGateway.Files.Disk
import GraphGateway.Files.Failure
import GraphGateway.Files.Path
import GraphGateway.Files.Step
import GraphGateway.Files.View
import GraphGateway.Flow
import GraphGateway.GraphQL.Document
import GraphGateway.GraphQL.Grammar
import GraphGateway.GraphQL.Literal
import GraphGateway.GraphQL.Report
import GraphGateway.GraphQL.Rule
import GraphGateway.GraphQL.Token
import GraphGateway.Http.Front
import GraphGateway.Http.Message
import GraphGateway.Http.Playground
import GraphGateway.Introspection.Client
import GraphGateway.Introspection.Document
import GraphGateway.Json.Basic
import GraphGateway.Json.Cursor
import GraphGateway.Json.Fault
import GraphGateway.Json.Node
import GraphGateway.Json.Numeral
import GraphGateway.Json.Printer
import GraphGateway.Json.StringLiteral
import GraphGateway.Keyed
import GraphGateway.Logging
import GraphGateway.Machine.Files
import GraphGateway.Machine.Network
import GraphGateway.Main
import GraphGateway.Message
import GraphGateway.Number.Binary64
import GraphGateway.Number.Decimal
import GraphGateway.Number.Shortest
import GraphGateway.Number.Whole
import GraphGateway.Operation.Basic
import GraphGateway.Operation.Extractor
import GraphGateway.Operation.FirstField
import GraphGateway.Operation.Heuristic
import GraphGateway.Program.Basic
import GraphGateway.Program.Storage
import GraphGateway.Proofs.Command.Overlap
import GraphGateway.Proofs.Command.Refinement
import GraphGateway.Proofs.Command.Run
import GraphGateway.Proofs.Except
import GraphGateway.Proofs.Files.Beside
import GraphGateway.Proofs.Files.Disk
import GraphGateway.Proofs.Flow.Among
import GraphGateway.Proofs.Flow.Commit
import GraphGateway.Proofs.Flow.Failure
import GraphGateway.Proofs.Flow.Run
import GraphGateway.Proofs.Flow.Together
import GraphGateway.Proofs.GraphQL.Grammar
import GraphGateway.Proofs.GraphQL.Rule
import GraphGateway.Proofs.GraphQL.Tokens
import GraphGateway.Proofs.Http.Answers
import GraphGateway.Proofs.Http.Batch
import GraphGateway.Proofs.Http.Transparency
import GraphGateway.Proofs.Interleaving
import GraphGateway.Proofs.Introspection.Agreement
import GraphGateway.Proofs.Introspection.Probe
import GraphGateway.Proofs.Json.Grammar
import GraphGateway.Proofs.Json.Layout
import GraphGateway.Proofs.Json.Literal
import GraphGateway.Proofs.Json.Numeral
import GraphGateway.Proofs.Json.Outline
import GraphGateway.Proofs.Json.Reading
import GraphGateway.Proofs.Json.Value
import GraphGateway.Proofs.Keyed
import GraphGateway.Proofs.Number.Digits
import GraphGateway.Proofs.Operation.Agreement
import GraphGateway.Proofs.Operation.Braces
import GraphGateway.Proofs.Operation.Fields
import GraphGateway.Proofs.Operation.Walk
import GraphGateway.Proofs.Operation.Words
import GraphGateway.Proofs.Program.Run
import GraphGateway.Proofs.Program.Together
import GraphGateway.Proofs.Registry.Addition
import GraphGateway.Proofs.Registry.Admission
import GraphGateway.Proofs.Registry.Arrival
import GraphGateway.Proofs.Registry.Chronicle
import GraphGateway.Proofs.Registry.Consistency
import GraphGateway.Proofs.Registry.Failure
import GraphGateway.Proofs.Registry.History
import GraphGateway.Proofs.Registry.Listing
import GraphGateway.Proofs.Registry.Map
import GraphGateway.Proofs.Registry.Names
import GraphGateway.Proofs.Registry.Operation
import GraphGateway.Proofs.Registry.Overlay
import GraphGateway.Proofs.Registry.Refresh
import GraphGateway.Proofs.Registry.Registration
import GraphGateway.Proofs.Registry.RoundTrip
import GraphGateway.Proofs.Registry.Sound
import GraphGateway.Proofs.Registry.Storage
import GraphGateway.Proofs.Routing.Interleaving
import GraphGateway.Proofs.Routing.Offers
import GraphGateway.Proofs.Routing.Prediction
import GraphGateway.Proofs.Routing.Resolution
import GraphGateway.Proofs.Routing.Sequence
import GraphGateway.Proofs.Routing.Stability
import GraphGateway.Proofs.Routing.Steps
import GraphGateway.Proofs.Text.Lowercase
import GraphGateway.Proofs.Text.Sniffed
import GraphGateway.Proofs.Text.Utf8
import GraphGateway.Proofs.Text.Words
import GraphGateway.Proofs.Time.Calendar
import GraphGateway.Proofs.Time.Rfc3339
import GraphGateway.Proofs.Wire.Alike
import GraphGateway.Proofs.Wire.Depth
import GraphGateway.Proofs.Wire.Encoding
import GraphGateway.Proofs.Wire.Free
import GraphGateway.Proofs.Wire.Lists
import GraphGateway.Proofs.Wire.Meaning
import GraphGateway.Proofs.Wire.Message
import GraphGateway.Proofs.Wire.Nesting
import GraphGateway.Proofs.Wire.Rereading
import GraphGateway.Proofs.Wire.Whole
import GraphGateway.Registry.Basic
import GraphGateway.Registry.Codec
import GraphGateway.Registry.Registration
import GraphGateway.Registry.Server
import GraphGateway.Registry.Storage
import GraphGateway.Router
import GraphGateway.Schema
import GraphGateway.Text.Blank
import GraphGateway.Text.Hidden
import GraphGateway.Text.Quoted
import GraphGateway.Text.Sniffed
import GraphGateway.Text.Utf8
import GraphGateway.Time.Calendar
import GraphGateway.Time.Instant
import GraphGateway.Time.Rfc3339
import GraphGateway.Url.Basic
import GraphGateway.Url.Encoding
import GraphGateway.Url.Host
import GraphGateway.Url.Name
import GraphGateway.Wire.Decode
import GraphGateway.Wire.Encode
import GraphGateway.Wire.Shape
import GraphGateway.Yaml.BlockScalar
import GraphGateway.Yaml.Cursor
import GraphGateway.Yaml.Document
import GraphGateway.Yaml.Event
import GraphGateway.Yaml.Fault
import GraphGateway.Yaml.Meaning
import GraphGateway.Yaml.PlainScalar
import GraphGateway.Yaml.Printer
import GraphGateway.Yaml.QuotedScalar
import GraphGateway.Yaml.Tag
import GraphGateway.Yaml.Token
import GraphGateway.Yaml.TokenStream
import GraphGateway.Proofs.Http.Health
import GraphGateway.Proofs.Files.Stop
import GraphGateway.Proofs.Registry.Interrupted
import GraphGateway.Proofs.Registry.Apart
import GraphGateway.Proofs.Schema.BaseName
import GraphGateway.Proofs.Number.Whole
import GraphGateway.Proofs.Config.Sources
import GraphGateway.Proofs.Yaml.Gap
import GraphGateway.Proofs.Yaml.Scalar
import GraphGateway.Proofs.Yaml.Line
import GraphGateway.Proofs.Yaml.Mapping
import GraphGateway.Proofs.Yaml.Meaning
import GraphGateway.Proofs.Config.Lines
import GraphGateway.Proofs.Config.Text
import GraphGateway.Proofs.Config.RoundTrip
