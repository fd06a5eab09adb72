import ShadowLint.Command.Help
import ShadowLint.Command.Line
import ShadowLint.Command.Run
import ShadowLint.Config.Discovery
import ShadowLint.Config.Options
import ShadowLint.Decimal.Layout
import ShadowLint.Decimal.Shortest
import ShadowLint.Derive.Body
import ShadowLint.Derive.Docs
import ShadowLint.Derive.Expansion
import ShadowLint.Derive.Formats
import ShadowLint.Derive.Generics
import ShadowLint.Derive.Index
import ShadowLint.Derive.Literal
import ShadowLint.Derive.Metadata
import ShadowLint.Derive.Token
import ShadowLint.Files.Path
import ShadowLint.Files.Snapshot
import ShadowLint.Json.Document
import ShadowLint.Json.Numeral
import ShadowLint.Json.Read
import ShadowLint.Json.Token
import ShadowLint.Json.Value
import ShadowLint.Lint.Document
import ShadowLint.Lint.File
import ShadowLint.Lint.Message
import ShadowLint.Lint.Rule
import ShadowLint.Lint.Settings
import ShadowLint.Lint.Shadowing
import ShadowLint.Main
import ShadowLint.Mismatch
import ShadowLint.NameTable
import ShadowLint.Proofs.Command.Check
import ShadowLint.Proofs.Command.Settings
import ShadowLint.Proofs.Command.Status
import ShadowLint.Proofs.Config.Discovery
import ShadowLint.Proofs.Config.Meaning
import ShadowLint.Proofs.Config.Mirroring
import ShadowLint.Proofs.Config.Options
import ShadowLint.Proofs.Config.Text
import ShadowLint.Proofs.Derive.Docs
import ShadowLint.Proofs.Derive.Formats
import ShadowLint.Proofs.Json.Compact
import ShadowLint.Proofs.Json.Lexing
import ShadowLint.Proofs.Json.Parsing
import ShadowLint.Proofs.Json.Reading
import ShadowLint.Proofs.Json.Rendering
import ShadowLint.Proofs.Json.Schema
import ShadowLint.Proofs.Json.Spread
import ShadowLint.Proofs.Lint.Document
import ShadowLint.Proofs.Lint.Exemption
import ShadowLint.Proofs.Lint.File
import ShadowLint.Proofs.Lint.Growing
import ShadowLint.Proofs.Lint.Immaterial
import ShadowLint.Proofs.Lint.Renumbering
import ShadowLint.Proofs.Lint.Settings
import ShadowLint.Proofs.Lint.Shadowing
import ShadowLint.Proofs.Lint.Visits
import ShadowLint.Proofs.Listing
import ShadowLint.Proofs.NameTable
import ShadowLint.Proofs.Outcome
import ShadowLint.Proofs.Report.Json
import ShadowLint.Proofs.Report.Styled
import ShadowLint.Proofs.Report.Text
import ShadowLint.Proofs.Scope.Ancestry
import ShadowLint.Proofs.Scope.Arena
import ShadowLint.Proofs.Scope.Defect
import ShadowLint.Proofs.Scope.Document
import ShadowLint.Proofs.Scope.Editing
import ShadowLint.Proofs.Scope.Growth
import ShadowLint.Proofs.Scope.Identifier
import ShadowLint.Proofs.Scope.Reading
import ShadowLint.Proofs.Scope.Schema
import ShadowLint.Proofs.Scope.Source
import ShadowLint.Proofs.Scope.Tree
import ShadowLint.Proofs.Scope.Walk
import ShadowLint.Proofs.Scope.Writing
import ShadowLint.Proofs.Text.Bytes
import ShadowLint.Proofs.Text.LineTable
import ShadowLint.Proofs.Text.Location
import ShadowLint.Proofs.Text.Order
import ShadowLint.Proofs.Toml.Document
import ShadowLint.Proofs.Toml.Tree
import ShadowLint.Report.Color
import ShadowLint.Report.Duration
import ShadowLint.Report.Json
import ShadowLint.Report.Log
import ShadowLint.Report.Sink
import ShadowLint.Report.Style
import ShadowLint.Report.Text
import ShadowLint.Scope.Arena
import ShadowLint.Scope.Fault
import ShadowLint.Scope.Graph
import ShadowLint.Scope.Graph.Decode
import ShadowLint.Scope.Graph.Encode
import ShadowLint.Scope.Id
import ShadowLint.Scope.Model
import ShadowLint.Scope.Model.Edit
import ShadowLint.Scope.Model.Export
import ShadowLint.Scope.Model.Load
import ShadowLint.Text.Digit
import ShadowLint.Text.LineTable
import ShadowLint.Text.Quoted
import ShadowLint.Text.Unprintable
import ShadowLint.Toml.DateTime
import ShadowLint.Toml.Document
import ShadowLint.Toml.Quoted
import ShadowLint.Toml.Scalar
import ShadowLint.Toml.Tree
import ShadowLint.Toml.Value
