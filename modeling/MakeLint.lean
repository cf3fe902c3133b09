import MakeLint.BuildFile
import MakeLint.Config
import MakeLint.Decimal.Layout
import MakeLint.Decimal.Shortest
import MakeLint.Event
import MakeLint.Failure
import MakeLint.Json.Draft
import MakeLint.Json.Number
import MakeLint.Json.Source
import MakeLint.Json.Value
import MakeLint.Linter
import MakeLint.Loading
import MakeLint.Options
import MakeLint.Producer
import MakeLint.Registry
import MakeLint.Report
import MakeLint.Rule.Basic
import MakeLint.Rule.Listing
import MakeLint.Rule.RequiredPhony
import MakeLint.Schedule
import MakeLint.Table
import MakeLint.Text.Blank
import MakeLint.Text.Digit
import MakeLint.Text.Pieces
import MakeLint.Text.Quoted
import MakeLint.Text.Range
import MakeLint.Text.Visible
import MakeLint.Violation
import MakeLint.Width
import MakeLint.Wire.Fault
import MakeLint.Wire.Forms
import MakeLint.Wire.OptionText
import MakeLint.Wire.Record
import MakeLint.Wire.Source
import MakeLint.Yaml.BlockText
import MakeLint.Yaml.Cursor
import MakeLint.Yaml.Document
import MakeLint.Yaml.Gap
import MakeLint.Yaml.Meaning
import MakeLint.Yaml.Node
import MakeLint.Yaml.PlainText
import MakeLint.Yaml.Property
import MakeLint.Yaml.QuotedText
import MakeLint.Yaml.Source
import MakeLint.Yaml.Token
import MakeLint.Yaml.Tokens
import MakeLint.Proofs.Json.Grammar
import MakeLint.Proofs.Json.Reading
import MakeLint.Proofs.Json.Writing
import MakeLint.Proofs.Table.Contents
import MakeLint.Proofs.Wire.Parts
import MakeLint.Proofs.Wire.Written
import MakeLint.Proofs.RoundTrip
import MakeLint.Proofs.Report.Counting
import MakeLint.Proofs.Registry.Interleaving
import MakeLint.Proofs.Linter.Validation
import MakeLint.Proofs.Schedule.Results
import MakeLint.Proofs.Report.Merging
import MakeLint.Proofs.Linter.ManyFiles
import MakeLint.Proofs.FirstOccurrences
import MakeLint.Proofs.Linter.Tracing
import MakeLint.Proofs.Registry.Attempts
import MakeLint.Proofs.Yaml.Quoted
import MakeLint.Proofs.Yaml.Steps
import MakeLint.Proofs.Yaml.Scanning
import MakeLint.Proofs.Yaml.Composing
import MakeLint.Proofs.Yaml.Exported
import MakeLint.Proofs.Registry.Contributions
import MakeLint.Proofs.Linter.Sections
import MakeLint.Proofs.Text.Splitting
import MakeLint.Proofs.Rule.RequiredPhony
import MakeLint.Proofs.Text.ByteOrder
import MakeLint.Proofs.Config.Validity
import MakeLint.Proofs.Rule.Declarations
import MakeLint.Proofs.Config.Building
import MakeLint.Proofs.Json.Records
import MakeLint.Proofs.Wire.Records
import MakeLint.Proofs.Json.Compact
import MakeLint.Proofs.Loading.BuildFiles
import MakeLint.Proofs.Json.Numbers
import MakeLint.Proofs.Floats.Rounding
import MakeLint.Proofs.Floats.Products
import MakeLint.Proofs.Json.Range
import MakeLint.Proofs.Json.Buffering
import MakeLint.Proofs.Loading.Options
import MakeLint.Proofs.Options.Lists
import MakeLint.Proofs.Loading.Violations
import MakeLint.Proofs.Options.Writes
