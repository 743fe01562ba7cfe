import Flowchart.Activity.Escape
import Flowchart.Activity.Evidence
import Flowchart.Activity.Machine
import Flowchart.Activity.Outline
import Flowchart.Activity.Reader
import Flowchart.Activity.Script
import Flowchart.Activity.Statement
import Flowchart.Activity.Writer
import Flowchart.Binary64
import Flowchart.Binary64.Arithmetic
import Flowchart.Binary64.Shortest
import Flowchart.Caption
import Flowchart.Catalog
import Flowchart.Catalog.Builtin
import Flowchart.Catalog.Detection
import Flowchart.Catalog.Reading
import Flowchart.Catalog.Remarks
import Flowchart.Catalog.Validation
import Flowchart.Catalog.Writing
import Flowchart.Chart.Connector
import Flowchart.Chart.Decode
import Flowchart.Chart.Evidence
import Flowchart.Chart.FrontMatter
import Flowchart.Chart.Label
import Flowchart.Chart.Line
import Flowchart.Chart.Reader
import Flowchart.Chart.Sheet
import Flowchart.Chart.Statement
import Flowchart.Chart.Writer
import Flowchart.Command.Arguments
import Flowchart.Command.Folder
import Flowchart.Command.Request
import Flowchart.Command.Run
import Flowchart.Conversion
import Flowchart.Digraph.Evidence
import Flowchart.Digraph.Name
import Flowchart.Digraph.Quoting
import Flowchart.Digraph.Reader
import Flowchart.Digraph.Statement
import Flowchart.Digraph.Token
import Flowchart.Digraph.Writer
import Flowchart.Evidence
import Flowchart.Flow
import Flowchart.Flow.Fields
import Flowchart.Flow.Soundness
import Flowchart.Format
import Flowchart.Graph
import Flowchart.Json
import Flowchart.Json.Display
import Flowchart.Json.Reader
import Flowchart.Json.Writer
import Flowchart.Main
import Flowchart.Proofs.Activity.Accounts
import Flowchart.Proofs.Activity.Compilation
import Flowchart.Proofs.Activity.Drawing
import Flowchart.Proofs.Activity.Grounded
import Flowchart.Proofs.Activity.Phrases
import Flowchart.Proofs.Activity.Plain
import Flowchart.Proofs.Activity.Plan
import Flowchart.Proofs.Activity.Program
import Flowchart.Proofs.Activity.RoundTrip
import Flowchart.Proofs.Activity.Sites
import Flowchart.Proofs.Activity.Soundness
import Flowchart.Proofs.Activity.Tour
import Flowchart.Proofs.Activity.Tracing
import Flowchart.Proofs.Activity.Walking
import Flowchart.Proofs.Catalog.Soundness
import Flowchart.Proofs.Chart.Ident
import Flowchart.Proofs.Chart.Plain
import Flowchart.Proofs.Chart.Reading
import Flowchart.Proofs.Chart.RoundTrip
import Flowchart.Proofs.Chart.Rows
import Flowchart.Proofs.Chart.Soundness
import Flowchart.Proofs.Chart.Transcript
import Flowchart.Proofs.Chart.Wording
import Flowchart.Proofs.Digraph.Soundness
import Flowchart.Proofs.Flow.Branches
import Flowchart.Proofs.Flow.Sound
import Flowchart.Proofs.Record.Soundness
import Flowchart.Proofs.Roll
import Flowchart.Proofs.Text.Lines
import Flowchart.Proofs.UniqueIds
import Flowchart.Record.Evidence
import Flowchart.Record.Reader
import Flowchart.Record.Writer
import Flowchart.Reference
import Flowchart.Reference.Table
import Flowchart.Remark
import Flowchart.Text
import Flowchart.Text.Blank
import Flowchart.Text.Cased
import Flowchart.Text.Caseless
import Flowchart.Text.Digit
import Flowchart.Text.Integer
import Flowchart.Text.Letter
import Flowchart.Text.Likeness
import Flowchart.Text.Lower
import Flowchart.Text.Numeral
import Flowchart.Text.Printable
import Flowchart.Text.Quoted
import Flowchart.Text.Upper
import Flowchart.UniqueIds
import Flowchart.Yaml.Bytes
import Flowchart.Yaml.Cursor
import Flowchart.Yaml.Document
import Flowchart.Yaml.Implicit
import Flowchart.Yaml.Merge
import Flowchart.Yaml.Moment
import Flowchart.Yaml.Node
import Flowchart.Yaml.Number
import Flowchart.Yaml.Scalar
import Flowchart.Yaml.Slots
import Flowchart.Yaml.Token
import Flowchart.Yaml.Value
import Flowchart.Yaml.Writer
import Flowchart.Proofs.Json.Strings
import Flowchart.Proofs.Json.Written
import Flowchart.Proofs.Flow.Settled
import Flowchart.Proofs.Catalog.RoundTrip
import Flowchart.Proofs.Digraph.Tokens
import Flowchart.Proofs.Chart.Chains
import Flowchart.Proofs.Chart.Sheets
import Flowchart.Proofs.Digraph.Attributes
import Flowchart.Proofs.Digraph.Drafting
import Flowchart.Proofs.Digraph.Lines
import Flowchart.Proofs.Digraph.RoundTrip
import Flowchart.Proofs.Activity.Telling
import Flowchart.Proofs.Catalog.Interruptions
import Flowchart.Proofs.Activity.Inner
import Flowchart.Proofs.Activity.Markers
import Flowchart.Proofs.Activity.NormalForm
import Flowchart.Proofs.Catalog.Detection
import Flowchart.Proofs.Activity.Jumps
import Flowchart.Proofs.Activity.Nesting
import Flowchart.Proofs.Activity.BranchLabels
import Flowchart.Proofs.Activity.LabelNames
import Flowchart.Proofs.Activity.Coverage
import Flowchart.Proofs.Chart.Truncation
import Flowchart.Proofs.Chart.Contents
import Flowchart.Proofs.Chart.Separators
import Flowchart.Proofs.Chart.Ordinary
import Flowchart.Proofs.Chart.Composition
import Flowchart.Proofs.Chart.Returns
import Flowchart.Proofs.Digraph.Naming
import Flowchart.Proofs.Digraph.Drawn
import Flowchart.Proofs.Digraph.Members
import Flowchart.Proofs.Chart.Emphasis
import Flowchart.Proofs.Chart.Highlights
import Flowchart.Proofs.Catalog.Highest
import Flowchart.Proofs.Catalog.Dispatch
import Flowchart.Proofs.Digraph.Ports
import Flowchart.Proofs.Flow.ReadBack
import Flowchart.Proofs.Flow.Reach
import Flowchart.Proofs.Catalog.Counts
import Flowchart.Proofs.Lookups
import Flowchart.Proofs.Activity.LooseEnds
import Flowchart.Proofs.Activity.Titles
import Flowchart.Proofs.Command.Delivery
import Flowchart.Proofs.Activity.Guards
import Flowchart.Proofs.Activity.Insertion
import Flowchart.Proofs.Chart.Nested
