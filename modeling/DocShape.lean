import DocShape.Text.Basic
import DocShape.Text.Blank
import DocShape.Text.CodeSet
import DocShape.Text.Printable
import DocShape.Text.Identifier
import DocShape.Text.Quoted
import DocShape.Text.Numeral
import DocShape.Text.Capital
import DocShape.Number.Binary64
import DocShape.Number.Shortest
import DocShape.Number.Written
import DocShape.Primitive
import DocShape.Merge
import DocShape.Shape.Basic
import DocShape.Shape.Written
import DocShape.Brace
import DocShape.Failure
import DocShape.Parse
import DocShape.Outcome
import DocShape.Json.Basic
import DocShape.Json.Reader
import DocShape.Json.Writer
import DocShape.Json.Shown
import DocShape.Json.Path
import DocShape.Shape.Described
import DocShape.Regex.Basic
import DocShape.Regex.Collapse
import DocShape.Shape.Pattern
import DocShape.Violation
import DocShape.Report
import DocShape.Record.Name
import DocShape.Record.Basic
import DocShape.Record.Value
import DocShape.Log
import DocShape.Screen.Markup
import DocShape.Screen.Cells
import DocShape.Screen.Cluster
import DocShape.Screen.Code
import DocShape.Screen.Wrap
import DocShape.Screen.Panel
import DocShape.Screen.Show
import DocShape.Command.Files
import DocShape.Command.Arguments
import DocShape.Command.Request
import DocShape.Command.Run
import DocShape.Main
import DocShape.Proofs.Segments
import DocShape.Proofs.Level
import DocShape.Proofs.Merging
import DocShape.Proofs.Objects
import DocShape.Proofs.RoundTrip
import DocShape.Proofs.Parsed
import DocShape.Proofs.Alike
import DocShape.Proofs.Rereading
import DocShape.Proofs.Document
import DocShape.Proofs.Acceptance
import DocShape.Proofs.Grammar
import DocShape.Proofs.Unbalanced
import DocShape.Proofs.Compared
import DocShape.Proofs.Descent
import DocShape.Proofs.Blame
import DocShape.Proofs.Policies
import DocShape.Proofs.Matching
import DocShape.Proofs.Numbers
import DocShape.Proofs.Violations
import DocShape.Proofs.Tokens
import DocShape.Proofs.Conformance
import DocShape.Proofs.DeclarationOrder
import DocShape.Proofs.NestingLimit
import DocShape.Proofs.Doubles
import DocShape.Proofs.Issues
import DocShape.Proofs.Decoding
import DocShape.Proofs.MatchedTexts
import DocShape.Proofs.ValueStyles
import DocShape.Proofs.Concatenation
import DocShape.Proofs.PatternReading
import DocShape.Proofs.SchemaPlaces
import DocShape.Proofs.FieldNames
import DocShape.Proofs.DistinctKeys
import DocShape.Proofs.WrittenBack
import DocShape.Proofs.ChainReading
import DocShape.Proofs.Occurrences
import DocShape.Proofs.Descriptions
import DocShape.Proofs.PatternMeaning
import DocShape.Proofs.Shortening
import DocShape.Proofs.NormalForm
