import Worksheet.Calculation.Node
import Worksheet.Calculation.Run
import Worksheet.CompoundUnit.Basic
import Worksheet.CompoundUnit.Parser
import Worksheet.CompoundUnit.Printer
import Worksheet.Dependency.Graph
import Worksheet.Dependency.Order
import Worksheet.Dimensional.Eval
import Worksheet.Dimensional.Term
import Worksheet.Dimensional.Token
import Worksheet.Double.Basic
import Worksheet.Double.Functions
import Worksheet.Double.Reading
import Worksheet.Double.Rounded
import Worksheet.Double.Shortest
import Worksheet.Double.Sum
import Worksheet.Formula.Eval
import Worksheet.Formula.Expr
import Worksheet.Formula.Fault
import Worksheet.Formula.Function
import Worksheet.Formula.Lexeme
import Worksheet.Formula.Parser
import Worksheet.Formula.SyntaxFault
import Worksheet.Json.Finite
import Worksheet.Json.Printer
import Worksheet.Json.Reader
import Worksheet.Json.Text
import Worksheet.Keyed
import Worksheet.Log.Calendar
import Worksheet.Log.Conversion
import Worksheet.Log.DatePattern
import Worksheet.Log.Directive
import Worksheet.Log.Record
import Worksheet.Log.Setup
import Worksheet.Number.Basic
import Worksheet.Number.Fault
import Worksheet.Pipeline.Absent
import Worksheet.Pipeline.JoinSides
import Worksheet.Pipeline.Node
import Worksheet.Pipeline.Run
import Worksheet.Proofs.Calculation.Ancestry
import Worksheet.Proofs.Calculation.Breakdown
import Worksheet.Proofs.Calculation.FailedInput
import Worksheet.Proofs.Calculation.Mismatch
import Worksheet.Proofs.Calculation.Process
import Worksheet.Proofs.Calculation.Run
import Worksheet.Proofs.Calculation.Solution
import Worksheet.Proofs.Calculation.Strictness
import Worksheet.Proofs.CompoundUnit.Joined
import Worksheet.Proofs.CompoundUnit.Net
import Worksheet.Proofs.CompoundUnit.RoundTrip
import Worksheet.Proofs.CompoundUnit.Token
import Worksheet.Proofs.Dependency.Affected
import Worksheet.Proofs.Dependency.Distance
import Worksheet.Proofs.Dependency.Levels
import Worksheet.Proofs.Dependency.Links
import Worksheet.Proofs.Dependency.Ranked
import Worksheet.Proofs.Dependency.Sorting
import Worksheet.Proofs.Dependency.Wiring
import Worksheet.Proofs.Dimensional.Agreement
import Worksheet.Proofs.Dimensional.Chain
import Worksheet.Proofs.Dimensional.Descent
import Worksheet.Proofs.Dimensional.Grammar
import Worksheet.Proofs.Dimensional.Mismatch
import Worksheet.Proofs.Dimensional.Phrase
import Worksheet.Proofs.Dimensional.Simulation
import Worksheet.Proofs.Dimensional.Spacing
import Worksheet.Proofs.Dimensional.Stepwise
import Worksheet.Proofs.Dimensional.Unbound
import Worksheet.Proofs.Dimensional.UnitFlow
import Worksheet.Proofs.Double.Bits
import Worksheet.Proofs.Double.Exact
import Worksheet.Proofs.Double.NaN
import Worksheet.Proofs.Double.Nearest
import Worksheet.Proofs.Double.NoInteger
import Worksheet.Proofs.Double.Numeral
import Worksheet.Proofs.Double.Order
import Worksheet.Proofs.Double.Range
import Worksheet.Proofs.Double.ReadBack
import Worksheet.Proofs.Double.Rounding
import Worksheet.Proofs.Double.Shortest
import Worksheet.Proofs.Formula.Breakdown
import Worksheet.Proofs.Formula.CallBreaks
import Worksheet.Proofs.Formula.Equality
import Worksheet.Proofs.Formula.FirstMatch
import Worksheet.Proofs.Formula.Lexemes
import Worksheet.Proofs.Formula.Phrase
import Worksheet.Proofs.Formula.Precedence
import Worksheet.Proofs.Formula.Reading
import Worksheet.Proofs.Formula.Spelling
import Worksheet.Proofs.Formula.Spoiled
import Worksheet.Proofs.Formula.Texts
import Worksheet.Proofs.Formula.Unbound
import Worksheet.Proofs.Keyed
import Worksheet.Proofs.Outcome
import Worksheet.Proofs.Pipeline.Breakdown
import Worksheet.Proofs.Pipeline.DefaultSource
import Worksheet.Proofs.Pipeline.Equations
import Worksheet.Proofs.Pipeline.JoinPlaces
import Worksheet.Proofs.Pipeline.Listing
import Worksheet.Proofs.Pipeline.Removal
import Worksheet.Proofs.Pipeline.Reuse
import Worksheet.Proofs.Pipeline.RowLimit
import Worksheet.Proofs.Pipeline.Run
import Worksheet.Proofs.Pipeline.Sides
import Worksheet.Proofs.Pipeline.States
import Worksheet.Proofs.Table.AbsentCell
import Worksheet.Proofs.Table.BareWords
import Worksheet.Proofs.Table.Binding
import Worksheet.Proofs.Table.Bracketed
import Worksheet.Proofs.Table.CellReading
import Worksheet.Proofs.Table.CombinedColumns
import Worksheet.Proofs.Table.Comparison
import Worksheet.Proofs.Table.CompoundKeys
import Worksheet.Proofs.Table.Cut
import Worksheet.Proofs.Table.Filtering
import Worksheet.Proofs.Table.Identifier
import Worksheet.Proofs.Table.JoinedCells
import Worksheet.Proofs.Table.Literals
import Worksheet.Proofs.Table.LookupCall
import Worksheet.Proofs.Table.LookupLexemes
import Worksheet.Proofs.Table.Lookups
import Worksheet.Proofs.Table.Meaning
import Worksheet.Proofs.Table.Mention
import Worksheet.Proofs.Table.MovedColumns
import Worksheet.Proofs.Table.NestedLoop
import Worksheet.Proofs.Table.Overflow
import Worksheet.Proofs.Table.OwnCell
import Worksheet.Proofs.Table.OwnLiteral
import Worksheet.Proofs.Table.Parts
import Worksheet.Proofs.Table.QuotedArguments
import Worksheet.Proofs.Table.Rewriting
import Worksheet.Proofs.Table.RowCount
import Worksheet.Proofs.Table.RowIndex
import Worksheet.Proofs.Table.RowKeys
import Worksheet.Proofs.Table.RowMap
import Worksheet.Proofs.Table.SchemaIds
import Worksheet.Proofs.Table.Session
import Worksheet.Proofs.Table.SumWarning
import Worksheet.Proofs.Table.UnitChain
import Worksheet.Proofs.Table.UnitSource
import Worksheet.Proofs.Table.UnitWalk
import Worksheet.Proofs.Table.Words
import Worksheet.Proofs.Text.Numeral
import Worksheet.Proofs.Text.Scan
import Worksheet.Proofs.Text.Split
import Worksheet.Proofs.Value.Key
import Worksheet.Proofs.Value.NumberText
import Worksheet.Proofs.Value.Oversized
import Worksheet.Quantity.Basic
import Worksheet.Quantity.Display
import Worksheet.Quantity.Literal
import Worksheet.Request.Decode
import Worksheet.Request.Graph
import Worksheet.Request.Issue
import Worksheet.Request.Table
import Worksheet.Service.Answer
import Worksheet.Service.Endpoint
import Worksheet.Service.Exchange
import Worksheet.Service.Failure
import Worksheet.Service.Origin
import Worksheet.Service.Routing
import Worksheet.Service.Settings
import Worksheet.Table.Aggregate
import Worksheet.Table.Dataset
import Worksheet.Table.Fault
import Worksheet.Table.Filter
import Worksheet.Table.FormulaColumn
import Worksheet.Table.Join
import Worksheet.Table.Lookup
import Worksheet.Table.Reference
import Worksheet.Table.Transform
import Worksheet.Table.UnitDerivation
import Worksheet.Text.Blank
import Worksheet.Text.Boundary
import Worksheet.Text.Case
import Worksheet.Text.Digit
import Worksheet.Text.Numeral
import Worksheet.Text.Printable
import Worksheet.Text.Quoted
import Worksheet.Text.Scan
import Worksheet.Text.Word
import Worksheet.Value.Basic
import Worksheet.Value.Reading
