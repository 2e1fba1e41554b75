import Worksheet.Command.Arguments
import Worksheet.Command.OptionsText
import Worksheet.Command.Report
import Worksheet.Command.Run
import Worksheet.Command.Script
import Worksheet.Decimal.Literal
import Worksheet.Decimal.Notation
import Worksheet.Decimal.Shortest
import Worksheet.Dependency.Cycle
import Worksheet.Dependency.Graph
import Worksheet.Dependency.InPlace
import Worksheet.Dependency.Order
import Worksheet.Evaluation.Evaluate
import Worksheet.Evaluation.Operand
import Worksheet.Evaluation.Operation
import Worksheet.Evaluation.Traced
import Worksheet.Formula.Collector
import Worksheet.Formula.Expr
import Worksheet.Formula.Fault
import Worksheet.Formula.Lexeme
import Worksheet.Formula.Operator
import Worksheet.Formula.Parser
import Worksheet.Formula.Precedents
import Worksheet.Formula.Shift
import Worksheet.Formula.Token
import Worksheet.Formula.TokenWalk
import Worksheet.Function.Aggregate
import Worksheet.Function.Builtin
import Worksheet.Function.Inspection
import Worksheet.Function.Logical
import Worksheet.Function.Numeric
import Worksheet.Function.Registry
import Worksheet.Function.Textual
import Worksheet.Grid.Address
import Worksheet.Grid.Cell
import Worksheet.Grid.Column
import Worksheet.Grid.Fault
import Worksheet.Grid.Range
import Worksheet.Json.Document
import Worksheet.Json.Reading
import Worksheet.Main
import Worksheet.Number.Power
import Worksheet.Number.Rounding
import Worksheet.Sheet.Basic
import Worksheet.Sheet.Edit
import Worksheet.Sheet.InPlace
import Worksheet.Sheet.Recalculation
import Worksheet.Text.Blank
import Worksheet.Text.Case
import Worksheet.Text.CaseTable
import Worksheet.Text.Escaped
import Worksheet.Text.EscapedTable
import Worksheet.Text.Quoted
import Worksheet.Text.Ranges
import Worksheet.Value.Basic
import Worksheet.Value.Coercion
import Worksheet.Value.Order
import Worksheet.Proofs.Dependency.Edges
import Worksheet.Proofs.Dependency.CircularPath
import Worksheet.Proofs.Dependency.RecalculationOrder
import Worksheet.Proofs.Dependency.CallHistory
import Worksheet.Proofs.Number.Canonical
import Worksheet.Proofs.Number.Rounded
import Worksheet.Proofs.Number.Size
import Worksheet.Proofs.Number.Truncation
import Worksheet.Proofs.Number.Closure
import Worksheet.Proofs.Number.Scaling
import Worksheet.Proofs.Value.Order
import Worksheet.Proofs.Evaluation.Likeness
import Worksheet.Proofs.Evaluation.LikeOperands
import Worksheet.Proofs.Evaluation.LikeFunctions
import Worksheet.Proofs.Evaluation.LikeEvaluation
import Worksheet.Proofs.Evaluation.Precedents
import Worksheet.Proofs.Evaluation.Moving
import Worksheet.Proofs.Evaluation.Demands
import Worksheet.Proofs.Evaluation.Positions
import Worksheet.Proofs.Evaluation.UnselectedBranches
import Worksheet.Proofs.Evaluation.WrittenOut
import Worksheet.Proofs.Evaluation.Failures
import Worksheet.Proofs.Evaluation.RoundedDigits
import Worksheet.Proofs.Command.RefusedLines
import Worksheet.Proofs.Formula.Collecting
import Worksheet.Proofs.Formula.Completeness
import Worksheet.Proofs.Formula.Grammar
import Worksheet.Proofs.Formula.Height
import Worksheet.Proofs.Formula.Numeral
import Worksheet.Proofs.Formula.Cutting
import Worksheet.Proofs.Formula.References
import Worksheet.Proofs.Formula.Shifting
import Worksheet.Proofs.Formula.ShiftTwice
import Worksheet.Proofs.Formula.Soundness
import Worksheet.Proofs.Sheet.Steps
import Worksheet.Proofs.Sheet.Wiring
import Worksheet.Proofs.Sheet.Freshness
import Worksheet.Proofs.Sheet.Refusal
import Worksheet.Proofs.Text.Ascii
import Worksheet.Proofs.Text.LetterCase
import Worksheet.Proofs.Grid.AddressParts
import Worksheet.Proofs.Grid.AddressText
import Worksheet.Proofs.Grid.Moved
import Worksheet.Proofs.Grid.MovedRanges
import Worksheet.Proofs.Grid.RangeCells
import Worksheet.Proofs.Grid.RangeWalk
import Worksheet.Proofs.Decimal.Unsigned
import Worksheet.Proofs.Number.Nearest
import Worksheet.Proofs.Decimal.Reading
import Worksheet.Proofs.Decimal.Shortest
import Worksheet.Proofs.Decimal.ReadBack
import Worksheet.Proofs.Formula.Scanning
import Worksheet.Proofs.Formula.AddressForms
import Worksheet.Proofs.Formula.RoundTrip
import Worksheet.Proofs.Formula.LetterCase
import Worksheet.Proofs.Formula.LetterCaseParsing
import Worksheet.Proofs.Formula.Spans
import Worksheet.Proofs.Formula.Respelling
import Worksheet.Proofs.Formula.TokenWalk
import Worksheet.Proofs.Dependency.Halting
import Worksheet.Proofs.Dependency.FullOrder
import Worksheet.Proofs.Dependency.Canonical
import Worksheet.Proofs.Sheet.Contents
import Worksheet.Proofs.Sheet.FullPass
import Worksheet.Proofs.Sheet.History
import Worksheet.Proofs.Sheet.FiniteNumbers
import Worksheet.Proofs.Sheet.Statistics
import Worksheet.Proofs.Sheet.Downstream
import Worksheet.Proofs.Sheet.OnGrid
import Worksheet.Proofs.Sheet.Reentry
import Worksheet.Proofs.Sheet.ShownLiterals
import Worksheet.Formula.Descent
import Worksheet.Proofs.Formula.Descent
import Worksheet.Proofs.Decimal.Grammar
import Worksheet.Proofs.Decimal.Overflow
import Worksheet.Proofs.Formula.Faults
import Worksheet.Proofs.Formula.NumberTokens
import Worksheet.Proofs.Formula.Siblings
import Worksheet.Dependency.Backtracking
import Worksheet.Proofs.Decimal.WholeNumbers
import Worksheet.Proofs.Dependency.Backtracking
