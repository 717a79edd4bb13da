import Verdict.Assertion.Context
import Verdict.Assertion.Failure
import Verdict.Callback
import Verdict.CompareOp
import Verdict.Comparison.Dispatch
import Verdict.Comparison.Objects
import Verdict.Comparison.Report
import Verdict.Comparison.Sequences
import Verdict.Config
import Verdict.Config.Discovery
import Verdict.Config.Reading
import Verdict.Diff.Edit
import Verdict.Diff.Text
import Verdict.Expectation.Basic
import Verdict.Expectation.Compose
import Verdict.Expectation.Matchers
import Verdict.Expectation.Matching
import Verdict.Expectation.Quantified
import Verdict.Expectation.Quantifier
import Verdict.Expectation.Satisfies
import Verdict.Expectation.Thrown
import Verdict.Expr.Basic
import Verdict.Expr.Calls
import Verdict.Expr.Evaluation
import Verdict.Expr.Shape
import Verdict.Expr.ShapeCache
import Verdict.FileTree
import Verdict.Json.Basic
import Verdict.Json.OfResult
import Verdict.Json.Reading
import Verdict.Json.ToReport
import Verdict.Json.Writing
import Verdict.Moment
import Verdict.Number.Binary64
import Verdict.Number.Reading
import Verdict.Number.Shortest
import Verdict.Number.Whole
import Verdict.Pattern.CharSet
import Verdict.Pattern.Glob
import Verdict.Pattern.Matching
import Verdict.Pattern.Regex.Basic
import Verdict.Pattern.Regex.Reading
import Verdict.Proofs.Comparison.ObjectDiff
import Verdict.Proofs.Comparison.SequenceEquality
import Verdict.Proofs.Comparison.SequenceWindow
import Verdict.Proofs.Comparison.TextReport
import Verdict.Proofs.Diff.CommonSubsequence
import Verdict.Proofs.Diff.Edits
import Verdict.Proofs.Diff.Marked
import Verdict.Proofs.Expectation.Assignment
import Verdict.Proofs.Expectation.Checks
import Verdict.Proofs.Expr.Calls
import Verdict.Proofs.Expr.Containment
import Verdict.Proofs.Expr.Fidelity
import Verdict.Proofs.Expr.Readable
import Verdict.Proofs.Expr.Recall
import Verdict.Proofs.Matching.Graph
import Verdict.Proofs.Matching.Maximum
import Verdict.Proofs.Matching.Number
import Verdict.Proofs.Matching.Search
import Verdict.Proofs.Number.Rounding
import Verdict.Proofs.Value.Bisimulation
import Verdict.Proofs.Value.Order
import Verdict.Proofs.Value.Symmetry
import Verdict.Proofs.Value.Transitivity
import Verdict.Remaining
import Verdict.Report.ComparisonLines
import Verdict.Report.Message
import Verdict.Report.Renderer
import Verdict.Result.Basic
import Verdict.Run
import Verdict.Text.Category
import Verdict.Text.Cut
import Verdict.Text.Fold
import Verdict.Text.Property
import Verdict.Text.Quoted
import Verdict.Text.Ranges
import Verdict.Text.Script
import Verdict.TypeName
import Verdict.Value.Basic
import Verdict.Value.Display
import Verdict.Value.Dump
import Verdict.Value.Equality
import Verdict.Value.OfJson
import Verdict.Value.Order
import Verdict.Yaml.Cursor
import Verdict.Yaml.Node
import Verdict.Yaml.Scalar
import Verdict.Yaml.Token
import Verdict.Yaml.Tokens
import Verdict.Proofs.Expectation.Composition
import Verdict.Proofs.Expectation.Explanation
import Verdict.Proofs.Expr.Explanation
import Verdict.Proofs.Comparison.SequenceAsking
import Verdict.Proofs.Expectation.Containment
import Verdict.Proofs.Expectation.Counting
import Verdict.Proofs.Report.Rendering
import Verdict.Proofs.Comparison.ObjectPositions
import Verdict.Proofs.Comparison.ObjectCoverage
import Verdict.Proofs.Value.Acyclic
import Verdict.Proofs.Comparison.SharedObjects
import Verdict.Proofs.Diff.ChangePoints
import Verdict.Proofs.Diff.Segments
import Verdict.Proofs.Comparison.VisibleChanges
import Verdict.Proofs.Report.Opened
import Verdict.Proofs.Report.Truthfulness
import Verdict.Proofs.Value.Printing
import Verdict.Proofs.Report.Outline
import Verdict.Proofs.Value.Cycles
import Verdict.Proofs.Report.Violations
import Verdict.Proofs.Report.FailureMessage
import Verdict.Proofs.Expectation.Agreement
import Verdict.Proofs.Report.DifferenceCount
import Verdict.Proofs.Expr.PreOrder
import Verdict.Proofs.Expr.NodeTexts
import Verdict.Proofs.Value.TypeNames
import Verdict.Proofs.Value.Previews
import Verdict.Proofs.Text.Truncation
import Verdict.Proofs.Expr.LargeContext
